import SecretRefs.Proofs.Settings.Layers
import SecretRefs.Proofs.Settings.VariableNames

/-!
# Settings in environment variables

A variable whose name spells a setting, in any case, sets that setting and no other, to what its
text denotes. Variables that set nothing but settings are together a layer of settings, in which
the last variable that sets a setting decides.
-/

namespace SecretRefs

open Setting (Content Kind)

/-- The name of the variable for a setting. -/
def Setting.variable (setting : Setting) : String :=
  Settings.Environment.namePrefix ++ Text.asciiUpper setting.sectionName ++ "_" ++
    Text.asciiUpper setting.key

namespace Settings.Environment

/-- A name that is the one of a setting up to case spells its section and its key. -/
theorem keyOfName?_eq (setting : Setting) {name : String}
    (isNamed : Text.asciiLower name = Text.asciiLower setting.variable) :
    keyOfName? name = some [setting.sectionName, setting.key] := by
  have isKey : Text.asciiLower (Text.asciiUpper setting.key) = setting.key := by
    cases setting <;> decide
  have isWord : IsWord (Text.asciiUpper setting.key) := by
    cases setting <;> decide
  have undivided : Undivided setting.sectionName setting.key := by
    unfold Undivided
    cases setting <;> decide
  rw [← isKey] at undivided
  have spelled :=
    (keyOfName?_eq_iff_undivided setting.sectionName_mem isWord isNamed).mpr undivided
  rwa [isKey] at spelled

/-! ## What the text of a variable denotes -/

open Settings.Value (Ordered put below?)

/-- A table in braces has its entries in the order of their keys. -/
theorem ordered_of_entries? {fuel : Nat} {read : Value.Entries} {chars : List Char}
    {entries : Value.Entries} {rest : List Char}
    (done : entries? fuel read chars = some (entries, rest)) (ordered : Ordered read) :
    Ordered entries := by
  induction fuel generalizing read chars with
  | zero => cases done
  | succ fuel inductionHypothesis =>
    rw [entries?.eq_def] at done
    simp only at done
    split at done
    · cases done
      exact ordered
    · split at done
      · split at done
        · exact inductionHypothesis done (ordered.put _ _)
        · cases done
          exact ordered.put _ _
        · cases done
      · cases done

theorem ordered_of_value? {fuel : Nat} {chars rest : List Char} {origin : Origin}
    {entries : Value.Entries}
    (done : value? fuel chars = some (.table origin entries, rest)) : Ordered entries := by
  cases fuel with
  | zero => cases done
  | succ fuel =>
    rw [value?, Option.map_eq_some_iff] at done
    obtain ⟨⟨value, behind⟩, done, same⟩ := done
    cases same
    cases fuel with
    | zero => cases done
    | succ fuel =>
      rw [valueAt?.eq_def] at done
      simp only at done
      split at done
      · cases done
      · cases done
      · rw [Option.map_eq_some_iff] at done
        obtain ⟨⟨read, behind⟩, done, same⟩ := done
        cases same
        exact ordered_of_entries? done List.Pairwise.nil
      · rw [Option.map_eq_some_iff] at done
        obtain ⟨_, _, same⟩ := done
        cases same
      · rw [Option.map_eq_some_iff] at done
        obtain ⟨_, _, same⟩ := done
        cases same
      · cases done
      · cases done
      · cases done

theorem ordered_valueOfText {text : String} {origin : Origin} {entries : Value.Entries}
    (isTable : valueOfText text = .table origin entries) : Ordered entries := by
  unfold valueOfText at isTable
  simp only at isTable
  split at isTable
  · rename_i value read
    rw [isTable] at read
    exact ordered_of_value? read
  · cases isTable

/-! ## What a variable sets -/

theorem ne_nil_of_keyOfName? {name : String} {path : List String}
    (spelled : keyOfName? name = some path) : path ≠ [] := by
  unfold keyOfName? at spelled
  simp only at spelled
  split at spelled
  · cases spelled
  · split at spelled
    · cases spelled
    · cases spelled
      exact fun empty => Text.parts_ne_nil _ _ (List.map_eq_nil_iff.mp empty)

theorem ordered_nested {path : List String} {text : String} {origin : Origin}
    {entries : Value.Entries}
    (isTable : Value.nested .environment path (valueOfText text) = .table origin entries) :
    Ordered entries := by
  cases path with
  | nil => exact ordered_valueOfText isTable
  | cons key path =>
    cases isTable
    exact List.pairwise_singleton ..

/-- What a variable sets is tables in the order of their keys. -/
theorem tidy_of_ofVariable? {pair : String × String} {origin : Origin} {found : Value.Entries}
    (sets : ofVariable? pair = some (.table origin found)) : Tidy found := by
  obtain ⟨name, text⟩ := pair
  rw [ofVariable?, Option.map_eq_some_iff] at sets
  obtain ⟨path, spelled, isTable⟩ := sets
  refine ⟨ordered_nested isTable, fun {name place inner} present => ?_⟩
  cases path with
  | nil => exact absurd rfl (ne_nil_of_keyOfName? spelled)
  | cons key path =>
    cases isTable
    have member := Value.mem_of_lookup present
    rw [List.mem_singleton, Prod.mk.injEq] at member
    exact ordered_nested member.2.symm

/-- What one variable sets a setting to. -/
def content? (pair : String × String) (setting : Setting) : Option Content :=
  match ofVariable? pair with
  | some (.table _ found) => Value.content? found setting
  | _ => none

/-- What variables set a setting to: what the last one that sets it has. If every setting has at
most one variable, that is the only one. -/
def contentOf? (pairs : List (String × String)) (setting : Setting) : Option Content :=
  pairs.reverse.findSome? fun pair => content? pair setting

/-- Variables that set nothing but settings, each to a value of its kind. -/
def DeclaredVariables (pairs : List (String × String)) : Prop :=
  ∀ pair ∈ pairs, ∀ value, ofVariable? pair = some value →
    ∃ origin found, value = .table origin found ∧ Declared found

theorem gives_of_ofVariable? {pair : String × String} {origin : Origin} {found : Value.Entries}
    (sets : ofVariable? pair = some (.table origin found))
    (declared : Declared found) : Gives (.table origin found) (content? pair) := by
  refine ⟨origin, found, rfl, tidy_of_ofVariable? sets, declared, ?_⟩
  funext setting
  rw [content?, sets]

theorem contentOf?_cons (pair : String × String) (pairs : List (String × String))
    (setting : Setting) :
    contentOf? (pair :: pairs) setting = (contentOf? pairs setting).or (content? pair setting) := by
  rw [contentOf?, List.reverse_cons, List.findSome?_append, List.findSome?_singleton, contentOf?]

/-- Variables over a layer of settings. -/
theorem DeclaredVariables.gives_over {pairs : List (String × String)}
    (declared : DeclaredVariables pairs) {start : Value} {base : Setting → Option Content}
    (lowest : Gives start base) :
    Gives ((pairs.filterMap ofVariable?).foldl (fun lower upper => Value.cover upper lower) start)
      fun setting => (contentOf? pairs setting).or (base setting) := by
  induction pairs generalizing start base with
  | nil => exact lowest
  | cons pair rest inductionHypothesis =>
    obtain ⟨own, others⟩ := List.forall_mem_cons.mp declared
    simp only [contentOf?_cons, Option.or_assoc]
    cases sets : ofVariable? pair with
    | none =>
      rw [List.filterMap_cons_none sets]
      have idle : content? pair = fun _ => none := by
        funext setting
        rw [content?, sets]
      rw [idle]
      exact inductionHypothesis others lowest
    | some value =>
      obtain ⟨origin, found, rfl, declared⟩ := own value sets
      rw [List.filterMap_cons_some sets]
      exact inductionHypothesis others ((gives_of_ofVariable? sets declared).cover lowest)

theorem DeclaredVariables.gives {pairs : List (String × String)}
    (declared : DeclaredVariables pairs) : Gives (ofVariables pairs) (contentOf? pairs) := by
  have layer := declared.gives_over (gives_nothing .environment)
  simp only [Option.or_none] at layer
  exact layer

theorem ofVariable?_of_spelled {name sectionName key : String}
    (spelled : keyOfName? name = some [sectionName, key]) (text : String) :
    ofVariable? (name, text) = some (.table .environment [(sectionName,
      .table .environment [(key, valueOfText text)])]) := by
  rw [ofVariable?, spelled]
  rfl

theorem ofVariable?_of_named (setting : Setting) {name : String}
    (isNamed : Text.asciiLower name = Text.asciiLower setting.variable) (text : String) :
    ofVariable? (name, text) = some (.table .environment [(setting.sectionName,
      .table .environment [(setting.key, valueOfText text)])]) :=
  ofVariable?_of_spelled (keyOfName?_eq setting isNamed) text

/-- What a table with one entry in one section has under a key of a section. -/
theorem below?_single (place : Origin) (ownSection ownKey : String) (value : Value)
    (name key : String) :
    below? name key [(ownSection, .table place [(ownKey, value)])] =
      if ownSection = name ∧ ownKey = key then some value else none := by
  unfold below?
  rw [Value.lookup_cons_eq, List.lookup_nil]
  by_cases sameSection : name = ownSection
  · rw [if_pos sameSection]
    simp only
    rw [Value.lookup_cons_eq, List.lookup_nil]
    by_cases sameKey : key = ownKey
    · rw [if_pos sameKey, if_pos ⟨sameSection.symm, sameKey.symm⟩]
    · rw [if_neg sameKey, if_neg fun same => sameKey same.2.symm]
  · rw [if_neg sameSection, if_neg fun same => sameSection same.1.symm]

/-- A variable with the name of a setting sets that setting and no other. -/
theorem content?_of_named (setting : Setting) {name : String}
    (isNamed : Text.asciiLower name = Text.asciiLower setting.variable) (text : String)
    (other : Setting) :
    content? (name, text) other =
      if other = setting then setting.kind.ofValue? (valueOfText text) else none := by
  rw [content?, ofVariable?_of_named setting isNamed]
  simp only [Value.content?, below?_single .environment]
  by_cases same : other = setting
  · rw [same, if_pos rfl, if_pos ⟨rfl, rfl⟩, Option.bind_some]
  · rw [if_neg same, if_neg fun isNamed => same (Setting.eq_of_named isNamed.1 isNamed.2).symm,
      Option.bind_none]

/-- A variable with the name of a setting sets nothing but a setting if its text denotes a value
of the kind. -/
theorem declared_of_named (setting : Setting) {name : String}
    (isNamed : Text.asciiLower name = Text.asciiLower setting.variable) {text : String}
    (fits : (setting.kind.ofValue? (valueOfText text)).isSome) :
    DeclaredVariables [(name, text)] := by
  intro pair member value sets
  rw [List.mem_singleton] at member
  rw [member, ofVariable?_of_named setting isNamed] at sets
  refine ⟨.environment, _, (Option.some.inj sets).symm, ⟨fun name _ value present => ?_,
    fun present => ?_, fun _ present => ?_⟩⟩
  · have member := Value.mem_of_lookup present
    rw [List.mem_singleton, Prod.mk.injEq] at member
    exact ⟨_, _, member.2⟩
  · have member := Value.mem_of_lookup present
    rw [List.mem_singleton, Prod.mk.injEq] at member
    exact member.1 ▸ setting.sectionName_mem
  · rw [below?_single .environment] at present
    split at present
    · rename_i isNamed
      exact ⟨setting, isNamed.1, isNamed.2, Option.some.inj present ▸ fits⟩
    · cases present

end Settings.Environment

end SecretRefs

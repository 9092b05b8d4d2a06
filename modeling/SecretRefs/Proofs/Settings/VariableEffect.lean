import SecretRefs.Proofs.Settings.Variables

/-!
# What a variable comes to

A variable for a key of a section, loaded over layers of settings. If the key is not divided, the
variable sets the setting with that key and leaves all others as they are, or it is refused for
that key of that section (`Settled`). If the key is divided, no setting can be meant: what is
spelled has further parts, so it lies below the section (`variable_keeps_key_iff`).
-/

namespace SecretRefs.Settings

open Setting (Content sectionNames keysOf)
open Value (below? content? coverEntries cover)

/-! ## One table over layers of settings -/

/-- A value that comes of laying a table over tables of settings: it is refused for what the table
is refused for, and the table decides what it has. -/
def LiesOver (own : Value.Entries) (below : Setting → Option Content) (value : Value) : Prop :=
  ∃ origin found, value = .table origin found ∧ Tidy found ∧ Sectioned found ∧
    (∀ refusal, Refused found refusal ↔ Refused own refusal) ∧
    (Declared found ↔ Declared own) ∧
    (Declared own → ∀ setting, content? found setting = (content? own setting).or (below setting))

variable {own : Value.Entries} {below given : Setting → Option Content} {value lower : Value}

theorem liesOver_nothing (tidy : Tidy own) (sectioned : Sectioned own) (origin : Origin) :
    LiesOver own (fun _ => none) (.table origin own) :=
  ⟨origin, own, rfl, tidy, sectioned, fun _ => Iff.rfl, Iff.rfl, fun _ _ => Option.or_none.symm⟩

/-- A layer of settings below. -/
theorem LiesOver.cover (lies : LiesOver own below value) (layer : Gives lower given) :
    LiesOver own (fun setting => (below setting).or (given setting)) (cover value lower) := by
  obtain ⟨origin, found, rfl, tidy, sectioned, refused, declared, content⟩ := lies
  obtain ⟨place, others, rfl, tidyLower, declaredLower, rfl⟩ := layer
  refine ⟨origin, coverEntries found others, rfl, tidy.coverEntries tidyLower,
    sectioned.coverEntries tidy declaredLower.sectioned, fun refusal => ?_, ?_,
    fun isDeclared setting => ?_⟩
  · rw [refused_coverEntries_iff tidy sectioned declaredLower, refused]
  · rw [declared_coverEntries_iff tidy sectioned declaredLower, declared]
  · rw [content?_coverEntries tidy (declared.mpr isDeclared) declaredLower, content isDeclared,
      Option.or_assoc]

/-! ## A value for one key -/

/-- What loading comes to with a value for a key of a section over other layers: the value sets the
setting with this key and no other, or it is refused for this key. -/
inductive Settled (sectionName key : String) (value : Value) (below : Setting → Option Content) :
    Except (List Refusal) Settings → Prop where
  | set {settings : Settings} {content : Content} (setting : Setting)
    (isNamed : setting.sectionName = sectionName ∧ setting.key = key)
    (fits : setting.kind.ofValue? value = some content) (holds : setting.of settings = content)
    (others : ∀ other, other ≠ setting →
      other.of settings = (below other).getD (other.of {})) :
    Settled sectionName key value below (.ok settings)
  | refused {refusal : Refusal} (objection : Objection sectionName key value refusal) :
    Settled sectionName key value below (.error [refusal])

variable {sectionName key : String}

/-- A table with one entry in one section. -/
def single (sectionName key : String) (value : Value) : Value.Entries :=
  [(sectionName, .table .environment [(key, value)])]

theorem lookup_single {name : String} {found : Value}
    (present : (single sectionName key value).lookup name = some found) :
    name = sectionName ∧ found = .table .environment [(key, value)] := by
  rw [single, Value.lookup_cons_eq, List.lookup_nil] at present
  split at present
  · exact ⟨‹_›, (Option.some.inj present).symm⟩
  · cases present

theorem tidy_single : Tidy (single sectionName key value) := by
  refine ⟨List.pairwise_singleton .., fun present => ?_⟩
  cases (lookup_single present).2
  exact List.pairwise_singleton ..

theorem sectioned_single : Sectioned (single sectionName key value) :=
  fun _ _ _ present => ⟨_, _, (lookup_single present).2⟩

theorem below?_single_iff {name other : String} {found : Value} :
    below? name other (single sectionName key value) = some found ↔
      sectionName = name ∧ key = other ∧ value = found := by
  rw [single, Environment.below?_single]
  split
  · rename_i same
    simp [same.1, same.2]
  · rename_i differ
    simp only [reduceCtorEq, false_iff]
    exact fun ⟨sameSection, sameKey, _⟩ => differ ⟨sameSection, sameKey⟩

/-- What is refused about one value is about its key. -/
theorem objection_of_refused_single (known : sectionName ∈ sectionNames) {refusal : Refusal}
    (refused : Refused (single sectionName key value) refusal) :
    Objection sectionName key value refusal := by
  rcases refused with ⟨present, unknown⟩ | ⟨_, present, objection⟩
  · rw [(lookup_single present).1] at unknown
    exact absurd known unknown
  · obtain ⟨rfl, rfl, rfl⟩ := below?_single_iff.mp present
    exact objection

/-- Layers that come to a value for one key over tables of settings. -/
theorem LiesOver.settled (known : sectionName ∈ sectionNames) {layers : List Layer}
    (accepted : layers.filterMap Layer.refusal? = [])
    (lies : LiesOver (single sectionName key value) below (stack layers)) :
    Settled sectionName key value below (ofLayers layers) := by
  obtain ⟨origin, found, isTable, tidy, sectioned, refused, declared, content⟩ := lies
  rw [ofLayers, accepted, isTable]
  cases read : Extraction.settings (.table origin found) with
  | error refusal =>
    have refusedFound := settings_of_error read tidy sectioned
    exact .refused (objection_of_refused_single known ((refused refusal).mp refusedFound))
  | ok settings =>
    obtain ⟨isDeclared, holds⟩ := settings_of_ok read tidy sectioned
    have ownDeclared := declared.mp isDeclared
    obtain ⟨setting, belongs, isKey, fits⟩ :=
      ownDeclared.settings known (below?_single_iff.mpr ⟨rfl, rfl, rfl⟩)
    obtain ⟨held, isHeld⟩ := Option.isSome_iff_exists.mp fits
    refine .set setting ⟨belongs, isKey⟩ isHeld ?_ fun other differs => ?_
    · rw [holds, content ownDeclared, content?,
        below?_single_iff.mpr ⟨belongs.symm, isKey.symm, rfl⟩, Option.bind_some, isHeld]
      rfl
    · have absent : below? other.sectionName other.key (single sectionName key value) = none := by
        by_contra present
        obtain ⟨_, present⟩ := Option.ne_none_iff_exists'.mp present
        obtain ⟨sameSection, sameKey, _⟩ := below?_single_iff.mp present
        exact differs (Setting.eq_of_named (sameSection.symm.trans belongs.symm)
          (sameKey.symm.trans isKey.symm))
      rw [holds, content ownDeclared, content?, absent, Option.bind_none, Option.none_or]

/-! ## A variable over layers of settings -/

open Environment (variableFor IsWord Undivided DeclaredVariables contentOf? keyOfName? valueOfText)

/-- A variable that spells a section and a key, behind other variables and over other layers. -/
theorem liesOver_variable {name text : String}
    (spelled : keyOfName? name = some [sectionName, key]) {layers : List Layer}
    (layersGive : AllGive layers given) {pairs : List (String × String)}
    (declared : DeclaredVariables pairs) :
    LiesOver (single sectionName key (valueOfText text))
      (fun setting => (contentOf? pairs setting).or (given setting))
      (stack (layers ++ [Layer.ofVariables (pairs ++ [(name, text)])])) := by
  have topmost : Environment.ofVariables (pairs ++ [(name, text)]) =
      cover (.table .environment (single sectionName key (valueOfText text)))
        (Environment.ofVariables pairs) := by
    unfold Environment.ofVariables
    rw [List.filterMap_append, List.foldl_append, List.filterMap_cons_some
      (Environment.ofVariable?_of_spelled spelled text)]
    rfl
  have stacked : stack (layers ++ [Layer.ofVariables (pairs ++ [(name, text)])]) =
      cover (Environment.ofVariables (pairs ++ [(name, text)])) (stack layers) := by
    unfold stack
    rw [List.filterMap_append, List.foldl_append]
    rfl
  have lowest : Gives (stack layers) given := by
    unfold stack
    simpa only [Option.or_none] using layersGive.foldl (gives_nothing .builtIn)
  have alone : LiesOver (single sectionName key (valueOfText text)) (fun _ => none)
      (.table .environment (single sectionName key (valueOfText text))) :=
    liesOver_nothing tidy_single sectioned_single .environment
  rw [stacked, topmost]
  simpa only [Option.none_or] using (alone.cover declared.gives).cover lowest

/-- The name of a variable for a key of a section spells just these two exactly if the key is not
divided. Then the variable sets the setting with the key and no other, or is refused for the key,
whatever the layers of settings and the other variables are that it holds over. If the key is
divided, what the name spells, if anything, has more than two parts. -/
theorem variable_keeps_key_iff (known : sectionName ∈ sectionNames) {name : String}
    (isWord : IsWord key)
    (isNamed : Text.asciiLower name = Text.asciiLower (variableFor sectionName key)) :
    (keyOfName? name = some [sectionName, Text.asciiLower key] ↔
      Undivided sectionName (Text.asciiLower key)) ∧
    (Undivided sectionName (Text.asciiLower key) →
      ∀ (layers : List Layer) given, AllGive layers given →
      ∀ pairs, DeclaredVariables pairs → ∀ text,
        Settled sectionName (Text.asciiLower key) (valueOfText text)
          (fun setting => (contentOf? pairs setting).or (given setting))
          (ofLayers (layers ++ [Layer.ofVariables (pairs ++ [(name, text)])]))) ∧
    (¬ Undivided sectionName (Text.asciiLower key) → ∀ path, keyOfName? name = some path →
      ∃ first second rest, path = sectionName :: first :: second :: rest) := by
  have spells := Environment.keyOfName?_eq_iff_undivided known isWord isNamed
  refine ⟨spells, fun undivided layers given layersGive pairs declared text => ?_,
    fun divided path isPath => ?_⟩
  · refine (liesOver_variable (spells.mpr undivided) layersGive declared).settled known ?_
    rw [List.filterMap_append, layersGive.refusals]
    rfl
  · exact Environment.longer_of_divided known isWord isNamed divided isPath

/-- A key that is the whole name of another section is not divided, as no underscore is behind it.
The section has no such key, so the variable is refused for it, whatever its text is. -/
theorem defaults_store_refused :
    "defaults" ∈ sectionNames ∧ IsWord "Store" ∧
    Text.asciiLower "opref_DEFAULTS_Store" = Text.asciiLower (variableFor "defaults" "Store") ∧
    Undivided "defaults" (Text.asciiLower "Store") ∧
    keyOfName? "opref_DEFAULTS_Store" = some ["defaults", "store"] ∧
    ∀ text, ∃ origin,
      ofLayers [Layer.builtIn, Layer.ofVariables [("opref_DEFAULTS_Store", text)]] =
        .error [⟨.unknownKey "store" ["vault", "field", "category"], ["defaults", "store"],
          origin⟩] := by
  have known : "defaults" ∈ sectionNames := by decide
  have isWord : IsWord "Store" := by decide
  have isNamed : Text.asciiLower "opref_DEFAULTS_Store" =
      Text.asciiLower (variableFor "defaults" "Store") := by decide
  have undivided : Undivided "defaults" (Text.asciiLower "Store") := by
    unfold Undivided
    decide
  obtain ⟨spells, settles, -⟩ := variable_keeps_key_iff known isWord isNamed
  refine ⟨known, isWord, isNamed, undivided, spells.mpr undivided, fun text => ?_⟩
  have settled := settles undivided [Layer.builtIn] _ (.single gives_builtIn) [] nofun text
  have noSetting (setting : Setting)
      (isNamed : setting.sectionName = "defaults" ∧ setting.key = "store") : False := by
    revert isNamed
    cases setting <;> decide
  generalize loaded : ofLayers _ = outcome at settled
  cases settled with
  | set setting isNamed => exact (noSetting setting isNamed).elim
  | refused objection =>
    cases objection with
    | unfit setting isNamed => exact (noSetting setting isNamed).elim
    | stray unknown => exact ⟨_, loaded⟩

/-- A key that has the name of another section with an underscore in it is divided there: the
variable does not spell the section and the key, but a key that has a part of its own. -/
theorem logging_level_divided :
    "store" ∈ sectionNames ∧ IsWord "LOGGING_LEVEL" ∧
    "OPREF_STORE_LOGGING_LEVEL" = variableFor "store" "LOGGING_LEVEL" ∧
    keyOfName? "OPREF_STORE_LOGGING_LEVEL" ≠ some ["store", Text.asciiLower "LOGGING_LEVEL"] ∧
    keyOfName? "OPREF_STORE_LOGGING_LEVEL" = some ["store", "logging", "level"] := by
  decide

end SecretRefs.Settings

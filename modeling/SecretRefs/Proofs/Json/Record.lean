import SecretRefs.Json.Record
import SecretRefs.Proofs.Json.Document

/-!
# Records that are written and read again

An open record has entries for its parts and carries others along (`Carried`); it is a mapping. A
closed record is a mapping or the sequence of its values (`Json.valuesOf`), and in both forms it gives
its parts to the readers (`Parts.Gives`).
-/

namespace SecretRefs.Json

/-! ## Open records -/

/-- Entries that can be carried along in an open record: they have keys of their own, none of
them a part of the record, and they can be read. -/
structure Carried (names : List String) (room : Nat) (entries : Entries) : Prop where
  distinct : (entries.map Prod.fst).Nodup
  foreign : ∀ entry ∈ entries, entry.1 ∉ names
  readable : ∀ entry ∈ entries, Readable room entry.2

theorem Carried.nil (names : List String) (room : Nat) : Carried names room [] :=
  ⟨List.nodup_nil, fun _ member => absurd member List.not_mem_nil,
    fun _ member => absurd member List.not_mem_nil⟩

namespace Parts

/-- What an open record keeps can be carried along. -/
theorem carried_of_others {parts : Parts} {room : Nat} {names : List String} {extra : Entries}
    (run : parts.others room names = some extra) : Carried names (room - 1) extra := by
  cases parts with
  | placed elements =>
    cases run
    exact .nil names (room - 1)
  | named entries =>
    obtain ⟨read, isRead, rfl⟩ := Option.map_eq_some_iff.mp run
    refine ⟨nodup_keys_collect read, ?_, ?_⟩
    · intro entry member part
      obtain ⟨document, source, _⟩ :=
        Document.exists_of_mem_entries? isRead (mem_of_mem_collect member)
      have notPart := (List.mem_filter.mp source).2
      simp only [Bool.not_eq_true', List.any_eq_false, beq_iff_eq] at notPart
      exact notPart entry.1 part rfl
    · intro entry member
      obtain ⟨document, _, isValue⟩ :=
        Document.exists_of_mem_entries? isRead (mem_of_mem_collect member)
      exact Document.readable_of_value? document isValue

end Parts

namespace Document

theorem ofEntries_eq_map (entries : Entries) :
    ofEntries entries = entries.map fun entry => (some entry.1, ofValue entry.2) := by
  induction entries with
  | nil => rfl
  | cons entry rest inductionHypothesis => simp [ofEntries, inductionHypothesis]

end Document

namespace Parts

/-- The parts of a record that a data tree says. -/
def ofEntries (entries : Entries) : Parts :=
  .named (Document.ofEntries entries)

theorem ofMapping?_ofValue (entries : Entries) (room : Nat) :
    ofMapping? (room + 1) (Document.ofValue (.object entries)) = some (ofEntries entries) := by
  have named : (Document.ofEntries entries).all (·.1.isSome) = true := by
    simp [Document.ofEntries_eq_map]
  simp only [ofMapping?, Document.ofValue, named, if_true]
  rfl

variable {names : List String} {room : Nat} {extra : Entries} {α : Type}

/-- What a reader makes of the entries for one part; `missing` stands for no entry. -/
def readPart (reader : Reader α) (room : Nat) (missing : Option α) : Entries → Option α
  | [] => missing
  | [entry] => reader room (Document.ofValue entry.2)
  | _ => none

/-- A part is looked for among the entries for parts only. -/
theorem filter_ofEntries (carried : Carried names room extra) (known : Entries) {name : String}
    (isPart : name ∈ names) :
    (Document.ofEntries (known ++ extra)).filter (fun entry => entry.1 == some name) =
      (known.filter fun entry => entry.1 == name).map fun entry =>
        (some entry.1, Document.ofValue entry.2) := by
  have test : (fun entry : Option String × Document => entry.1 == some name) ∘
      (fun entry : String × Json => (some entry.1, Document.ofValue entry.2)) =
        fun entry => entry.1 == name := rfl
  have others : extra.filter (fun entry => entry.1 == name) = [] := by
    rw [List.filter_eq_nil_iff]
    intro entry member same
    rw [beq_iff_eq] at same
    exact carried.foreign entry member (same ▸ isPart)
  rw [Document.ofEntries_eq_map, List.filter_map, test, List.filter_append, others,
    List.append_nil]

theorem defaulted_ofEntries (carried : Carried names room extra) (known : Entries)
    (outer position : Nat) {name : String} (isPart : name ∈ names) (reader : Reader α)
    (fallback : α) :
    (ofEntries (known ++ extra)).defaulted outer position name reader fallback =
      readPart reader (outer - 1) (some fallback)
        (known.filter fun entry => entry.1 == name) := by
  simp only [defaulted, ofEntries, find?, filter_ofEntries carried known isPart]
  generalize known.filter (fun entry => entry.1 == name) = matching
  rcases matching with _ | ⟨first, _ | ⟨second, rest⟩⟩
  · rfl
  · rfl
  · rfl

theorem required_ofEntries (carried : Carried names room extra) (known : Entries)
    (outer position : Nat) {name : String} (isPart : name ∈ names) (reader : Reader α) :
    (ofEntries (known ++ extra)).required outer position name reader =
      readPart reader (outer - 1) none (known.filter fun entry => entry.1 == name) := by
  simp only [required, ofEntries, find?, filter_ofEntries carried known isPart]
  generalize known.filter (fun entry => entry.1 == name) = matching
  rcases matching with _ | ⟨first, _ | ⟨second, rest⟩⟩
  · rfl
  · rfl
  · rfl

/-- A part with a default is the default or was read. -/
theorem of_defaulted {parts : Parts} {outer position : Nat} {name : String} {reader : Reader α}
    {fallback value : α}
    (run : parts.defaulted outer position name reader fallback = some value) :
    value = fallback ∨ ∃ document, reader (outer - 1) document = some value := by
  unfold defaulted at run
  split at run
  · exact .inr ⟨_, run⟩
  · exact .inl (Option.some.inj run).symm
  · cases run

/-- The entries that are no parts are kept. -/
theorem others_ofEntries (carried : Carried names room extra) {known : Entries}
    (parts : ∀ entry ∈ known, entry.1 ∈ names) :
    (ofEntries (known ++ extra)).others (room + 1) names = some extra := by
  have test : (fun entry : Option String × Document =>
      !names.any fun name => entry.1 == some name) ∘
        (fun entry : String × Json => (some entry.1, Document.ofValue entry.2)) =
          fun entry => !names.contains entry.1 := by
    funext entry
    exact congrArg Bool.not List.contains_eq_any_beq.symm
  have kept : (Document.ofEntries (known ++ extra)).filter (fun entry =>
      !names.any fun name => entry.1 == some name) = Document.ofEntries extra := by
    rw [Document.ofEntries_eq_map, List.filter_map, test, List.filter_append,
      Document.ofEntries_eq_map]
    have noParts : known.filter (fun entry => !names.contains entry.1) = [] := by
      rw [List.filter_eq_nil_iff]
      intro entry member
      simp [parts entry member]
    have allExtra : extra.filter (fun entry => !names.contains entry.1) = extra := by
      rw [List.filter_eq_self]
      intro entry member
      simp [carried.foreign entry member]
    rw [noParts, allExtra, List.nil_append]
  have again := Document.entries?_ofEntries carried.readable
  simp only [others, ofEntries, kept, Nat.add_sub_cancel, again, Option.map_some,
    collect_of_nodup carried.distinct]

end Parts

/-! ## Closed records -/

/-- The sequence of the values of a mapping. -/
def valuesOf : Json → Json
  | .object entries => .array (entries.map Prod.snd)
  | value => value

theorem Document.ofValues_eq_map (values : List Json) : ofValues values = values.map ofValue := by
  induction values with
  | nil => rfl
  | cons value rest inductionHypothesis => simp [ofValues, inductionHypothesis]

/-- Among entries with keys of their own, one is found by its key. -/
theorem filter_key_eq {entries : Entries} (distinct : (entries.map Prod.fst).Nodup)
    {key : String} {value : Json} (member : (key, value) ∈ entries) :
    entries.filter (fun entry => entry.1 == key) = [(key, value)] := by
  induction entries with
  | nil => cases member
  | cons first rest inductionHypothesis =>
    rw [List.map_cons, List.nodup_cons] at distinct
    rcases List.mem_cons.mp member with rfl | later
    · have others : rest.filter (fun entry => entry.1 == key) = [] := by
        rw [List.filter_eq_nil_iff]
        intro entry inRest same
        have isKey : entry.1 ∈ rest.map Prod.fst := List.mem_map_of_mem inRest
        rw [beq_iff_eq.mp same] at isKey
        exact distinct.1 isKey
      rw [List.filter_cons, others, if_pos (beq_self_eq_true key)]
    · have differ : (first.1 == key) = false := by
        rw [beq_eq_false_iff_ne]
        intro same
        exact distinct.1 (same ▸ List.mem_map_of_mem later)
      rw [List.filter_cons, if_neg (by rw [differ]; exact Bool.false_ne_true)]
      exact inductionHypothesis distinct.2 later

namespace Parts

variable {parts : Parts} {entries : Entries} {α : Type}

/-- Parts that are the entries of a mapping, by name or by position. -/
def Gives (parts : Parts) (entries : Entries) : Prop :=
  ∀ position name value, entries[position]? = some (name, value) →
    parts.find? position name = some (some (Document.ofValue value))

theorem gives_ofEntries (distinct : (entries.map Prod.fst).Nodup) :
    (ofEntries entries).Gives entries := by
  intro position name value isEntry
  have test : (fun entry : Option String × Document => entry.1 == some name) ∘
      (fun entry : String × Json => (some entry.1, Document.ofValue entry.2)) =
        fun entry => entry.1 == name := rfl
  have found := filter_key_eq distinct (List.mem_of_getElem? isEntry)
  simp only [find?, ofEntries, Document.ofEntries_eq_map, List.filter_map, test, found,
    List.map_cons, List.map_nil]

theorem gives_placed (entries : Entries) :
    (Parts.placed (Document.ofValues (entries.map Prod.snd))).Gives entries := by
  intro position name value isEntry
  simp only [find?, Document.ofValues_eq_map, List.getElem?_map, isEntry, Option.map_some]

/-- A record is read alike from the mapping and from the sequence of its values. -/
theorem exists_gives (count : Nat) (complete : entries.length = count)
    (distinct : (entries.map Prod.fst).Nodup) {form : Json}
    (isForm : form = .object entries ∨ form = valuesOf (.object entries)) (room : Nat) :
    ∃ parts : Parts, parts.Gives entries ∧
      ofDocument? count (room + 1) (Document.ofValue form) = some parts := by
  rcases isForm with rfl | rfl
  · exact ⟨_, gives_ofEntries distinct, ofMapping?_ofValue entries room⟩
  · refine ⟨_, gives_placed entries, ?_⟩
    have fits : (Document.ofValues (entries.map Prod.snd)).length ≤ count := by
      simp [Document.ofValues_eq_map, complete]
    simp only [valuesOf, Document.ofValue, ofDocument?, if_pos fits]

theorem Gives.required (gives : parts.Gives entries) (room position : Nat) {name : String}
    {value : Json} (isEntry : entries[position]? = some (name, value)) (reader : Reader α) :
    parts.required (room + 1) position name reader = reader room (Document.ofValue value) := by
  simp only [Parts.required, gives position name value isEntry, Nat.add_sub_cancel]

theorem Gives.defaulted (gives : parts.Gives entries) (room position : Nat) {name : String}
    {value : Json} (isEntry : entries[position]? = some (name, value)) (reader : Reader α)
    (fallback : α) :
    parts.defaulted (room + 1) position name reader fallback =
      reader room (Document.ofValue value) := by
  simp only [Parts.defaulted, gives position name value isEntry, Nat.add_sub_cancel]

/-- A part that must be there was read. -/
theorem of_required {outer position : Nat} {name : String} {reader : Reader α} {value : α}
    (run : parts.required outer position name reader = some value) :
    ∃ document, reader (outer - 1) document = some value := by
  unfold required at run
  split at run
  · exact ⟨_, run⟩
  · cases run

end Parts

/-! ## Reading again -/

/-- Every value that is read can be read from what is written for it. -/
def Restores {α : Type} (room : Nat) (reader : Reader α) (write : α → Json) : Prop :=
  ∀ document value, reader room document = some value →
    reader room (Document.ofValue (write value)) = some value

/-- Every value that is read can be read from the record that is written for it, in both forms. -/
structure RestoresRecord {α : Type} (room : Nat) (reader : Reader α) (write : α → Json) :
    Prop where
  named : Restores room reader write
  placed : Restores room reader fun value => (write value).valuesOf

theorem RestoresRecord.of_forms {α : Type} {room : Nat} {reader : Reader α} {write : α → Json}
    (restored : ∀ document value form, reader room document = some value →
      form = write value ∨ form = (write value).valuesOf →
        reader room (Document.ofValue form) = some value) : RestoresRecord room reader write :=
  ⟨fun document value run => restored document value _ run (.inl rfl),
    fun document value run => restored document value _ run (.inr rfl)⟩

/-- A mapping that was read can be read again. -/
theorem readable_of_object {room : Nat} {document : Document} {entries : Entries}
    (run : Reader.object room document = some entries) : Readable room (.object entries) := by
  unfold Reader.object at run
  split at run
  · rename_i isObject
    cases run
    exact document.readable_of_value? isObject
  · cases run

theorem object_of_readable {room : Nat} {entries : Entries}
    (readable : Readable room (.object entries)) :
    Reader.object room (Document.ofValue (.object entries)) = some entries := by
  unfold Reader.object
  rw [readable]

/-- What is read from a list is read from its elements. -/
theorem of_mem_mapM {α β : Type} {read : α → Option β} {elements : List α} {values : List β}
    (run : elements.mapM read = some values) {value : β} (member : value ∈ values) :
    ∃ element ∈ elements, read element = some value := by
  induction elements generalizing values with
  | nil =>
    cases run
    cases member
  | cons element rest inductionHypothesis =>
    simp only [List.mapM_cons, Option.bind_eq_bind, Option.bind_eq_some_iff] at run
    obtain ⟨first, isFirst, others, isOthers, both⟩ := run
    cases both
    rcases List.mem_cons.mp member with rfl | later
    · exact ⟨element, List.mem_cons_self, isFirst⟩
    · obtain ⟨one, inRest, isOne⟩ := inductionHypothesis isOthers later
      exact ⟨one, List.mem_cons_of_mem element inRest, isOne⟩

theorem of_mem_list {α : Type} {element : Reader α} {room : Nat} {document : Document}
    {values : List α} (run : Reader.list element (room + 1) document = some values) {value : α}
    (member : value ∈ values) : ∃ source, element room source = some value := by
  unfold Reader.list at run
  split at run
  · rename_i elements inner sameRoom
    obtain rfl : room = inner := Nat.succ.inj sameRoom
    obtain ⟨source, _, isRead⟩ := of_mem_mapM run member
    exact ⟨source, isRead⟩
  · cases run

/-- A list can be read from what is written for its elements if each of them can. -/
theorem list_ofValue {α : Type} {element : Reader α} {write : α → Json} {room : Nat}
    {values : List α}
    (restored : ∀ value ∈ values, element room (Document.ofValue (write value)) = some value) :
    Reader.list element (room + 1) (Document.ofValue (.array (values.map write))) =
      some values := by
  have read : (Document.ofValues (values.map write)).mapM (element room) = some values := by
    induction values with
    | nil => rfl
    | cons value rest inductionHypothesis =>
      have first := restored value List.mem_cons_self
      have others := inductionHypothesis fun one member =>
        restored one (List.mem_cons_of_mem value member)
      simp only [List.map_cons, Document.ofValues, List.mapM_cons, first, others]
      rfl
  simpa only [Document.ofValue, Reader.list] using read

end SecretRefs.Json

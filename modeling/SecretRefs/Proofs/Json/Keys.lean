import SecretRefs.Proofs.Json.Document

/-!
# Looking up keys

A look-up gives the value that was inserted last (`find?_insert`). In the data trees that are read
from documents no mapping repeats a key (`keysDistinct_of_value?`), so a key leads to its value
wherever that stands.
-/

namespace SecretRefs.Json

/-- Whether no mapping in a tree repeats a key. -/
inductive KeysDistinct : Json → Prop where
  | null : KeysDistinct .null
  | boolean (value : Bool) : KeysDistinct (.boolean value)
  | number (value : Json.Number) : KeysDistinct (.number value)
  | string (text : String) : KeysDistinct (.string text)
  | array {elements : List Json} (each : ∀ element ∈ elements, KeysDistinct element) :
      KeysDistinct (.array elements)
  | object {entries : Entries} (keys : (entries.map Prod.fst).Nodup)
      (each : ∀ entry ∈ entries, KeysDistinct entry.2) : KeysDistinct (.object entries)

/-! ## Looking up keys -/

theorem find?_cons (name key : String) (value : Json) (rest : Entries) :
    find? name ((key, value) :: rest) = if name = key then some value else find? name rest := by
  unfold find?
  rw [List.lookup_cons]
  by_cases same : name = key
  · simp [same]
  · rw [if_neg same, beq_eq_false_iff_ne.mpr same]

/-- An inserted key has its value, and all others have theirs. -/
theorem find?_insert (name key : String) (value : Json) (entries : Entries) :
    find? name (insert key value entries) =
      if name = key then some value else find? name entries := by
  induction entries with
  | nil => exact find?_cons name key value []
  | cons entry rest inductionHypothesis =>
    obtain ⟨other, current⟩ := entry
    unfold insert
    by_cases same : other = key
    · subst same
      rw [if_pos (beq_self_eq_true other), find?_cons, find?_cons]
      split
      · rfl
      · rfl
    · rw [if_neg (by simpa using same), find?_cons, find?_cons, inductionHypothesis]
      by_cases isOther : name = other
      · have differs : name ≠ key := fun isKey => same (isOther.symm.trans isKey)
        rw [if_pos isOther, if_neg differs, if_pos isOther]
      · rw [if_neg isOther, if_neg isOther]

/-- A key that the known entries do not have is looked up in the rest. -/
theorem find?_append_of_foreign {name : String} {known extra : Entries}
    (foreign : name ∉ known.map Prod.fst) :
    find? name (known ++ extra) = find? name extra := by
  have absent : known.lookup name = none := by
    rw [List.lookup_eq_none_iff]
    intro entry member
    have differs : name ≠ entry.1 := fun same => foreign (same ▸ List.mem_map_of_mem member)
    simpa using differs
  rw [find?, List.lookup_append, absent, Option.none_or, find?]

/-- A key that occurs once leads to its value. -/
theorem find?_of_mem {entries : Entries} {key : String} {value : Json}
    (keys : (entries.map Prod.fst).Nodup) (member : (key, value) ∈ entries) :
    find? key entries = some value := by
  induction entries with
  | nil => cases member
  | cons entry rest inductionHypothesis =>
    obtain ⟨name, current⟩ := entry
    rw [List.map_cons, List.nodup_cons] at keys
    rw [find?_cons]
    rcases List.mem_cons.mp member with same | later
    · cases same
      exact if_pos rfl
    · have differ : key ≠ name := by
        rintro rfl
        exact keys.1 (List.mem_map.mpr ⟨_, later, rfl⟩)
      rw [if_neg differ]
      exact inductionHypothesis keys.2 later

namespace Document

/-- What is read from a document has distinct keys. -/
theorem keysDistinct_of_value? (document : Document) {room : Nat} {value : Json}
    (run : document.value? room = some value) : KeysDistinct value := by
  match document, room with
  | .null, _ =>
    cases run
    exact .null
  | .boolean flag, _ =>
    cases run
    exact .boolean flag
  | .number _, _ =>
    obtain ⟨number, _, rfl⟩ := Option.map_eq_some_iff.mp run
    exact .number number
  | .string _, _ =>
    obtain ⟨text, _, rfl⟩ := Option.map_eq_some_iff.mp run
    exact .string text
  | .array elements, room + 1 =>
    obtain ⟨values, isValues, rfl⟩ := Option.map_eq_some_iff.mp run
    refine .array fun value member => ?_
    obtain ⟨element, inElements, isValue⟩ := exists_of_mem_values? isValues member
    exact keysDistinct_of_value? element isValue
  | .object entries, room + 1 =>
    obtain ⟨read, isRead, rfl⟩ := Option.map_eq_some_iff.mp run
    refine .object (nodup_keys_collect read) fun entry member => ?_
    obtain ⟨inner, inEntries, isValue⟩ :=
      exists_of_mem_entries? isRead (mem_of_mem_collect member)
    exact keysDistinct_of_value? inner isValue
termination_by sizeOf document
decreasing_by
  · exact sizeOf_element inElements
  · exact sizeOf_entry inEntries

end Document

end SecretRefs.Json

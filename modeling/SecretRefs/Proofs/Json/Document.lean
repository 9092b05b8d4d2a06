import Mathlib.Data.List.Basic
import Mathlib.Data.List.Nodup
import SecretRefs.Json.Document

/-!
# Data trees as documents

A data tree that was read can be read again: `value?` on the document that says it gives it
back (`readable_of_value?`). Its mappings then have no repeated keys, so collecting their
entries is no change (`collect_of_nodup`).
-/

namespace SecretRefs.Json

/-! ## Collected entries -/

/-- Inserting keeps the keys apart. -/
theorem nodup_keys_insert {key : String} {value : Json} {entries : Entries}
    (distinct : (entries.map Prod.fst).Nodup) :
    ((insert key value entries).map Prod.fst).Nodup ∧
      ∀ name, name ∈ (insert key value entries).map Prod.fst →
        name = key ∨ name ∈ entries.map Prod.fst := by
  induction entries with
  | nil => simp [insert]
  | cons entry rest inductionHypothesis =>
    obtain ⟨name, current⟩ := entry
    rw [List.map_cons, List.nodup_cons] at distinct
    unfold insert
    split
    · rename_i same
      rw [List.map_cons, List.nodup_cons]
      refine ⟨distinct, ?_⟩
      intro one member
      exact .inr member
    · rename_i differ
      obtain ⟨restDistinct, origin⟩ := inductionHypothesis distinct.2
      constructor
      · rw [List.map_cons, List.nodup_cons]
        refine ⟨?_, restDistinct⟩
        intro member
        rcases origin name member with rfl | old
        · simp at differ
        · exact distinct.1 old
      · intro one member
        rw [List.map_cons, List.mem_cons] at member ⊢
        rcases member with rfl | later
        · exact .inr (.inl rfl)
        · rcases origin one later with rfl | old
          · exact .inl rfl
          · exact .inr (.inr old)

/-- An inserted entry is new or was there. -/
theorem mem_insert {key : String} {value : Json} {entries : Entries} {entry : String × Json}
    (member : entry ∈ insert key value entries) : entry = (key, value) ∨ entry ∈ entries := by
  induction entries with
  | nil => exact .inl (List.mem_singleton.mp member)
  | cons first rest inductionHypothesis =>
    obtain ⟨name, current⟩ := first
    unfold insert at member
    split at member
    · rename_i same
      rw [beq_iff_eq] at same
      rcases List.mem_cons.mp member with rfl | later
      · exact .inl (by rw [same])
      · exact .inr (List.mem_cons_of_mem _ later)
    · rcases List.mem_cons.mp member with rfl | later
      · exact .inr List.mem_cons_self
      · rcases inductionHypothesis later with new | old
        · exact .inl new
        · exact .inr (List.mem_cons_of_mem _ old)

theorem insert_of_not_mem {key : String} {value : Json} {entries : Entries}
    (isNew : key ∉ entries.map Prod.fst) :
    insert key value entries = entries ++ [(key, value)] := by
  induction entries with
  | nil => rfl
  | cons first rest inductionHypothesis =>
    obtain ⟨name, current⟩ := first
    rw [List.map_cons, List.mem_cons, not_or] at isNew
    have differ : (name == key) = false := by
      rw [beq_eq_false_iff_ne]
      exact fun same => isNew.1 same.symm
    simp [insert, differ, inductionHypothesis isNew.2]

/-- The entries that inserting each of a list leads to. -/
def insertAll (collected entries : Entries) : Entries :=
  entries.foldl (fun collected entry => insert entry.1 entry.2 collected) collected

theorem nodup_keys_insertAll {collected : Entries} (distinct : (collected.map Prod.fst).Nodup)
    (entries : Entries) : ((insertAll collected entries).map Prod.fst).Nodup := by
  induction entries generalizing collected with
  | nil => exact distinct
  | cons entry rest inductionHypothesis =>
    exact inductionHypothesis (nodup_keys_insert distinct).1

theorem mem_insertAll {collected entries : Entries} {entry : String × Json}
    (member : entry ∈ insertAll collected entries) : entry ∈ collected ∨ entry ∈ entries := by
  induction entries generalizing collected with
  | nil => exact .inl member
  | cons first rest inductionHypothesis =>
    rcases inductionHypothesis member with early | later
    · rcases mem_insert early with rfl | old
      · exact .inr List.mem_cons_self
      · exact .inl old
    · exact .inr (List.mem_cons_of_mem _ later)

theorem insertAll_of_nodup {collected entries : Entries}
    (distinct : ((collected ++ entries).map Prod.fst).Nodup) :
    insertAll collected entries = collected ++ entries := by
  induction entries generalizing collected with
  | nil => exact (List.append_nil collected).symm
  | cons entry rest inductionHypothesis =>
    have isNew : entry.1 ∉ collected.map Prod.fst := by
      rw [List.map_append, List.nodup_append] at distinct
      intro member
      exact distinct.2.2 entry.1 member entry.1 (by simp) rfl
    have inserted : insertAll collected (entry :: rest) =
        insertAll (collected ++ [entry]) rest :=
      congrArg (insertAll · rest) (insert_of_not_mem isNew)
    rw [inserted, inductionHypothesis (by simpa using distinct), List.append_assoc,
      List.singleton_append]

theorem nodup_keys_collect (entries : Entries) : ((collect entries).map Prod.fst).Nodup :=
  nodup_keys_insertAll (show (([] : Entries).map Prod.fst).Nodup from List.nodup_nil) entries

/-- Collecting invents no entries. -/
theorem mem_of_mem_collect {entries : Entries} {entry : String × Json}
    (member : entry ∈ collect entries) : entry ∈ entries := by
  rcases mem_insertAll (show entry ∈ insertAll [] entries from member) with none | there
  · cases none
  · exact there

/-- Entries with keys of their own are collected as they are. -/
theorem collect_of_nodup {entries : Entries} (distinct : (entries.map Prod.fst).Nodup) :
    collect entries = entries :=
  insertAll_of_nodup (show (([] ++ entries).map Prod.fst).Nodup from distinct)

/-! ## Reading again -/

/-- Whether a data tree can be read from the document that says it. -/
def Readable (room : Nat) (value : Json) : Prop :=
  (Document.ofValue value).value? room = some value

namespace Document

theorem values?_ofValues {room : Nat} {values : List Json}
    (readable : ∀ value ∈ values, Readable room value) :
    values? (ofValues values) room = some values := by
  induction values with
  | nil => rfl
  | cons value rest inductionHypothesis =>
    have first : (ofValue value).value? room = some value := readable value List.mem_cons_self
    have others := inductionHypothesis fun one member =>
      readable one (List.mem_cons_of_mem value member)
    simp only [ofValues, values?, first, others]

theorem entries?_ofEntries {room : Nat} {entries : Entries}
    (readable : ∀ entry ∈ entries, Readable room entry.2) :
    entries? (ofEntries entries) room = some entries := by
  induction entries with
  | nil => rfl
  | cons entry rest inductionHypothesis =>
    obtain ⟨key, value⟩ := entry
    have first : (ofValue value).value? room = some value :=
      readable (key, value) List.mem_cons_self
    have others := inductionHypothesis fun one member =>
      readable one (List.mem_cons_of_mem (key, value) member)
    simp only [ofEntries, entries?, first, others]

/-- A value that is read is that of an element. -/
theorem exists_of_mem_values? {elements : List Document} {room : Nat} {values : List Json}
    (run : values? elements room = some values) {value : Json} (member : value ∈ values) :
    ∃ element ∈ elements, element.value? room = some value := by
  induction elements generalizing values with
  | nil =>
    cases run
    cases member
  | cons element rest inductionHypothesis =>
    simp only [values?] at run
    split at run
    · rename_i isValue isRest
      cases run
      rcases List.mem_cons.mp member with rfl | later
      · exact ⟨element, List.mem_cons_self, isValue⟩
      · obtain ⟨one, inRest, isOne⟩ := inductionHypothesis isRest later
        exact ⟨one, List.mem_cons_of_mem element inRest, isOne⟩
    · cases run

/-- An entry that is read is one of the document. -/
theorem exists_of_mem_entries? {entries : List (Option String × Document)} {room : Nat}
    {read : Entries} (run : entries? entries room = some read) {entry : String × Json}
    (member : entry ∈ read) :
    ∃ document, (some entry.1, document) ∈ entries ∧ document.value? room = some entry.2 := by
  induction entries generalizing read with
  | nil =>
    cases run
    cases member
  | cons first rest inductionHypothesis =>
    obtain ⟨key, document⟩ := first
    simp only [entries?] at run
    split at run
    · rename_i isValue isRest
      cases run
      rcases List.mem_cons.mp member with rfl | later
      · exact ⟨document, List.mem_cons_self, isValue⟩
      · obtain ⟨one, inRest, isOne⟩ := inductionHypothesis isRest later
        exact ⟨one, List.mem_cons_of_mem _ inRest, isOne⟩
    · cases run

theorem sizeOf_element {element : Document} {elements : List Document}
    (member : element ∈ elements) : sizeOf element < sizeOf (Document.array elements) := by
  have := List.sizeOf_lt_of_mem member
  simp only [Document.array.sizeOf_spec]
  omega

theorem sizeOf_entry {key : Option String} {document : Document}
    {entries : List (Option String × Document)} (member : (key, document) ∈ entries) :
    sizeOf document < sizeOf (Document.object entries) := by
  have := List.sizeOf_lt_of_mem member
  simp only [Document.object.sizeOf_spec, Prod.mk.sizeOf_spec] at this ⊢
  omega

/-- What was read can be read again. -/
theorem readable_of_value? (document : Document) {room : Nat} {value : Json}
    (run : document.value? room = some value) : Readable room value := by
  match document, room with
  | .null, _ => cases run; rfl
  | .boolean _, _ => cases run; rfl
  | .number _, _ =>
    obtain ⟨_, _, rfl⟩ := Option.map_eq_some_iff.mp run
    rfl
  | .string _, _ =>
    obtain ⟨_, _, rfl⟩ := Option.map_eq_some_iff.mp run
    rfl
  | .array elements, room + 1 =>
    obtain ⟨values, isValues, rfl⟩ := Option.map_eq_some_iff.mp run
    have readable : ∀ value ∈ values, Readable room value := by
      intro value member
      obtain ⟨element, inElements, isValue⟩ := exists_of_mem_values? isValues member
      exact readable_of_value? element isValue
    simp only [Readable, ofValue, value?, values?_ofValues readable, Option.map_some]
  | .object entries, room + 1 =>
    obtain ⟨read, isRead, rfl⟩ := Option.map_eq_some_iff.mp run
    have readable : ∀ entry ∈ collect read, Readable room entry.2 := by
      intro entry member
      obtain ⟨document, inEntries, isValue⟩ :=
        exists_of_mem_entries? isRead (mem_of_mem_collect member)
      exact readable_of_value? document isValue
    simp only [Readable, ofValue, value?, entries?_ofEntries readable, Option.map_some,
      collect_of_nodup (nodup_keys_collect read)]
termination_by sizeOf document
decreasing_by
  · exact sizeOf_element inElements
  · exact sizeOf_entry inEntries

end Document

end SecretRefs.Json

import SecretRefs.Proofs.Store.FirstMatch
import SecretRefs.Upsert

/-!
# Storing a value in a list of fields

An upsert picks its field by title only, and a reader picks one by title or id. `shadow?` is
the field that a reader takes in place of the one that was written, and `value_find?_stored`
says that it is the only obstacle to reading a value back.
-/

namespace SecretRefs.Field

open Store.Memory

/-- A test for fields with a title. -/
def titled (title : String) (field : Field) : Bool :=
  Text.sameTitle field.title title

/-- Titles that are equal ignoring case find the same field. -/
theorem titled_congr {title title' : String} (same : Text.sameTitle title title' = true) :
    titled title = titled title' :=
  funext fun field => Text.sameTitle_congr same field.title

/-- Overwriting changes the first field with the title, if there is one. -/
theorem overwrite?_eq (title value : String) (fields : List Field) :
    overwrite? title value fields =
      if fields.any (titled title) then
        some (updateFirst (titled title) (fun field => { field with value }) fields)
      else none := by
  induction fields with
  | nil => rfl
  | cons field rest inductionHypothesis =>
    unfold overwrite?
    cases matched : Text.sameTitle field.title title with
    | true => simp [titled, matched, updateFirst]
    | false =>
      rw [inductionHypothesis]
      cases later : rest.any (titled title) with
      | true => simp [titled, matched, updateFirst, later]
      | false => simp [titled, matched, later]

theorem store_eq (title value : String) (fields : List Field) :
    store title value fields =
      if fields.any (titled title) then
        updateFirst (titled title) (fun field => { field with value }) fields
      else fields ++ [concealed title value] := by
  unfold store
  rw [overwrite?_eq]
  split
  · rfl
  · rfl

/-- Storing a value attaches nothing to a field. -/
theorem extra_of_mem_store {title value : String} {fields : List Field} {field : Field}
    (member : field ∈ store title value fields) :
    field.extra = [] ∨ ∃ old ∈ fields, field.extra = old.extra := by
  rw [store_eq] at member
  split at member
  · rcases mem_updateFirst member with old | ⟨old, oldMember, _, rfl⟩
    · exact .inr ⟨field, old, rfl⟩
    · exact .inr ⟨old, oldMember, rfl⟩
  · rcases List.mem_append.mp member with old | new
    · exact .inr ⟨field, old, rfl⟩
    · rw [List.mem_singleton.mp new]
      exact .inl rfl

/-- The first field that a test matches, of those before the first one with a title. -/
def shadow? (test : Field → Bool) (title : String) (fields : List Field) : Option Field :=
  (fields.takeWhile fun field => !titled title field).find? test

theorem shadow?_cons {test : Field → Bool} {title : String} {field : Field}
    (unmatched : titled title field = false) (rest : List Field) :
    shadow? test title (field :: rest) =
      if test field then some field else shadow? test title rest := by
  simp only [shadow?, List.takeWhile_cons, unmatched, Bool.not_false, if_true, List.find?_cons]
  cases test field with
  | true => rfl
  | false => rfl

/-- A reader that goes by title or by another test finds the value that was stored, unless a
shadow comes first. -/
theorem value_find?_stored (test : Field → Bool) {title value : String} {new : Field}
    (newTitled : titled title new = true) (newValue : new.value = value) (fields : List Field) :
    ((if fields.any (titled title) then
        updateFirst (titled title) (fun field => { field with value }) fields
      else fields ++ [new]).find? fun field => titled title field || test field).map Field.value =
      some ((shadow? test title fields).elim value Field.value) := by
  induction fields with
  | nil => simp [newTitled, newValue, shadow?]
  | cons field rest inductionHypothesis =>
    cases matched : titled title field with
    | true =>
      have still : titled title { field with value } = true := matched
      simp [updateFirst, matched, still, shadow?]
    | false =>
      have stored : (if (field :: rest).any (titled title) then
            updateFirst (titled title) (fun field => { field with value }) (field :: rest)
          else field :: rest ++ [new]) =
          field :: if rest.any (titled title) then
            updateFirst (titled title) (fun field => { field with value }) rest
          else rest ++ [new] := by
        simp only [List.any_cons, matched, Bool.false_or, updateFirst]
        split
        · rfl
        · rfl
      rw [stored, shadow?_cons matched, List.find?_cons, matched, Bool.false_or]
      cases test field with
      | true => rfl
      | false => exact inductionHypothesis

/-- A reader that refuses empty values gives the value that was stored just if no shadow has
another one. -/
theorem read_eq_ok_iff {shadow : Option Field} {value read : String} {failure : Failure}
    (found : read = shadow.elim value Field.value) (filled : value ≠ "") :
    (if read.isEmpty then (.error failure : Except Failure String) else .ok read) = .ok value ↔
      ∀ field, shadow = some field → field.value = value := by
  have readsRead : (if read.isEmpty then (.error failure : Except Failure String)
      else .ok read) = .ok value ↔ read = value := by
    cases empty : read.isEmpty with
    | true =>
      rw [String.isEmpty_iff] at empty
      simp [empty, filled.symm]
    | false => simp
  rw [readsRead, found]
  cases shadow with
  | none => simp
  | some field => simp

end SecretRefs.Field

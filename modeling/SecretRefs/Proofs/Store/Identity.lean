import Std.Data.String.ToNat
import SecretRefs.Store.Memory

/-!
# Ids

Ids of one kind differ when their numbers do, and numbering fields gives an id to every
field without touching those that have one.
-/

namespace SecretRefs.Store.Memory

theorem idText_ne_empty (kind : String) (number : Nat) : idText kind number ≠ "" := by
  intro empty
  have noChars : (idText kind number).toList = [] := by rw [empty]; rfl
  simp [idText] at noChars

/-- Different numbers make different ids. -/
theorem idText_injective {kind : String} {first second : Nat}
    (same : idText kind first = idText kind second) : first = second := by
  unfold idText at same
  exact Nat.repr_injective ((String.append_right_inj (kind ++ "-")).mp same)

/-- Every field has an id after the numbering. -/
theorem id_ne_empty_of_mem_numberFields {issued : Nat} {fields : List Field} {field : Field}
    (member : field ∈ (numberFields issued fields).1) : field.id ≠ "" := by
  induction fields generalizing issued with
  | nil => cases member
  | cons first rest inductionHypothesis =>
    unfold numberFields at member
    split at member
    · rcases List.mem_cons.mp member with rfl | later
      · exact idText_ne_empty "field" (issued + 1)
      · exact inductionHypothesis later
    · rename_i hasId
      rcases List.mem_cons.mp member with rfl | later
      · simpa using hasId
      · exact inductionHypothesis later

/-- Each field without an id takes one. -/
theorem snd_numberFields (issued : Nat) (fields : List Field) :
    (numberFields issued fields).2 = issued + fields.countP fun field => field.id.isEmpty := by
  induction fields generalizing issued with
  | nil => rfl
  | cons field rest inductionHypothesis =>
    cases unnumbered : field.id.isEmpty with
    | true =>
      have later := inductionHypothesis (issued + 1)
      simp only [numberFields, List.countP_cons, unnumbered, if_true]
      omega
    | false => simp [numberFields, unnumbered, inductionHypothesis]

/-- Numbering never takes an id back. -/
theorem le_numberFields (issued : Nat) (fields : List Field) :
    issued ≤ (numberFields issued fields).2 := by
  rw [snd_numberFields]
  exact Nat.le_add_right _ _

/-- Fields that have ids keep them, and what follows them is numbered from where the
counter is. -/
theorem numberFields_append {fields : List Field} (numbered : ∀ field ∈ fields, field.id ≠ "")
    (issued : Nat) (rest : List Field) :
    numberFields issued (fields ++ rest) =
      (fields ++ (numberFields issued rest).1, (numberFields issued rest).2) := by
  induction fields with
  | nil => rfl
  | cons first others inductionHypothesis =>
    have hasId : first.id ≠ "" := numbered first List.mem_cons_self
    have later := inductionHypothesis fun field member =>
      numbered field (List.mem_cons_of_mem first member)
    simp [numberFields, hasId, later]

theorem numberFields_of_numbered {fields : List Field}
    (numbered : ∀ field ∈ fields, field.id ≠ "") (issued : Nat) :
    numberFields issued fields = (fields, issued) := by
  have whole := numberFields_append numbered issued []
  simpa [numberFields] using whole

/-- A concealed field with the id of a number. -/
def newField (title value : String) (number : Nat) : Field :=
  ⟨idText "field" number, title, value, .concealed, []⟩

@[simp] theorem newField_title (title value : String) (number : Nat) :
    (newField title value number).title = title := rfl

@[simp] theorem newField_value (title value : String) (number : Nat) :
    (newField title value number).value = value := rfl

/-- A new field gets the next id. -/
theorem numberFields_concealed (issued : Nat) (title value : String) :
    numberFields issued [Field.concealed title value] =
      ([newField title value (issued + 1)], issued + 1) := by
  simp [numberFields, Field.concealed, newField]

end SecretRefs.Store.Memory

import SecretRefs.Connect.Wire
import SecretRefs.Json.Document
import SecretRefs.Toml.Value

/-!
# Equality of data

Equality of data trees, of documents and of what holds them can be decided, so that what a text is
read as can be checked by evaluation.
-/

namespace SecretRefs

namespace Json

mutual

/-- Whether two data trees are equal. -/
def same : Json → Json → Bool
  | .null, .null => true
  | .boolean left, .boolean right => left == right
  | .number left, .number right => left == right
  | .string left, .string right => left == right
  | .array left, .array right => sameElements left right
  | .object left, .object right => sameEntries left right
  | _, _ => false

/-- Whether two lists of data trees are equal. -/
def sameElements : List Json → List Json → Bool
  | [], [] => true
  | left :: before, right :: after => same left right && sameElements before after
  | _, _ => false

/-- Whether two lists of entries are equal. -/
def sameEntries : List (String × Json) → List (String × Json) → Bool
  | [], [] => true
  | (key, left) :: before, (name, right) :: after =>
    key == name && (same left right && sameEntries before after)
  | _, _ => false

end

mutual

theorem same_iff (left right : Json) : same left right = true ↔ left = right := by
  match left with
  | .null => cases right <;> simp [same]
  | .boolean _ => cases right <;> simp [same]
  | .number _ => cases right <;> simp [same]
  | .string _ => cases right <;> simp [same]
  | .array elements => cases right <;> simp [same, sameElements_iff elements]
  | .object entries => cases right <;> simp [same, sameEntries_iff entries]

theorem sameElements_iff (left right : List Json) :
    sameElements left right = true ↔ left = right := by
  match left with
  | [] => cases right <;> simp [sameElements]
  | first :: rest => cases right <;> simp [sameElements, same_iff first, sameElements_iff rest]

theorem sameEntries_iff (left right : List (String × Json)) :
    sameEntries left right = true ↔ left = right := by
  match left with
  | [] => cases right <;> simp [sameEntries]
  | (key, value) :: rest =>
    cases right <;>
      simp [sameEntries, same_iff value, sameEntries_iff rest, Prod.ext_iff, and_assoc]

end

instance : DecidableEq Json := fun left right => decidable_of_iff _ (same_iff left right)

namespace Document

mutual

/-- Whether two documents are equal. -/
def same : Document → Document → Bool
  | .null, .null => true
  | .boolean left, .boolean right => left == right
  | .number left, .number right => left == right
  | .string left, .string right => left == right
  | .array left, .array right => sameElements left right
  | .object left, .object right => sameEntries left right
  | _, _ => false

/-- Whether two lists of documents are equal. -/
def sameElements : List Document → List Document → Bool
  | [], [] => true
  | left :: before, right :: after => same left right && sameElements before after
  | _, _ => false

/-- Whether two lists of entries are equal. -/
def sameEntries : List (Option String × Document) → List (Option String × Document) → Bool
  | [], [] => true
  | (key, left) :: before, (name, right) :: after =>
    key == name && (same left right && sameEntries before after)
  | _, _ => false

end

mutual

theorem same_iff (left right : Document) : same left right = true ↔ left = right := by
  match left with
  | .null => cases right <;> simp [same]
  | .boolean _ => cases right <;> simp [same]
  | .number _ => cases right <;> simp [same]
  | .string _ => cases right <;> simp [same]
  | .array elements => cases right <;> simp [same, sameElements_iff elements]
  | .object entries => cases right <;> simp [same, sameEntries_iff entries]

theorem sameElements_iff (left right : List Document) :
    sameElements left right = true ↔ left = right := by
  match left with
  | [] => cases right <;> simp [sameElements]
  | first :: rest => cases right <;> simp [sameElements, same_iff first, sameElements_iff rest]

theorem sameEntries_iff (left right : List (Option String × Document)) :
    sameEntries left right = true ↔ left = right := by
  match left with
  | [] => cases right <;> simp [sameEntries]
  | (key, value) :: rest =>
    cases right <;>
      simp [sameEntries, same_iff value, sameEntries_iff rest, Prod.ext_iff, and_assoc]

end

instance : DecidableEq Document := fun left right => decidable_of_iff _ (same_iff left right)

end Document

end Json

namespace Toml.Value

mutual

/-- Whether two values of TOML documents are equal. -/
def same : Value → Value → Bool
  | .text left, .text right => left == right
  | .integer left, .integer right => left == right
  | .decimal left, .decimal right => decide (left = right)
  | .boolean left, .boolean right => left == right
  | .moment left, .moment right => left == right
  | .array left, .array right => sameElements left right
  | .table left, .table right => sameEntries left right
  | _, _ => false

/-- Whether two lists of values of TOML documents are equal. -/
def sameElements : List Value → List Value → Bool
  | [], [] => true
  | left :: before, right :: after => same left right && sameElements before after
  | _, _ => false

/-- Whether two lists of entries are equal. -/
def sameEntries : List (String × Value) → List (String × Value) → Bool
  | [], [] => true
  | (key, left) :: before, (name, right) :: after =>
    key == name && (same left right && sameEntries before after)
  | _, _ => false

end

mutual

theorem same_iff (left right : Value) : same left right = true ↔ left = right := by
  match left with
  | .text _ => cases right <;> simp [same]
  | .integer _ => cases right <;> simp [same]
  | .decimal _ => cases right <;> simp [same]
  | .boolean _ => cases right <;> simp [same]
  | .moment _ => cases right <;> simp [same]
  | .array elements => cases right <;> simp [same, sameElements_iff elements]
  | .table entries => cases right <;> simp [same, sameEntries_iff entries]

theorem sameElements_iff (left right : List Value) :
    sameElements left right = true ↔ left = right := by
  match left with
  | [] => cases right <;> simp [sameElements]
  | first :: rest => cases right <;> simp [sameElements, same_iff first, sameElements_iff rest]

theorem sameEntries_iff (left right : List (String × Value)) :
    sameEntries left right = true ↔ left = right := by
  match left with
  | [] => cases right <;> simp [sameEntries]
  | (key, value) :: rest =>
    cases right <;>
      simp [sameEntries, same_iff value, sameEntries_iff rest, Prod.ext_iff, and_assoc]

end

instance : DecidableEq Value := fun left right => decidable_of_iff _ (same_iff left right)

end Toml.Value

deriving instance DecidableEq for Field, Item, Connect.WireField, Connect.WireItem

end SecretRefs

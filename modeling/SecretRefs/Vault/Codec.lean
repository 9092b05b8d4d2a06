import SecretRefs.Vault
import SecretRefs.Json.Record

/-!
# The stored form of vaults and items

Each type has a reader and a writer for its JSON form. The writer lists the
parts in a fixed order, and the readers accept that form as well as a sequence
of the parts in the same order.
-/

namespace SecretRefs

open Json

/-- Reads a field kind from its spelling. -/
def FieldKind.read : Reader FieldKind := fun room document =>
  (Reader.string room document).map FieldKind.ofName

/-- The JSON form of a field kind. -/
def FieldKind.encode (kind : FieldKind) : Json :=
  .string kind.name

/-- Reads a category from its spelling. -/
def Category.read : Reader Category := fun room document =>
  (Reader.string room document).map Category.ofName

/-- The JSON form of a category. -/
def Category.encode (category : Category) : Json :=
  .string category.name

/-- Reads a vault summary. -/
def VaultSummary.read : Reader VaultSummary := fun room document => do
  let parts ← Parts.ofDocument? 2 room document
  let id ← parts.required room 0 "id" Reader.string
  let title ← parts.required room 1 "title" Reader.string
  some ⟨id, title⟩

/-- The JSON form of a vault summary. -/
def VaultSummary.encode (vault : VaultSummary) : Json :=
  .object [("id", .string vault.id), ("title", .string vault.title)]

/-- Reads an item summary. -/
def ItemSummary.read : Reader ItemSummary := fun room document => do
  let parts ← Parts.ofDocument? 3 room document
  let id ← parts.required room 0 "id" Reader.string
  let title ← parts.required room 1 "title" Reader.string
  let category ← parts.required room 2 "category" Category.read
  some ⟨id, title, category⟩

/-- The JSON form of an item summary. -/
def ItemSummary.encode (item : ItemSummary) : Json :=
  .object [("id", .string item.id), ("title", .string item.title),
    ("category", item.category.encode)]

/-- Reads a field. -/
def Field.read : Reader Field := fun room document => do
  let parts ← Parts.ofDocument? 5 room document
  let id ← parts.defaulted room 0 "id" Reader.string ""
  let title ← parts.required room 1 "title" Reader.string
  let value ← parts.defaulted room 2 "value" Reader.string ""
  let kind ← parts.required room 3 "field_type" FieldKind.read
  let extra ← parts.defaulted room 4 "extra" Reader.object []
  some ⟨id, title, value, kind, extra⟩

/-- The JSON form of a field. -/
def Field.encode (field : Field) : Json :=
  .object [("id", .string field.id), ("title", .string field.title),
    ("value", .string field.value), ("field_type", field.kind.encode),
    ("extra", .object field.extra)]

/-- Reads an item. -/
def Item.read : Reader Item := fun room document => do
  let parts ← Parts.ofDocument? 6 room document
  let id ← parts.required room 0 "id" Reader.string
  let vaultId ← parts.required room 1 "vault_id" Reader.string
  let title ← parts.required room 2 "title" Reader.string
  let category ← parts.required room 3 "category" Category.read
  let fields ← parts.defaulted room 4 "fields" (Reader.list Field.read) []
  let extra ← parts.defaulted room 5 "extra" Reader.object []
  some ⟨id, vaultId, title, category, fields, extra⟩

/-- The JSON form of an item. -/
def Item.encode (item : Item) : Json :=
  .object [("id", .string item.id), ("vault_id", .string item.vaultId),
    ("title", .string item.title), ("category", item.category.encode),
    ("fields", .array (item.fields.map Field.encode)), ("extra", .object item.extra)]

end SecretRefs

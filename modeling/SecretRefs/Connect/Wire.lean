import SecretRefs.Vault.Codec

/-!
# Items on the wire

The JSON forms that a Connect server uses, and their relation to vaults and
items. Attributes of an item or a field that are not modelled are kept in
`extra`, so that an item which is read, changed and written back still has them.
-/

namespace SecretRefs.Connect

open Json

/-- A vault as the server lists it. -/
structure WireVault where
  id : String
  name : String
deriving Repr, DecidableEq

/-- An item as the server lists it. -/
structure WireItemSummary where
  id : String
  title : String
  category : String
deriving Repr, DecidableEq

/-- A field of an item on the wire. -/
structure WireField where
  id : String
  label : Option String
  value : Option String
  kind : Option String
  extra : Entries

/-- An item on the wire. -/
structure WireItem where
  id : String
  title : String
  category : String
  vaultId : String
  fields : List WireField
  extra : Entries

namespace WireVault

/-- Reads a listed vault. -/
def read : Reader WireVault := fun room document => do
  let parts ← Parts.ofDocument? 2 room document
  let id ← parts.required room 0 "id" Reader.string
  let name ← parts.required room 1 "name" Reader.string
  some ⟨id, name⟩

/-- The vault that is listed. -/
def toVault (vault : WireVault) : VaultSummary :=
  ⟨vault.id, vault.name⟩

end WireVault

namespace WireItemSummary

/-- Reads a listed item. -/
def read : Reader WireItemSummary := fun room document => do
  let parts ← Parts.ofDocument? 3 room document
  let id ← parts.required room 0 "id" Reader.string
  let title ← parts.required room 1 "title" Reader.string
  let category ← parts.defaulted room 2 "category" Reader.string ""
  some ⟨id, title, category⟩

/-- The item that is listed. -/
def toItem (item : WireItemSummary) : ItemSummary :=
  ⟨item.id, item.title, Category.ofName item.category⟩

end WireItemSummary

/-- An entry for a text, left out if the text is empty. -/
def filledEntry (key text : String) : Entries :=
  if text.isEmpty then [] else [(key, .string text)]

/-- An entry for a text, left out if there is none. -/
def presentEntry (key : String) : Option String → Entries
  | some text => [(key, .string text)]
  | none => []

namespace WireField

/-- The parts of a field. -/
def partNames : List String := ["id", "label", "value", "type"]

/-- Reads a field. -/
def read : Reader WireField := fun room document => do
  let parts ← Parts.ofMapping? room document
  let id ← parts.defaulted room 0 "id" Reader.string ""
  let label ← parts.defaulted room 1 "label" Reader.optionalString none
  let value ← parts.defaulted room 2 "value" Reader.optionalString none
  let kind ← parts.defaulted room 3 "type" Reader.optionalString none
  let extra ← parts.others room partNames
  some ⟨id, label, value, kind, extra⟩

/-- The JSON form of a field. -/
def encode (field : WireField) : Json :=
  .object (filledEntry "id" field.id ++ presentEntry "label" field.label ++
    presentEntry "value" field.value ++ presentEntry "type" field.kind ++ field.extra)

/-- The field that is meant. Missing texts are empty, a missing kind is text. -/
def toField (field : WireField) : Field where
  id := field.id
  title := field.label.getD ""
  value := field.value.getD ""
  kind := (field.kind.map FieldKind.ofName).getD .text
  extra := field.extra

/-- The wire form of a field. -/
def ofField (field : Field) : WireField where
  id := field.id
  label := some field.title
  value := some field.value
  kind := some field.kind.name
  extra := field.extra

/-- The diagnostic text of an optional text. -/
def inspectOption : Option String → String
  | some text => "Some(" ++ Text.quoted text ++ ")"
  | none => "None"

/-- The diagnostic text of a field, which leaves its value out. -/
def inspect (field : WireField) : String :=
  "WireField \x7b id: " ++ Text.quoted field.id ++ ", label: " ++ inspectOption field.label ++
    ", field_type: " ++ inspectOption field.kind ++ ", .. \x7d"

end WireField

namespace WireItem

/-- The parts of an item. -/
def partNames : List String := ["id", "title", "category", "vault", "fields"]

/-- Reads the id of the vault that an item is in. -/
def readVaultId : Reader String := fun room document => do
  let parts ← Parts.ofDocument? 1 room document
  parts.required room 0 "id" Reader.string

/-- Reads an item. -/
def read : Reader WireItem := fun room document => do
  let parts ← Parts.ofMapping? room document
  let id ← parts.defaulted room 0 "id" Reader.string ""
  let title ← parts.required room 1 "title" Reader.string
  let category ← parts.defaulted room 2 "category" Reader.string ""
  let vaultId ← parts.required room 3 "vault" readVaultId
  let fields ← parts.defaulted room 4 "fields" (Reader.list WireField.read) []
  let extra ← parts.others room partNames
  some ⟨id, title, category, vaultId, fields, extra⟩

/-- The JSON form of an item. -/
def encode (item : WireItem) : Json :=
  .object (filledEntry "id" item.id ++
    [("title", .string item.title), ("category", .string item.category),
      ("vault", .object [("id", .string item.vaultId)]),
      ("fields", .array (item.fields.map WireField.encode))] ++
    item.extra)

/-- The item that is meant. -/
def toItem (item : WireItem) : Item where
  id := item.id
  vaultId := item.vaultId
  title := item.title
  category := Category.ofName item.category
  fields := item.fields.map WireField.toField
  extra := item.extra

/-- The wire form of an item. -/
def ofItem (item : Item) : WireItem where
  id := item.id
  title := item.title
  category := item.category.name
  vaultId := item.vaultId
  fields := item.fields.map WireField.ofField
  extra := item.extra

/-- The wire form of an item that is to be created. -/
def ofNewItem (item : NewItem) : WireItem where
  id := ""
  title := item.title
  category := item.category.name
  vaultId := item.vaultId
  fields := item.fields.map WireField.ofField
  extra := []

end WireItem

end SecretRefs.Connect

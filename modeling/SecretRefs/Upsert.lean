import SecretRefs.Vault.Lookup

/-!
# Writing secrets

An upsert stores a secret in a field of an item. The item is created if the
vault has none with the title; otherwise the first field with the title gets
the new value, or a concealed field is appended. Titles are compared ignoring
case.

The item is read, changed and written back as a whole. A failing store call is
reported with the step it belongs to.
-/

namespace SecretRefs

/-- A secret and the place it is to be stored in. -/
structure UpsertRequest where
  vault : String
  item : String
  field : String
  value : String
  /-- The category of the item if it has to be created. -/
  category : Category
deriving DecidableEq

/-- Whether an upsert created the item or changed it. -/
inductive UpsertKind where
  | created
  | updated
deriving Repr, DecidableEq

/-- The written form of an upsert kind. -/
def UpsertKind.name : UpsertKind → String
  | .created => "Created"
  | .updated => "Updated"

/-- What an upsert did. -/
structure UpsertOutcome where
  kind : UpsertKind
  vault : String
  item : String
  field : String
deriving Repr, DecidableEq

/-- The sentence that tells what an upsert did. -/
def UpsertOutcome.describe (outcome : UpsertOutcome) : String :=
  outcome.kind.name ++ " \"" ++ outcome.item ++ "\" in " ++ outcome.vault ++ " (field: " ++
    outcome.field ++ ")"

namespace UpsertRequest

/-- The diagnostic text of a request, which hides its value. -/
def inspect (request : UpsertRequest) : String :=
  "UpsertRequest \x7b vault: " ++ Text.quoted request.vault ++ ", item: " ++
    Text.quoted request.item ++ ", field: " ++ Text.quoted request.field ++ ", value: " ++
    Text.quoted Field.mask ++ ", category: " ++ request.category.inspect ++ " \x7d"

/-- The outcome of a request that succeeded. -/
def outcome (request : UpsertRequest) (kind : UpsertKind) : UpsertOutcome :=
  ⟨kind, request.vault, request.item, request.field⟩

end UpsertRequest

/-- Sets the value of the first field with a title. No result if there is none. -/
def Field.overwrite? (title value : String) : List Field → Option (List Field)
  | [] => none
  | field :: rest =>
    if Text.sameTitle field.title title then
      some ({ field with value } :: rest)
    else
      (overwrite? title value rest).map (field :: ·)

/-- The fields after a value is stored under a title. -/
def Field.store (title value : String) (fields : List Field) : List Field :=
  (Field.overwrite? title value fields).getD (fields ++ [Field.concealed title value])

namespace Upsert

/-- The part of the program that logs upserts. -/
def logTarget : String := "opref_resolve::upsert"

/-- The event that tells how an item is changed. -/
def changeEvent (item : Item) (title : String) : Event :=
  match item.fields.find? fun field => Text.sameTitle field.title title with
  | some field =>
    { level := .debug
      target := logTarget
      message := "overwriting existing field"
      fields := [("item", item.title), ("field", field.title)] }
  | none =>
    { level := .debug
      target := logTarget
      message := "appending concealed field"
      fields := [("item", item.title), ("field", title)] }

/-- The event that tells that a secret was stored. -/
def writtenEvent (outcome : UpsertOutcome) : Event where
  level := .info
  target := logTarget
  message := "secret written"
  fields := [("kind", outcome.kind.name), ("vault", outcome.vault), ("item", outcome.item),
    ("field", outcome.field)]

/-- The item that a request creates. -/
def newItem (request : UpsertRequest) (vaultId : String) : NewItem :=
  ⟨vaultId, request.item, request.category, [Field.concealed request.field request.value]⟩

/-- Changes an item that exists. -/
def update (request : UpsertRequest) (vaultId itemId : String) : Session UpsertKind := do
  let item ← Session.callDuring .getItem (.getItem vaultId itemId)
  Session.log (changeEvent item request.field)
  let fields := Field.store request.field request.value item.fields
  Session.callDuring .putItem (.putItem { item with fields })
  pure .updated

/-- Creates an item. -/
def create (request : UpsertRequest) (vaultId : String) : Session UpsertKind := do
  let _ ← Session.callDuring .createItem (.createItem (newItem request vaultId))
  pure .created

end Upsert

/-- Stores a secret. -/
def upsert (request : UpsertRequest) : Session UpsertOutcome := do
  let vaults ← Session.callDuring .listVaults .listVaults
  let vault ← ExceptT.mk (pure (VaultSummary.select request.vault vaults))
  let items ← Session.callDuring .listItems (.listItems vault.id)
  let kind ←
    match ItemSummary.find? request.item items with
    | some item => Upsert.update request vault.id item.id
    | none => Upsert.create request vault.id
  let outcome := request.outcome kind
  Session.log (Upsert.writtenEvent outcome)
  pure outcome

end SecretRefs

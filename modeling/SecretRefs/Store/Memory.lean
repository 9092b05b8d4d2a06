import SecretRefs.Text.Case
import SecretRefs.Store

/-!
# A store in memory

Vaults and their items are kept in lists. Ids come from one counter for all
kinds of things (`vault-1`, `item-2`, `field-3`). Every call is recorded, and
each kind of call can be made to fail.

`Memory.answer` is the store. Resolving a reference takes two steps, `enter` and
`lookup`, since time may pass between them.
-/

namespace SecretRefs.Store

/-- The kinds of store calls. -/
inductive CallKind where
  | resolve
  | listVaults
  | listItems
  | getItem
  | putItem
  | createItem
deriving Repr, DecidableEq

/-- The kind of a call. -/
def Call.kind : Call → CallKind
  | .resolve _ => .resolve
  | .listVaults => .listVaults
  | .listItems _ => .listItems
  | .getItem _ _ => .getItem
  | .putItem _ => .putItem
  | .createItem _ => .createItem

/-- What the record of calls keeps of a call. -/
inductive CallRecord where
  | resolve (reference : String)
  | listVaults
  | listItems (vaultId : String)
  | getItem (vaultId itemId : String)
  | putItem (vaultId itemId : String)
  | createItem (vaultId title : String)
deriving Repr, DecidableEq

/-- The record of a call. -/
def Call.record : Call → CallRecord
  | .resolve reference => .resolve reference.render
  | .listVaults => .listVaults
  | .listItems vaultId => .listItems vaultId
  | .getItem vaultId itemId => .getItem vaultId itemId
  | .putItem item => .putItem item.vaultId item.id
  | .createItem item => .createItem item.vaultId item.title

/-- A vault with its items. -/
structure Shelf where
  vault : VaultSummary
  items : List Item

/-- The state of a store in memory. -/
structure Memory where
  shelves : List Shelf
  /-- The calls so far, in order. -/
  calls : List CallRecord
  /-- The kinds of calls that fail, with the wording; the first entry of a kind counts. -/
  failures : List (CallKind × String)
  /-- The number of ids given out. -/
  issued : Nat
  /-- The greatest number of resolve calls that were answered at one time. -/
  peak : Nat

namespace Memory

/-- The store without vaults. -/
def empty : Memory := ⟨[], [], [], 0, 0⟩

instance : Inhabited Memory := ⟨empty⟩

/-- The id with a number. -/
def idText (kind : String) (number : Nat) : String :=
  kind ++ "-" ++ toString number

/-- Gives an id to every field that has none, in order, and counts on from
`issued`. -/
def numberFields (issued : Nat) : List Field → List Field × Nat
  | [] => ([], issued)
  | field :: rest =>
    if field.id.isEmpty then
      let numbered := numberFields (issued + 1) rest
      ({ field with id := idText "field" (issued + 1) } :: numbered.1, numbered.2)
    else
      let numbered := numberFields issued rest
      (field :: numbered.1, numbered.2)

/-- Changes the first element that satisfies a test. -/
def updateFirst {α : Type} (test : α → Bool) (change : α → α) : List α → List α
  | [] => []
  | first :: rest =>
    if test first then change first :: rest else first :: updateFirst test change rest

/-- The first shelf of a vault with this title, ignoring case. -/
def shelfTitled? (memory : Memory) (title : String) : Option Shelf :=
  memory.shelves.find? fun shelf => Text.sameTitle shelf.vault.title title

/-- The first shelf of a vault with this id. -/
def shelf? (memory : Memory) (vaultId : String) : Option Shelf :=
  memory.shelves.find? fun shelf => shelf.vault.id == vaultId

/-- Changes the items of the vault with this id. -/
def updateItems (memory : Memory) (vaultId : String) (change : List Item → List Item) : Memory :=
  { memory with
    shelves := updateFirst (fun shelf => shelf.vault.id == vaultId)
      (fun shelf => { shelf with items := change shelf.items }) memory.shelves }

/-- Adds a vault unless there is one with the title, and gives its id. -/
def addVault (title : String) (memory : Memory) : String × Memory :=
  match memory.shelfTitled? title with
  | some shelf => (shelf.vault.id, memory)
  | none =>
    let id := idText "vault" (memory.issued + 1)
    (id, { memory with
      shelves := memory.shelves ++ [⟨⟨id, title⟩, []⟩]
      issued := memory.issued + 1 })

/-- Adds an item with concealed fields to a vault, which is added if need be, and
gives the id of the item. -/
def addItem (vault title : String) (fields : List (String × String)) (memory : Memory) :
    String × Memory :=
  let (vaultId, memory) := memory.addVault vault
  let id := idText "item" (memory.issued + 1)
  let (fields, issued) :=
    numberFields (memory.issued + 1) (fields.map fun (title, value) => Field.concealed title value)
  let item : Item := ⟨id, vaultId, title, .apiCredential, fields, []⟩
  (id, { memory.updateItems vaultId (· ++ [item]) with issued })

/-- The item with a title in the vault with a title. -/
def itemTitled? (vault title : String) (memory : Memory) : Option Item := do
  let shelf ← memory.shelfTitled? vault
  shelf.items.find? fun item => Text.sameTitle item.title title

/-- Makes all calls of a kind fail. -/
def failOn (kind : CallKind) (detail : String) (memory : Memory) : Memory :=
  { memory with failures := (kind, detail) :: memory.failures }

/-- Records a call, and fails if calls of its kind do. -/
def enter (call : Call) (memory : Memory) : Except Failure Unit × Memory :=
  let outcome :=
    match memory.failures.lookup call.kind with
    | some detail => .error (.store detail none)
    | none => .ok ()
  (outcome, { memory with calls := memory.calls ++ [call.record] })

/-- The failure of a reference that does not lead to a secret. -/
def unresolved (reference : Reference) (detail : String) : Failure :=
  .resolution reference.render detail

/-- The secret that a reference points at. A field is found by title or by id. -/
def lookup (reference : Reference) (memory : Memory) : Except Failure String :=
  match memory.shelfTitled? reference.vault with
  | none => .error (unresolved reference "vault not found")
  | some shelf =>
    match shelf.items.find? fun item => Text.sameTitle item.title reference.item with
    | none => .error (unresolved reference "item not found")
    | some item =>
      let named := item.fields.find? fun field =>
        Text.sameTitle field.title reference.field || field.id == reference.field
      match named with
      | none => .error (unresolved reference "field not found")
      | some field =>
        if field.value.isEmpty then
          .error (unresolved reference "field has no value")
        else
          .ok field.value

/-- The failure of a call that names no vault. -/
def noVault (vaultId : String) : Failure :=
  .store ("vault " ++ vaultId ++ " not found") none

/-- The failure of a call that names no item. -/
def noItem (itemId : String) : Failure :=
  .store ("item " ++ itemId ++ " not found") none

/-- What a call gives and changes once it is recorded and not made to fail. -/
def perform (memory : Memory) : (call : Call) → call.Answer × Memory
  | .resolve reference => (memory.lookup reference, { memory with peak := max memory.peak 1 })
  | .listVaults => (.ok (memory.shelves.map Shelf.vault), memory)
  | .listItems vaultId =>
    match memory.shelf? vaultId with
    | some shelf => (.ok (shelf.items.map Item.summary), memory)
    | none => (.error (noVault vaultId), memory)
  | .getItem vaultId itemId =>
    match (memory.shelf? vaultId).bind fun shelf =>
      shelf.items.find? fun item => item.id == itemId with
    | some item => (.ok item, memory)
    | none => (.error (noItem itemId), memory)
  | .putItem item =>
    let (fields, issued) := numberFields memory.issued item.fields
    let memory := { memory with issued }
    match (memory.shelf? item.vaultId).bind fun shelf =>
      shelf.items.find? fun stored => stored.id == item.id with
    | some _ =>
      (.ok (), memory.updateItems item.vaultId
        (updateFirst (fun stored => stored.id == item.id) fun _ => { item with fields }))
    | none => (.error (noItem item.id), memory)
  | .createItem item =>
    match memory.shelf? item.vaultId with
    | none => (.error (noVault item.vaultId), memory)
    | some _ =>
      let id := idText "item" (memory.issued + 1)
      let (fields, issued) := numberFields (memory.issued + 1) item.fields
      let created : Item := ⟨id, item.vaultId, item.title, item.category, fields, []⟩
      (.ok created, { memory.updateItems item.vaultId (· ++ [created]) with issued })

/-- The answer of the store to a call, and the store after it. -/
def answer (call : Call) (memory : Memory) : call.Answer × Memory :=
  match memory.enter call with
  | (.error failure, memory) => (.error failure, memory)
  | (.ok (), memory) => memory.perform call

end Memory

end SecretRefs.Store

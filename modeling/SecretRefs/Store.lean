import SecretRefs.Vault
import SecretRefs.Reference
import SecretRefs.Failure
import SecretRefs.Event
import SecretRefs.Dialogue

/-!
# Secret stores

A store answers six calls. A `Session` is a dialogue with a store whose result
may be a failure; all commands of the library are sessions, so they run on any
store.
-/

namespace SecretRefs

/-- A call to a secret store. -/
inductive Store.Call where
  /-- Asks for the secret that a reference points at. -/
  | resolve (reference : Reference)
  /-- Asks for the visible vaults. -/
  | listVaults
  /-- Asks for the items of a vault. -/
  | listItems (vaultId : String)
  /-- Asks for an item with its fields. -/
  | getItem (vaultId itemId : String)
  /-- Replaces an item. -/
  | putItem (item : Item)
  /-- Creates an item. -/
  | createItem (item : NewItem)

/-- What a store gives when a call succeeds. -/
abbrev Store.Call.Result : Store.Call → Type
  | .resolve _ => String
  | .listVaults => List VaultSummary
  | .listItems _ => List ItemSummary
  | .getItem _ _ => Item
  | .putItem _ => Unit
  | .createItem _ => Item

/-- The answer of a store to a call. -/
abbrev Store.Call.Answer (call : Store.Call) : Type :=
  Except Failure call.Result

/-- A dialogue with a store. -/
abbrev Session (α : Type) : Type :=
  ExceptT Failure (Dialogue Store.Call Store.Call.Answer Event) α

namespace Session

/-- Makes a call and fails if the store does. -/
def call (call : Store.Call) : Session call.Result :=
  ExceptT.mk (Dialogue.query call)

/-- Makes a call and gives its answer, failure or not. -/
def attempt (call : Store.Call) : Session call.Answer :=
  ExceptT.lift (Dialogue.query call)

/-- Writes an event to the log. -/
def log (event : Event) : Session Unit :=
  ExceptT.lift (Dialogue.record event)

/-- Makes a call; a failure is put down to a write step. -/
def callDuring (step : WriteStep) (call : Store.Call) : Session call.Result :=
  ExceptT.mk ((Dialogue.query call).bind fun answer =>
    .done (answer.mapError fun failure => .write step failure))

end Session

end SecretRefs

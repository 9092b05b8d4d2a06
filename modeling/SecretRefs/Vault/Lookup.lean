import SecretRefs.Text.Case
import SecretRefs.Store

/-!
# Finding vaults and items

Vaults and items are found by title, ignoring case. Of several matches the
first one counts.
-/

namespace SecretRefs

/-- The first vault with a title, if there is one. -/
def VaultSummary.find? (title : String) (vaults : List VaultSummary) : Option VaultSummary :=
  vaults.find? fun vault => Text.sameTitle vault.title title

/-- The first vault with a title. Without one the failure names all titles. -/
def VaultSummary.select (title : String) (vaults : List VaultSummary) :
    Except Failure VaultSummary :=
  match VaultSummary.find? title vaults with
  | some vault => .ok vault
  | none => .error (.vaultNotFound title (vaults.map VaultSummary.title))

/-- The first item with a title, if there is one. -/
def ItemSummary.find? (title : String) (items : List ItemSummary) : Option ItemSummary :=
  items.find? fun item => Text.sameTitle item.title title

namespace Session

/-- Looks up a vault by title. -/
def findVault (title : String) : Session VaultSummary := do
  let vaults ← Session.call .listVaults
  liftExcept (VaultSummary.select title vaults)
where
  liftExcept {α : Type} (outcome : Except Failure α) : Session α := ExceptT.mk (pure outcome)

/-- Looks up an item of a vault by title. -/
def findItem (vaultId title : String) : Session (Option ItemSummary) := do
  let items ← Session.call (.listItems vaultId)
  pure (ItemSummary.find? title items)

end Session

end SecretRefs

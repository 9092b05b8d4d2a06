import SecretRefs.Command.Marks
import SecretRefs.Files
import SecretRefs.Json.Parser
import SecretRefs.Tree.Report
import SecretRefs.Tree.Resolution
import SecretRefs.Upsert

/-!
# What the commands print

Each command is a session with a store that ends in the text to print. Secrets
appear redacted only.

What is wrong with a text that is not JSON is said by `complaint`, in words that are
left open.
-/

namespace SecretRefs.Command

/-- The line of an item in a list. -/
def itemLine (item : ItemSummary) : String :=
  item.title ++ " (" ++ item.category.name ++ ")\n"

/-- The lines of a vault with its items. -/
def vaultLines (vault : VaultSummary) (items : List ItemSummary) : String :=
  "  - " ++ vault.title ++ " (" ++ vault.id ++ "): " ++ toString items.length ++ " item(s)\n" ++
    String.join (items.map fun item => "      " ++ itemLine item)

/-- Lists the items of each vault. -/
def listContents : List VaultSummary → Session String
  | [] => pure ""
  | vault :: rest => do
    let items ← Session.call (.listItems vault.id)
    let others ← listContents rest
    pure (vaultLines vault items ++ others)

/-- Shows all vaults and their items, as a proof that the store can be reached. -/
def showConnection (colour : Bool) : Session String := do
  let vaults ← Session.call .listVaults
  let contents ← listContents vaults
  pure (successMark colour ++ " connection OK: " ++ toString vaults.length ++ " vault(s)\n" ++
    contents)

/-- Shows the items of a vault. -/
def showItems (vaultTitle : String) : Session String := do
  let vault ← Session.findVault vaultTitle
  let items ← Session.call (.listItems vault.id)
  if items.isEmpty then
    pure "No items found.\n"
  else
    pure (String.join (items.map itemLine))

/-- Shows one secret in its redacted form. -/
def showSecret (vault item field : String) : Session String :=
  match Reference.ofParts? vault item field with
  | none => throw (.configuration "vault, item and field must not be empty")
  | some reference => do
    let secret ← Session.call (.resolve reference)
    pure (vault ++ "/" ++ item ++ "/" ++ field ++ ": " ++ Redaction.redact secret ++ "\n")

/-- Stores a secret and tells what was done. -/
def storeSecret (request : UpsertRequest) : Session String := do
  let outcome ← upsert request
  pure (outcome.describe ++ "\n")

/-- Reads the tree in a JSON file. -/
def readTree (complaint : String → String) (files : Files) (path : String) :
    Except Failure Json :=
  match files.readText path with
  | .error fault => .error (.read path fault)
  | .ok text =>
    match Json.parse? text with
    | some tree => .ok tree
    | none => .error (.configuration (path ++ " is not valid JSON: " ++ complaint text))

/-- The line of a resolved path. -/
def resolvedLine (entry : Tree.ResolvedPath) : String :=
  "  " ++ entry.path ++ ": " ++ Redaction.redact entry.value ++ "\n"

/-- The text that lists resolved paths. -/
def resolvedText (report : List Tree.ResolvedPath) : String :=
  if report.isEmpty then
    "No op:// references found.\n"
  else
    "Resolved " ++ toString report.length ++ " secret reference(s):\n" ++
      String.join (report.map resolvedLine)

/-- The text on a tree and what it was resolved to. -/
def describeResolution (given resolved : Json) : Except Failure String :=
  (Tree.report given resolved).map resolvedText

/-- Resolves the references in a JSON file without writing anything back. -/
def showResolution (complaint : String → String) (store : String) (files : Files)
    (path : String) : Session String := do
  let given ← ExceptT.mk (pure (readTree complaint files path))
  let resolved ← Tree.resolve store given
  ExceptT.mk (pure (describeResolution given resolved))

end SecretRefs.Command

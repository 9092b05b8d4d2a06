import SecretRefs.Connect.Exchange
import SecretRefs.Connect.Wire
import SecretRefs.Vault.Lookup

/-!
# The Connect client

A client answers the six store calls by exchanges with a Connect server. A
reference is resolved in three steps: the vaults are listed, then the items of
the vault, then the item is fetched and the field is selected.

A field is selected by label or id. Only if no field has the name, a name with a
slash is taken as a section and a field in it.
-/

namespace SecretRefs.Connect

/-- A client of the server at a base URL. -/
structure Client where
  baseUrl : String
  token : String
  /-- After how many seconds the client takes a request for unanswered. -/
  timeout : Nat
deriving Repr, DecidableEq

/-- The text without the slashes at its end. -/
def trimSlashes (text : String) : String :=
  String.ofList (text.toList.reverse.dropWhile (· == '/')).reverse

/-- The client for a server. -/
def Client.ofUrl (url token : String) (timeout : Nat) : Client :=
  ⟨trimSlashes url, token, timeout⟩

/-- What a client calls itself. -/
def Client.userAgent : String := "opref/0.1.0"

/-- The characters before and after the last slash. -/
def cutLast? (text : String) : Option (String × String) :=
  let reversed := text.toList.reverse
  match reversed.dropWhile (· != '/') with
  | [] => none
  | _ :: before =>
    some (String.ofList before.reverse,
      String.ofList (reversed.takeWhile (· != '/')).reverse)

/-- Whether a field has a label or an id, ignoring case. -/
def isNamed (name : String) (field : Field) : Bool :=
  Text.sameTitle field.title name || Text.sameTitle field.id name

/-- The id of the section that a field is in. -/
def sectionId? (field : Field) : Option String := do
  let place ← Json.find? "section" field.extra
  let id ← place.get? "id"
  id.text?

/-- The labels of the sections of an item with an id. -/
def sectionLabels (item : Item) (id : String) : List String :=
  let sections := ((Json.find? "sections" item.extra).bind Json.elements?).getD []
  (sections.filter fun entry => (entry.get? "id").bind Json.text? == some id).filterMap
    fun entry => (entry.get? "label").bind Json.text?

/-- Whether a field is in the section with an id or a label. -/
def isInSection (item : Item) (name : String) (field : Field) : Bool :=
  match sectionId? field with
  | none => false
  | some id =>
    Text.sameTitle id name || (sectionLabels item id).any fun label => Text.sameTitle label name

/-- The field of an item that a name selects. -/
def selectField? (item : Item) (name : String) : Option Field :=
  match item.fields.find? (isNamed name) with
  | some field => some field
  | none =>
    match cutLast? name with
    | none => none
    | some (place, name) =>
      item.fields.find? fun field => isNamed name field && isInSection item place field

namespace Client

/-- A request to the server of a client. -/
def request (client : Client) (method : Method) (path : String) (body : Option Json) : Request :=
  ⟨method, client.baseUrl ++ "/v1/" ++ path, client.token, body⟩

/-- The path of the vaults. -/
def vaultsPath : String := "vaults"

/-- The path of the items of a vault. -/
def itemsPath (vaultId : String) : String := "vaults/" ++ vaultId ++ "/items"

/-- The path of an item. -/
def itemPath (vaultId itemId : String) : String := itemsPath vaultId ++ "/" ++ itemId

/-- The words for a vault in fault texts. -/
def vaultWords (vaultId : String) : String := "vault " ++ vaultId

/-- The words for an item in fault texts. -/
def itemWords (vaultId itemId : String) : String := "item " ++ itemId ++ " in vault " ++ vaultId

/-- Lists the vaults. -/
def listVaults (client : Client) : Exchange (List VaultSummary) := do
  let vaults ← Exchange.fetch (client.request .get vaultsPath none) "vaults"
    (Json.Reader.list WireVault.read)
  pure (vaults.map WireVault.toVault)

/-- Lists the items of a vault. -/
def listItems (client : Client) (vaultId : String) : Exchange (List ItemSummary) := do
  let items ← Exchange.fetch (client.request .get (itemsPath vaultId) none) (vaultWords vaultId)
    (Json.Reader.list WireItemSummary.read)
  pure (items.map WireItemSummary.toItem)

/-- Fetches an item. -/
def getItem (client : Client) (vaultId itemId : String) : Exchange Item := do
  let item ← Exchange.fetch (client.request .get (itemPath vaultId itemId) none)
    (itemWords vaultId itemId) WireItem.read
  pure item.toItem

/-- Replaces an item. -/
def putItem (client : Client) (item : Item) : Exchange Unit := do
  let body := (WireItem.ofItem item).encode
  let _ ← Exchange.send (client.request .put (itemPath item.vaultId item.id) (some body))
    (itemWords item.vaultId item.id)
  pure ()

/-- Creates an item. -/
def createItem (client : Client) (item : NewItem) : Exchange Item := do
  let body := (WireItem.ofNewItem item).encode
  let created ← Exchange.fetch (client.request .post (itemsPath item.vaultId) (some body))
    (vaultWords item.vaultId) WireItem.read
  pure created.toItem

/-- A dialogue with a server whose result may be a failure. -/
abbrev Attempt (α : Type) : Type :=
  ExceptT Failure (Dialogue Request (fun _ => Option Response) Event) α

/-- An exchange whose fault is a store failure. -/
def asStore {α : Type} (exchange : Exchange α) : Attempt α :=
  ExceptT.mk (exchange.run.bind fun outcome => .done (outcome.mapError Failure.ofExchange))

/-- An exchange on the way to the secret of a reference. -/
def towards {α : Type} (reference : Reference) (exchange : Exchange α) : Attempt α :=
  ExceptT.mk (exchange.run.bind fun outcome => .done (outcome.mapError fun fault =>
    .resolution reference.render (Failure.ofExchange fault).message))

/-- The value that was found, or the failure to resolve a reference. -/
def expect {α : Type} (reference : Reference) (found : Option α) (detail : String) : Attempt α :=
  match found with
  | some value => pure value
  | none => throw (.resolution reference.render detail)

/-- Resolves a reference. -/
def resolve (client : Client) (reference : Reference) : Attempt String := do
  let vaults ← towards reference client.listVaults
  let vault ← expect reference (VaultSummary.find? reference.vault vaults)
    ("vault \"" ++ reference.vault ++ "\" not found")
  let items ← towards reference (client.listItems vault.id)
  let found ← expect reference (ItemSummary.find? reference.item items)
    ("item \"" ++ reference.item ++ "\" not found in vault \"" ++ vault.title ++ "\"")
  let item ← towards reference (client.getItem vault.id found.id)
  let field ← expect reference (selectField? item reference.field)
    ("field \"" ++ reference.field ++ "\" not found")
  if field.value.isEmpty then
    throw (.resolution reference.render ("field \"" ++ field.title ++ "\" has no value"))
  else
    pure field.value

/-- Answers a store call. -/
def perform (client : Client) :
    (call : Store.Call) → Dialogue Request (fun _ => Option Response) Event call.Answer
  | .resolve reference => (client.resolve reference).run
  | .listVaults => (asStore client.listVaults).run
  | .listItems vaultId => (asStore (client.listItems vaultId)).run
  | .getItem vaultId itemId => (asStore (client.getItem vaultId itemId)).run
  | .putItem item => (asStore (client.putItem item)).run
  | .createItem item => (asStore (client.createItem item)).run

end Client

end SecretRefs.Connect

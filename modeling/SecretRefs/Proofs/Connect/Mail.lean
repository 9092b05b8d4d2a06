import Mathlib.Data.List.Basic
import SecretRefs.Json.Printer
import SecretRefs.Proofs.Connect.Server
import SecretRefs.Proofs.Equality

/-!
# A server that keeps what it is sent

`Mail.server` has one vault with an item, and room for another one. It serves an item as the text
of the body that it was sent last, and takes a body only if it will be understood: if its own texts
can be read back. Then it `keeps` what it is sent.
-/

namespace SecretRefs.Connect.Mail

open Json

/-- The texts that the server serves: the list of items, the item, and the one that was created. -/
structure State where
  listing : String
  item : String
  made : Option String
deriving DecidableEq

variable {α : Type} {vaultId itemId : String} {body : Json} {sent : WireItem} {state after : State}

/-- A client of the server. -/
def client : Client := ⟨"http://c", "t", 30⟩

/-- The address of the vaults. -/
def vaultsUrl : String := "http://c/v1/vaults"

/-- The address of the items. -/
def itemsUrl : String := "http://c/v1/vaults/v/items"

/-- The address of the item. -/
def itemUrl : String := "http://c/v1/vaults/v/items/i"

/-- The address of the item that was created. -/
def madeUrl : String := "http://c/v1/vaults/v/items/n"

/-- The text of the vaults. -/
def vaultsText : String := "[\x7b\"id\":\"v\",\"name\":\"Work\"\x7d]"

/-- The text at an address. -/
def textAt? (url : String) (state : State) : Option String :=
  if url = vaultsUrl then some vaultsText
  else if url = itemsUrl then some state.listing
  else if url = itemUrl then some state.item
  else if url = madeUrl then state.made
  else none

/-! ## Bodies that are taken -/

/-- The items that a text lists. -/
def listed? (text : String) : Option (List WireItemSummary) :=
  (Reader.list WireItemSummary.read).ofText? text

/-- A text that lists items, if there is one. -/
def listText? (items : List WireItemSummary) : Option String :=
  let text := (Json.array (items.map fun listed => .object [("id", .string listed.id),
    ("title", .string listed.title), ("category", .string listed.category)])).render
  if listed? text = some items then some text else none

/-- The state after the item was replaced. -/
def replace? (body : Json) (state : State) : Option State := do
  let sent ← WireItem.read Document.depthLimit (Document.ofValue body)
  let items ← listed? state.listing
  let listing ← listText? (items.map (Server.relisted "i" sent))
  let served ← WireItem.read.ofText? body.render
  if served.fields.map (fun field => (field.id, field.content)) =
      sent.fields.map (fun field => (field.id, field.content)) then
    some { state with listing, item := body.render }
  else
    none

/-- The state after an item was created. It gets an id. -/
def create? (body : Json) (state : State) : Option State := do
  let sent ← WireItem.read Document.depthLimit (Document.ofValue body)
  let items ← listed? state.listing
  let listing ← listText? (items ++ [⟨"n", sent.title, sent.category⟩])
  let text := { sent with id := "n" }.encode.render
  let made ← WireItem.read.ofText? text
  if made.id = "n" ∧ made.fields.map WireField.content = sent.fields.map WireField.content then
    some { state with listing, made := some text }
  else
    none

/-- The state after a request that changes something. -/
def change? (request : Request) (state : State) : Option State :=
  match request.method, request.body with
  | .put, some body => if request.url = itemUrl then replace? body state else none
  | .post, some body => if request.url = itemsUrl then create? body state else none
  | _, _ => none

/-- The server. It answers a change by the item that was created, if there is one. -/
def server : Server State := fun request state =>
  match request.method with
  | .get => ((textAt? request.url state).map fun text => ⟨200, text.toUTF8⟩, state)
  | _ =>
    match change? request state with
    | some after => (some ⟨200, (after.made.getD "").toUTF8⟩, after)
    | none => (none, state)

theorem listed?_of_listText? {items : List WireItemSummary} {text : String}
    (isText : listText? items = some text) : listed? text = some items := by
  obtain ⟨readsBack, isText⟩ := Option.ite_none_right_eq_some.mp isText
  rwa [← Option.some.inj isText]

/-- What a replacement leads to. -/
theorem of_replace? (isRead : WireItem.read Document.depthLimit (Document.ofValue body) = some sent)
    (changed : replace? body state = some after) :
    (∃ served, WireItem.read.ofText? after.item = some served ∧
      served.fields.map (fun field => (field.id, field.content)) =
        sent.fields.map fun field => (field.id, field.content)) ∧
    ∃ items, listed? state.listing = some items ∧
      listed? after.listing = some (items.map (Server.relisted "i" sent)) := by
  obtain ⟨_, isSent, changed⟩ := Option.bind_eq_some_iff.mp changed
  obtain rfl := Option.some.inj (isRead.symm.trans isSent)
  obtain ⟨items, isItems, changed⟩ := Option.bind_eq_some_iff.mp changed
  obtain ⟨listing, isListing, changed⟩ := Option.bind_eq_some_iff.mp changed
  obtain ⟨served, isServed, changed⟩ := Option.bind_eq_some_iff.mp changed
  obtain ⟨same, changed⟩ := Option.ite_none_right_eq_some.mp changed
  cases changed
  exact ⟨⟨served, isServed, same⟩, items, isItems, listed?_of_listText? isListing⟩

/-- What a creation leads to. -/
theorem of_create? (isRead : WireItem.read Document.depthLimit (Document.ofValue body) = some sent)
    (changed : create? body state = some after) :
    (∃ text made, after.made = some text ∧ WireItem.read.ofText? text = some made ∧
      made.id = "n" ∧ made.fields.map WireField.content = sent.fields.map WireField.content) ∧
    ∃ items, listed? state.listing = some items ∧
      listed? after.listing = some (items ++ [⟨"n", sent.title, sent.category⟩]) := by
  obtain ⟨_, isSent, changed⟩ := Option.bind_eq_some_iff.mp changed
  obtain rfl := Option.some.inj (isRead.symm.trans isSent)
  obtain ⟨items, isItems, changed⟩ := Option.bind_eq_some_iff.mp changed
  obtain ⟨listing, isListing, changed⟩ := Option.bind_eq_some_iff.mp changed
  obtain ⟨made, isMade, changed⟩ := Option.bind_eq_some_iff.mp changed
  obtain ⟨⟨isNew, same⟩, changed⟩ := Option.ite_none_right_eq_some.mp changed
  cases changed
  exact ⟨⟨_, made, rfl, isMade, isNew, same⟩, items, isItems, listed?_of_listText? isListing⟩

/-! ## What is served -/

@[simp] theorem textAt?_vaultsUrl : textAt? vaultsUrl state = some vaultsText :=
  if_pos rfl

@[simp] theorem textAt?_itemsUrl : textAt? itemsUrl state = some state.listing :=
  (if_neg (by decide)).trans (if_pos rfl)

@[simp] theorem textAt?_itemUrl : textAt? itemUrl state = some state.item :=
  (if_neg (by decide)).trans ((if_neg (by decide)).trans (if_pos rfl))

@[simp] theorem textAt?_madeUrl : textAt? madeUrl state = state.made :=
  (if_neg (by decide)).trans <| (if_neg (by decide)).trans <|
    (if_neg (by decide)).trans (if_pos rfl)

theorem document?_eq (path : String) (state : State) :
    server.document? client path state =
      (textAt? ("http://c/v1/" ++ path) state).bind Document.parse? := by
  have url : "http://c" ++ "/v1/" ++ path = "http://c/v1/" ++ path := rfl
  simp only [Server.document?, server, Client.request, client, url]
  cases textAt? ("http://c/v1/" ++ path) state with
  | none => rfl
  | some text =>
    rw [Option.map_some, Option.bind_some, Option.bind_some, Response.document?_text]

theorem read?_eq (reader : Reader α) (path : String) (state : State) :
    server.read? client reader path state =
      (textAt? ("http://c/v1/" ++ path) state).bind reader.ofText? := by
  rw [Server.read?, document?_eq, Option.bind_assoc]
  rfl

theorem vaults?_eq (state : State) :
    server.vaults? client state = (Reader.list WireVault.read).ofText? vaultsText := by
  have url : "http://c/v1/" ++ Client.vaultsPath = vaultsUrl := by decide
  rw [Server.vaults?, read?_eq, url, textAt?_vaultsUrl, Option.bind_some]

theorem items?_eq (state : State) : server.items? client "v" state = listed? state.listing := by
  have url : "http://c/v1/" ++ Client.itemsPath "v" = itemsUrl := by decide
  rw [Server.items?, read?_eq, url, textAt?_itemsUrl, Option.bind_some, listed?]

theorem item?_eq (state : State) :
    server.item? client "v" "i" state = WireItem.read.ofText? state.item := by
  have url : "http://c/v1/" ++ Client.itemPath "v" "i" = itemUrl := by decide
  rw [Server.item?, read?_eq, url, textAt?_itemUrl, Option.bind_some]

theorem made?_eq (state : State) :
    server.item? client "v" "n" state = state.made.bind WireItem.read.ofText? := by
  have url : "http://c/v1/" ++ Client.itemPath "v" "n" = madeUrl := by decide
  rw [Server.item?, read?_eq, url, textAt?_madeUrl]

/-! ## What is kept -/

/-- A request that is accepted and does not just read leads to a change. -/
theorem of_accepts {request : Request} (changes : request.method ≠ .get)
    (accepted : server.Accepts request state) :
    change? request state = some (server request state).2 := by
  obtain ⟨response, isResponse, _⟩ := accepted
  have replies : server request state = match change? request state with
      | some after => (some ⟨200, (after.made.getD "").toUTF8⟩, after)
      | none => (none, state) := by
    unfold server
    split
    · rename_i reads
      exact absurd reads changes
    · rfl
  rw [replies] at isResponse ⊢
  cases isChange : change? request state with
  | none =>
    rw [isChange] at isResponse
    cases isResponse
  | some after => rfl

/-- Items have addresses of their own. -/
theorem eq_of_itemPath (same : "http://c/v1/" ++ Client.itemPath vaultId itemId = itemUrl) :
    vaultId = "v" ∧ itemId = "i" := by
  have whole : ("http://c/v1/" ++ Client.itemPath vaultId itemId).toList =
      "http://c/v1/vaults/".toList ++ (vaultId.toList ++ ("/items/".toList ++ itemId.toList)) := by
    simp [Client.itemPath, Client.itemsPath]
  have cut : vaultId.toList ++ ("/items/".toList ++ itemId.toList) = "v/items/i".toList :=
    List.append_cancel_left (whole.symm.trans (congrArg String.toList same))
  have sizes := congrArg List.length cut
  rw [← String.toList_inj, ← String.toList_inj]
  generalize vaultId.toList = vault at cut sizes ⊢
  generalize itemId.toList = item at cut sizes ⊢
  rcases vault with _ | ⟨first, _ | ⟨second, rest⟩⟩
  · cases cut
  · cases cut
    exact ⟨rfl, rfl⟩
  · obtain rfl : rest = [] := by
      have seven : "/items/".toList.length = 7 := rfl
      have nine : "v/items/i".toList.length = 9 := rfl
      rw [List.length_append, List.length_append, seven, nine, List.length_cons,
        List.length_cons] at sizes
      exact List.eq_nil_of_length_eq_zero (by omega)
    cases cut

theorem eq_of_itemsPath (same : "http://c/v1/" ++ Client.itemsPath vaultId = itemsUrl) :
    vaultId = "v" := by
  have cut : "http://c/v1/" ++ ("vaults/" ++ vaultId ++ "/items") =
      "http://c/v1/" ++ ("vaults/" ++ "v" ++ "/items") := same
  rwa [String.append_right_inj, String.append_left_inj, String.append_right_inj] at cut

/-- The server keeps the items that it is sent. -/
theorem keeps : server.Keeps client where
  reading _ _ := rfl
  replaced state vaultId itemId body sent := by
    intro request accepted isRead
    have changed := of_accepts Method.noConfusion accepted
    generalize (server request state).2 = after at changed ⊢
    have isPut : change? request state =
        if request.url = itemUrl then replace? body state else none := rfl
    rw [isPut, Option.ite_none_right_eq_some] at changed
    obtain ⟨rfl, rfl⟩ := eq_of_itemPath changed.1
    obtain ⟨served, items, isItems, relisted⟩ := of_replace? isRead changed.2
    rw [item?_eq, vaults?_eq, vaults?_eq, items?_eq, items?_eq]
    refine ⟨served, rfl, fun others isOthers => ?_⟩
    rw [isItems] at isOthers
    rw [relisted, Option.some.inj isOthers]
  created state vaultId body sent := by
    intro request accepted isRead
    have changed := of_accepts Method.noConfusion accepted
    generalize (server request state).2 = after at changed ⊢
    have isPost : change? request state =
        if request.url = itemsUrl then create? body state else none := rfl
    rw [isPost, Option.ite_none_right_eq_some] at changed
    obtain rfl := eq_of_itemsPath changed.1
    obtain ⟨⟨text, made, isText, isMade, isNew, same⟩, items, isItems, listed⟩ :=
      of_create? isRead changed.2
    rw [vaults?_eq, vaults?_eq, items?_eq, items?_eq]
    refine ⟨rfl, fun others isOthers => ?_⟩
    rw [isItems] at isOthers
    obtain rfl := Option.some.inj isOthers
    refine ⟨items, [], made, (List.append_nil items).symm, ?_, ?_, same⟩
    · rw [listed, isNew]
    · rw [isNew, made?_eq, isText, Option.bind_some, isMade]

/-! ## The start -/

/-- The item, with a value in its field. -/
def itemBody (value : String) : Json :=
  .object [("id", .string "i"), ("title", .string "Mail"), ("category", .string "LOGIN"),
    ("vault", .object [("id", .string "v")]),
    ("fields", .array [.object [("id", .string "f"), ("label", .string "token"),
      ("value", .string value), ("type", .string "CONCEALED")]])]

/-- In the beginning there is an item. -/
def start : State where
  listing := "[\x7b\"id\":\"i\",\"title\":\"Mail\",\"category\":\"LOGIN\"\x7d]"
  item := "\x7b\"id\":\"i\",\"title\":\"Mail\",\"category\":\"LOGIN\",
      \"vault\":\x7b\"id\":\"v\"\x7d,\"fields\":[\x7b\"id\":\"f\",
      \"label\":\"token\",\"value\":\"old\",\"type\":\"CONCEALED\"\x7d]\x7d"
  made := none

/-- The text of the item says the item. -/
theorem parse?_item : Document.parse? start.item = some (Document.ofValue (itemBody "old")) := by
  decide +kernel

/-- The item is listed with its id, its vault and its title. -/
theorem servesListed : server.ServesListed client start := by
  intro vaultId items listed item isItems member isItem
  have isListing : vaultId = "v" ∧ items = [⟨"i", "Mail", "LOGIN"⟩] := by
    rw [Server.items?, read?_eq] at isItems
    obtain ⟨text, isText, read⟩ := Option.bind_eq_some_iff.mp isItems
    unfold textAt? at isText
    split at isText
    · cases isText
      have refused : (listed? vaultsText).isNone = true := by decide +kernel
      rw [listed?, read] at refused
      cases refused
    · split at isText
      · rename_i atItems
        cases isText
        have said : listed? start.listing = some [⟨"i", "Mail", "LOGIN"⟩] := by decide +kernel
        exact ⟨eq_of_itemsPath atItems, Option.some.inj (read.symm.trans said)⟩
      · split at isText
        · cases isText
          have refused : (listed? start.item).isNone = true := by decide +kernel
          rw [listed?, read] at refused
          cases refused
        · split at isText
          · cases isText
          · cases isText
  obtain ⟨rfl, rfl⟩ := isListing
  cases List.mem_singleton.mp member
  rw [item?_eq, Reader.ofText?, parse?_item] at isItem
  cases isItem
  exact ⟨rfl, rfl, rfl⟩

end SecretRefs.Connect.Mail

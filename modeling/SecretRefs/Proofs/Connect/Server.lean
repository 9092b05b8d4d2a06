import SecretRefs.Proofs.Json.Bytes
import SecretRefs.Proofs.Session
import SecretRefs.Connect.Client

/-!
# Clients on a server

A `Server` is any state machine that responds to requests. `Server.Keeps` is what a client
relies on: reading changes nothing, and an item that is replaced or created is read with the labels
and values that were sent. `Server.ServesListed` says that listed items are served with their ids,
vaults and titles.

`Client.backend` is the store that a client makes of a server, and the lemmas on it say which
documents are behind each answer.
-/

namespace SecretRefs.Connect

open Json

/-- A server: its response to a request, and what the request changes. -/
abbrev Server (State : Type) : Type :=
  Request → StateM State (Option Response)

namespace Response

/-- Whether the status of a response is a success. -/
def isSuccess (response : Response) : Bool :=
  200 ≤ response.status && response.status ≤ 299

/-- The document that a response says, if it is a success. -/
def document? (response : Response) : Option Document :=
  if response.isSuccess then Document.ofBytes? response.body else none

/-- A success is no fault, and all else is one. -/
theorem fault?_eq_none_iff (response : Response) (what : String) :
    fault? response.status what = none ↔ response.isSuccess = true := by
  unfold fault? isSuccess
  split
  · rename_i success
    simp [success]
  · rename_i failure
    rw [iff_false_right failure]
    split
    · simp
    · split
      · simp
      · split
        · simp
        · simp

/-- A success whose body is a text says what the text does. -/
theorem document?_text (text : String) :
    document? ⟨200, text.toUTF8⟩ = Document.parse? text := by
  have success : isSuccess ⟨200, text.toUTF8⟩ = true := rfl
  rw [document?, success, if_pos rfl, Document.ofBytes?_toUTF8]

end Response

/-- The label and the value of a field on the wire. -/
def WireField.content (field : WireField) : Option String × Option String :=
  (field.label, field.value)

namespace Server

variable {State α : Type} (client : Client) (server : Server State)

/-- The document that is served at a path. -/
def document? (path : String) (state : State) : Option Document :=
  (server (client.request .get path none) state).1.bind Response.document?

/-- What reading at a path makes of the state. -/
def afterReading (path : String) (state : State) : State :=
  (server (client.request .get path none) state).2

/-- What a reader makes of what is served at a path. -/
def read? (reader : Reader α) (path : String) (state : State) : Option α :=
  (server.document? client path state).bind (reader Document.depthLimit)

/-- The vaults that are listed. -/
def vaults? (state : State) : Option (List WireVault) :=
  server.read? client (Reader.list WireVault.read) Client.vaultsPath state

/-- The items that are listed of a vault. -/
def items? (vaultId : String) (state : State) : Option (List WireItemSummary) :=
  server.read? client (Reader.list WireItemSummary.read) (Client.itemsPath vaultId) state

/-- The item that is served under an id. -/
def item? (vaultId itemId : String) (state : State) : Option WireItem :=
  server.read? client WireItem.read (Client.itemPath vaultId itemId) state

/-- The response to a request is a success. -/
def Accepts (request : Request) (state : State) : Prop :=
  ∃ response, (server request state).1 = some response ∧ response.isSuccess = true

/-- What an item looks like in the list of its vault after it was replaced. -/
def relisted (itemId : String) (sent : WireItem) (listed : WireItemSummary) : WireItemSummary :=
  if listed.id = itemId then ⟨itemId, sent.title, sent.category⟩ else listed

/-- A listed item is served with its id, its vault and its title. -/
def ServesListed (state : State) : Prop :=
  ∀ vaultId items listed item, server.items? client vaultId state = some items →
    listed ∈ items → server.item? client vaultId listed.id state = some item →
      item.id = listed.id ∧ item.vaultId = vaultId ∧ item.title = listed.title

/-- A server that keeps the items that it was sent. -/
structure Keeps : Prop where
  /-- Reading changes nothing. -/
  reading : ∀ path state, (server (client.request .get path none) state).2 = state
  /-- A replaced item is served with the ids, labels and values of the fields that were sent, and
  the vaults stay as they were. -/
  replaced : ∀ state vaultId itemId body sent,
    let request := client.request .put (Client.itemPath vaultId itemId) (some body)
    server.Accepts request state →
      WireItem.read Document.depthLimit (Document.ofValue body) = some sent →
        (∃ served,
          server.item? client vaultId itemId (server request state).2 = some served ∧
            served.fields.map (fun field => (field.id, field.content)) =
              sent.fields.map fun field => (field.id, field.content)) ∧
        server.vaults? client (server request state).2 = server.vaults? client state ∧
        ∀ items, server.items? client vaultId state = some items →
          server.items? client vaultId (server request state).2 =
            some (items.map (relisted itemId sent))
  /-- A created item is listed under an id and served with the labels and values of the fields that
  were sent, and the vaults stay as they were. -/
  created : ∀ state vaultId body sent,
    let request := client.request .post (Client.itemsPath vaultId) (some body)
    server.Accepts request state →
      WireItem.read Document.depthLimit (Document.ofValue body) = some sent →
        server.vaults? client (server request state).2 = server.vaults? client state ∧
        ∀ items, server.items? client vaultId state = some items →
          ∃ early late made, items = early ++ late ∧
            server.items? client vaultId (server request state).2 =
              some (early ++ ⟨made.id, sent.title, sent.category⟩ :: late) ∧
            server.item? client vaultId made.id (server request state).2 = some made ∧
            made.fields.map WireField.content = sent.fields.map WireField.content

variable {client server} {state after : State}

theorem Keeps.afterReading_eq (keeps : server.Keeps client) (path : String) (state : State) :
    server.afterReading client path state = state :=
  keeps.reading path state

/-! ## Exchanges -/

theorem outcome_send (request : Request) (what : String) :
    Dialogue.outcome server (Exchange.send request what) state =
      (match (server request state).1 with
        | none => .error .network
        | some response =>
          match Response.fault? response.status what with
          | some fault => .error fault
          | none => .ok response, (server request state).2) := by
  have asked : Dialogue.outcome server (Exchange.send request what) state =
      Dialogue.run server (fun _ => pure ()) (match (server request state).1 with
        | none => .done (.error .network)
        | some response =>
          .note (Exchange.responseEvent response.status what) <| .done <|
            match Response.fault? response.status what with
            | some fault => .error fault
            | none => .ok response) (server request state).2 := rfl
  rw [asked]
  cases (server request state).1 with
  | none => rfl
  | some response => rfl

/-- A request whose response is taken was accepted. -/
theorem of_send_ok {request : Request} {what : String} {response : Response}
    (run : Dialogue.outcome server (Exchange.send request what) state = (.ok response, after)) :
    server.Accepts request state ∧ after = (server request state).2 := by
  rw [outcome_send] at run
  obtain ⟨result, rfl⟩ := Prod.mk.inj run
  refine ⟨?_, rfl⟩
  split at result
  · cases result
  · rename_i replied isReply
    split at result
    · cases result
    · rename_i noFault
      exact ⟨replied, isReply, (Response.fault?_eq_none_iff replied what).mp noFault⟩

/-- What is fetched is what a reader makes of what is served. -/
theorem outcome_fetch (path what : String) (reader : Reader α) (state : State) :
    ∃ fault, Dialogue.outcome server
        (Exchange.fetch (client.request .get path none) what reader) state =
      (match server.read? client reader path state with
        | some value => .ok value
        | none => .error fault, server.afterReading client path state) := by
  unfold Exchange.fetch
  rw [Dialogue.outcome_bind, outcome_send]
  unfold read? document? Response.document? afterReading
  generalize (server (client.request .get path none) state).2 = middle
  cases (server (client.request .get path none) state).1 with
  | none => exact ⟨.network, rfl⟩
  | some response =>
    have noFault := Response.fault?_eq_none_iff response what
    dsimp only [Option.bind_some]
    cases status : Response.fault? response.status what with
    | some fault =>
      have failure : ¬ response.isSuccess = true := by
        rw [← noFault, status]
        nofun
      rw [if_neg failure]
      exact ⟨fault, rfl⟩
    | none =>
      have decoded : response.decode? reader =
          (Document.ofBytes? response.body).bind (reader Document.depthLimit) := rfl
      rw [if_pos (noFault.mp status), ← decoded]
      refine ⟨.malformed, ?_⟩
      change Dialogue.outcome server (match response.decode? reader with
        | some value => pure value
        | none => throw ExchangeFault.malformed) middle = _
      cases response.decode? reader with
      | none => rfl
      | some value => rfl

/-- The result of an exchange that fetches what may be missing. -/
def fetched (fault : ExchangeFault) : Option α → Except ExchangeFault α
  | some value => .ok value
  | none => .error fault

theorem of_fetched_ok {fault : ExchangeFault} {found : Option α} {value : α}
    (run : (fetched fault found, state) = (.ok value, after)) :
    after = state ∧ found = some value := by
  obtain ⟨isFetched, rfl⟩ := Prod.mk.inj run
  cases found with
  | none => cases isFetched
  | some value =>
    cases isFetched
    exact ⟨rfl, rfl⟩

variable (client server)

theorem outcome_listVaults (state : State) :
    ∃ fault, Dialogue.outcome server client.listVaults state =
      (fetched fault ((server.vaults? client state).map (List.map WireVault.toVault)),
        server.afterReading client Client.vaultsPath state) := by
  obtain ⟨fault, run⟩ := outcome_fetch Client.vaultsPath "vaults" (Reader.list WireVault.read)
    state
  refine ⟨fault, ?_⟩
  unfold Client.listVaults
  rw [Dialogue.outcome_bind, run, vaults?]
  cases server.read? client (Reader.list WireVault.read) Client.vaultsPath state with
  | none => rfl
  | some wires => rfl

theorem outcome_listItems (vaultId : String) (state : State) :
    ∃ fault, Dialogue.outcome server (client.listItems vaultId) state =
      (fetched fault ((server.items? client vaultId state).map (List.map WireItemSummary.toItem)),
        server.afterReading client (Client.itemsPath vaultId) state) := by
  obtain ⟨fault, run⟩ := outcome_fetch (Client.itemsPath vaultId)
    (Client.vaultWords vaultId) (Reader.list WireItemSummary.read) state
  refine ⟨fault, ?_⟩
  unfold Client.listItems
  rw [Dialogue.outcome_bind, run, items?]
  cases server.read? client (Reader.list WireItemSummary.read) (Client.itemsPath vaultId) state with
  | none => rfl
  | some wires => rfl

theorem outcome_getItem (vaultId itemId : String) (state : State) :
    ∃ fault, Dialogue.outcome server (client.getItem vaultId itemId) state =
      (fetched fault ((server.item? client vaultId itemId state).map WireItem.toItem),
        server.afterReading client (Client.itemPath vaultId itemId) state) := by
  obtain ⟨fault, run⟩ := outcome_fetch (Client.itemPath vaultId itemId)
    (Client.itemWords vaultId itemId) WireItem.read state
  refine ⟨fault, ?_⟩
  unfold Client.getItem
  rw [Dialogue.outcome_bind, run, item?]
  cases server.read? client WireItem.read (Client.itemPath vaultId itemId) state with
  | none => rfl
  | some wire => rfl

variable {client server}

theorem of_putItem_ok {item : Item}
    (run : Dialogue.outcome server (client.putItem item) state = (.ok (), after)) :
    let request := client.request .put (Client.itemPath item.vaultId item.id)
      (some (WireItem.ofItem item).encode)
    server.Accepts request state ∧ after = (server request state).2 := by
  obtain ⟨response, middle, sent, done⟩ := Dialogue.outcome_bind_ok server run
  cases done
  exact of_send_ok sent

theorem of_createItem_ok {item : NewItem} {made : Item}
    (run : Dialogue.outcome server (client.createItem item) state = (.ok made, after)) :
    let request := client.request .post (Client.itemsPath item.vaultId)
      (some (WireItem.ofNewItem item).encode)
    server.Accepts request state ∧ after = (server request state).2 := by
  obtain ⟨wire, middle, fetched, done⟩ := Dialogue.outcome_bind_ok server run
  cases done
  obtain ⟨response, middle, sent, decoded⟩ := Dialogue.outcome_bind_ok server fetched
  have same : middle = after := by
    split at decoded
    · cases decoded
      rfl
    · cases decoded
  rw [← same]
  exact of_send_ok sent

end Server

namespace Client

variable {State α : Type}

/-- The store that a client makes of a server. -/
def backend (client : Client) (server : Server State) : Store.Backend State :=
  fun call => (client.perform call).run server fun _ => pure ()

/-- A session that goes through a client runs on the store that the client makes. -/
theorem outcome_interpret (client : Client) (server : Server State) (session : Session α)
    (state : State) :
    Dialogue.outcome server (ExceptT.mk (session.run.interpret client.perform)) state =
      session.on (client.backend server) state :=
  congrFun (Dialogue.run_interpret session.run client.perform server _) state

variable {client : Client} {server : Server State} {state : State}

theorem outcome_asStore (exchange : Exchange α) :
    Dialogue.outcome server (asStore exchange) state =
      ((Dialogue.outcome server exchange state).1.mapError Failure.ofExchange,
        (Dialogue.outcome server exchange state).2) :=
  congrFun (Dialogue.run_bind exchange.run _ server _) state

theorem outcome_towards (reference : Reference) (exchange : Exchange α) :
    Dialogue.outcome server (towards reference exchange) state =
      ((Dialogue.outcome server exchange state).1.mapError fun fault =>
          .resolution reference.render (Failure.ofExchange fault).message,
        (Dialogue.outcome server exchange state).2) :=
  congrFun (Dialogue.run_bind exchange.run _ server _) state

section Next

variable {β : Type} {next : α → Attempt β} {found : Option α} {after : State}

/-- A value that is fetched on the way to a secret, with what is made of it. -/
theorem toOption_towards_bind (reference : Reference) {exchange : Exchange α}
    {fault : ExchangeFault}
    (run : Dialogue.outcome server exchange state = (Server.fetched fault found, after)) :
    (Dialogue.outcome server (towards reference exchange >>= next) state).1.toOption =
      found.bind fun value => (Dialogue.outcome server (next value) after).1.toOption := by
  rw [Dialogue.outcome_bind, outcome_towards, run]
  cases found with
  | none => rfl
  | some value => rfl

/-- A value that is expected on the way to a secret, with what is made of it. -/
theorem toOption_expect_bind (reference : Reference) (detail : String) :
    (Dialogue.outcome server (expect reference found detail >>= next) state).1.toOption =
      found.bind fun value => (Dialogue.outcome server (next value) state).1.toOption := by
  rw [Dialogue.outcome_bind]
  cases found with
  | none => rfl
  | some value => rfl

end Next

/-- A call that succeeds is an exchange that does. -/
theorem of_asStore_ok {exchange : Exchange α} {result : α} {after : State}
    (run : Dialogue.outcome server (asStore exchange) state = (.ok result, after)) :
    Dialogue.outcome server exchange state = (.ok result, after) := by
  rw [outcome_asStore] at run
  generalize Dialogue.outcome server exchange state = answered at run ⊢
  rcases answered with ⟨fault | value, middle⟩
  · cases run
  · cases run
    rfl

variable {after : State}

/-- The vaults that a call gives are those that are listed. -/
theorem of_listVaults_ok (keeps : server.Keeps client) {vaults : List VaultSummary}
    (run : client.backend server .listVaults state = (.ok vaults, after)) :
    after = state ∧ (server.vaults? client state).map (List.map WireVault.toVault) =
      some vaults := by
  obtain ⟨fault, listed⟩ := Server.outcome_listVaults client server state
  rw [keeps.afterReading_eq] at listed
  exact Server.of_fetched_ok (listed.symm.trans (of_asStore_ok run))

/-- The items that a call gives are those that are listed. -/
theorem of_listItems_ok (keeps : server.Keeps client) {vaultId : String}
    {items : List ItemSummary}
    (run : client.backend server (.listItems vaultId) state = (.ok items, after)) :
    after = state ∧ (server.items? client vaultId state).map (List.map WireItemSummary.toItem) =
      some items := by
  obtain ⟨fault, listed⟩ := Server.outcome_listItems client server vaultId state
  rw [keeps.afterReading_eq] at listed
  exact Server.of_fetched_ok (listed.symm.trans (of_asStore_ok run))

/-- The item that a call gives is the one that is served. -/
theorem of_getItem_ok (keeps : server.Keeps client) {vaultId itemId : String} {item : Item}
    (run : client.backend server (.getItem vaultId itemId) state = (.ok item, after)) :
    after = state ∧ (server.item? client vaultId itemId state).map WireItem.toItem =
      some item := by
  obtain ⟨fault, got⟩ := Server.outcome_getItem client server vaultId itemId state
  rw [keeps.afterReading_eq] at got
  exact Server.of_fetched_ok (got.symm.trans (of_asStore_ok run))

end Client

end SecretRefs.Connect

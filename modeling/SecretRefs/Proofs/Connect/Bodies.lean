import Mathlib.Data.List.Basic
import SecretRefs.Proofs.Turns
import SecretRefs.Proofs.Connect.Server
import SecretRefs.Upsert

/-!
# Bodies that stay unseen

A client makes nothing of the body of a response that is no success, that confirms a replacement,
or that it cannot read. Of two servers that differ in such bodies only (`RespondAlike`) it gives the
same results and failures, word for word, and it makes the same requests (`bodies_unseen`).

Both runs are followed at once, one exchange after the other. `SameSoFar` is what holds before an
exchange, `SameEnd` what holds of two ends, and each function of a client takes from the list of
`Content`s that lie ahead what it reads itself. So a function is a matter of those that it calls.
-/

namespace SecretRefs.Connect

open Json

/-- What a client reads in the body of a response. -/
inductive Content where
  | vaults
  | items
  | item
  | nothing

/-- Whether a client can read the body of a response. -/
def Content.IsReadable (content : Content) (response : Response) : Prop :=
  match content with
  | .vaults => (response.decode? (Reader.list WireVault.read)).isSome
  | .items => (response.decode? (Reader.list WireItemSummary.read)).isSome
  | .item => (response.decode? WireItem.read).isSome
  | .nothing => True

/-- The requests that a client makes, with what it reads in the bodies of the responses. -/
inductive Asks (client : Client) : Request → Content → Prop where
  | vaults : Asks client (client.request .get Client.vaultsPath none) .vaults
  | items (vaultId : String) :
      Asks client (client.request .get (Client.itemsPath vaultId) none) .items
  | item (vaultId itemId : String) :
      Asks client (client.request .get (Client.itemPath vaultId itemId) none) .item
  | create (vaultId : String) (body : Json) :
      Asks client (client.request .post (Client.itemsPath vaultId) (some body)) .item
  | replace (vaultId itemId : String) (body : Json) :
      Asks client (client.request .put (Client.itemPath vaultId itemId) (some body)) .nothing

/-- Two responses, or none, that differ at most in a body of which a client makes nothing. -/
inductive SameButUnseen (content : Content) : Option Response → Option Response → Prop where
  | unanswered : SameButUnseen content none none
  | same (response : Response) : SameButUnseen content (some response) (some response)
  /-- The bodies of responses that are no success. -/
  | refused {status : Nat} (failure : ¬ (200 ≤ status ∧ status ≤ 299))
      (body otherBody : ByteArray) :
      SameButUnseen content (some ⟨status, body⟩) (some ⟨status, otherBody⟩)
  /-- The bodies of responses to a replacement. -/
  | unread (isNothing : content = .nothing) (status : Nat) (body otherBody : ByteArray) :
      SameButUnseen content (some ⟨status, body⟩) (some ⟨status, otherBody⟩)
  | unreadable {status : Nat} {body otherBody : ByteArray}
      (notReadable : ¬ content.IsReadable ⟨status, body⟩)
      (otherNotReadable : ¬ content.IsReadable ⟨status, otherBody⟩) :
      SameButUnseen content (some ⟨status, body⟩) (some ⟨status, otherBody⟩)

/-- There is no response on either side, or there are two with the same status. -/
theorem SameButUnseen.cases {content : Content} {reply otherReply : Option Response}
    (same : SameButUnseen content reply otherReply) :
    reply = none ∧ otherReply = none ∨ ∃ response otherResponse, reply = some response ∧
      otherReply = some otherResponse ∧ response.status = otherResponse.status := by
  cases same with
  | unanswered => exact .inl ⟨rfl, rfl⟩
  | same response => exact .inr ⟨response, response, rfl, rfl, rfl⟩
  | refused | unread | unreadable => exact .inr ⟨_, _, rfl, rfl, rfl⟩

/-- What a reader makes of the body of a success is the same. -/
theorem SameButUnseen.decode?_eq {α : Type} {content : Content} {reader : Reader α}
    {response otherResponse : Response}
    (same : SameButUnseen content (some response) (some otherResponse))
    (success : response.isSuccess = true) (reads : content ≠ .nothing)
    (readable : ∀ response, content.IsReadable response ↔ (response.decode? reader).isSome) :
    response.decode? reader = otherResponse.decode? reader := by
  cases same with
  | same => rfl
  | refused failure => exact absurd (by simpa [Response.isSuccess] using success) failure
  | unread isNothing => exact absurd isNothing reads
  | unreadable notReadable otherNotReadable =>
    rw [readable, Option.not_isSome_iff_eq_none] at notReadable otherNotReadable
    rw [notReadable, otherNotReadable]

variable {State Other α β : Type}

/-- Two servers respond the same to one request after the other, whatever a client asks of them,
but for bodies that it does not see. The contents are what it reads in the responses in turn. -/
def RespondAlike (client : Client) (one : Server State) (other : Server Other) :
    List Content → State → Other → Prop
  | [], _, _ => True
  | content :: later, state, otherState => ∀ request, Asks client request content →
      SameButUnseen content (one request state).1 (other request otherState).1 ∧
        RespondAlike client one other later (one request state).2 (other request otherState).2

/-- What a client reads in the responses during a store call, as far as it gets. -/
def contentsOf : Store.Call → List Content
  | .resolve _ => [.vaults, .items, .item]
  | .listVaults => [.vaults]
  | .listItems _ => [.items]
  | .getItem _ _ => [.item]
  | .putItem _ => [.nothing]
  | .createItem _ => [.item]

/-- The requests of a session through a client. -/
def Client.requests (client : Client) (server : Server State) (session : Session α)
    (state : State) : List Request :=
  (Dialogue.turns server (ExceptT.mk (session.run.interpret client.perform)) state).map
    Dialogue.Turn.query

/-- A session gives the same on two servers, with the same failure if it fails, and makes the same
requests of them. -/
structure SameCourse (client : Client) (one : Server State) (other : Server Other)
    (session : Session α) (state : State) (otherState : Other) : Prop where
  results : (session.on (client.backend one) state).1 =
    (session.on (client.backend other) otherState).1
  requests : client.requests one session state = client.requests other session otherState

/-! ## Two runs at once -/

/-- A state of a server with the turns so far. -/
abbrev Recorded (State : Type) : Type :=
  State × List (Dialogue.Turn Request fun _ => Option Response)

/-- The requests so far were the same, and the servers respond alike when these contents are
read. -/
structure SameSoFar (client : Client) (one : Server State) (other : Server Other)
    (contents : List Content) (state : Recorded State) (otherState : Recorded Other) : Prop where
  requests : state.2.map Dialogue.Turn.query = otherState.2.map Dialogue.Turn.query
  ahead : RespondAlike client one other contents state.1 otherState.1

/-- Two runs gave the same after the same requests. If it is a value, the servers respond alike
when further contents are read. -/
structure SameEnd {Error : Type} (client : Client) (one : Server State) (other : Server Other)
    (contents : List Content) (run : Except Error α × Recorded State)
    (otherRun : Except Error α × Recorded Other) : Prop where
  results : run.1 = otherRun.1
  requests : run.2.2.map Dialogue.Turn.query = otherRun.2.2.map Dialogue.Turn.query
  ahead : ∀ value, run.1 = .ok value →
    RespondAlike client one other contents run.2.1 otherRun.2.1

section Ends

variable {Error : Type} {client : Client} {one : Server State} {other : Server Other}
  {contents later : List Content} {state : Recorded State} {otherState : Recorded Other}
  {run : Except Error α × Recorded State} {otherRun : Except Error α × Recorded Other}

/-- What asks nothing ends the same. -/
theorem SameSoFar.result (soFar : SameSoFar client one other contents state otherState)
    (result : Except Error α) :
    SameEnd client one other contents (result, state) (result, otherState) :=
  ⟨rfl, soFar.requests, fun _ _ => soFar.ahead⟩

/-- After a failure it does not matter what would have been read. -/
theorem SameSoFar.failure (soFar : SameSoFar client one other contents state otherState)
    (failure : Error) (later : List Content) :
    SameEnd client one other later ((.error failure : Except Error α), state)
      (.error failure, otherState) :=
  ⟨rfl, soFar.requests, nofun⟩

namespace SameEnd

/-- Nothing has to be read any more. -/
theorem last (same : SameEnd client one other contents run otherRun) :
    SameEnd client one other [] run otherRun :=
  ⟨same.results, same.requests, fun _ _ => trivial⟩

/-- Failures may be put otherwise. -/
theorem mapError {OtherError : Type} (same : SameEnd client one other contents run otherRun)
    (change : Error → OtherError) :
    SameEnd client one other contents (run.1.mapError change, run.2)
      (otherRun.1.mapError change, otherRun.2) := by
  obtain ⟨result, after⟩ := run
  obtain ⟨otherResult, otherAfter⟩ := otherRun
  obtain rfl : result = otherResult := same.results
  refine ⟨rfl, same.requests, fun value isValue => ?_⟩
  cases result with
  | error failure => cases isValue
  | ok given => exact same.ahead given rfl

/-- Programs end the same if their first parts do, and what follows these does. -/
theorem bind {Query Note : Type} {Answer : Query → Type}
    {answer : (question : Query) → StateM (Recorded State) (Answer question)}
    {otherAnswer : (question : Query) → StateM (Recorded Other) (Answer question)}
    {program otherProgram : ExceptT Error (Dialogue Query Answer Note) α}
    {next otherNext : α → ExceptT Error (Dialogue Query Answer Note) β}
    (first : SameEnd client one other contents (Dialogue.outcome answer program state)
      (Dialogue.outcome otherAnswer otherProgram otherState))
    (rest : ∀ value after otherAfter, SameSoFar client one other contents after otherAfter →
      SameEnd client one other later (Dialogue.outcome answer (next value) after)
        (Dialogue.outcome otherAnswer (otherNext value) otherAfter)) :
    SameEnd client one other later (Dialogue.outcome answer (program >>= next) state)
      (Dialogue.outcome otherAnswer (otherProgram >>= otherNext) otherState) := by
  rw [Dialogue.outcome_bind, Dialogue.outcome_bind]
  generalize Dialogue.outcome answer program state = run at first ⊢
  generalize Dialogue.outcome otherAnswer otherProgram otherState = otherRun at first ⊢
  obtain ⟨result, after⟩ := run
  obtain ⟨otherResult, otherAfter⟩ := otherRun
  obtain rfl : result = otherResult := first.results
  cases result with
  | error failure => exact ⟨rfl, first.requests, nofun⟩
  | ok value => exact rest value after otherAfter ⟨first.requests, first.ahead value rfl⟩

end SameEnd

/-! ## Exchanges -/

/-- A request is sent on both sides, and what is made of the response is the same if it does not
look at a body that is unseen. -/
theorem SameSoFar.send {content : Content} {request : Request} {next : Response → Exchange α}
    (soFar : SameSoFar client one other (content :: contents) state otherState)
    (asks : Asks client request content) (what : String)
    (unseen : ∀ response otherResponse,
      SameButUnseen content (some response) (some otherResponse) → response.isSuccess = true →
        next response = next otherResponse)
    (rest : ∀ response after otherAfter, SameSoFar client one other contents after otherAfter →
      SameEnd client one other later
        (Dialogue.outcome (Dialogue.recording one) (next response) after)
        (Dialogue.outcome (Dialogue.recording other) (next response) otherAfter)) :
    SameEnd client one other later
      (Dialogue.outcome (Dialogue.recording one) (Exchange.send request what >>= next) state)
      (Dialogue.outcome (Dialogue.recording other) (Exchange.send request what >>= next)
        otherState) := by
  obtain ⟨alike, ahead⟩ := soFar.ahead request asks
  have after : SameSoFar client one other contents (Dialogue.recording one request state).2
      (Dialogue.recording other request otherState).2 := by
    refine ⟨?_, ahead⟩
    simp only [Dialogue.recording, List.map_append, soFar.requests, List.map_cons, List.map_nil]
  have isReply : (Dialogue.recording one request state).1 = (one request state.1).1 := rfl
  have isOtherReply : (Dialogue.recording other request otherState).1 =
    (other request otherState.1).1 := rfl
  rw [Dialogue.outcome_bind, Dialogue.outcome_bind, Server.outcome_send, Server.outcome_send,
    isReply, isOtherReply]
  rcases alike.cases with
    ⟨isNone, isOtherNone⟩ | ⟨response, otherResponse, isSome, isOtherSome, sameStatus⟩
  · rw [isNone, isOtherNone]
    exact after.failure ExchangeFault.network later
  · rw [isSome, isOtherSome] at alike ⊢
    have judged := Response.fault?_eq_none_iff response what
    dsimp only
    rw [← sameStatus]
    -- A fault is a matter of the status alone; only the body of a success is looked at.
    cases isFault : Response.fault? response.status what with
    | some fault => exact after.failure fault later
    | none =>
      have sameNext := unseen response otherResponse alike (judged.mp isFault)
      dsimp only [Dialogue.resume]
      rw [← sameNext]
      exact rest response _ _ after

/-- What is fetched is the same. -/
theorem SameSoFar.fetch {content : Content} {request : Request} {reader : Reader α}
    (soFar : SameSoFar client one other (content :: contents) state otherState)
    (asks : Asks client request content) (what : String) (reads : content ≠ .nothing)
    (readable : ∀ response, content.IsReadable response ↔ (response.decode? reader).isSome) :
    SameEnd client one other contents
      (Dialogue.outcome (Dialogue.recording one) (Exchange.fetch request what reader) state)
      (Dialogue.outcome (Dialogue.recording other) (Exchange.fetch request what reader)
        otherState) := by
  refine soFar.send asks what (fun response otherResponse alike success => ?_)
    fun response after otherAfter same => ?_
  · rw [alike.decode?_eq success reads readable]
  · cases response.decode? reader with
    | some value => exact same.result (.ok value)
    | none => exact same.result (.error ExchangeFault.malformed)

/-! ## Store calls -/

theorem SameSoFar.listVaults
    (soFar : SameSoFar client one other (.vaults :: later) state otherState) :
    SameEnd client one other later
      (Dialogue.outcome (Dialogue.recording one) client.listVaults state)
      (Dialogue.outcome (Dialogue.recording other) client.listVaults otherState) := by
  unfold Client.listVaults
  refine (soFar.fetch .vaults "vaults" nofun fun _ => Iff.rfl).bind ?_
  exact fun vaults after otherAfter same => same.result (.ok (vaults.map WireVault.toVault))

theorem SameSoFar.listItems (vaultId : String)
    (soFar : SameSoFar client one other (.items :: later) state otherState) :
    SameEnd client one other later
      (Dialogue.outcome (Dialogue.recording one) (client.listItems vaultId) state)
      (Dialogue.outcome (Dialogue.recording other) (client.listItems vaultId) otherState) := by
  unfold Client.listItems
  refine (soFar.fetch (.items vaultId) _ nofun fun _ => Iff.rfl).bind ?_
  exact fun items after otherAfter same => same.result (.ok (items.map WireItemSummary.toItem))

theorem SameSoFar.getItem (vaultId itemId : String)
    (soFar : SameSoFar client one other (.item :: later) state otherState) :
    SameEnd client one other later
      (Dialogue.outcome (Dialogue.recording one) (client.getItem vaultId itemId) state)
      (Dialogue.outcome (Dialogue.recording other) (client.getItem vaultId itemId) otherState) := by
  unfold Client.getItem
  refine (soFar.fetch (.item vaultId itemId) _ nofun fun _ => Iff.rfl).bind ?_
  exact fun item after otherAfter same => same.result (.ok item.toItem)

theorem SameSoFar.createItem (item : NewItem)
    (soFar : SameSoFar client one other (.item :: later) state otherState) :
    SameEnd client one other later
      (Dialogue.outcome (Dialogue.recording one) (client.createItem item) state)
      (Dialogue.outcome (Dialogue.recording other) (client.createItem item) otherState) := by
  unfold Client.createItem
  refine (soFar.fetch (.create item.vaultId _) _ nofun fun _ => Iff.rfl).bind ?_
  exact fun made after otherAfter same => same.result (.ok made.toItem)

/-- Of the response to a replacement only the status counts. -/
theorem SameSoFar.putItem (item : Item)
    (soFar : SameSoFar client one other (.nothing :: later) state otherState) :
    SameEnd client one other later
      (Dialogue.outcome (Dialogue.recording one) (client.putItem item) state)
      (Dialogue.outcome (Dialogue.recording other) (client.putItem item) otherState) := by
  unfold Client.putItem
  refine soFar.send (.replace item.vaultId item.id _) _ (fun _ _ _ _ => rfl) ?_
  exact fun response after otherAfter same => same.result (.ok ())

/-- A failure of an exchange is put down to the store. -/
theorem SameEnd.asStore {exchange : Exchange α}
    (same : SameEnd client one other later
      (Dialogue.outcome (Dialogue.recording one) exchange state)
      (Dialogue.outcome (Dialogue.recording other) exchange otherState)) :
    SameEnd client one other later
      (Dialogue.outcome (Dialogue.recording one) (Client.asStore exchange) state)
      (Dialogue.outcome (Dialogue.recording other) (Client.asStore exchange) otherState) := by
  rw [Client.outcome_asStore, Client.outcome_asStore]
  exact same.mapError Failure.ofExchange

/-- A failure of an exchange is put down to a reference. -/
theorem SameEnd.towards {exchange : Exchange α} (reference : Reference)
    (same : SameEnd client one other later
      (Dialogue.outcome (Dialogue.recording one) exchange state)
      (Dialogue.outcome (Dialogue.recording other) exchange otherState)) :
    SameEnd client one other later
      (Dialogue.outcome (Dialogue.recording one) (Client.towards reference exchange) state)
      (Dialogue.outcome (Dialogue.recording other) (Client.towards reference exchange)
        otherState) := by
  rw [Client.outcome_towards, Client.outcome_towards]
  exact same.mapError _

/-- What is expected is there on both sides or missing on both. -/
theorem SameSoFar.expect (soFar : SameSoFar client one other later state otherState)
    (reference : Reference) (found : Option α) (detail : String) :
    SameEnd client one other later
      (Dialogue.outcome (Dialogue.recording one) (Client.expect reference found detail) state)
      (Dialogue.outcome (Dialogue.recording other) (Client.expect reference found detail)
        otherState) := by
  cases found with
  | some value => exact soFar.result (.ok value)
  | none => exact soFar.result (.error (Failure.resolution reference.render detail))

theorem SameSoFar.resolve (reference : Reference)
    (soFar : SameSoFar client one other (.vaults :: .items :: .item :: later) state otherState) :
    SameEnd client one other later
      (Dialogue.outcome (Dialogue.recording one) (client.resolve reference) state)
      (Dialogue.outcome (Dialogue.recording other) (client.resolve reference) otherState) := by
  unfold Client.resolve
  refine (soFar.listVaults.towards reference).bind fun vaults _ _ listed => ?_
  refine (listed.expect reference _ _).bind fun vault _ _ chosen => ?_
  refine ((chosen.listItems vault.id).towards reference).bind fun items _ _ listed => ?_
  refine (listed.expect reference _ _).bind fun item _ _ chosen => ?_
  refine ((chosen.getItem vault.id item.id).towards reference).bind fun item _ _ fetched => ?_
  refine (fetched.expect reference _ _).bind fun field _ _ selected => ?_
  split
  · exact selected.result (.error _)
  · exact selected.result (.ok field.value)

/-- A store call reads its contents and no more. -/
theorem SameSoFar.perform (call : Store.Call)
    (soFar : SameSoFar client one other (contentsOf call ++ later) state otherState) :
    SameEnd client one other later (client.backend (Dialogue.recording one) call state)
      (client.backend (Dialogue.recording other) call otherState) := by
  cases call with
  | resolve reference => exact SameSoFar.resolve reference soFar
  | listVaults => exact (SameSoFar.listVaults soFar).asStore
  | listItems vaultId => exact (SameSoFar.listItems vaultId soFar).asStore
  | getItem vaultId itemId => exact (SameSoFar.getItem vaultId itemId soFar).asStore
  | putItem item => exact (SameSoFar.putItem item soFar).asStore
  | createItem item => exact (SameSoFar.createItem item soFar).asStore

/-! ## Upserts -/

/-- A store call of an upsert reads its contents, and a failure is put down to the step. -/
theorem SameSoFar.callDuring (step : WriteStep) (call : Store.Call)
    (soFar : SameSoFar client one other (contentsOf call ++ later) state otherState) :
    SameEnd client one other later
      ((Session.callDuring step call).on (client.backend (Dialogue.recording one)) state)
      ((Session.callDuring step call).on (client.backend (Dialogue.recording other))
        otherState) := by
  rw [Session.on_callDuring, Session.on_callDuring]
  exact (soFar.perform call).mapError (Failure.write step)

theorem SameSoFar.update (request : UpsertRequest) (vaultId itemId : String)
    (soFar : SameSoFar client one other (.item :: .nothing :: later) state otherState) :
    SameEnd client one other later
      ((Upsert.update request vaultId itemId).on (client.backend (Dialogue.recording one)) state)
      ((Upsert.update request vaultId itemId).on (client.backend (Dialogue.recording other))
        otherState) := by
  unfold Upsert.update
  refine SameEnd.bind (SameSoFar.callDuring .getItem (.getItem vaultId itemId) soFar)
    fun item _ _ fetched => ?_
  refine SameEnd.bind (fetched.result (.ok ())) fun _ _ _ logged => ?_
  refine SameEnd.bind (SameSoFar.callDuring .putItem (.putItem _) logged) fun _ _ _ replaced => ?_
  exact replaced.result (.ok UpsertKind.updated)

theorem SameSoFar.create (request : UpsertRequest) (vaultId : String)
    (soFar : SameSoFar client one other (.item :: later) state otherState) :
    SameEnd client one other later
      ((Upsert.create request vaultId).on (client.backend (Dialogue.recording one)) state)
      ((Upsert.create request vaultId).on (client.backend (Dialogue.recording other))
        otherState) := by
  unfold Upsert.create
  refine SameEnd.bind (SameSoFar.callDuring .createItem (.createItem _) soFar)
    fun _ _ _ created => ?_
  exact created.result (.ok UpsertKind.created)

theorem SameSoFar.upsert (request : UpsertRequest)
    (soFar : SameSoFar client one other [.vaults, .items, .item, .nothing] state otherState) :
    SameEnd client one other []
      ((upsert request).on (client.backend (Dialogue.recording one)) state)
      ((upsert request).on (client.backend (Dialogue.recording other)) otherState) := by
  unfold SecretRefs.upsert
  refine SameEnd.bind (SameSoFar.callDuring .listVaults .listVaults soFar)
    fun vaults _ _ listed => ?_
  refine SameEnd.bind (listed.result (VaultSummary.select request.vault vaults))
    fun vault _ _ chosen => ?_
  refine SameEnd.bind (SameSoFar.callDuring .listItems (.listItems vault.id) chosen)
    fun items _ _ listed => ?_
  cases ItemSummary.find? request.item items with
  | some item =>
    exact SameEnd.bind (listed.update request vault.id item.id)
      fun kind _ _ written => written.result (.ok (request.outcome kind))
  | none =>
    exact SameEnd.bind (listed.create request vault.id).last
      fun kind _ _ written => written.result (.ok (request.outcome kind))

end Ends

/-! ## Two courses -/

/-- Runs on servers that list the requests end the same if the runs on the servers do. -/
theorem SameEnd.sameCourse {client : Client} {one : Server State} {other : Server Other}
    {session : Session α} {state : State} {otherState : Other}
    (same : SameEnd client one other []
      (session.on (client.backend (Dialogue.recording one)) (state, []))
      (session.on (client.backend (Dialogue.recording other)) (otherState, []))) :
    SameCourse client one other session state otherState := by
  have results := same.results
  have requests := same.requests
  rw [← Client.outcome_interpret, ← Client.outcome_interpret] at results requests
  rw [Dialogue.outcome_recording, Dialogue.outcome_recording] at results requests
  refine ⟨?_, requests⟩
  rw [← Client.outcome_interpret, ← Client.outcome_interpret]
  exact results

/-- A body that a client does not see has no effect, and no failure tells of it: on two servers that
differ in such bodies only, each store call and each upsert gives the same and makes the same
requests. -/
theorem bodies_unseen (client : Client) (one : Server State) (other : Server Other)
    (state : State) (otherState : Other) :
    (∀ call, RespondAlike client one other (contentsOf call) state otherState →
      SameCourse client one other (Session.call call) state otherState) ∧
    ∀ request, RespondAlike client one other [.vaults, .items, .item, .nothing] state otherState →
      SameCourse client one other (SecretRefs.upsert request) state otherState := by
  refine ⟨fun call alike => ?_, fun request alike => ?_⟩
  · have soFar : SameSoFar client one other (contentsOf call ++ []) (state, []) (otherState, []) :=
      ⟨rfl, by rwa [List.append_nil]⟩
    exact SameEnd.sameCourse (soFar.perform call)
  · have soFar : SameSoFar client one other [.vaults, .items, .item, .nothing] (state, [])
        (otherState, []) := ⟨rfl, alike⟩
    exact SameEnd.sameCourse (soFar.upsert request)

/-- Servers respond alike for good if they respond alike in related states and leave these
related. -/
theorem respondAlike_of_related {client : Client} {one : Server State} {other : Server Other}
    (related : State → Other → Prop)
    (step : ∀ state otherState request content, related state otherState →
      Asks client request content →
        SameButUnseen content (one request state).1 (other request otherState).1 ∧
          related (one request state).2 (other request otherState).2)
    (contents : List Content) {state : State} {otherState : Other}
    (start : related state otherState) :
    RespondAlike client one other contents state otherState := by
  induction contents generalizing state otherState with
  | nil => exact trivial
  | cons content later inductionHypothesis =>
    intro request asks
    obtain ⟨same, after⟩ := step state otherState request content start asks
    exact ⟨same, inductionHypothesis after⟩

namespace Talkative

/-- A client of the servers. -/
def client : Client := ⟨"http://c", "t", 30⟩

/-- A server that lists a vault, and has the same to say to all other requests. -/
def server (told : String) : Server Unit := fun request state =>
  if request.url = "http://c/v1/vaults" then
    (some ⟨200, "[\x7b\"id\":\"v\",\"name\":\"Work\"\x7d]".toUTF8⟩, state)
  else
    (some ⟨200, told.toUTF8⟩, state)

/-- A text that is no document is unreadable. -/
theorem not_isReadable {content : Content} {told : String}
    (notDocument : Document.parse? told = none) (reads : content ≠ .nothing) :
    ¬ content.IsReadable ⟨200, told.toUTF8⟩ := by
  have undecoded {α : Type} (reader : Reader α) :
      Response.decode? ⟨200, told.toUTF8⟩ reader = none := by
    rw [Response.decode?, Reader.ofBytes?_toUTF8, Reader.ofText?, notDocument]
    rfl
  cases content with
  | nothing => exact absurd rfl reads
  | vaults | items | item =>
    rw [Content.IsReadable, undecoded]
    exact Bool.false_ne_true

/-- Two such servers respond alike if what they say is no document. -/
theorem respondAlike {told otherTold : String} (notDocument : Document.parse? told = none)
    (otherNotDocument : Document.parse? otherTold = none) (contents : List Content) :
    RespondAlike client (server told) (server otherTold) contents () () := by
  refine respondAlike_of_related (fun _ _ => True) (fun _ _ request content _ _ => ⟨?_, trivial⟩)
    contents trivial
  unfold server
  split
  · exact .same _
  · by_cases reads : content = .nothing
    · exact .unread reads ..
    · exact .unreadable (not_isReadable notDocument reads) (not_isReadable otherNotDocument reads)

end Talkative

/-- It makes no difference whether a server blurts out a secret. -/
theorem blurted_unseen :
    (∀ call, SameCourse Talkative.client (Talkative.server "hunter2") (Talkative.server "<p>")
      (Session.call call) () ()) ∧
    (∀ request, SameCourse Talkative.client (Talkative.server "hunter2") (Talkative.server "<p>")
      (SecretRefs.upsert request) () ()) ∧
    (Dialogue.outcome (Talkative.server "hunter2")
        (Talkative.client.resolve ⟨"Work", "Mail", "TOKEN"⟩) ()).1 =
      .error (.resolution "op://Work/Mail/TOKEN"
        "secret store error: malformed Connect response") := by
  have alike (contents : List Content) : RespondAlike Talkative.client
      (Talkative.server "hunter2") (Talkative.server "<p>") contents () () :=
    Talkative.respondAlike (by decide +kernel) (by decide +kernel) contents
  have unseen := bodies_unseen Talkative.client (Talkative.server "hunter2")
    (Talkative.server "<p>") () ()
  exact ⟨fun call => unseen.1 call (alike _), fun request => unseen.2 request (alike _),
    by decide +kernel⟩

end SecretRefs.Connect

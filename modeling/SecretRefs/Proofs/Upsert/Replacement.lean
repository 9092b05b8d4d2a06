import SecretRefs.Proofs.Connect.Attributes
import SecretRefs.Proofs.Upsert.ReadBack
import SecretRefs.Proofs.Upsert.Trace

/-!
# What replaces an item

An upsert to an item that a server serves sends it back with the value stored in it. The
requests are listed by `Dialogue.recording`, on a server of which nothing is assumed: it may
change between the requests and refuse the last one. `upsert_sends_back` compares the body that
is sent to the body that was served.
-/

namespace SecretRefs.Connect

open Json

/-- How the fields of an item change when a value is stored under a label. -/
inductive Overwrites (label value : String) : List FieldContent → List FieldContent → Prop where
  /-- The first field with the label gets the value. -/
  | changed {early late : List FieldContent} {field : FieldContent}
      (earlier : ∀ one ∈ early, Text.sameTitle one.label label = false)
      (matched : Text.sameTitle field.label label = true) :
      Overwrites label value (early ++ field :: late) (early ++ { field with value } :: late)
  /-- No field has the label, and a concealed one without an id is added. -/
  | appended {fields : List FieldContent}
      (missing : ∀ one ∈ fields, Text.sameTitle one.label label = false) :
      Overwrites label value fields (fields ++ [⟨"", label, value, "CONCEALED", []⟩])

theorem overwrites_store (title value : String) (fields : List Field) :
    Overwrites title value (fields.map FieldContent.ofField)
      ((Field.store title value fields).map FieldContent.ofField) := by
  have labelled (one : Field) : Text.sameTitle (FieldContent.ofField one).label title =
      Field.titled title one := rfl
  rw [Field.store_eq]
  cases found : fields.find? (Field.titled title) with
  | some field =>
    have present : fields.any (Field.titled title) = true := by
      rw [← List.isSome_find?, found]
      rfl
    obtain ⟨early, late, rfl, earlier, matched⟩ := Store.Memory.split_of_find? found
    rw [if_pos present, Store.Memory.updateFirst_append_cons earlier matched, List.map_append,
      List.map_append, List.map_cons, List.map_cons]
    refine .changed ?_ matched
    intro one member
    obtain ⟨source, sourceMember, rfl⟩ := List.mem_map.mp member
    exact earlier source sourceMember
  | none =>
    have absent : ¬ fields.any (Field.titled title) = true := by
      rw [← List.isSome_find?, found]
      nofun
    rw [if_neg absent, List.map_append]
    refine .appended ?_
    intro one member
    obtain ⟨source, sourceMember, rfl⟩ := List.mem_map.mp member
    simpa [labelled] using List.find?_eq_none.mp found source sourceMember

namespace Server

variable {State : Type} (client : Client) (server : Server State)

/-- A server serves a document for the item that a request is about: the first one with the
title in the first vault with the title, as they are listed at the time. -/
structure Serves (request : UpsertRequest) (state : State) (vault : VaultSummary)
    (listed : ItemSummary) (document : Document) : Prop where
  isVault : server.vaultTitled? client request.vault state = some vault
  isItem : server.listedTitled? client vault.id request.item
    (server.afterReading client Client.vaultsPath state) = some listed
  isServed : server.document? client (Client.itemPath vault.id listed.id)
    (server.afterReading client (Client.itemsPath vault.id)
      (server.afterReading client Client.vaultsPath state)) = some document

/-- The requests of an upsert through a client. -/
def requestsOf (request : UpsertRequest) (state : State) : List Request :=
  (Dialogue.turns server (ExceptT.mk ((upsert request).run.interpret client.perform))
    state).map Dialogue.Turn.query

/-- A turn of a client and a server. -/
abbrev Turn : Type :=
  Dialogue.Turn Request fun _ => Option Response

/-- The turn in which a path is read. -/
def readTurn (path : String) (state : State) : Turn :=
  ⟨client.request .get path none, (server (client.request .get path none) state).1⟩

section Recorded

variable {state : State} (earlier : List Turn)

/-- To fetch what is there is one request. -/
theorem asStore_fetched {α : Type} {exchange : Exchange α} {path : String} {found : Option α}
    {value : α}
    (run : ∃ fault, Dialogue.outcome (Dialogue.recording server) exchange (state, earlier) =
      (fetched fault found, afterReading client (Dialogue.recording server) path (state, earlier)))
    (isFound : found = some value) :
    Dialogue.outcome (Dialogue.recording server) (Client.asStore exchange) (state, earlier) =
      (.ok value, (server.afterReading client path state,
        earlier ++ [server.readTurn client path state])) := by
  obtain ⟨fault, run⟩ := run
  rw [Client.outcome_asStore, run, isFound]
  rfl

theorem backend_listVaults {vaults : List WireVault}
    (isVaults : server.vaults? client state = some vaults) :
    client.backend (Dialogue.recording server) .listVaults (state, earlier) =
      (.ok (vaults.map WireVault.toVault), (server.afterReading client Client.vaultsPath state,
        earlier ++ [server.readTurn client Client.vaultsPath state])) := by
  have found := congrArg (Option.map (List.map WireVault.toVault)) isVaults
  exact asStore_fetched client server earlier (outcome_listVaults client _ _) found

theorem backend_listItems {vaultId : String} {items : List WireItemSummary}
    (isItems : server.items? client vaultId state = some items) :
    client.backend (Dialogue.recording server) (.listItems vaultId) (state, earlier) =
      (.ok (items.map WireItemSummary.toItem),
        (server.afterReading client (Client.itemsPath vaultId) state,
          earlier ++ [server.readTurn client (Client.itemsPath vaultId) state])) := by
  have found := congrArg (Option.map (List.map WireItemSummary.toItem)) isItems
  exact asStore_fetched client server earlier (outcome_listItems client _ vaultId _) found

theorem backend_getItem {vaultId itemId : String} {item : WireItem}
    (isItem : server.item? client vaultId itemId state = some item) :
    client.backend (Dialogue.recording server) (.getItem vaultId itemId) (state, earlier) =
      (.ok item.toItem, (server.afterReading client (Client.itemPath vaultId itemId) state,
        earlier ++ [server.readTurn client (Client.itemPath vaultId itemId) state])) := by
  have found := congrArg (Option.map WireItem.toItem) isItem
  exact asStore_fetched client server earlier (outcome_getItem client _ vaultId itemId _) found

/-- To replace an item is one request, whatever the server makes of it. -/
theorem backend_putItem (item : Item) :
    ∃ response, (client.backend (Dialogue.recording server) (.putItem item) (state, earlier)).2.2 =
      earlier ++ [⟨client.request .put (Client.itemPath item.vaultId item.id)
        (some (ItemContent.ofItem item).form), response⟩] := by
  let request := client.request .put (Client.itemPath item.vaultId item.id)
    (some (WireItem.ofItem item).encode)
  have called : (client.backend (Dialogue.recording server) (.putItem item) (state, earlier)).2 =
      (Dialogue.outcome (Dialogue.recording server) (client.putItem item) (state, earlier)).2 :=
    congrArg Prod.snd (Client.outcome_asStore (client.putItem item))
  refine ⟨(server request state).1, ?_⟩
  rw [called, ← ItemContent.encode_ofItem]
  unfold Client.putItem
  rw [Dialogue.outcome_bind, Dialogue.snd_resume_pure, outcome_send]
  rfl

end Recorded

/-- An upsert to an item that is served reads the vaults, the items and the item, and sends the
item back with the value stored in it. -/
theorem requestsOf_served {request : UpsertRequest} {state : State} {vault : VaultSummary}
    {listed : ItemSummary} {document : Document} {wire : WireItem}
    (serves : server.Serves client request state vault listed document)
    (isRead : WireItem.read Document.depthLimit document = some wire) :
    let stored : Item := { wire.toItem with
      fields := Field.store request.field request.value wire.toItem.fields }
    server.requestsOf client request state =
      [client.request .get Client.vaultsPath none,
        client.request .get (Client.itemsPath vault.id) none,
        client.request .get (Client.itemPath vault.id listed.id) none,
        client.request .put (Client.itemPath stored.vaultId stored.id)
          (some (ItemContent.ofItem stored).form)] := by
  intro stored
  obtain ⟨wireVaults, isVaults, vaultFound⟩ := Option.bind_eq_some_iff.mp serves.isVault
  obtain ⟨wireItems, isItems, itemFound⟩ := Option.bind_eq_some_iff.mp serves.isItem
  have isItem : server.item? client vault.id listed.id
      (server.afterReading client (Client.itemsPath vault.id)
        (server.afterReading client Client.vaultsPath state)) = some wire := by
    unfold item? read?
    rw [serves.isServed]
    exact isRead
  unfold requestsOf Dialogue.turns
  rw [Client.outcome_interpret]
  unfold upsert
  rw [Session.on_bind, Session.on_callDuring, backend_listVaults client server [] isVaults]
  simp only [Except.mapError, Session.resume_ok]
  rw [Session.on_bind, Session.on_mk_pure, VaultSummary.select, vaultFound]
  simp only [Session.resume_ok]
  rw [Session.on_bind, Session.on_callDuring, backend_listItems client server _ isItems]
  simp only [Except.mapError, Session.resume_ok, itemFound]
  rw [Upsert.on_report, Upsert.update, Session.on_bind, Session.on_callDuring,
    backend_getItem client server _ isItem]
  simp only [Except.mapError, Session.resume_ok]
  rw [Session.on_bind, Session.on_log, Session.resume_ok, Session.on_bind, Session.on_callDuring]
  let turns : List Turn := [server.readTurn client Client.vaultsPath state,
    server.readTurn client (Client.itemsPath vault.id)
      (server.afterReading client Client.vaultsPath state),
    server.readTurn client (Client.itemPath vault.id listed.id)
      (server.afterReading client (Client.itemsPath vault.id)
        (server.afterReading client Client.vaultsPath state))]
  obtain ⟨response, put⟩ := @backend_putItem State client server (server.afterReading client
    (Client.itemPath vault.id listed.id) (server.afterReading client (Client.itemsPath vault.id)
      (server.afterReading client Client.vaultsPath state))) turns stored
  rw [Session.snd_resume_pure]
  exact congrArg (List.map Dialogue.Turn.query) put

end Server

/-- What is sent back for an item that was read repeats no key. -/
theorem keysDistinct_stored {document : Document} {wire : WireItem}
    (isRead : WireItem.read Document.depthLimit document = some wire) (title value : String) :
    (ItemContent.ofItem { wire.toItem with
      fields := Field.store title value wire.toItem.fields }).form.KeysDistinct := by
  have carried := WireItem.carried_ofItem_store (WireItem.carried_of_read isRead) title value
  refine ItemContent.keysDistinct_form carried.extra ?_
  intro content member
  obtain ⟨field, fieldMember, rfl⟩ := List.mem_map.mp member
  exact ⟨_, carried.fields (WireField.ofField field) (List.mem_map_of_mem fieldMember)⟩

/-- An upsert to an item that a server serves makes four requests. The last one, and the only
one that is not a reading, sends to the vault and the id in the body what the body says, with
the value stored in the fields. -/
theorem upsert_sends_back {State : Type} (client : Client) (server : Server State)
    {request : UpsertRequest} {state : State} {vault : VaultSummary} {listed : ItemSummary}
    {document : Document} (serves : server.Serves client request state vault listed document)
    (decodes : (WireItem.read Document.depthLimit document).isSome) :
    ∃ content fields, ItemContent.SaidBy content document ∧
      Overwrites request.field request.value content.fields fields ∧
      ({ content with fields } : ItemContent).form.KeysDistinct ∧
      server.requestsOf client request state =
        [client.request .get Client.vaultsPath none,
          client.request .get (Client.itemsPath vault.id) none,
          client.request .get (Client.itemPath vault.id listed.id) none,
          client.request .put (Client.itemPath content.vaultId content.id)
            (some ({ content with fields } : ItemContent).form)] := by
  obtain ⟨wire, isRead⟩ := Option.isSome_iff_exists.mp decodes
  refine ⟨ItemContent.ofItem wire.toItem, _, ItemContent.saidBy_of_read isRead,
    overwrites_store request.field request.value wire.toItem.fields,
    keysDistinct_stored isRead request.field request.value, ?_⟩
  exact server.requestsOf_served client serves isRead

/-- An upsert to the item of the server with one item. -/
theorem mail_sends_back :
    let request : UpsertRequest := ⟨"work", "mail", "TOKEN", "new", .login⟩
    let document := Document.ofValue (Mail.itemBody "old")
    Mail.server.Serves Mail.client request Mail.start ⟨"v", "Work"⟩ ⟨"i", "Mail", .login⟩ document ∧
      (WireItem.read Document.depthLimit document).isSome ∧
      ∃ content fields, ItemContent.SaidBy content document ∧
        Overwrites "TOKEN" "new" content.fields fields ∧
        Mail.server.requestsOf Mail.client request Mail.start =
          [Mail.client.request .get "vaults" none,
            Mail.client.request .get "vaults/v/items" none,
            Mail.client.request .get "vaults/v/items/i" none,
            Mail.client.request .put (Client.itemPath content.vaultId content.id)
              (some ({ content with fields } : ItemContent).form)] := by
  intro request document
  have isVault : Mail.server.vaultTitled? Mail.client "work" Mail.start = some ⟨"v", "Work"⟩ := by
    decide +kernel
  have isItem : Mail.server.listedTitled? Mail.client "v" "mail" Mail.start =
      some ⟨"i", "Mail", .login⟩ := by
    decide +kernel
  have isServed : Mail.server.document? Mail.client (Client.itemPath "v" "i") Mail.start =
      some document := by
    have url : "http://c/v1/" ++ Client.itemPath "v" "i" = Mail.itemUrl := by decide
    rw [Mail.document?_eq, url, Mail.textAt?_itemUrl, Option.bind_some, Mail.parse?_item]
  have serves : Mail.server.Serves Mail.client request Mail.start ⟨"v", "Work"⟩
      ⟨"i", "Mail", .login⟩ document := ⟨isVault, isItem, isServed⟩
  have decodes : (WireItem.read Document.depthLimit document).isSome := rfl
  obtain ⟨content, fields, isSaid, overwrites, _, requests⟩ :=
    upsert_sends_back Mail.client Mail.server serves decodes
  exact ⟨serves, decodes, content, fields, isSaid, overwrites, requests⟩

end SecretRefs.Connect

import SecretRefs.Proofs.Connect.Codec
import SecretRefs.Proofs.Connect.Server
import SecretRefs.Proofs.Reference

/-!
# Upserts through a client

An upsert that succeeds has found its vault in the list, and has either replaced the item that
it found in the list or created one (`of_upsert_ok`). On a server that keeps items a reader then
finds the item with the fields that were sent, and the name selects the value in it unless a
shadow comes first (`selects_of_upsert`).
-/

namespace SecretRefs

section Calls

variable {State : Type} {backend : Store.Backend State} {state after : State}

/-- A call of a write that succeeds is a call that succeeds. -/
theorem Session.of_callDuring_ok {step : WriteStep} {call : Store.Call} {result : call.Result}
    (run : Session.on (α := call.Result) (Session.callDuring step call) backend state =
      (.ok result, after)) : backend call state = (.ok result, after) := by
  rw [Session.on_callDuring] at run
  generalize backend call state = answered at run ⊢
  rcases answered with ⟨failure | value, middle⟩
  · cases run
  · cases run
    rfl

/-- A vault that was selected is the first with the title. -/
theorem VaultSummary.find?_of_select {title : String} {vaults : List VaultSummary}
    {vault : VaultSummary} (selected : VaultSummary.select title vaults = .ok vault) :
    VaultSummary.find? title vaults = some vault := by
  unfold VaultSummary.select at selected
  split at selected
  · rename_i found
    cases selected
    exact found
  · cases selected

/-- The calls of a change that succeeds. -/
theorem Upsert.of_update_ok {request : UpsertRequest} {vaultId itemId : String}
    {kind : UpsertKind}
    (run : (Upsert.update request vaultId itemId).on backend state = (.ok kind, after)) :
    ∃ item itemRead, backend (.getItem vaultId itemId) state = (.ok item, itemRead) ∧
      backend (.putItem { item with
        fields := Field.store request.field request.value item.fields }) itemRead =
          (.ok (), after) := by
  obtain ⟨item, itemRead, read, logging⟩ := Dialogue.outcome_bind_ok backend run
  obtain ⟨_, logged, isLogged, writing⟩ := Dialogue.outcome_bind_ok backend logging
  obtain ⟨_, written, wrote, done⟩ := Dialogue.outcome_bind_ok backend writing
  cases isLogged
  cases done
  exact ⟨item, itemRead, Session.of_callDuring_ok read, Session.of_callDuring_ok wrote⟩

/-- The call of a creation that succeeds. -/
theorem Upsert.of_create_ok {request : UpsertRequest} {vaultId : String} {kind : UpsertKind}
    (run : (Upsert.create request vaultId).on backend state = (.ok kind, after)) :
    ∃ made, backend (.createItem (Upsert.newItem request vaultId)) state =
      (.ok made, after) := by
  obtain ⟨made, written, wrote, done⟩ := Dialogue.outcome_bind_ok backend run
  cases done
  exact ⟨made, Session.of_callDuring_ok wrote⟩

/-- The calls of an upsert that succeeds. -/
theorem of_upsert_ok {request : UpsertRequest} {outcome : UpsertOutcome}
    (run : (upsert request).on backend state = (.ok outcome, after)) :
    ∃ vaults vaultsRead vault items itemsRead,
      backend .listVaults state = (.ok vaults, vaultsRead) ∧
      VaultSummary.find? request.vault vaults = some vault ∧
      backend (.listItems vault.id) vaultsRead = (.ok items, itemsRead) ∧
      ((∃ listed item itemRead, ItemSummary.find? request.item items = some listed ∧
          backend (.getItem vault.id listed.id) itemsRead = (.ok item, itemRead) ∧
          backend (.putItem { item with
            fields := Field.store request.field request.value item.fields }) itemRead =
              (.ok (), after)) ∨
        ∃ made, ItemSummary.find? request.item items = none ∧
          backend (.createItem (Upsert.newItem request vault.id)) itemsRead =
            (.ok made, after)) := by
  obtain ⟨vaults, vaultsRead, listedVaults, selecting⟩ := Dialogue.outcome_bind_ok backend run
  obtain ⟨vault, afterSelect, selected, listing⟩ := Dialogue.outcome_bind_ok backend selecting
  obtain ⟨items, itemsRead, listedItems, writing⟩ := Dialogue.outcome_bind_ok backend listing
  obtain ⟨isSelected, rfl⟩ := Prod.mk.inj (show
    (VaultSummary.select request.vault vaults, vaultsRead) = (.ok vault, afterSelect) from selected)
  refine ⟨vaults, vaultsRead, vault, items, itemsRead, Session.of_callDuring_ok listedVaults,
    VaultSummary.find?_of_select isSelected, Session.of_callDuring_ok listedItems, ?_⟩
  dsimp only at writing
  split at writing
  · rename_i listed isListed
    obtain ⟨kind, written, update, done⟩ := Dialogue.outcome_bind_ok backend writing
    cases done
    obtain ⟨item, itemRead, read, wrote⟩ := Upsert.of_update_ok update
    exact .inl ⟨listed, item, itemRead, isListed, read, wrote⟩
  · rename_i isMissing
    obtain ⟨kind, written, create, done⟩ := Dialogue.outcome_bind_ok backend writing
    cases done
    obtain ⟨made, wrote⟩ := Upsert.of_create_ok create
    exact .inr ⟨made, isMissing, wrote⟩

end Calls

/-- The id, the title and the value of a field. -/
def Field.content (field : Field) : String × String × String :=
  (field.id, field.title, field.value)

/-- The value of a field that has one. -/
def Field.secret? (field : Field) : Option String :=
  if field.value.isEmpty then none else some field.value

namespace Connect.Server

variable {State : Type} {client : Client} {server : Server State} {state after : State}

/-- The first vault with a title, as the server lists it. -/
def vaultTitled? (client : Client) (server : Server State) (title : String) (state : State) :
    Option VaultSummary :=
  (server.vaults? client state).bind fun vaults =>
    VaultSummary.find? title (vaults.map WireVault.toVault)

/-- The first item with a title of a vault, as the server lists it. -/
def listedTitled? (client : Client) (server : Server State) (vaultId title : String)
    (state : State) : Option ItemSummary :=
  (server.items? client vaultId state).bind fun items =>
    ItemSummary.find? title (items.map WireItemSummary.toItem)

/-- The item that a server serves under a title in the vault with a title. -/
def itemTitled? (client : Client) (server : Server State) (vault item : String)
    (state : State) : Option Item :=
  (server.vaultTitled? client vault state).bind fun vault =>
    (server.listedTitled? client vault.id item state).bind fun listed =>
      (server.item? client vault.id listed.id state).map WireItem.toItem

/-- The fields of the item under a title, or none if there is no item. -/
def fieldsTitled (client : Client) (server : Server State) (vault item : String)
    (state : State) : List Field :=
  (server.itemTitled? client vault item state).elim [] Item.fields

/-- A reference is resolved by the value of the field that its name selects in the item with the
title, each read as it is served when it is asked for. -/
theorem toOption_resolve (client : Client) (server : Server State) (reference : Reference)
    (state : State) :
    (client.backend server (.resolve reference) state).1.toOption =
      (server.vaultTitled? client reference.vault state).bind fun vault =>
        let vaultsRead := server.afterReading client Client.vaultsPath state
        (server.listedTitled? client vault.id reference.item vaultsRead).bind fun listed =>
          let itemsRead := server.afterReading client (Client.itemsPath vault.id) vaultsRead
          (server.item? client vault.id listed.id itemsRead).bind fun wire =>
            (selectField? wire.toItem reference.field).bind Field.secret? := by
  dsimp only
  obtain ⟨vaultsFault, listVaults⟩ := outcome_listVaults client server state
  have opened : client.backend server (.resolve reference) state =
      Dialogue.outcome server (client.resolve reference) state := rfl
  rw [opened, Client.resolve, Client.toOption_towards_bind reference listVaults, Option.bind_map,
    vaultTitled?, Option.bind_assoc]
  refine Option.bind_congr fun vaults _ => ?_
  rw [Function.comp_apply, Client.toOption_expect_bind]
  refine Option.bind_congr fun vault _ => ?_
  obtain ⟨itemsFault, listItems⟩ := outcome_listItems client server vault.id
    (server.afterReading client Client.vaultsPath state)
  rw [Client.toOption_towards_bind reference listItems, Option.bind_map, listedTitled?,
    Option.bind_assoc]
  refine Option.bind_congr fun items _ => ?_
  rw [Function.comp_apply, Client.toOption_expect_bind]
  refine Option.bind_congr fun listed _ => ?_
  obtain ⟨itemFault, getItem⟩ := outcome_getItem client server vault.id listed.id
    (server.afterReading client (Client.itemsPath vault.id)
      (server.afterReading client Client.vaultsPath state))
  rw [Client.toOption_towards_bind reference getItem, Option.bind_map]
  refine Option.bind_congr fun wire _ => ?_
  rw [Function.comp_apply, Client.toOption_expect_bind]
  refine Option.bind_congr fun field _ => ?_
  unfold Field.secret?
  split
  · rfl
  · rfl

/-- On a server whose reading changes nothing a reference is resolved by the field that its name
selects in the item with the title. -/
theorem resolve_of_found (keeps : server.Keeps client) {reference : Reference} {item : Item}
    {field : Field} (found : server.itemTitled? client reference.vault reference.item state =
      some item) (selected : selectField? item reference.field = some field) :
    ∃ failure, (client.backend server (.resolve reference) state).1 =
      if field.value.isEmpty then .error failure else .ok field.value := by
  obtain ⟨vault, vaultFound, inVault⟩ := Option.bind_eq_some_iff.mp found
  obtain ⟨listed, listedFound, itemFound⟩ := Option.bind_eq_some_iff.mp inVault
  obtain ⟨wire, isWire, rfl⟩ := Option.map_eq_some_iff.mp itemFound
  have resolved := toOption_resolve client server reference state
  simp only [keeps.afterReading_eq, vaultFound, listedFound, isWire, selected, Option.bind_some,
    Field.secret?] at resolved
  generalize client.backend server (.resolve reference) state = answered at resolved ⊢
  rcases answered with ⟨failure | secret, after⟩
  · refine ⟨failure, ?_⟩
    split at resolved
    · rename_i empty
      rw [if_pos empty]
    · cases resolved
  · refine ⟨default, ?_⟩
    split at resolved
    · cases resolved
    · rename_i filled
      rw [if_neg filled, Option.some.inj resolved]

/-- Relisting an item that kept its title keeps what titles find. -/
theorem find?_relisted {items : List WireItemSummary} {itemId : String} {sent : WireItem}
    (title : String) (kept : ∀ listed ∈ items, listed.id = itemId → sent.title = listed.title) :
    (ItemSummary.find? title ((items.map (relisted itemId sent)).map
        WireItemSummary.toItem)).map ItemSummary.id =
      (ItemSummary.find? title (items.map WireItemSummary.toItem)).map ItemSummary.id := by
  unfold ItemSummary.find?
  induction items with
  | nil => rfl
  | cons listed rest inductionHypothesis =>
    have later := inductionHypothesis fun one member =>
      kept one (List.mem_cons_of_mem listed member)
    have sameTitle : (relisted itemId sent listed).title = listed.title := by
      unfold relisted
      split
      · rename_i isItem
        exact kept listed List.mem_cons_self isItem
      · rfl
    have sameId : (relisted itemId sent listed).id = listed.id := by
      unfold relisted
      split
      · rename_i isItem
        exact isItem.symm
      · rfl
    simp only [List.map_cons, List.find?_cons, WireItemSummary.toItem, sameTitle]
    cases Text.sameTitle listed.title title with
    | true => exact congrArg some sameId
    | false => exact later

/-- Fields with the same ids, titles and values are found by the same names. -/
theorem exists_find?_isNamed_of_content {fields others : List Field} {field : Field}
    {name : String} (same : others.map Field.content = fields.map Field.content)
    (found : fields.find? (isNamed name) = some field) :
    ∃ other, others.find? (isNamed name) = some other ∧ other.content = field.content := by
  have contentFound (list : List Field) :
      (list.map Field.content).find? (fun (id, title, _) =>
          Text.sameTitle title name || Text.sameTitle id name) =
        (list.find? (isNamed name)).map Field.content :=
    List.find?_map
  have both := (contentFound others).symm.trans ((congrArg _ same).trans (contentFound fields))
  rw [found, Option.map_some] at both
  exact Option.map_eq_some_iff.mp both

/-- The field that a name selects after a value was stored has the value, unless a shadow
comes first. -/
theorem selected_of_stored {name value : String} {new : Field} {old fields : List Field}
    (newTitled : Field.titled name new = true) (newValue : new.value = value)
    (stored : fields = if old.any (Field.titled name) then
        Store.Memory.updateFirst (Field.titled name) (fun field => { field with value }) old
      else old ++ [new])
    (item : Item) (sent : item.fields.map Field.content = fields.map Field.content) :
    ∃ field, selectField? item name = some field ∧
      field.value = (Field.shadow? (fun field => Text.sameTitle field.id name) name old).elim
        value Field.value := by
  have read := Field.value_find?_stored (fun field => Text.sameTitle field.id name) newTitled
    newValue old
  rw [← stored] at read
  obtain ⟨field, found, isValue⟩ := Option.map_eq_some_iff.mp read
  obtain ⟨served, selected, same⟩ := exists_find?_isNamed_of_content sent found
  have sameValue : served.value = field.value := congrArg (·.2.2) same
  refine ⟨served, ?_, sameValue.trans isValue⟩
  simp only [selectField?, selected]

/-- An item that was replaced by one with its id, vault and title is found with the fields that
were sent. -/
theorem itemTitled?_of_putItem (keeps : server.Keeps client)
    (listing : server.ServesListed client state) {vault : VaultSummary}
    {listed : ItemSummary} {wire : WireItem} {changed : Item} {vaultTitle title : String}
    (vaultFound : server.vaultTitled? client vaultTitle state = some vault)
    (listedFound : server.listedTitled? client vault.id title state = some listed)
    (isWire : server.item? client vault.id listed.id state = some wire)
    (keptId : changed.id = wire.id) (keptVault : changed.vaultId = wire.vaultId)
    (keptTitle : changed.title = wire.title)
    (carried : WireItem.Carried 124 (WireItem.ofItem changed))
    (run : client.backend server (.putItem changed) state = (.ok (), after)) :
    ∃ served, server.itemTitled? client vaultTitle title after = some served ∧
      served.fields.map Field.content = changed.fields.map Field.content := by
  obtain ⟨items, isItems, itemSelected⟩ := Option.bind_eq_some_iff.mp listedFound
  have coherent : ∀ one ∈ items, one.id = listed.id →
      wire.id = listed.id ∧ wire.vaultId = vault.id ∧ wire.title = one.title := by
    intro one member same
    rw [← same] at isWire ⊢
    exact listing vault.id items one wire isItems member isWire
  obtain ⟨source, sourceMember, isSource⟩ :=
    List.mem_map.mp (List.mem_of_find?_eq_some itemSelected)
  have sourceId : source.id = listed.id := congrArg ItemSummary.id isSource
  obtain ⟨sameId, sameVault, _⟩ := coherent source sourceMember sourceId
  -- the item is sent to where it came from
  obtain ⟨accepted, isAfter⟩ := of_putItem_ok (Client.of_asStore_ok run)
  rw [keptVault, keptId, sameVault, sameId] at accepted isAfter
  have again : WireItem.read Json.Document.depthLimit
      (Json.Document.ofValue (WireItem.ofItem changed).encode) = some (WireItem.ofItem changed) :=
    WireItem.read_encode carried
  obtain ⟨⟨served, isItem, sameFields⟩, sameVaults, relists⟩ :=
    keeps.replaced state vault.id listed.id _ _ accepted again
  rw [← isAfter] at isItem sameVaults relists
  -- the lists lead to it as before
  have vaultFoundAfter : server.vaultTitled? client vaultTitle after = some vault := by
    rw [vaultTitled?, sameVaults]
    exact vaultFound
  have relistedTitle : ∀ one ∈ items, one.id = listed.id →
      (WireItem.ofItem changed).title = one.title :=
    fun one member same => keptTitle.trans (coherent one member same).2.2
  have sameListed := find?_relisted title relistedTitle
  rw [itemSelected] at sameListed
  obtain ⟨listedAfter, isListedAfter, sameListedId⟩ := Option.map_eq_some_iff.mp sameListed
  have listedFoundAfter : server.listedTitled? client vault.id title after =
      some listedAfter := by
    rw [listedTitled?, relists items isItems]
    exact isListedAfter
  refine ⟨served.toItem, ?_, ?_⟩
  · rw [itemTitled?, vaultFoundAfter, Option.bind_some, listedFoundAfter, Option.bind_some,
      sameListedId, isItem]
    rfl
  · have meant := congrArg (List.map fun (id, label, value) =>
      (id, Option.getD label "", Option.getD value "")) sameFields
    simp only [WireItem.ofItem, List.map_map] at meant
    simp only [WireItem.toItem, List.map_map]
    exact meant

/-- What a request's name selects on a server, and with which value. -/
def Selects (client : Client) (server : Server State) (request : UpsertRequest)
    (old : List Field) (state : State) : Prop :=
  ∃ item field, server.itemTitled? client request.vault request.item state = some item ∧
    selectField? item request.field = some field ∧
    field.value = (Field.shadow? (fun field => Text.sameTitle field.id request.field)
      request.field old).elim request.value Field.value

variable {request : UpsertRequest} {vault : VaultSummary}

/-- After an item was replaced by itself with the value stored in it, the value is selected
unless a shadow comes first. -/
theorem selects_of_putItem (keeps : server.Keeps client)
    (listing : server.ServesListed client state) {listed : ItemSummary} {wire : WireItem}
    (vaultFound : server.vaultTitled? client request.vault state = some vault)
    (listedFound : server.listedTitled? client vault.id request.item state = some listed)
    (isWire : server.item? client vault.id listed.id state = some wire)
    (run : client.backend server (.putItem { wire.toItem with
      fields := Field.store request.field request.value wire.toItem.fields }) state =
        (.ok (), after)) :
    Selects client server request wire.toItem.fields after := by
  let changed : Item := { wire.toItem with
    fields := Field.store request.field request.value wire.toItem.fields }
  obtain ⟨document, _, isRead⟩ := Option.bind_eq_some_iff.mp isWire
  have carried : WireItem.Carried 124 (WireItem.ofItem changed) :=
    WireItem.carried_ofItem_store (WireItem.carried_of_read isRead) request.field request.value
  obtain ⟨served, found, sameFields⟩ := itemTitled?_of_putItem keeps listing vaultFound
    listedFound isWire rfl rfl rfl carried run
  have newTitled : Field.titled request.field (Field.concealed request.field request.value) =
      true := Text.sameTitle_self request.field
  obtain ⟨field, selected, isValue⟩ := selected_of_stored newTitled rfl
    (Field.store_eq request.field request.value wire.toItem.fields) served sameFields
  exact ⟨served, field, found, selected, isValue⟩

/-- A field that is like the one of a new item has its label and its value. -/
theorem field_of_content {fields : List WireField} {title value : String}
    (same : fields.map WireField.content =
      [WireField.ofField (Field.concealed title value)].map WireField.content) :
    ∃ field, fields = [field] ∧ field.label = some title ∧ field.value = some value := by
  obtain ⟨field, rest, rfl, isField, noRest⟩ := List.map_eq_cons_iff.mp same
  rw [List.map_nil, List.map_eq_nil_iff] at noRest
  subst noRest
  exact ⟨field, rfl, Prod.mk.inj isField⟩

/-- After an item was created with the value, the value is selected. -/
theorem selects_of_createItem (keeps : server.Keeps client) {made : Item}
    (vaultFound : server.vaultTitled? client request.vault state = some vault)
    {items : List WireItemSummary} (isItems : server.items? client vault.id state = some items)
    (missing : ItemSummary.find? request.item (items.map WireItemSummary.toItem) = none)
    (run : client.backend server (.createItem (Upsert.newItem request vault.id)) state =
      (.ok made, after)) :
    Selects client server request [] after := by
  let sent := WireItem.ofNewItem (Upsert.newItem request vault.id)
  obtain ⟨accepted, isAfter⟩ := of_createItem_ok (Client.of_asStore_ok run)
  have carried : WireItem.Carried 124 sent := by
    refine ⟨.nil WireItem.partNames 126, ?_⟩
    intro field member
    rw [List.mem_singleton.mp member]
    exact .nil WireField.partNames 124
  have again : WireItem.read Json.Document.depthLimit (Json.Document.ofValue sent.encode) =
      some sent := WireItem.read_encode carried
  obtain ⟨sameVaults, creates⟩ := keeps.created state vault.id sent.encode sent accepted again
  obtain ⟨early, late, served, split, relisted, isServed, sameFields⟩ := creates items isItems
  change after = (server (client.request .post (Client.itemsPath vault.id) (some sent.encode))
    state).2 at isAfter
  rw [← isAfter] at sameVaults relisted isServed
  obtain ⟨field, isField, isLabel, isValue⟩ := field_of_content sameFields
  -- nothing that was listed has the title, so the new item is found
  have vaultFoundAfter : server.vaultTitled? client request.vault after = some vault := by
    rw [vaultTitled?, sameVaults]
    exact vaultFound
  have listedFoundAfter : server.listedTitled? client vault.id request.item after =
      some ⟨served.id, request.item, Category.ofName sent.category⟩ := by
    rw [listedTitled?, relisted, Option.bind_some]
    rw [split, List.map_append, ItemSummary.find?, List.find?_append] at missing
    have noneEarly := (Option.or_eq_none_iff.mp missing).1
    have matched : Text.sameTitle request.item request.item = true := Text.sameTitle_self _
    rw [List.map_append, ItemSummary.find?, List.find?_append, noneEarly, Option.none_or]
    exact List.find?_cons_of_pos matched
  refine ⟨served.toItem, field.toField, ?_, ?_, ?_⟩
  · rw [itemTitled?, vaultFoundAfter, Option.bind_some, listedFoundAfter, Option.bind_some,
      isServed]
    rfl
  · have matched : isNamed request.field field.toField = true := by
      simp [isNamed, WireField.toField, isLabel]
    have fields : served.toItem.fields = [field.toField] :=
      congrArg (List.map WireField.toField) isField
    simp only [selectField?, fields, List.find?_cons, matched]
  · rw [WireField.toField, isValue]
    rfl

/-- After an upsert that succeeds, the value is selected unless a shadow comes first. -/
theorem selects_of_upsert (keeps : server.Keeps client)
    (listing : server.ServesListed client state) {outcome : UpsertOutcome}
    (run : (upsert request).on (client.backend server) state = (.ok outcome, after)) :
    Selects client server request
      (server.fieldsTitled client request.vault request.item state) after := by
  obtain ⟨vaults, vaultsRead, vault, items, itemsRead, listVaults, selected, listItems, wrote⟩ :=
    of_upsert_ok run
  obtain ⟨rfl, isVaults⟩ := Client.of_listVaults_ok keeps listVaults
  obtain ⟨rfl, isItems⟩ := Client.of_listItems_ok keeps listItems
  obtain ⟨vaultWires, isVaultWires, rfl⟩ := Option.map_eq_some_iff.mp isVaults
  obtain ⟨itemWires, isItemWires, rfl⟩ := Option.map_eq_some_iff.mp isItems
  have vaultFound : server.vaultTitled? client request.vault itemsRead = some vault := by
    rw [vaultTitled?, isVaultWires]
    exact selected
  rw [fieldsTitled, itemTitled?, vaultFound, Option.bind_some, listedTitled?, isItemWires,
    Option.bind_some]
  rcases wrote with ⟨listed, item, itemRead, isListed, getItem, putItem⟩ |
    ⟨made, missing, createItem⟩
  · obtain ⟨rfl, isItem⟩ := Client.of_getItem_ok keeps getItem
    obtain ⟨wire, isWire, rfl⟩ := Option.map_eq_some_iff.mp isItem
    have listedFound : server.listedTitled? client vault.id request.item itemRead =
        some listed := by
      rw [listedTitled?, isItemWires]
      exact isListed
    rw [isListed, Option.bind_some, isWire]
    exact selects_of_putItem keeps listing vaultFound listedFound isWire putItem
  · rw [missing]
    exact selects_of_createItem keeps vaultFound isItemWires missing createItem

/-- On a server that keeps items, what was written is read back unless another field comes
first that has the name as its id, ignoring case. -/
theorem resolve_iff (keeps : server.Keeps client) (listing : server.ServesListed client state)
    {outcome : UpsertOutcome}
    (run : (upsert request).on (client.backend server) state = (.ok outcome, after))
    {reference : Reference}
    (built : Reference.ofParts? request.vault request.item request.field = some reference)
    (filled : request.value ≠ "") :
    (client.backend server (.resolve reference) after).1 = .ok request.value ↔
      ∀ field, Field.shadow? (fun field => Text.sameTitle field.id request.field) request.field
        (server.fieldsTitled client request.vault request.item state) = some field →
          field.value = request.value := by
  cases Reference.eq_of_ofParts? built
  obtain ⟨item, field, found, selected, isValue⟩ := selects_of_upsert keeps listing run
  obtain ⟨failure, resolved⟩ : ∃ failure, (client.backend server
      (.resolve ⟨request.vault, request.item, request.field⟩) after).1 =
        if field.value.isEmpty then .error failure else .ok field.value :=
    resolve_of_found keeps found selected
  rw [resolved]
  exact Field.read_eq_ok_iff isValue filled

end Connect.Server

end SecretRefs

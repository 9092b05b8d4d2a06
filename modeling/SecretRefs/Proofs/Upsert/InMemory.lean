import SecretRefs.Proofs.Session
import SecretRefs.Proofs.Store.Answer
import SecretRefs.Proofs.Upsert.Fields

/-!
# Upserts on a store in memory

An upsert lists vaults and items, takes ids from the lists, and reads and writes by them.
`upserted` is the same as one transition that knows titles only: it changes the first item
with the title in the first vault with the title, or adds one there. `on_upsert` says that
the two agree on every sound store, failing calls and the record of calls included.

The agreement needs the invariant: an id leads back to the thing it was taken from
(`listedItem?_eq`), and only a new field is numbered (`numberFields_store`).
-/

namespace SecretRefs

/-- The end of an upsert tells the kind as an outcome. -/
theorem Upsert.on_report {State : Type} (backend : Store.Backend State) (request : UpsertRequest)
    (written : Session UpsertKind) (state : State) :
    (do
      let kind ← written
      Session.log (writtenEvent (request.outcome kind))
      pure (request.outcome kind)).on backend state =
      ((written.on backend state).1.map request.outcome, (written.on backend state).2) := by
  rw [Session.on_bind]
  rcases written.on backend state with ⟨failure | kind, after⟩
  · rfl
  · rfl

namespace Store.Memory

variable {memory : Memory} {shelf : Shelf} {item : Item}

/-- A test for items with a title. -/
def titled (title : String) (item : Item) : Bool :=
  Text.sameTitle item.title title

/-- A test for shelves of vaults with a title. -/
def shelved (title : String) (shelf : Shelf) : Bool :=
  Text.sameTitle shelf.vault.title title

/-- The fields after a value is stored under a title, and the counter after it. -/
def storeField (issued : Nat) (title value : String) (fields : List Field) : List Field × Nat :=
  if fields.any (Field.titled title) then
    (updateFirst (Field.titled title) (fun field => { field with value }) fields, issued)
  else
    (fields ++ [newField title value (issued + 1)], issued + 1)

/-- The new item of a request, with the ids that it gets. -/
def createdItem (request : UpsertRequest) (vaultId : String) (issued : Nat) : Item where
  id := idText "item" (issued + 1)
  vaultId := vaultId
  title := request.item
  category := request.category
  fields := [newField request.field request.value (issued + 2)]
  extra := []

/-- Changes the items of the first vault with a title. -/
def changeItems (memory : Memory) (vault : String) (change : List Item → List Item) : Memory :=
  { memory with
    shelves := updateFirst (shelved vault) (fun shelf => { shelf with items := change shelf.items })
      memory.shelves }

/-- Stores a value in the first item with the title, which is `item`. -/
def overwritten (request : UpsertRequest) (item : Item) (memory : Memory) : Memory :=
  let stored := storeField memory.issued request.field request.value item.fields
  { memory.changeItems request.vault (updateFirst (titled request.item)
      fun old => { old with fields := stored.1 }) with issued := stored.2 }

/-- Adds an item with the value. -/
def extended (request : UpsertRequest) (vaultId : String) (memory : Memory) : Memory :=
  { memory.changeItems request.vault (· ++ [createdItem request vaultId memory.issued]) with
    issued := memory.issued + 2 }

@[simp] theorem overwritten_recorded (request : UpsertRequest) (calls : List CallRecord) :
    (memory.recorded calls).overwritten request item =
      (memory.overwritten request item).recorded calls := rfl

@[simp] theorem extended_recorded (request : UpsertRequest) (vaultId : String)
    (calls : List CallRecord) :
    (memory.recorded calls).extended request vaultId =
      (memory.extended request vaultId).recorded calls := rfl

/-- What an injected failure makes of a step. -/
def failed {α : Type} (step : WriteStep) (detail : String) : Except Failure α :=
  .error (.write step (.store detail none))

/-- An upsert to an item that is there. -/
def rewritten (request : UpsertRequest) (shelf : Shelf) (item : Item) (memory : Memory) :
    Except Failure UpsertKind × Memory :=
  let listed : List CallRecord :=
    [.listVaults, .listItems shelf.vault.id, .getItem shelf.vault.id item.id]
  match memory.failures.lookup .getItem with
  | some detail => (failed .getItem detail, memory.recorded listed)
  | none =>
    let listed := listed ++ [.putItem shelf.vault.id item.id]
    match memory.failures.lookup .putItem with
    | some detail => (failed .putItem detail, memory.recorded listed)
    | none => (.ok .updated, (memory.overwritten request item).recorded listed)

/-- An upsert to an item that is not there. -/
def appended (request : UpsertRequest) (shelf : Shelf) (memory : Memory) :
    Except Failure UpsertKind × Memory :=
  let listed : List CallRecord :=
    [.listVaults, .listItems shelf.vault.id, .createItem shelf.vault.id request.item]
  match memory.failures.lookup .createItem with
  | some detail => (failed .createItem detail, memory.recorded listed)
  | none =>
    (.ok .created, (memory.extended request shelf.vault.id).recorded listed)

/-- An upsert as one transition. -/
def upserted (request : UpsertRequest) (memory : Memory) :
    Except Failure UpsertOutcome × Memory :=
  match memory.failures.lookup .listVaults with
  | some detail => (failed .listVaults detail, memory.recorded [.listVaults])
  | none =>
    match memory.shelfTitled? request.vault with
    | none =>
      (.error (.vaultNotFound request.vault (memory.vaults.map VaultSummary.title)),
        memory.recorded [.listVaults])
    | some shelf =>
      match memory.failures.lookup .listItems with
      | some detail =>
        (failed .listItems detail, memory.recorded [.listVaults, .listItems shelf.vault.id])
      | none =>
        let written := match shelf.items.find? (titled request.item) with
          | some item => memory.rewritten request shelf item
          | none => memory.appended request shelf
        (written.1.map request.outcome, written.2)

/-! ## What the steps of an upsert find and write -/

/-- The items that an id of a vault and its title lead to are the same. -/
theorem Sound.updateItems_eq (sound : Sound memory) {title : String}
    (found : memory.shelfTitled? title = some shelf) (change : List Item → List Item) :
    memory.updateItems shelf.vault.id change = memory.changeItems title change := by
  have same := updateFirst_key (fun shelf : Shelf => shelf.vault.id)
    (fun shelf => { shelf with items := change shelf.items }) sound.vaultKeys found
  unfold updateItems changeItems
  exact congrArg (fun shelves => { memory with shelves }) same

/-- Only what becomes of the items of the first vault with the title counts. -/
theorem changeItems_congr {title : String} {change change' : List Item → List Item}
    (found : memory.shelfTitled? title = some shelf)
    (same : change shelf.items = change' shelf.items) :
    memory.changeItems title change = memory.changeItems title change' := by
  have foundShelf : memory.shelves.find? (shelved title) = some shelf := found
  refine congrArg (fun shelves : List Shelf => { memory with shelves })
    (updateFirst_congr foundShelf ?_)
  exact congrArg (Shelf.mk shelf.vault) same

/-- Of the fields that an upsert writes back, at most a new one is numbered. -/
theorem numberFields_store {fields : List Field} (numbered : ∀ field ∈ fields, field.id ≠ "")
    (issued : Nat) (title value : String) :
    numberFields issued (Field.store title value fields) =
      storeField issued title value fields := by
  unfold storeField
  rw [Field.store_eq]
  split
  · apply numberFields_of_numbered
    intro field member
    rcases mem_updateFirst member with old | ⟨old, oldMember, _, rfl⟩
    · exact numbered field old
    · exact numbered old oldMember
  · rw [numberFields_append numbered, numberFields_concealed]

theorem Sound.perform_listItems (sound : Sound memory) (member : shelf ∈ memory.shelves) :
    memory.perform (.listItems shelf.vault.id) =
      (.ok (shelf.items.map Item.summary), memory) := by
  simp [Memory.perform, sound.shelf?_eq member]

theorem Sound.perform_getItem (sound : Sound memory) (member : shelf ∈ memory.shelves)
    (inShelf : item ∈ shelf.items) :
    memory.perform (.getItem shelf.vault.id item.id) = (.ok item, memory) := by
  simp only [Memory.perform, sound.listedItem?_eq member inShelf]

/-- Writing the changed item back changes the first item with the title. -/
theorem Sound.perform_putItem (sound : Sound memory) {request : UpsertRequest}
    (found : memory.shelfTitled? request.vault = some shelf)
    (itemFound : shelf.items.find? (titled request.item) = some item) :
    memory.perform (.putItem
        { item with fields := Field.store request.field request.value item.fields }) =
      (.ok (), memory.overwritten request item) := by
  have member : shelf ∈ memory.shelves := List.mem_of_find?_eq_some found
  have inShelf : item ∈ shelf.items := List.mem_of_find?_eq_some itemFound
  have numbered := sound.numbered item (List.mem_flatMap.mpr ⟨shelf, member, inShelf⟩)
  have stored := numberFields_store numbered memory.issued request.field request.value
  have present := sound.listedItem?_eq member inShelf
  have byId := sound.updateItems_eq found
  rw [← sound.housed shelf member item inShelf] at present byId
  have byTitle : memory.updateItems item.vaultId
      (updateFirst (fun stored => stored.id == item.id) fun _ => { item with
        fields := (storeField memory.issued request.field request.value item.fields).1 }) =
      memory.changeItems request.vault (updateFirst (titled request.item) fun old => { old with
        fields := (storeField memory.issued request.field request.value item.fields).1 }) := by
    rw [byId]
    apply changeItems_congr found
    rw [updateFirst_key Item.id _ (sound.shelfIds member) itemFound]
    exact updateFirst_congr itemFound rfl
  simp only [Memory.perform, stored]
  split
  · exact congrArg (fun changed : Memory => ((.ok () : Except Failure Unit), { changed with
      issued := (storeField memory.issued request.field request.value item.fields).2 })) byTitle
  · rename_i missing
    have contradiction : (none : Option Item) = some item := missing.symm.trans present
    cases contradiction

/-- Creating the item adds it to the vault with the title. -/
theorem Sound.perform_createItem (sound : Sound memory) {request : UpsertRequest}
    (found : memory.shelfTitled? request.vault = some shelf) :
    memory.perform (.createItem (Upsert.newItem request shelf.vault.id)) =
      (.ok (createdItem request shelf.vault.id memory.issued),
        memory.extended request shelf.vault.id) := by
  have member : shelf ∈ memory.shelves := List.mem_of_find?_eq_some found
  have created := sound.updateItems_eq found
    (· ++ [createdItem request shelf.vault.id memory.issued])
  simp only [Memory.perform, Upsert.newItem, sound.shelf?_eq member, numberFields_concealed]
  exact congrArg (fun changed : Memory =>
    ((.ok (createdItem request shelf.vault.id memory.issued) : Except Failure Item),
      { changed with issued := memory.issued + 2 })) created

/-! ## The agreement -/

/-- To change an item that is there is to overwrite it by title. -/
theorem on_update (sound : Sound memory) {request : UpsertRequest}
    (found : memory.shelfTitled? request.vault = some shelf)
    (itemFound : shelf.items.find? (titled request.item) = some item) :
    (Upsert.update request shelf.vault.id item.id).on answer
        (memory.recorded [.listVaults, .listItems shelf.vault.id]) =
      memory.rewritten request shelf item := by
  have member : shelf ∈ memory.shelves := List.mem_of_find?_eq_some found
  have inShelf : item ∈ shelf.items := List.mem_of_find?_eq_some itemFound
  have housed := sound.housed shelf member item inShelf
  unfold Upsert.update rewritten
  rw [Session.on_bind, Session.on_callDuring]
  cases getItem : memory.failures.lookup .getItem with
  | some detail =>
    rw [answer_of_failing (memory.recorded _) (.getItem _ _) getItem]
    simp [failed, Call.record, Except.mapError]
  | none =>
    rw [answer_of_permitted (memory.recorded _) (.getItem _ _) getItem, recorded_recorded,
      (sound.recorded _).perform_getItem member inShelf]
    simp only [Except.mapError, Session.resume_ok]
    rw [Session.on_bind, Session.on_log, Session.resume_ok, Session.on_bind,
      Session.on_callDuring]
    cases putItem : memory.failures.lookup .putItem with
    | some detail =>
      rw [answer_of_failing (memory.recorded _) (.putItem _) putItem]
      simp [failed, Call.record, Except.mapError, housed]
    | none =>
      rw [answer_of_permitted (memory.recorded _) (.putItem _) putItem, recorded_recorded,
        (sound.recorded _).perform_putItem found itemFound]
      simp [Except.mapError, Call.record, housed]

/-- To create an item is to add one by title. -/
theorem on_create (sound : Sound memory) {request : UpsertRequest}
    (found : memory.shelfTitled? request.vault = some shelf) :
    (Upsert.create request shelf.vault.id).on answer
        (memory.recorded [.listVaults, .listItems shelf.vault.id]) =
      memory.appended request shelf := by
  unfold Upsert.create appended
  rw [Session.on_bind, Session.on_callDuring]
  cases createItem : memory.failures.lookup .createItem with
  | some detail =>
    rw [answer_of_failing (memory.recorded _) (.createItem _) createItem]
    simp [failed, Call.record, Except.mapError, Upsert.newItem]
  | none =>
    rw [answer_of_permitted (memory.recorded _) (.createItem _) createItem, recorded_recorded,
      (sound.recorded _).perform_createItem found]
    simp [Except.mapError, Call.record, Upsert.newItem]

/-- The first vault with a title in the list is the one whose shelf is found. -/
theorem find?_vaults (title : String) (memory : Memory) :
    VaultSummary.find? title memory.vaults = (memory.shelfTitled? title).map Shelf.vault := by
  unfold VaultSummary.find? vaults
  rw [List.find?_map]
  rfl

/-- The vault that an upsert picks from the list is the first one with the title. -/
theorem select_vaults (title : String) (memory : Memory) :
    VaultSummary.select title memory.vaults =
      match memory.shelfTitled? title with
      | some shelf => .ok shelf.vault
      | none => .error (.vaultNotFound title (memory.vaults.map VaultSummary.title)) := by
  unfold VaultSummary.select
  rw [find?_vaults]
  cases memory.shelfTitled? title with
  | none => rfl
  | some shelf => rfl

/-- The item that an upsert picks from the list is the first one with the title. -/
theorem find?_summaries (title : String) (items : List Item) :
    ItemSummary.find? title (items.map Item.summary) =
      (items.find? (titled title)).map Item.summary := by
  unfold ItemSummary.find?
  rw [List.find?_map]
  rfl

/-- An upsert on a sound store is one transition. -/
theorem on_upsert (sound : Sound memory) (request : UpsertRequest) :
    (upsert request).on answer memory = memory.upserted request := by
  unfold upsert upserted
  rw [Session.on_bind, Session.on_callDuring]
  cases listVaults : memory.failures.lookup .listVaults with
  | some detail =>
    rw [answer_of_failing memory .listVaults listVaults]
    simp [failed, Call.record, Except.mapError]
  | none =>
    rw [answer_of_permitted memory .listVaults listVaults]
    simp only [perform, Except.mapError, Session.resume_ok]
    rw [Session.on_bind, Session.on_mk_pure, recorded_shelves, ← vaults, select_vaults]
    cases found : memory.shelfTitled? request.vault with
    | none => rfl
    | some shelf =>
      simp only [Session.resume_ok]
      have member : shelf ∈ memory.shelves := List.mem_of_find?_eq_some found
      rw [Session.on_bind, Session.on_callDuring]
      cases listItems : memory.failures.lookup .listItems with
      | some detail =>
        rw [answer_of_failing (memory.recorded _) (.listItems _) listItems]
        simp [failed, Call.record, Except.mapError]
      | none =>
        rw [answer_of_permitted (memory.recorded _) (.listItems _) listItems, recorded_recorded,
          (sound.recorded _).perform_listItems member]
        simp only [Except.mapError, Session.resume_ok, find?_summaries, Call.record,
          List.cons_append, List.nil_append]
        cases itemFound : shelf.items.find? (titled request.item) with
        | none =>
          simp only [Option.map_none]
          rw [Upsert.on_report, on_create sound found]
        | some item =>
          simp only [Option.map_some]
          rw [Upsert.on_report]
          simp only [Item.summary]
          rw [on_update sound found itemFound]

end Store.Memory

end SecretRefs

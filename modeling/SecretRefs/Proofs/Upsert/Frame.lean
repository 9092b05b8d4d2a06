import SecretRefs.Proofs.Store.Numbering
import SecretRefs.Proofs.Upsert.Effect

/-!
# What an upsert leaves alone

`StoresField`, `StoresItem` and `StoresSecret` say in full how a list of fields, the items of
a vault and a whole store differ after an upsert, so whatever they do not name is the same.
A second upsert finds its secret stored already, and then writing it is no change
(`overwritten_of_held`).
-/

namespace SecretRefs.Store.Memory

variable {memory after : Memory} {shelf : Shelf} {item : Item} {request : UpsertRequest}

/-- How the fields of an item of a store change when a value is stored under a title, with the
counter of ids afterwards. -/
inductive StoresField (title value : String) (memory : Memory) (fields : List Field) :
    List Field → Nat → Prop where
  /-- The first field with the title gets the value. -/
  | overwritten {early late : List Field} {field : Field}
      (split : fields = early ++ field :: late)
      (earlier : ∀ one ∈ early, Field.titled title one = false)
      (matched : Field.titled title field = true) :
      StoresField title value memory fields (early ++ { field with value } :: late)
        memory.issued
  /-- There is no field with the title, and a concealed one with a new id is added. -/
  | appended (missing : ∀ one ∈ fields, Field.titled title one = false)
      {id : String} (isId : id = idText "field" (memory.issued + 1)) (new : New memory id) :
      StoresField title value memory fields (fields ++ [⟨id, title, value, .concealed, []⟩])
        (memory.issued + 1)

/-- How the items of a vault of a store change, with the counter of ids afterwards. -/
inductive StoresItem (request : UpsertRequest) (vaultId : String) (memory : Memory)
    (items : List Item) : UpsertKind → List Item → Nat → Prop where
  /-- The fields of the first item with the title change. -/
  | updated {early late : List Item} {item : Item} {fields : List Field} {counter : Nat}
      (split : items = early ++ item :: late)
      (earlier : ∀ one ∈ early, titled request.item one = false)
      (matched : titled request.item item = true)
      (stores : StoresField request.field request.value memory item.fields fields counter) :
      StoresItem request vaultId memory items .updated (early ++ { item with fields } :: late)
        counter
  /-- There is no item with the title, and one with a concealed field is added; both ids are
  new. -/
  | created (missing : ∀ one ∈ items, titled request.item one = false)
      {itemId fieldId : String} (isItemId : itemId = idText "item" (memory.issued + 1))
      (isFieldId : fieldId = idText "field" (memory.issued + 2)) (newItem : New memory itemId)
      (newField : New memory fieldId) :
      StoresItem request vaultId memory items .created
        (items ++ [⟨itemId, vaultId, request.item, request.category,
          [⟨fieldId, request.field, request.value, .concealed, []⟩], []⟩])
        (memory.issued + 2)

/-- How a store changes: the items of the first vault with the title do, the counter of ids
goes on, and calls are recorded. -/
inductive StoresSecret (request : UpsertRequest) (memory : Memory) :
    UpsertKind → Memory → Prop where
  | change {early late : List Shelf} {shelf : Shelf} {kind : UpsertKind} {items : List Item}
      {counter : Nat} (calls : List CallRecord)
      (split : memory.shelves = early ++ shelf :: late)
      (earlier : ∀ one ∈ early, shelved request.vault one = false)
      (matched : shelved request.vault shelf = true)
      (stores : StoresItem request shelf.vault.id memory shelf.items kind items counter) :
      StoresSecret request memory kind { memory with
        shelves := early ++ { shelf with items } :: late
        calls := memory.calls ++ calls
        issued := counter }

theorem storesField (title value : String) (memory : Memory) (fields : List Field) :
    StoresField title value memory fields (storeField memory.issued title value fields).1
      (storeField memory.issued title value fields).2 := by
  unfold storeField
  cases found : fields.find? (Field.titled title) with
  | some field =>
    have present : fields.any (Field.titled title) = true := by
      rw [← List.isSome_find?, found]
      rfl
    obtain ⟨early, late, split, earlier, matched⟩ := split_of_find? found
    rw [if_pos present]
    dsimp only
    rw [split, updateFirst_append_cons earlier matched]
    exact .overwritten rfl earlier matched
  | none =>
    have absent : fields.any (Field.titled title) = false := by
      rw [← List.isSome_find?, found]
      rfl
    rw [if_neg (by simp [absent])]
    refine .appended ?_ rfl (new_of_lt (by decide) (Nat.lt_succ_self memory.issued))
    intro one member
    simpa using List.find?_eq_none.mp found one member

namespace Wrote

variable {kind : UpsertKind}

/-- Carrying out a request changes nothing but what is to be stored. -/
theorem storesSecret (wrote : Wrote request memory kind after) :
    StoresSecret request memory kind after := by
  cases wrote with
  | @updated shelf item calls found itemFound =>
    let stored := storeField memory.issued request.field request.value item.fields
    obtain ⟨first, last, itemSplit, firstEarlier, itemMatched⟩ := split_of_find? itemFound
    obtain ⟨early, late, split, earlier, matched, shelves⟩ := shelves_changeItems found
      (updateFirst (titled request.item) fun old => { old with fields := stored.1 })
    rw [itemSplit, updateFirst_append_cons firstEarlier itemMatched] at shelves
    have changed : (memory.overwritten request item).recorded calls = _ :=
      congrArg (fun shelves => ({ memory with
        shelves
        calls := memory.calls ++ calls
        issued := stored.2 } : Memory)) shelves
    rw [changed]
    exact .change calls split earlier matched
      (.updated itemSplit firstEarlier itemMatched (storesField ..))
  | @created shelf calls found missing =>
    obtain ⟨early, late, split, earlier, matched, shelves⟩ := shelves_changeItems found
      (· ++ [createdItem request shelf.vault.id memory.issued])
    have changed : (memory.extended request shelf.vault.id).recorded calls = _ :=
      congrArg (fun shelves => ({ memory with
        shelves
        calls := memory.calls ++ calls
        issued := memory.issued + 2 } : Memory)) shelves
    have absent : ∀ one ∈ shelf.items, titled request.item one = false := by
      intro one member
      simpa using List.find?_eq_none.mp missing one member
    rw [changed]
    exact .change calls split earlier matched (.created absent rfl rfl
      (new_of_lt (by decide) (by omega)) (new_of_lt (by decide) (by omega)))

end Wrote

/-- What it takes for a place to hold a secret. -/
theorem of_secretTitled? {vault title name value : String}
    (held : memory.secretTitled? vault title name = some value) :
    ∃ shelf item field, memory.shelfTitled? vault = some shelf ∧
      shelf.items.find? (titled title) = some item ∧
      item.fields.find? (Field.titled name) = some field ∧ field.value = value := by
  obtain ⟨item, itemFound, valueFound⟩ := Option.bind_eq_some_iff.mp held
  obtain ⟨shelf, found, inShelf⟩ := Option.bind_eq_some_iff.mp itemFound
  obtain ⟨field, fieldFound, isValue⟩ := Option.map_eq_some_iff.mp valueFound
  exact ⟨shelf, item, field, found, inShelf, fieldFound, isValue⟩

theorem storeField_of_held {title value : String} {fields : List Field} {field : Field}
    (found : fields.find? (Field.titled title) = some field) (held : field.value = value)
    (issued : Nat) : storeField issued title value fields = (fields, issued) := by
  subst held
  have present : fields.any (Field.titled title) = true := by
    rw [← List.isSome_find?, found]
    rfl
  have unchanged : updateFirst (Field.titled title)
      (fun old => { old with value := field.value }) fields = fields :=
    updateFirst_of_unchanged found rfl
  rw [storeField, if_pos present, unchanged]

/-- To write a secret where it is already is no change. -/
theorem overwritten_of_held {field : Field}
    (found : memory.shelfTitled? request.vault = some shelf)
    (itemFound : shelf.items.find? (titled request.item) = some item)
    (fieldFound : item.fields.find? (Field.titled request.field) = some field)
    (held : field.value = request.value) : memory.overwritten request item = memory := by
  have sameItems : updateFirst (titled request.item) (fun old => { old with
      fields := item.fields }) shelf.items = shelf.items :=
    updateFirst_of_unchanged itemFound rfl
  have sameShelves : updateFirst (shelved request.vault) (fun shelf => { shelf with
      items := updateFirst (titled request.item) (fun old => { old with
        fields := item.fields }) shelf.items }) memory.shelves = memory.shelves := by
    have foundShelf : memory.shelves.find? (shelved request.vault) = some shelf := found
    apply updateFirst_of_unchanged foundShelf
    rw [sameItems]
  rw [overwritten, storeField_of_held fieldFound held]
  exact congrArg (fun shelves => ({ memory with shelves } : Memory)) sameShelves

/-- An upsert of a secret that is there already changes nothing but the record of calls. It
succeeds unless reading or writing the item is made to fail. -/
theorem upserted_of_held
    (held : memory.secretTitled? request.vault request.item request.field = some request.value)
    (listVaults : memory.failures.lookup .listVaults = none)
    (listItems : memory.failures.lookup .listItems = none) :
    (∃ calls, (memory.upserted request).2 = memory.recorded calls) ∧
      (memory.upserted request).1 =
        match memory.failures.lookup .getItem, memory.failures.lookup .putItem with
        | some detail, _ => failed .getItem detail
        | none, some detail => failed .putItem detail
        | none, none => .ok (request.outcome .updated) := by
  obtain ⟨shelf, item, field, found, itemFound, fieldFound, isValue⟩ := of_secretTitled? held
  have unchanged := overwritten_of_held found itemFound fieldFound isValue
  simp only [upserted, listVaults, found, listItems, itemFound, rewritten, unchanged]
  cases memory.failures.lookup .getItem with
  | some detail => exact ⟨⟨_, rfl⟩, rfl⟩
  | none =>
    cases memory.failures.lookup .putItem with
    | some detail => exact ⟨⟨_, rfl⟩, rfl⟩
    | none => exact ⟨⟨_, rfl⟩, rfl⟩

/-- A successful upsert changes only what `StoresSecret` says. The same upsert after it changes
nothing but the record of calls; it succeeds with an update unless reading or writing items is
made to fail, as can be only if the first upsert created the item. -/
theorem upsert_frame {outcome : UpsertOutcome} (reachable : Reachable memory)
    (run : (upsert request).on answer memory = (.ok outcome, after)) :
    ∃ kind, outcome = request.outcome kind ∧ StoresSecret request memory kind after ∧
      (∃ calls, ((upsert request).on answer after).2 = after.recorded calls) ∧
      ((upsert request).on answer after).1 =
        (match memory.failures.lookup .getItem, memory.failures.lookup .putItem with
        | some detail, _ => .error (.write .getItem (.store detail none))
        | none, some detail => .error (.write .putItem (.store detail none))
        | none, none => .ok (request.outcome .updated)) ∧
      (kind = .updated →
        memory.failures.lookup .getItem = none ∧ memory.failures.lookup .putItem = none) := by
  have afterReachable := reachable.on (upsert request)
  rw [run] at afterReachable
  rw [on_upsert reachable.sound] at run
  obtain ⟨kind, isOutcome, wrote, listVaults, listItems, itemCalls⟩ := upserted_ok run
  have held : after.secretTitled? request.vault request.item request.field =
      some request.value := by
    rw [wrote.secretTitled?_eq]
    simp [UpsertRequest.addresses]
  rw [← wrote.failures_eq] at listVaults listItems
  obtain ⟨onlyCalls, result⟩ := upserted_of_held held listVaults listItems
  rw [wrote.failures_eq] at result
  refine ⟨kind, isOutcome, wrote.storesSecret, ?_, ?_, itemCalls⟩
  · rw [on_upsert afterReachable.sound]
    exact onlyCalls
  · rw [on_upsert afterReachable.sound]
    exact result

/-- Two equal upserts to a field that is there under a title in lower case. -/
theorem update_frame :
    let memory := (Memory.empty.addItem "Work" "Mail" [("token", "old")]).2
    let request : UpsertRequest := ⟨"Work", "Mail", "TOKEN", "new", .login⟩
    ∃ after, (upsert request).on answer memory = (.ok (request.outcome .updated), after) ∧
      StoresSecret request memory .updated after ∧
      ((upsert request).on answer after).1 = .ok (request.outcome .updated) := by
  intro memory request
  have reachable : Reachable memory := .addItem "Work" "Mail" [("token", "old")] .empty
  have updated : ((upsert request).on answer memory).1 = .ok (request.outcome .updated) := by
    decide +kernel +zetaReduce
  have run : (upsert request).on answer memory = (.ok (request.outcome .updated), _) :=
    Prod.ext updated rfl
  obtain ⟨kind, isOutcome, stores, _, again, _⟩ := upsert_frame reachable run
  cases isOutcome
  exact ⟨_, run, stores, again⟩

/-- The second of two equal upserts need not succeed: the first one may create an item that
cannot be read. -/
theorem second_upsert_fails :
    let memory := (Memory.empty.addVault "Work").2.failOn .getItem "down"
    let request : UpsertRequest := ⟨"Work", "Mail", "token", "new", .login⟩
    Reachable memory ∧ ∃ after,
      (upsert request).on answer memory = (.ok (request.outcome .created), after) ∧
        ((upsert request).on answer after).1 ≠ .ok (request.outcome .updated) := by
  intro memory request
  have created : ((upsert request).on answer memory).1 = .ok (request.outcome .created) := by
    decide +kernel +zetaReduce
  refine ⟨.failOn .getItem "down" (.addVault "Work" .empty), _, Prod.ext created rfl, ?_⟩
  have failing : ((upsert request).on answer ((upsert request).on answer memory).2).1 =
      failed .getItem "down" := by
    decide +kernel +zetaReduce
  rw [failing]
  exact nofun

end SecretRefs.Store.Memory

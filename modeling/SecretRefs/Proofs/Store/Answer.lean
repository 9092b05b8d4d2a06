import SecretRefs.Proofs.Store.Reachable

/-!
# Answers by ids

A call is recorded, and it is performed on the store with the record if calls of its kind are
not made to fail. In a sound store the id of a vault leads to its shelf, and the id of an item to
the item on the shelf.
-/

namespace SecretRefs.Store.Memory

variable {memory : Memory} {shelf : Shelf} {item : Item} {vaultId itemId : String}

/-- The store after more calls were recorded. -/
def recorded (memory : Memory) (calls : List CallRecord) : Memory :=
  { memory with calls := memory.calls ++ calls }

@[simp] theorem recorded_shelves (calls : List CallRecord) :
    (memory.recorded calls).shelves = memory.shelves := rfl

@[simp] theorem recorded_recorded (calls more : List CallRecord) :
    (memory.recorded calls).recorded more = memory.recorded (calls ++ more) := by
  simp [recorded]

/-- A call whose kind does not fail is recorded and performed. -/
theorem answer_of_permitted (memory : Memory) (call : Call)
    (permitted : memory.failures.lookup call.kind = none) :
    memory.answer call = (memory.recorded [call.record]).perform call := by
  simp only [answer, enter, permitted]
  rfl

/-- A call whose kind fails is recorded. -/
theorem answer_of_failing (memory : Memory) (call : Call) {detail : String}
    (failing : memory.failures.lookup call.kind = some detail) :
    memory.answer call = (.error (.store detail none), memory.recorded [call.record]) := by
  simp only [answer, enter, failing]
  rfl

/-! ## Look-ups by ids -/

/-- The shelves have ids of their own. -/
theorem Sound.vaultKeys (sound : Sound memory) :
    (memory.shelves.map fun shelf => shelf.vault.id).Nodup := by
  have distinct := sound.vaultIds
  rw [vaults, List.map_map] at distinct
  exact distinct

/-- Recorded calls do not matter to the invariant. -/
theorem Sound.recorded (sound : Sound memory) (calls : List CallRecord) :
    Sound (memory.recorded calls) :=
  sound.mono rfl (Nat.le_refl _)

/-- The id of a vault leads to its shelf. -/
theorem Sound.shelf?_eq (sound : Sound memory) (member : shelf ∈ memory.shelves) :
    memory.shelf? shelf.vault.id = some shelf :=
  find?_key (fun shelf : Shelf => shelf.vault.id) sound.vaultKeys member

/-- The items of a shelf have ids of their own. -/
theorem Sound.shelfIds (sound : Sound memory) (member : shelf ∈ memory.shelves) :
    (shelf.items.map Item.id).Nodup := by
  have part : (shelf.items.map Item.id).Sublist (memory.items.map Item.id) :=
    (List.sublist_flatten_of_mem (List.mem_map_of_mem member)).map Item.id
  exact sound.itemIds.sublist part

/-- The id of an item leads to it in its vault. -/
theorem Sound.listedItem?_eq (sound : Sound memory) (member : shelf ∈ memory.shelves)
    (inShelf : item ∈ shelf.items) :
    ((memory.shelf? shelf.vault.id).bind fun shelf =>
      shelf.items.find? fun stored => stored.id == item.id) = some item := by
  rw [sound.shelf?_eq member]
  exact find?_key Item.id (sound.shelfIds member) inShelf

theorem exists_shelf_of_shelf? (found : memory.shelf? vaultId = some shelf) :
    shelf ∈ memory.shelves ∧ shelf.vault.id = vaultId :=
  ⟨List.mem_of_find?_eq_some found, by simpa using List.find?_some found⟩

/-- The item with these ids. -/
def item? (memory : Memory) (vaultId itemId : String) : Option Item :=
  (memory.shelf? vaultId).bind fun shelf => shelf.items.find? fun item => item.id == itemId

theorem of_item? {item : Item} (found : memory.item? vaultId itemId = some item) :
    ∃ shelf ∈ memory.shelves, shelf.vault.id = vaultId ∧ item ∈ shelf.items ∧ item.id = itemId := by
  obtain ⟨shelf, foundShelf, foundItem⟩ := Option.bind_eq_some_iff.mp found
  obtain ⟨there, isVault⟩ := exists_shelf_of_shelf? foundShelf
  exact ⟨shelf, there, isVault, List.mem_of_find?_eq_some foundItem,
    by simpa using List.find?_some foundItem⟩

/-- The items of one vault change, and those of all others stay. -/
theorem Sound.shelves_updateItems (sound : Sound memory) (vaultId : String)
    (change : List Item → List Item) :
    (memory.updateItems vaultId change).shelves = memory.shelves.map fun shelf =>
      if shelf.vault.id == vaultId then { shelf with items := change shelf.items } else shelf :=
  updateFirst_eq_map (fun shelf : Shelf => shelf.vault.id) vaultId _ sound.vaultKeys

/-! ## Calls that are performed -/

theorem perform_listItems (memory : Memory) (vaultId : String) :
    memory.perform (.listItems vaultId) =
      (match memory.shelf? vaultId with
        | some shelf => .ok (shelf.items.map Item.summary)
        | none => .error (noVault vaultId), memory) := by
  cases found : memory.shelf? vaultId with
  | some shelf => simp only [perform, found]
  | none => simp only [perform, found]

theorem perform_getItem (memory : Memory) (vaultId itemId : String) :
    memory.perform (.getItem vaultId itemId) =
      (match memory.item? vaultId itemId with
        | some item => .ok item
        | none => .error (noItem itemId), memory) := by
  cases found : memory.item? vaultId itemId with
  | some item => unfold item? at found; simp only [perform, found]
  | none => unfold item? at found; simp only [perform, found]

/-- A new item with the ids that it gets. -/
def newItemAt (issued : Nat) (item : NewItem) : Item :=
  ⟨idText "item" (issued + 1), item.vaultId, item.title, item.category,
    (numberFields (issued + 1) item.fields).1, []⟩

theorem perform_createItem_of_missing {item : NewItem}
    (missing : memory.shelf? item.vaultId = none) :
    memory.perform (.createItem item) = (.error (noVault item.vaultId), memory) := by
  simp only [perform, missing]

theorem perform_createItem_of_found {item : NewItem}
    (found : memory.shelf? item.vaultId = some shelf) :
    memory.perform (.createItem item) =
      (.ok (newItemAt memory.issued item),
        { memory.updateItems item.vaultId (· ++ [newItemAt memory.issued item]) with
          issued := (numberFields (memory.issued + 1) item.fields).2 }) := by
  simp only [perform, found]
  rfl

theorem perform_putItem_of_missing {item : Item}
    (missing : memory.item? item.vaultId item.id = none) :
    memory.perform (.putItem item) =
      (.error (noItem item.id),
        { memory with issued := (numberFields memory.issued item.fields).2 }) := by
  simp only [perform]
  split
  · rename_i found
    exact absurd (missing.symm.trans found) (by simp)
  · rfl

theorem perform_putItem_of_found {item stored : Item}
    (found : memory.item? item.vaultId item.id = some stored) :
    memory.perform (.putItem item) =
      (.ok (), { memory.updateItems item.vaultId (updateFirst (fun stored => stored.id == item.id)
          fun _ => { item with fields := (numberFields memory.issued item.fields).1 }) with
        issued := (numberFields memory.issued item.fields).2 }) := by
  simp only [perform]
  split
  · rfl
  · rename_i missing
    exact absurd (missing.symm.trans found) (by simp)

end SecretRefs.Store.Memory

import Mathlib.Algebra.GroupWithZero.Nat
import SecretRefs.Proofs.Upsert.InMemory

/-!
# What a successful upsert does to a store in memory

`Wrote` has the two ways in which an upsert succeeds, and `upserted_ok` finds the way from
the result. What follows is said of one write and used for sequences of them: which secret
stands at each place afterwards (`Wrote.secretTitled?_eq`), and how many items and fields
there are.
-/

namespace SecretRefs

/-- Whether a request is about a place, ignoring case. -/
def UpsertRequest.addresses (request : UpsertRequest) (vault item field : String) : Bool :=
  Text.sameTitle request.vault vault && Text.sameTitle request.item item &&
    Text.sameTitle request.field field

namespace Store.Memory

variable {memory after : Memory} {shelf : Shelf} {item : Item} {request : UpsertRequest}

/-- The value of the first field with a title in the first item with a title in the first
vault with a title. -/
def secretTitled? (vault item field : String) (memory : Memory) : Option String :=
  (memory.itemTitled? vault item).bind fun item =>
    (item.fields.find? (Field.titled field)).map Field.value

/-- The number of fields in all items. -/
def fieldCount (memory : Memory) : Nat :=
  (memory.items.map fun item => item.fields.length).sum

/-- The ways in which a request is carried out. -/
inductive Wrote (request : UpsertRequest) (memory : Memory) : UpsertKind → Memory → Prop where
  | updated {shelf : Shelf} {item : Item} (calls : List CallRecord)
      (found : memory.shelfTitled? request.vault = some shelf)
      (itemFound : shelf.items.find? (titled request.item) = some item) :
      Wrote request memory .updated ((memory.overwritten request item).recorded calls)
  | created {shelf : Shelf} (calls : List CallRecord)
      (found : memory.shelfTitled? request.vault = some shelf)
      (missing : shelf.items.find? (titled request.item) = none) :
      Wrote request memory .created ((memory.extended request shelf.vault.id).recorded calls)

/-- A request that succeeds was carried out, and none of its calls failed. -/
theorem upserted_ok {outcome : UpsertOutcome}
    (run : memory.upserted request = (.ok outcome, after)) :
    ∃ kind, outcome = request.outcome kind ∧ Wrote request memory kind after ∧
      memory.failures.lookup .listVaults = none ∧ memory.failures.lookup .listItems = none ∧
      (kind = .updated →
        memory.failures.lookup .getItem = none ∧ memory.failures.lookup .putItem = none) := by
  unfold upserted at run
  split at run
  · cases run
  · rename_i listVaults
    split at run
    · cases run
    · rename_i shelf found
      split at run
      · cases run
      · rename_i listItems
        cases itemFound : shelf.items.find? (titled request.item) with
        | some item =>
          rw [itemFound] at run
          unfold rewritten at run
          cases getItem : memory.failures.lookup .getItem with
          | some detail => simp [getItem, failed, Except.map] at run
          | none =>
            cases putItem : memory.failures.lookup .putItem with
            | some detail => simp [getItem, putItem, failed, Except.map] at run
            | none =>
              simp only [getItem, putItem, Except.map] at run
              cases run
              exact ⟨.updated, rfl, .updated _ found itemFound, listVaults, listItems,
                fun _ => ⟨rfl, rfl⟩⟩
        | none =>
          rw [itemFound] at run
          unfold appended at run
          cases createItem : memory.failures.lookup .createItem with
          | some detail => simp [createItem, failed, Except.map] at run
          | none =>
            simp only [createItem, Except.map] at run
            cases run
            refine ⟨.created, rfl, .created _ found itemFound, listVaults, listItems, ?_⟩
            intro impossible
            cases impossible

/-- A request to a vault that is there is carried out if no calls are made to fail. -/
theorem upserted_of_working (working : memory.failures = [])
    (present : (memory.shelfTitled? request.vault).isSome) :
    ∃ kind, (memory.upserted request).1 = .ok (request.outcome kind) ∧
      Wrote request memory kind (memory.upserted request).2 := by
  obtain ⟨shelf, found⟩ := Option.isSome_iff_exists.mp present
  cases itemFound : shelf.items.find? (titled request.item) with
  | some item =>
    simp only [upserted, working, List.lookup_nil, found, itemFound, rewritten, Except.map]
    exact ⟨.updated, rfl, .updated _ found itemFound⟩
  | none =>
    simp only [upserted, working, List.lookup_nil, found, itemFound, appended, Except.map]
    exact ⟨.created, rfl, .created _ found itemFound⟩

/-! ## The vaults -/

/-- What is found in the changed vault are its changed items. -/
theorem shelfTitled?_changeItems (title title' : String) (change : List Item → List Item)
    (memory : Memory) :
    (memory.changeItems title change).shelfTitled? title' =
      if Text.sameTitle title title' then
        (memory.shelfTitled? title').map fun shelf => { shelf with items := change shelf.items }
      else memory.shelfTitled? title' :=
  find?_updateFirst_titled (fun shelf : Shelf => shelf.vault.title)
    (fun shelf => { shelf with items := change shelf.items }) (fun _ => rfl) title title' _

/-- The changed vault is the first with the title, and no other shelf changes. -/
theorem shelves_changeItems {title : String} (found : memory.shelfTitled? title = some shelf)
    (change : List Item → List Item) :
    ∃ early late, memory.shelves = early ++ shelf :: late ∧
      (∀ one ∈ early, shelved title one = false) ∧ shelved title shelf = true ∧
      (memory.changeItems title change).shelves =
        early ++ { shelf with items := change shelf.items } :: late := by
  have foundShelf : memory.shelves.find? (shelved title) = some shelf := found
  obtain ⟨early, late, split, earlier, matched⟩ := split_of_find? foundShelf
  refine ⟨early, late, split, earlier, matched, ?_⟩
  rw [changeItems, split]
  exact updateFirst_append_cons earlier matched

theorem vaults_changeItems (title : String) (change : List Item → List Item) (memory : Memory) :
    (memory.changeItems title change).vaults = memory.vaults :=
  map_updateFirst fun _ _ => rfl

namespace Wrote

variable {kind : UpsertKind}

theorem vaults_eq (wrote : Wrote request memory kind after) : after.vaults = memory.vaults := by
  cases wrote with
  | updated calls found itemFound => exact vaults_changeItems request.vault _ memory
  | @created shelf calls found missing =>
    exact vaults_changeItems request.vault
      (· ++ [createdItem request shelf.vault.id memory.issued]) memory

theorem failures_eq (wrote : Wrote request memory kind after) :
    after.failures = memory.failures := by
  cases wrote with
  | updated calls found itemFound => rfl
  | created calls found missing => rfl

/-- The vaults that are found stay the same. -/
theorem isSome_shelfTitled? (wrote : Wrote request memory kind after) (title : String) :
    (after.shelfTitled? title).isSome = (memory.shelfTitled? title).isSome := by
  have byVaults (memory : Memory) : (memory.shelfTitled? title).isSome =
      (VaultSummary.find? title memory.vaults).isSome := by
    rw [find?_vaults, Option.isSome_map]
  rw [byVaults, byVaults, wrote.vaults_eq]

end Wrote

/-! ## The items and fields that are found -/

/-- Storing a value is seen under the titles that are equal ignoring case. -/
theorem find?_storeField (issued : Nat) (title value title' : String) (fields : List Field) :
    ((storeField issued title value fields).1.find? (Field.titled title')).map Field.value =
      if Text.sameTitle title title' then some value
      else (fields.find? (Field.titled title')).map Field.value := by
  unfold storeField
  by_cases same : Text.sameTitle title title' = true
  · rw [if_pos same, Field.titled_congr same]
    split
    · rename_i present
      have changed : (updateFirst (Field.titled title') (fun field => { field with value })
          fields).find? (Field.titled title') = _ := find?_updateFirst_same fun _ => rfl
      rw [← List.isSome_find?] at present
      obtain ⟨field, found⟩ := Option.isSome_iff_exists.mp present
      rw [changed, found]
      rfl
    · rename_i missing
      rw [← List.isSome_find?, Option.not_isSome_iff_eq_none] at missing
      have matched : Field.titled title' (newField title value (issued + 1)) = true := same
      simp [List.find?_append, missing, matched]
  · have differ : Text.sameTitle title title' = false := Bool.not_eq_true _ ▸ same
    rw [if_neg same]
    split
    · have kept := find?_updateFirst_titled Field.title (fun field => { field with value })
        (fun _ => rfl) title title' fields
      rw [if_neg same] at kept
      exact congrArg (Option.map Field.value) kept
    · have unmatched : Field.titled title' (newField title value (issued + 1)) = false := differ
      simp [List.find?_append, unmatched]

/-- Of the items that are found, only those of the changed vault change. -/
theorem itemTitled?_changeItems (title vault item : String) (change : List Item → List Item)
    (memory : Memory) :
    (memory.changeItems title change).itemTitled? vault item =
      if Text.sameTitle title vault then
        (memory.shelfTitled? vault).bind fun shelf => (change shelf.items).find? (titled item)
      else memory.itemTitled? vault item := by
  have opened : (memory.changeItems title change).itemTitled? vault item =
      ((memory.changeItems title change).shelfTitled? vault).bind fun shelf =>
        shelf.items.find? (titled item) := rfl
  rw [opened, shelfTitled?_changeItems]
  split
  · rw [Option.bind_map]
    rfl
  · rfl

/-- Titles that are equal ignoring case find the same vault. -/
theorem shelfTitled?_congr {title title' : String} (same : Text.sameTitle title title' = true)
    (memory : Memory) : memory.shelfTitled? title = memory.shelfTitled? title' := by
  simp only [shelfTitled?, Text.sameTitle_congr same]

/-- Titles that are equal ignoring case find the same item. -/
theorem titled_congr {title title' : String} (same : Text.sameTitle title title' = true) :
    titled title = titled title' :=
  funext fun item => Text.sameTitle_congr same item.title

/-- The places that a request is about are one place. -/
theorem secretTitled?_congr {vault item field : String}
    (addressed : request.addresses vault item field = true) (memory : Memory) :
    memory.secretTitled? request.vault request.item request.field =
      memory.secretTitled? vault item field := by
  obtain ⟨sameOuter, sameField⟩ := Bool.and_eq_true_iff.mp addressed
  obtain ⟨sameVault, sameItem⟩ := Bool.and_eq_true_iff.mp sameOuter
  simp only [secretTitled?, itemTitled?, shelfTitled?_congr sameVault,
    Text.sameTitle_congr sameItem, Field.titled_congr sameField]

theorem itemTitled?_of_found (found : memory.shelfTitled? request.vault = some shelf)
    {vault : String} (sameVault : Text.sameTitle request.vault vault = true) (title : String) :
    memory.itemTitled? vault title = shelf.items.find? (titled title) := by
  have opened : memory.itemTitled? vault title =
      (memory.shelfTitled? vault).bind fun shelf => shelf.items.find? (titled title) := rfl
  rw [opened, ← shelfTitled?_congr sameVault, found, Option.bind_some]

/-- The changed item is found under the titles of the request. -/
theorem itemTitled?_overwritten (found : memory.shelfTitled? request.vault = some shelf)
    (itemFound : shelf.items.find? (titled request.item) = some item) (vault title : String) :
    (memory.overwritten request item).itemTitled? vault title =
      if Text.sameTitle request.vault vault && Text.sameTitle request.item title then
        some { item with
          fields := (storeField memory.issued request.field request.value item.fields).1 }
      else memory.itemTitled? vault title := by
  have opened : (memory.overwritten request item).itemTitled? vault title = _ :=
    itemTitled?_changeItems request.vault vault title _ memory
  have changed := find?_updateFirst_titled Item.title (fun old => { old with
    fields := (storeField memory.issued request.field request.value item.fields).1 })
    (fun _ => rfl) request.item title shelf.items
  rw [opened]
  by_cases sameVault : Text.sameTitle request.vault vault = true
  · rw [if_pos sameVault, ← shelfTitled?_congr sameVault, found, Option.bind_some, sameVault,
      Bool.true_and, itemTitled?_of_found found sameVault]
    refine changed.trans ?_
    by_cases sameItem : Text.sameTitle request.item title = true
    · have here : shelf.items.find? (titled title) = some item := titled_congr sameItem ▸ itemFound
      rw [if_pos sameItem, if_pos sameItem]
      exact congrArg (Option.map _) here
    · rw [if_neg sameItem, if_neg sameItem]
      rfl
  · simp [sameVault]

/-- The new item is found under the titles of the request. -/
theorem itemTitled?_extended (found : memory.shelfTitled? request.vault = some shelf)
    (missing : shelf.items.find? (titled request.item) = none) (vault title : String) :
    (memory.extended request shelf.vault.id).itemTitled? vault title =
      if Text.sameTitle request.vault vault && Text.sameTitle request.item title then
        some (createdItem request shelf.vault.id memory.issued)
      else memory.itemTitled? vault title := by
  have opened : (memory.extended request shelf.vault.id).itemTitled? vault title = _ :=
    itemTitled?_changeItems request.vault vault title
      (· ++ [createdItem request shelf.vault.id memory.issued]) memory
  rw [opened]
  by_cases sameVault : Text.sameTitle request.vault vault = true
  · rw [if_pos sameVault, ← shelfTitled?_congr sameVault, found, Option.bind_some, sameVault,
      Bool.true_and, itemTitled?_of_found found sameVault]
    by_cases sameItem : Text.sameTitle request.item title = true
    · have absent : shelf.items.find? (titled title) = none := titled_congr sameItem ▸ missing
      have matched : titled title (createdItem request shelf.vault.id memory.issued) = true :=
        sameItem
      simp [List.find?_append, absent, matched, sameItem]
    · have unmatched : titled title (createdItem request shelf.vault.id memory.issued) = false :=
        Bool.not_eq_true _ ▸ sameItem
      simp [List.find?_append, unmatched, sameItem]
  · simp [sameVault]

namespace Wrote

variable {kind : UpsertKind}

/-- An item is created when the first vault with the title has none with the title. -/
theorem kind_eq_created_iff (wrote : Wrote request memory kind after) :
    kind = .created ↔ memory.itemTitled? request.vault request.item = none := by
  cases wrote with
  | updated calls found itemFound =>
    rw [itemTitled?_of_found found (Text.sameTitle_self _), itemFound]
    simp
  | created calls found missing =>
    rw [itemTitled?_of_found found (Text.sameTitle_self _), missing]
    simp

/-- The item of the request is there afterwards, as is every item that was there. -/
theorem isSome_itemTitled? (wrote : Wrote request memory kind after) (vault title : String) :
    (after.itemTitled? vault title).isSome =
      ((Text.sameTitle request.vault vault && Text.sameTitle request.item title) ||
        (memory.itemTitled? vault title).isSome) := by
  cases wrote with
  | updated calls found itemFound =>
    refine (congrArg Option.isSome (itemTitled?_overwritten found itemFound vault title)).trans ?_
    split <;> simp_all
  | created calls found missing =>
    refine (congrArg Option.isSome (itemTitled?_extended found missing vault title)).trans ?_
    split <;> simp_all

/-- The place of the request holds its value afterwards, and other places what they held. -/
theorem secretTitled?_eq (wrote : Wrote request memory kind after) (vault title field : String) :
    after.secretTitled? vault title field =
      if request.addresses vault title field then some request.value
      else memory.secretTitled? vault title field := by
  unfold UpsertRequest.addresses secretTitled?
  cases wrote with
  | @updated shelf item calls found itemFound =>
    have stored := find?_storeField memory.issued request.field request.value field item.fields
    have written : ((memory.overwritten request item).recorded calls).itemTitled? vault title = _ :=
      itemTitled?_overwritten found itemFound vault title
    rw [written]
    by_cases both : (Text.sameTitle request.vault vault && Text.sameTitle request.item title) = true
    · obtain ⟨sameVault, sameItem⟩ := Bool.and_eq_true_iff.mp both
      have here : memory.itemTitled? vault title = some item := by
        rw [itemTitled?_of_found found sameVault, ← titled_congr sameItem, itemFound]
      rw [if_pos both, both, Bool.true_and, here]
      exact stored
    · simp [both]
  | @created shelf calls found missing =>
    have written : ((memory.extended request shelf.vault.id).recorded calls).itemTitled? vault
        title = _ := itemTitled?_extended found missing vault title
    rw [written]
    by_cases both : (Text.sameTitle request.vault vault && Text.sameTitle request.item title) = true
    · obtain ⟨sameVault, sameItem⟩ := Bool.and_eq_true_iff.mp both
      have absent : memory.itemTitled? vault title = none := by
        rw [itemTitled?_of_found found sameVault, ← titled_congr sameItem, missing]
      rw [if_pos both, both, Bool.true_and, absent]
      cases sameField : Text.sameTitle request.field field with
      | true => simp [createdItem, Field.titled, sameField]
      | false => simp [createdItem, Field.titled, sameField]
    · simp [both]

end Wrote

/-! ## The numbers of items and fields -/

/-- The items of the changed vault stand in one place among all items. -/
theorem items_changeItems {title : String} (found : memory.shelfTitled? title = some shelf)
    (change : List Item → List Item) :
    ∃ early late, memory.items = early ++ shelf.items ++ late ∧
      (memory.changeItems title change).items = early ++ change shelf.items ++ late := by
  obtain ⟨before, rest, split, _, _, changed⟩ := shelves_changeItems found change
  refine ⟨before.flatMap Shelf.items, rest.flatMap Shelf.items, ?_, ?_⟩
  · simp [items, split]
  · simp [items, changed]

/-- Overwriting leaves all items in place and changes the fields of one. -/
theorem items_overwritten (found : memory.shelfTitled? request.vault = some shelf)
    (itemFound : shelf.items.find? (titled request.item) = some item) :
    ∃ early late, memory.items = early ++ item :: late ∧
      (memory.overwritten request item).items = early ++ { item with
        fields := (storeField memory.issued request.field request.value item.fields).1 } ::
          late := by
  obtain ⟨early, late, before, changed⟩ := items_changeItems found
    (updateFirst (titled request.item) fun old => { old with
      fields := (storeField memory.issued request.field request.value item.fields).1 })
  obtain ⟨first, last, split, earlier, matched⟩ := split_of_find? itemFound
  rw [split] at before changed
  rw [updateFirst_append_cons earlier matched] at changed
  exact ⟨early ++ first, last ++ late, by simp [before], changed.trans (by simp)⟩

/-- Extending puts one item between the others. -/
theorem items_extended (found : memory.shelfTitled? request.vault = some shelf) :
    ∃ early late, memory.items = early ++ late ∧
      (memory.extended request shelf.vault.id).items =
        early ++ createdItem request shelf.vault.id memory.issued :: late := by
  obtain ⟨early, late, before, changed⟩ := items_changeItems found
    (· ++ [createdItem request shelf.vault.id memory.issued])
  exact ⟨early ++ shelf.items, late, before, changed.trans (by simp)⟩

theorem length_storeField (issued : Nat) (title value : String) (fields : List Field) :
    (storeField issued title value fields).1.length =
      fields.length + if (fields.find? (Field.titled title)).isSome then 0 else 1 := by
  unfold storeField
  rw [List.isSome_find?]
  split
  · have kept : (updateFirst (Field.titled title) (fun field => { field with value })
        fields).map Field.title = fields.map Field.title := map_updateFirst fun _ _ => rfl
    simpa using congrArg List.length kept
  · simp

namespace Wrote

variable {kind : UpsertKind}

/-- Only a creation adds an item. -/
theorem length_items (wrote : Wrote request memory kind after) :
    after.items.length = memory.items.length + if kind = .created then 1 else 0 := by
  cases wrote with
  | updated calls found itemFound =>
    obtain ⟨early, late, before, changed⟩ := items_overwritten found itemFound
    rw [before]
    exact (congrArg List.length changed).trans (by simp)
  | created calls found missing =>
    obtain ⟨early, late, before, changed⟩ := items_extended found
    rw [before]
    exact (congrArg List.length changed).trans (by simp; omega)

/-- A field is added only if the place of the request held nothing. -/
theorem fieldCount_eq (wrote : Wrote request memory kind after) :
    after.fieldCount = memory.fieldCount +
      if (memory.secretTitled? request.vault request.item request.field).isSome then 0 else 1 := by
  unfold secretTitled? fieldCount
  cases wrote with
  | updated calls found itemFound =>
    obtain ⟨early, late, before, changed⟩ := items_overwritten found itemFound
    have stored := length_storeField memory.issued request.field request.value
    rw [itemTitled?_of_found found (Text.sameTitle_self _), itemFound, before]
    refine (congrArg (fun items => (items.map fun item : Item => item.fields.length).sum)
      changed).trans ?_
    simp [stored]
    omega
  | created calls found missing =>
    obtain ⟨early, late, before, changed⟩ := items_extended found
    rw [itemTitled?_of_found found (Text.sameTitle_self _), missing, before]
    refine (congrArg (fun items => (items.map fun item : Item => item.fields.length).sum)
      changed).trans ?_
    simp [createdItem]
    omega

end Wrote

end Store.Memory

end SecretRefs

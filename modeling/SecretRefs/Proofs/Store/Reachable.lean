import SecretRefs.Proofs.Session
import SecretRefs.Proofs.Store.FirstMatch
import SecretRefs.Proofs.Store.Identity
import SecretRefs.Proofs.Text.Title

/-!
# What holds of every store in memory

`Reachable` has the stores that come about from the empty one by any operations in any
order, failing calls and calls under way included. `Sound` is what the look-ups rest on:
ids name one thing, an item is on the shelf of its vault, and no field lacks an id.

`Sound` is an invariant: each operation keeps it (`Sound.addVault`, `Sound.addItem`,
`Sound.answer`), so it holds of every reachable store (`Reachable.sound`). The bounds on
the ids by the counter are part of it, since they are what makes a new id new.
-/

namespace SecretRefs.Store.Memory

/-- The stores that operations make out of the empty one. -/
inductive Reachable : Memory → Prop where
  | empty : Reachable Memory.empty
  | addVault {memory : Memory} (title : String) (prior : Reachable memory) :
      Reachable (memory.addVault title).2
  | addItem {memory : Memory} (vault title : String) (fields : List (String × String))
      (prior : Reachable memory) : Reachable (memory.addItem vault title fields).2
  | failOn {memory : Memory} (kind : CallKind) (detail : String) (prior : Reachable memory) :
      Reachable (memory.failOn kind detail)
  | call {memory : Memory} (call : Call) (prior : Reachable memory) :
      Reachable (memory.answer call).2
  /-- A resolve call starts that takes time, as one of `underWay`. -/
  | start {memory : Memory} (reference : Reference) (underWay : Nat)
      (prior : Reachable memory) :
      Reachable { (memory.enter (.resolve reference)).2 with
        peak := max memory.peak underWay }

/-- The vaults of a store. -/
def vaults (memory : Memory) : List VaultSummary :=
  memory.shelves.map Shelf.vault

/-- All items of a store. -/
def items (memory : Memory) : List Item :=
  memory.shelves.flatMap Shelf.items

/-- The invariant of a store in memory. -/
structure Sound (memory : Memory) : Prop where
  /-- No two vaults have the same title. -/
  titlesDiffer : memory.vaults.Pairwise fun one other =>
    Text.sameTitle one.title other.title = false
  vaultIds : (memory.vaults.map VaultSummary.id).Nodup
  vaultIdsIssued : ∀ vault ∈ memory.vaults,
    ∃ number ≤ memory.issued, vault.id = idText "vault" number
  itemIds : (memory.items.map Item.id).Nodup
  itemIdsIssued : ∀ item ∈ memory.items,
    ∃ number ≤ memory.issued, item.id = idText "item" number
  /-- An item names the vault that it is in. -/
  housed : ∀ shelf ∈ memory.shelves, ∀ item ∈ shelf.items, item.vaultId = shelf.vault.id
  /-- Every field has an id. -/
  numbered : ∀ item ∈ memory.items, ∀ field ∈ item.fields, field.id ≠ ""

namespace Sound

variable {memory after : Memory}

theorem empty : Sound Memory.empty := by
  constructor <;> simp [Memory.empty, vaults, items]

/-- The invariant is about the shelves and the counter only, and later counters will do. -/
theorem mono (sound : Sound memory) (shelves : after.shelves = memory.shelves)
    (issued : memory.issued ≤ after.issued) : Sound after := by
  have sameVaults : after.vaults = memory.vaults := by simp [vaults, shelves]
  have sameItems : after.items = memory.items := by simp [items, shelves]
  constructor
  · rw [sameVaults]; exact sound.titlesDiffer
  · rw [sameVaults]; exact sound.vaultIds
  · intro vault member
    obtain ⟨number, bound, id⟩ := sound.vaultIdsIssued vault (sameVaults ▸ member)
    exact ⟨number, Nat.le_trans bound issued, id⟩
  · rw [sameItems]; exact sound.itemIds
  · intro item member
    obtain ⟨number, bound, id⟩ := sound.itemIdsIssued item (sameItems ▸ member)
    exact ⟨number, Nat.le_trans bound issued, id⟩
  · rw [shelves]; exact sound.housed
  · rw [sameItems]; exact sound.numbered

/-- An item that a store may gain or change in a vault. -/
structure Fits (after : Memory) (vaultId : String) (item : Item) : Prop where
  issued : ∃ number ≤ after.issued, item.id = idText "item" number
  housed : item.vaultId = vaultId
  numbered : ∀ field ∈ item.fields, field.id ≠ ""

/-- A shelf may be filled anew with items that were there or fit, as long as no id comes to
stand twice. -/
theorem refill (sound : Sound memory) {before rest : List Shelf} {shelf : Shelf}
    {filled : List Item} (split : memory.shelves = before ++ shelf :: rest)
    (shelves : after.shelves = before ++ { shelf with items := filled } :: rest)
    (issued : memory.issued ≤ after.issued)
    (distinct : (after.items.map Item.id).Nodup)
    (fits : ∀ item ∈ filled, item ∈ shelf.items ∨ Fits after shelf.vault.id item) :
    Sound after := by
  have sameVaults : after.vaults = memory.vaults := by simp [vaults, shelves, split]
  have here : shelf ∈ memory.shelves := by simp [split]
  have origin : ∀ other ∈ after.shelves, ∀ item ∈ other.items,
      (∃ old ∈ memory.shelves, old.vault = other.vault ∧ item ∈ old.items) ∨
        Fits after other.vault.id item := by
    intro other member item inOther
    rw [shelves] at member
    rcases List.mem_append.mp member with early | late
    · exact .inl ⟨other, by simp [split, early], rfl, inOther⟩
    · rcases List.mem_cons.mp late with rfl | late
      · rcases fits item inOther with old | new
        · exact .inl ⟨shelf, here, rfl, old⟩
        · exact .inr new
      · exact .inl ⟨other, by simp [split, late], rfl, inOther⟩
  have itemOrigin : ∀ item ∈ after.items,
      item ∈ memory.items ∨ ∃ vaultId, Fits after vaultId item := by
    intro item member
    obtain ⟨other, otherMember, inOther⟩ := List.mem_flatMap.mp member
    rcases origin other otherMember item inOther with ⟨old, oldMember, _, inOld⟩ | new
    · exact .inl (List.mem_flatMap.mpr ⟨old, oldMember, inOld⟩)
    · exact .inr ⟨other.vault.id, new⟩
  constructor
  · rw [sameVaults]; exact sound.titlesDiffer
  · rw [sameVaults]; exact sound.vaultIds
  · intro vault member
    obtain ⟨number, bound, id⟩ := sound.vaultIdsIssued vault (sameVaults ▸ member)
    exact ⟨number, Nat.le_trans bound issued, id⟩
  · exact distinct
  · intro item member
    rcases itemOrigin item member with old | ⟨_, new⟩
    · obtain ⟨number, bound, id⟩ := sound.itemIdsIssued item old
      exact ⟨number, Nat.le_trans bound issued, id⟩
    · exact new.issued
  · intro other member item inOther
    rcases origin other member item inOther with ⟨old, oldMember, sameVault, inOld⟩ | new
    · rw [← sameVault]
      exact sound.housed old oldMember item inOld
    · exact new.housed
  · intro item member
    rcases itemOrigin item member with old | ⟨_, new⟩
    · exact sound.numbered item old
    · exact new.numbered

/-- A vault whose title is new may be added. -/
theorem addVault (sound : Sound memory) (title : String) :
    Sound (memory.addVault title).2 := by
  unfold Memory.addVault
  split
  · exact sound
  · rename_i missing
    have differs : ∀ vault ∈ memory.vaults, Text.sameTitle vault.title title = false := by
      intro vault member
      obtain ⟨shelf, shelfMember, rfl⟩ := List.mem_map.mp member
      simpa using List.find?_eq_none.mp missing shelf shelfMember
    have newId : idText "vault" (memory.issued + 1) ∉ memory.vaults.map VaultSummary.id := by
      intro member
      obtain ⟨vault, vaultMember, same⟩ := List.mem_map.mp member
      obtain ⟨number, bound, id⟩ := sound.vaultIdsIssued vault vaultMember
      have := idText_injective (id.symm.trans same)
      omega
    constructor
    · simp only [vaults, List.map_append, List.map_cons, List.map_nil, List.pairwise_append]
      refine ⟨sound.titlesDiffer, List.pairwise_singleton .., ?_⟩
      intro vault member new newMember
      rw [List.mem_singleton.mp newMember]
      exact differs vault member
    · have added : (memory.vaults.map VaultSummary.id ++
          [idText "vault" (memory.issued + 1)]).Nodup :=
        List.nodup_append.mpr ⟨sound.vaultIds, List.nodup_singleton _, by
          intro id member new newMember same
          rw [List.mem_singleton.mp newMember] at same
          exact newId (same ▸ member)⟩
      simpa [vaults] using added
    · intro vault member
      simp only [vaults, List.map_append, List.map_cons, List.map_nil, List.mem_append,
        List.mem_singleton] at member
      rcases member with old | rfl
      · obtain ⟨number, bound, id⟩ := sound.vaultIdsIssued vault old
        exact ⟨number, by dsimp only; omega, id⟩
      · exact ⟨memory.issued + 1, Nat.le_refl _, rfl⟩
    · simpa [items] using sound.itemIds
    · intro item member
      simp only [items, List.flatMap_append, List.flatMap_cons, List.flatMap_nil,
        List.append_nil] at member
      obtain ⟨number, bound, id⟩ := sound.itemIdsIssued item member
      exact ⟨number, by dsimp only; omega, id⟩
    · intro shelf member item inShelf
      rcases List.mem_append.mp member with old | new
      · exact sound.housed shelf old item inShelf
      · rw [List.mem_singleton.mp new] at inShelf
        cases inShelf
    · simpa [items] using sound.numbered

/-- A vault may gain an item whose id has the next number. -/
theorem gain (sound : Sound memory) {vaultId : String} {item : Item}
    (shelves : after.shelves = (memory.updateItems vaultId (· ++ [item])).shelves)
    (issued : memory.issued + 1 ≤ after.issued)
    (id : item.id = idText "item" (memory.issued + 1)) (housed : item.vaultId = vaultId)
    (numbered : ∀ field ∈ item.fields, field.id ≠ "") : Sound after := by
  rw [updateItems] at shelves
  cases found : memory.shelf? vaultId with
  | none =>
    rw [updateFirst_of_find?_none found] at shelves
    exact sound.mono shelves (by omega)
  | some shelf =>
    obtain ⟨before, rest, split, earlier, matched⟩ := split_of_find? found
    rw [split, updateFirst_append_cons earlier matched] at shelves
    have here : shelf.vault.id = vaultId := by simpa using matched
    refine sound.refill split shelves (by omega) ?_ ?_
    · have newId : item.id ∉ memory.items.map Item.id := by
        intro member
        obtain ⟨old, oldMember, same⟩ := List.mem_map.mp member
        obtain ⟨number, bound, oldId⟩ := sound.itemIdsIssued old oldMember
        have := idText_injective (oldId.symm.trans (same.trans id))
        omega
      have moved : (after.items.map Item.id).Perm (item.id :: memory.items.map Item.id) := by
        simp only [items, shelves, split, List.flatMap_append, List.flatMap_cons,
          List.map_append, List.map_cons, List.append_assoc, List.singleton_append]
        rw [← List.append_assoc, ← List.append_assoc]
        exact List.perm_middle
      exact moved.nodup_iff.mpr (List.nodup_cons.mpr ⟨newId, sound.itemIds⟩)
    · intro other member
      rcases List.mem_append.mp member with old | new
      · exact .inl old
      · rw [List.mem_singleton.mp new]
        exact .inr ⟨⟨memory.issued + 1, issued, id⟩, housed.trans here.symm, numbered⟩

/-- An item may be replaced by one with the same id in the same vault. -/
theorem replace (sound : Sound memory) (new : Item)
    (shelves : after.shelves = (memory.updateItems new.vaultId
      (updateFirst (fun stored => stored.id == new.id) fun _ => new)).shelves)
    (issued : memory.issued ≤ after.issued)
    (numbered : ∀ field ∈ new.fields, field.id ≠ "") : Sound after := by
  rw [updateItems] at shelves
  cases found : memory.shelf? new.vaultId with
  | none =>
    rw [updateFirst_of_find?_none found] at shelves
    exact sound.mono shelves issued
  | some shelf =>
    obtain ⟨before, rest, split, earlier, matched⟩ := split_of_find? found
    rw [split, updateFirst_append_cons earlier matched] at shelves
    have here : shelf.vault.id = new.vaultId := by simpa using matched
    have sameIds : after.items.map Item.id = memory.items.map Item.id := by
      have kept : (updateFirst (fun stored => stored.id == new.id) (fun _ => new)
          shelf.items).map Item.id = shelf.items.map Item.id :=
        map_updateFirst fun stored same => by simpa using (beq_iff_eq.mp same).symm
      simp [items, shelves, split, kept]
    refine sound.refill split shelves issued (sameIds ▸ sound.itemIds) ?_
    intro item member
    rcases mem_updateFirst member with old | ⟨old, oldMember, same, rfl⟩
    · exact .inl old
    · have inStore : old ∈ memory.items :=
        List.mem_flatMap.mpr ⟨shelf, by simp [split], oldMember⟩
      obtain ⟨number, bound, id⟩ := sound.itemIdsIssued old inStore
      have sameId : old.id = item.id := by simpa using same
      exact .inr ⟨⟨number, by omega, sameId ▸ id⟩, here.symm, numbered⟩

theorem addItem (sound : Sound memory) (vault title : String)
    (fields : List (String × String)) : Sound (memory.addItem vault title fields).2 :=
  (sound.addVault vault).gain rfl (le_numberFields ..) rfl rfl
    fun _ member => id_ne_empty_of_mem_numberFields member

/-- What a call does once it is recorded keeps the invariant. -/
theorem perform (sound : Sound memory) (call : Call) : Sound (memory.perform call).2 := by
  cases call with
  | resolve reference => exact sound.mono rfl (Nat.le_refl _)
  | listVaults => exact sound
  | listItems vaultId =>
    unfold Memory.perform
    dsimp only
    split
    · exact sound
    · exact sound
  | getItem vaultId itemId =>
    unfold Memory.perform
    dsimp only
    split
    · exact sound
    · exact sound
  | putItem item =>
    have kept := le_numberFields memory.issued item.fields
    unfold Memory.perform
    dsimp only
    split
    · exact sound.replace { item with fields := (numberFields memory.issued item.fields).1 } rfl
        kept fun _ member => id_ne_empty_of_mem_numberFields member
    · exact sound.mono rfl kept
  | createItem item =>
    unfold Memory.perform
    dsimp only
    split
    · exact sound
    · exact sound.gain rfl (le_numberFields ..) rfl rfl
        fun _ member => id_ne_empty_of_mem_numberFields member

/-- A call keeps the invariant, whether it fails or not. -/
theorem answer (sound : Sound memory) (call : Call) : Sound (memory.answer call).2 := by
  have recorded : Sound (memory.enter call).2 := sound.mono rfl (Nat.le_refl _)
  unfold Memory.answer
  split
  · rename_i entered
    rw [entered] at recorded
    exact recorded
  · rename_i entered
    rw [entered] at recorded
    exact recorded.perform call

end Sound

/-- Every store that comes about is sound. -/
theorem Reachable.sound {memory : Memory} (reachable : Reachable memory) : Sound memory := by
  induction reachable with
  | empty => exact Sound.empty
  | addVault title _ inductionHypothesis => exact inductionHypothesis.addVault title
  | addItem vault title fields _ inductionHypothesis =>
    exact inductionHypothesis.addItem vault title fields
  | failOn kind detail _ inductionHypothesis =>
    exact inductionHypothesis.mono rfl (Nat.le_refl _)
  | call call _ inductionHypothesis => exact inductionHypothesis.answer call
  | start reference underWay _ inductionHypothesis =>
    exact inductionHypothesis.mono rfl (Nat.le_refl _)

/-- What a session leaves behind comes about by its calls. -/
theorem Reachable.on {memory : Memory} (reachable : Reachable memory) {α : Type}
    (session : Session α) : Reachable (session.on answer memory).2 := by
  unfold Session.on Dialogue.outcome
  induction session.run generalizing memory with
  | done result => exact reachable
  | note entry rest inductionHypothesis => exact inductionHypothesis reachable
  | ask call resume inductionHypothesis =>
    exact inductionHypothesis (memory.answer call).1 (reachable.call call)

end SecretRefs.Store.Memory

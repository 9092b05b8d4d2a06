import SecretRefs.Proofs.Store.Writing

/-!
# What is written is kept

`Keeps` says that the shelves have the items that were made, in order, each as the last writing
of it left it. Every operation keeps this (`Keeps.act`), so it holds after every run
(`Keeps.run`), and items are read and listed as they were written last (`writings_kept`).
-/

namespace SecretRefs.Store.Memory

/-! ## The last writings -/

/-- The last writing of an item. -/
def latest? (vaultId itemId : String) (written : List Writing) : Option Writing :=
  (written.filter (Writing.isOf vaultId itemId)).getLast?

/-- The writings that made the items of a vault. -/
def additions (vaultId : String) (written : List Writing) : List Writing :=
  written.filter (Writing.isAddition vaultId)

/-- An item that was written, as the last writing of it left it. -/
def current (written : List Writing) (writing : Writing) : Item :=
  ((latest? writing.item.vaultId writing.item.id written).getD writing).kept

/-! ## One writing more -/

variable {memory later : Memory} {written : List Writing} {writing made : Writing}
  {vaultId itemId : String} {shelf : Shelf}

theorem latest?_append (writing : Writing) :
    latest? vaultId itemId (written ++ [writing]) =
      if writing.isOf vaultId itemId then some writing else latest? vaultId itemId written := by
  unfold latest?
  split
  · rename_i same
    simp [same]
  · rename_i differs
    simp [differs]

theorem current_append (writing : Writing) :
    current (written ++ [writing]) made =
      if writing.isOf made.item.vaultId made.item.id then writing.kept
      else current written made := by
  unfold current
  rw [latest?_append]
  split
  · rfl
  · rfl

theorem mem_additions : made ∈ additions vaultId written ↔
    made ∈ written ∧ made.isNew = true ∧ made.item.vaultId = vaultId := by
  simp [additions, Writing.isAddition]

/-- A writing to one vault touches neither what was made in another nor what became of it. -/
theorem map_current_append (differs : vaultId ≠ writing.item.vaultId) :
    (additions vaultId (written ++ [writing])).map (current (written ++ [writing])) =
      (additions vaultId written).map (current written) := by
  have sameAdditions : additions vaultId (written ++ [writing]) = additions vaultId written := by
    simp [additions, Writing.isAddition, Ne.symm differs]
  rw [sameAdditions]
  refine List.map_congr_left fun made isMade => ?_
  have inVault := (mem_additions.mp isMade).2.2
  rw [current_append, if_neg]
  simp [Writing.isOf, inVault, Ne.symm differs]

theorem of_latest? (found : latest? vaultId itemId written = some writing) :
    writing ∈ written ∧ writing.item.vaultId = vaultId ∧ writing.item.id = itemId := by
  have member := List.mem_of_getLast? found
  simpa [Writing.isOf] using member

theorem exists_latest? (member : writing ∈ written) :
    ∃ last, latest? writing.item.vaultId writing.item.id written = some last := by
  cases found : latest? writing.item.vaultId writing.item.id written with
  | some last => exact ⟨last, rfl⟩
  | none =>
    rw [latest?, List.getLast?_eq_none_iff, List.filter_eq_nil_iff] at found
    exact absurd (by simp [Writing.isOf]) (found writing member)

/-- What is kept of an item has its id. -/
@[simp] theorem current_id (written : List Writing) (writing : Writing) :
    (current written writing).id = writing.item.id := by
  unfold current
  cases found : latest? writing.item.vaultId writing.item.id written with
  | none => rfl
  | some last => exact (of_latest? found).2.2

/-! ## The invariant -/

/-- The shelves have the items that were made, as they were written last. -/
structure Keeps (memory : Memory) (written : List Writing) : Prop where
  shelved : ∀ shelf ∈ memory.shelves,
    shelf.items = (additions shelf.vault.id written).map (current written)
  /-- What was written is in the vault that it was written to. -/
  housed : ∀ writing ∈ written, ∃ shelf ∈ memory.shelves,
    shelf.vault.id = writing.item.vaultId ∧ writing.item.id ∈ shelf.items.map Item.id

namespace Keeps

theorem empty : Keeps Memory.empty [] := by
  constructor <;> simp [Memory.empty]

/-- The invariant is about the shelves only. -/
theorem mono (keeps : Keeps memory written) (shelves : later.shelves = memory.shelves) :
    Keeps later written := by
  constructor
  · rw [shelves]; exact keeps.shelved
  · rw [shelves]; exact keeps.housed

/-- Recorded calls do not matter to the invariant. -/
theorem recorded (keeps : Keeps memory written) (calls : List CallRecord) :
    Keeps (memory.recorded calls) written :=
  keeps.mono rfl

/-- A vault is added without items. -/
theorem addVault (sound : Sound memory) (keeps : Keeps memory written) (title : String) :
    Keeps (memory.addVault title).2 written := by
  have added := sound.addVault title
  unfold Memory.addVault at added ⊢
  split
  · exact keeps
  · rename_i missing
    rw [missing] at added
    have newKey := added.vaultKeys
    rw [List.map_append, List.nodup_append] at newKey
    constructor
    · intro shelf member
      rcases List.mem_append.mp member with old | new
      · exact keeps.shelved shelf old
      · rw [List.mem_singleton.mp new]
        -- nothing was written to a vault that was not there
        have nothing : additions (idText "vault" (memory.issued + 1)) written = [] := by
          rw [List.eq_nil_iff_forall_not_mem]
          intro writing isAddition
          obtain ⟨wasWritten, _, inVault⟩ := mem_additions.mp isAddition
          obtain ⟨shelf, there, isVault, _⟩ := keeps.housed writing wasWritten
          exact newKey.2.2 _ (List.mem_map_of_mem there) _ (by simp) (isVault.trans inVault)
        rw [nothing]
        rfl
    · intro writing member
      obtain ⟨shelf, there, found⟩ := keeps.housed writing member
      exact ⟨shelf, List.mem_append_left _ there, found⟩

/-- Something is written to a vault. -/
theorem write (sound : Sound memory) (keeps : Keeps memory written)
    {change : List Item → List Item} (there : shelf ∈ memory.shelves)
    (isVault : shelf.vault.id = writing.item.vaultId)
    (shelves : later.shelves = (memory.updateItems writing.item.vaultId change).shelves)
    (changed : change shelf.items =
      (additions shelf.vault.id (written ++ [writing])).map (current (written ++ [writing])))
    (listed : ∀ id, id ∈ shelf.items.map Item.id ∨ id = writing.item.id →
      id ∈ (change shelf.items).map Item.id) :
    Keeps later (written ++ [writing]) := by
  rw [sound.shelves_updateItems] at shelves
  have unique : ∀ other ∈ memory.shelves,
      other.vault.id = writing.item.vaultId → other = shelf := by
    intro other member same
    exact List.inj_on_of_nodup_map sound.vaultKeys member there (same.trans isVault.symm)
  constructor
  · intro other member
    rw [shelves] at member
    obtain ⟨old, oldMember, rfl⟩ := List.mem_map.mp member
    by_cases same : old.vault.id = writing.item.vaultId
    · rw [if_pos (beq_iff_eq.mpr same)]
      cases unique old oldMember same
      exact changed
    · rw [if_neg (by simpa using same), map_current_append same]
      exact keeps.shelved old oldMember
  · have listedAfter : ∀ old ∈ memory.shelves, ∀ id,
        id ∈ old.items.map Item.id ∨ old = shelf ∧ id = writing.item.id →
        ∃ new ∈ later.shelves, new.vault.id = old.vault.id ∧ id ∈ new.items.map Item.id := by
      intro old oldMember id isListed
      rw [shelves]
      refine ⟨_, List.mem_map_of_mem oldMember, ?_⟩
      by_cases same : old.vault.id = writing.item.vaultId
      · rw [if_pos (beq_iff_eq.mpr same)]
        cases unique old oldMember same
        exact ⟨rfl, listed id (isListed.imp_right And.right)⟩
      · rw [if_neg (by simpa using same)]
        refine ⟨rfl, isListed.resolve_right ?_⟩
        rintro ⟨rfl, _⟩
        exact same isVault
    intro other member
    rcases List.mem_append.mp member with old | new
    · obtain ⟨house, houseMember, isHouse, present⟩ := keeps.housed other old
      rw [← isHouse]
      exact listedAfter house houseMember _ (.inl present)
    · rw [List.mem_singleton.mp new, ← isVault]
      exact listedAfter shelf there _ (.inr ⟨rfl, rfl⟩)

/-- An item is added under a new id. -/
theorem gain (sound : Sound memory) (keeps : Keeps memory written)
    (there : shelf ∈ memory.shelves) (isVault : shelf.vault.id = writing.item.vaultId)
    (isNew : writing.isNew = true)
    (isId : writing.item.id = idText "item" (memory.issued + 1))
    (shelves : later.shelves =
      (memory.updateItems writing.item.vaultId (· ++ [writing.kept])).shelves) :
    Keeps later (written ++ [writing]) := by
  refine keeps.write sound there isVault shelves ?_ ?_
  · have added : additions shelf.vault.id (written ++ [writing]) =
        additions shelf.vault.id written ++ [writing] := by
      simp [additions, Writing.isAddition, isNew, isVault]
    have newest : current (written ++ [writing]) writing = writing.kept := by
      simp [current_append, Writing.isOf]
    rw [added, List.map_append, List.map_singleton, newest]
    refine congrArg (· ++ [writing.kept]) ?_
    rw [keeps.shelved shelf there]
    refine List.map_congr_left fun made isMade => ?_
    -- an id that was made earlier has an earlier number
    have listed : current written made ∈ shelf.items := by
      rw [keeps.shelved shelf there]
      exact List.mem_map_of_mem isMade
    obtain ⟨number, bound, isNumber⟩ :=
      sound.itemIdsIssued _ (List.mem_flatMap.mpr ⟨shelf, there, listed⟩)
    rw [current_id] at isNumber
    have differs : writing.item.id ≠ made.item.id := by
      intro same
      have := idText_injective (isId.symm.trans (same.trans isNumber))
      omega
    rw [current_append, if_neg]
    simp [Writing.isOf, differs]
  · rintro id (old | rfl)
    · simp [old]
    · simp

/-- An item is replaced. -/
theorem replace (sound : Sound memory) (keeps : Keeps memory written)
    (there : shelf ∈ memory.shelves) (isVault : shelf.vault.id = writing.item.vaultId)
    (isOld : writing.isNew = false) (present : writing.item.id ∈ shelf.items.map Item.id)
    (shelves : later.shelves = (memory.updateItems writing.item.vaultId
      (updateFirst (fun stored => stored.id == writing.item.id) fun _ => writing.kept)).shelves) :
    Keeps later (written ++ [writing]) := by
  refine keeps.write sound there isVault shelves ?_ ?_
  · have sameAdditions : additions shelf.vault.id (written ++ [writing]) =
        additions shelf.vault.id written := by
      simp [additions, Writing.isAddition, isOld]
    rw [updateFirst_eq_map Item.id _ _ (sound.shelfIds there), keeps.shelved shelf there,
      sameAdditions, List.map_map]
    refine List.map_congr_left fun made isMade => ?_
    have inVault : writing.item.vaultId = made.item.vaultId :=
      isVault.symm.trans (mem_additions.mp isMade).2.2.symm
    have sameTest : writing.isOf made.item.vaultId made.item.id =
        ((current written made).id == writing.item.id) := by
      rw [current_id, Writing.isOf, inVault, beq_self_eq_true, Bool.true_and, BEq.comm]
    rw [current_append, sameTest]
    rfl
  · have sameIds : (updateFirst (fun stored => stored.id == writing.item.id)
        (fun _ => writing.kept) shelf.items).map Item.id = shelf.items.map Item.id :=
      map_updateFirst fun stored same => by simpa using (beq_iff_eq.mp same).symm
    rintro id (old | rfl)
    · rwa [sameIds]
    · rwa [sameIds]

end Keeps

/-! ## Runs -/

namespace Keeps

/-- What an operation writes is kept, and all else stays. -/
theorem act (sound : Sound memory) (keeps : Keeps memory written) (operation : Operation) :
    Keeps (operation.act memory) (written ++ (operation.writing? memory).toList) := by
  have effect := Effect.of_operation operation memory
  revert effect
  generalize operation.writing? memory = wrote
  intro effect
  cases effect with
  | idle shelves =>
    rw [Option.toList_none, List.append_nil]
    exact keeps.mono shelves
  | vault title shelves =>
    rw [Option.toList_none, List.append_nil]
    exact (keeps.addVault sound title).mono shelves
  | addition isBase there isVault isNew isId shelves _ =>
    rcases isBase with rfl | ⟨title, rfl⟩
    · exact keeps.gain sound there isVault isNew isId shelves
    · have added := keeps.addVault sound title
      exact added.gain (sound.addVault title) there isVault isNew isId shelves
  | replacement there isVault isOld present shelves _ =>
    exact keeps.replace sound there isVault isOld present shelves

/-- What is written in the course of operations is kept. -/
theorem run (reachable : Reachable memory) (keeps : Keeps memory written)
    (operations : List Operation) :
    Keeps (after operations memory) (written ++ writings operations memory) := by
  induction operations generalizing memory written with
  | nil => rwa [writings, List.append_nil]
  | cons operation rest inductionHypothesis =>
    rw [writings, ← List.append_assoc]
    exact inductionHypothesis (reachable.after [operation])
      (keeps.act reachable.sound operation)

/-- An item is read as it was written last. -/
theorem item?_eq (sound : Sound memory) (keeps : Keeps memory written) (vaultId itemId : String) :
    memory.item? vaultId itemId = (latest? vaultId itemId written).map Writing.kept := by
  cases latest : latest? vaultId itemId written with
  | some last =>
    obtain ⟨wasWritten, rfl, rfl⟩ := of_latest? latest
    obtain ⟨shelf, there, isVault, present⟩ := keeps.housed last wasWritten
    obtain ⟨item, inShelf, isItem⟩ := List.mem_map.mp present
    have found := sound.listedItem?_eq there inShelf
    rw [isVault, isItem] at found
    refine found.trans ?_
    rw [keeps.shelved shelf there] at inShelf
    obtain ⟨made, isMade, rfl⟩ := List.mem_map.mp inShelf
    have inVault : made.item.vaultId = last.item.vaultId :=
      (mem_additions.mp isMade).2.2.trans isVault
    rw [current_id] at isItem
    rw [current, inVault, isItem, latest]
    rfl
  | none =>
    cases found : memory.item? vaultId itemId with
    | none => rfl
    | some item =>
      obtain ⟨shelf, there, rfl, inShelf, rfl⟩ := of_item? found
      rw [keeps.shelved shelf there] at inShelf
      obtain ⟨made, isMade, rfl⟩ := List.mem_map.mp inShelf
      obtain ⟨wasWritten, _, inVault⟩ := mem_additions.mp isMade
      obtain ⟨last, isLast⟩ := exists_latest? wasWritten
      rw [inVault, ← current_id written made, latest] at isLast
      cases isLast

/-- The items of a vault are listed as they were made, each as it was written last. -/
theorem fst_perform_listItems (keeps : Keeps memory written) (vaultId : String) :
    (memory.perform (.listItems vaultId)).1 =
      if vaultId ∈ memory.vaults.map VaultSummary.id then
        .ok ((additions vaultId written).map fun made => (current written made).summary)
      else .error (noVault vaultId) := by
  rw [perform_listItems]
  cases found : memory.shelf? vaultId with
  | some shelf =>
    obtain ⟨there, rfl⟩ := exists_shelf_of_shelf? found
    have isVault : shelf.vault.id ∈ memory.vaults.map VaultSummary.id :=
      List.mem_map_of_mem (List.mem_map_of_mem there)
    have items := keeps.shelved shelf there
    rw [if_pos isVault]
    dsimp only
    rw [items, List.map_map]
    rfl
  | none =>
    rw [if_neg]
    intro isVault
    obtain ⟨vault, member, rfl⟩ := List.mem_map.mp isVault
    obtain ⟨shelf, there, rfl⟩ := List.mem_map.mp member
    exact List.find?_eq_none.mp found shelf there (beq_self_eq_true _)

end Keeps

/-- The items of a vault are made under ids that were given out for them. -/
theorem additions_sublist (vaultId : String) (written : List Writing) :
    ((additions vaultId written).map fun made => made.item.id).Sublist
      (written.flatMap Writing.givenIds) := by
  induction written with
  | nil => exact .slnil
  | cons writing rest inductionHypothesis =>
    rw [List.flatMap_cons]
    cases isAddition : writing.isAddition vaultId with
    | true =>
      have isNew : writing.isNew = true := (Bool.and_eq_true_iff.mp isAddition).1
      simp only [additions, List.filter_cons, isAddition, if_true, List.map_cons,
        Writing.givenIds, isNew, List.cons_append]
      exact (inductionHypothesis.trans (List.sublist_append_right _ _)).cons_cons _
    | false =>
      simp only [additions, List.filter_cons, isAddition]
      exact inductionHypothesis.trans (List.sublist_append_right _ _)

/-- Whatever is done to an empty store: an item is read as the last writing of it, and the items
of a vault are listed in the order in which they were made, each once and as the last writing of
it. A writing is kept as it was given but for the fields without an id, which have got ids of
fields in order; the counter has given these ids out for nothing else. An item that is replaced
leaves all others alone. -/
theorem writings_kept (operations : List Operation) :
    let memory := after operations empty
    let written := writings operations empty
    (∀ vaultId itemId, memory.failures.lookup .getItem = none →
      (memory.answer (.getItem vaultId itemId)).1 =
        match latest? vaultId itemId written with
        | some writing => .ok writing.kept
        | none => .error (noItem itemId)) ∧
    (∀ vaultId, memory.failures.lookup .listItems = none →
      (memory.answer (.listItems vaultId)).1 =
        if vaultId ∈ memory.vaults.map VaultSummary.id then
          .ok ((additions vaultId written).map fun made => (current written made).summary)
        else .error (noVault vaultId)) ∧
    (∀ vaultId, ((additions vaultId written).map fun made => made.item.id).Nodup) ∧
    (∀ writing ∈ written,
      writing.fieldIds.length = (writing.item.fields.countP fun field => field.id.isEmpty) ∧
        ∀ id ∈ writing.fieldIds, ∃ number, id = idText "field" number) ∧
    (written.flatMap Writing.givenIds).Sublist (givenOut operations empty) ∧
    (givenOut operations empty).Nodup ∧
    (∀ item, (memory.answer (.putItem item)).1 = .ok () → ∀ vaultId itemId,
      vaultId ≠ item.vaultId ∨ itemId ≠ item.id →
        (memory.answer (.putItem item)).2.item? vaultId itemId = memory.item? vaultId itemId) := by
  intro memory written
  have reachable : Reachable memory := Reachable.empty.after operations
  have keeps : Keeps memory written := Keeps.empty.run .empty operations
  have distinct : (givenOut operations empty).Nodup :=
    (moves_after operations empty).numbered.nodup
  have given := givenIds_sublist operations empty
  refine ⟨?_, ?_, ?_, ?_, given, distinct, ?_⟩
  · intro vaultId itemId permitted
    rw [answer_of_permitted memory (.getItem vaultId itemId) permitted, perform_getItem,
      (keeps.recorded _).item?_eq (reachable.sound.recorded _)]
    cases latest? vaultId itemId written with
    | some writing => rfl
    | none => rfl
  · intro vaultId permitted
    rw [answer_of_permitted memory (.listItems vaultId) permitted]
    exact (keeps.recorded _).fst_perform_listItems vaultId
  · intro vaultId
    exact distinct.sublist ((additions_sublist vaultId written).trans given)
  · intro writing member
    obtain ⟨operation, before, isGiven⟩ := exists_of_mem_writings member
    exact ⟨isGiven.counted, isGiven.areFieldIds⟩
  · intro item succeeded vaultId itemId differs
    let operation : Operation := .ask (.putItem item)
    have wrote : operation.writing? memory =
        some ⟨item, false, operation.fieldIds memory item.fields⟩ := writing?_putItem succeeded
    have later := keeps.act reachable.sound operation
    rw [wrote] at later
    refine (later.item?_eq (reachable.call (.putItem item)).sound vaultId itemId).trans ?_
    rw [keeps.item?_eq reachable.sound, Option.toList_some, latest?_append, if_neg]
    simp only [Writing.isOf, Bool.and_eq_true, beq_iff_eq]
    rintro ⟨rfl, rfl⟩
    simp at differs

/-- An item for the place of the first one of a store, with a field that has no id. -/
def post : Item :=
  ⟨"item-2", "vault-1", "Post", .login, [Field.concealed "pin" "1"], []⟩

/-- An item is added and replaced by one with another title, category and field. -/
theorem replaced_item_kept :
    let memory := after [.addItem "Work" "Mail" [("token", "old")], .ask (.putItem post)] empty
    memory.failures.lookup .getItem = none ∧
      (memory.answer (.getItem "vault-1" "item-2")).1 =
        .ok { post with fields := [⟨"field-4", "pin", "1", .concealed, []⟩] } ∧
      (memory.answer (.listItems "vault-1")).1 = .ok [⟨"item-2", "Post", .login⟩] := by
  obtain ⟨read, listed, _⟩ := writings_kept
    [.addItem "Work" "Mail" [("token", "old")], .ask (.putItem post)]
  exact ⟨rfl, read "vault-1" "item-2" rfl, listed "vault-1" rfl⟩

end SecretRefs.Store.Memory

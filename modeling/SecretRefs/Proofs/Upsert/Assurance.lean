import SecretRefs.Proofs.Interplay
import SecretRefs.Proofs.Upsert.Effect

/-!
# What an upsert relies on

Between its calls an upsert knows of the store only what it was told: the list of items and the
item that it read may be stale. It relies on its own item and the vaults being left alone
(`Spares`), and in turn does nothing but record calls and carry out its request
(`Contributes`), which spares the items of all requests about other items. Under these terms
it is assured of success (`assured_upsert`): each of its calls succeeds on every store that may
have come about in between, and in the end its item holds the value.
-/

namespace SecretRefs

/-- Whether two requests are about one item, ignoring case. -/
def UpsertRequest.meets (one other : UpsertRequest) : Bool :=
  Text.sameTitle one.vault other.vault && Text.sameTitle one.item other.item

/-- An upsert makes at most four calls. -/
theorem Upsert.asksAtMost (request : UpsertRequest) : (upsert request).run.AsksAtMost 4 := by
  have changes (vaultId itemId : String) :
      (Upsert.update request vaultId itemId).run.AsksAtMost (1 + (0 + (1 + 0))) := by
    refine Session.asksAtMost_bind (Session.asksAtMost_callDuring _ _) fun item => ?_
    refine Session.asksAtMost_bind trivial fun _ => ?_
    refine Session.asksAtMost_bind (Session.asksAtMost_callDuring _ _) fun _ => ?_
    trivial
  have creates (vaultId : String) :
      (Upsert.create request vaultId).run.AsksAtMost (1 + 0) := by
    refine Session.asksAtMost_bind (Session.asksAtMost_callDuring _ _) fun _ => ?_
    trivial
  have reports (kind : UpsertKind) : (do
      Session.log (Upsert.writtenEvent (request.outcome kind))
      pure (request.outcome kind) : Session UpsertOutcome).run.AsksAtMost 0 :=
    trivial
  change (upsert request).run.AsksAtMost (1 + (0 + (1 + 2)))
  unfold upsert
  refine Session.asksAtMost_bind (Session.asksAtMost_callDuring _ _) fun vaults => ?_
  refine Session.asksAtMost_bind trivial fun vault => ?_
  refine Session.asksAtMost_bind (Session.asksAtMost_callDuring _ _) fun items => ?_
  dsimp only
  split
  · exact Session.asksAtMost_bind (changes _ _) reports
  · exact (Session.asksAtMost_bind (creates _) reports).mono (Nat.le_succ 1)

namespace Store.Memory

variable {memory before middle after : Memory} {request other : UpsertRequest} {shelf : Shelf}
  {kind : UpsertKind}

/-! ## What an upsert relies on and what it does -/

/-- What an upsert relies on: the item of its request stays what it is, and so do the vaults. -/
structure Spares (request : UpsertRequest) (before after : Memory) : Prop where
  sound : Sound before → Sound after
  failures : after.failures = before.failures
  vaults : after.vaults = before.vaults
  issued : before.issued ≤ after.issued
  item : after.itemTitled? request.vault request.item =
    before.itemTitled? request.vault request.item

namespace Spares

theorem refl (memory : Memory) : Spares request memory memory :=
  ⟨id, rfl, rfl, Nat.le_refl _, rfl⟩

theorem trans (first : Spares request before middle) (second : Spares request middle after) :
    Spares request before after where
  sound := second.sound ∘ first.sound
  failures := second.failures.trans first.failures
  vaults := second.vaults.trans first.vaults
  issued := Nat.le_trans first.issued second.issued
  item := second.item.trans first.item

/-- A recorded call spares everything. -/
theorem recorded (calls : List CallRecord) : Spares request memory (memory.recorded calls) where
  sound sound := sound.recorded calls
  failures := rfl
  vaults := rfl
  issued := Nat.le_refl _
  item := rfl

/-- The vault of a request is found with its item as it was. -/
theorem shelfTitled? (spares : Spares request before after)
    (found : before.shelfTitled? request.vault = some shelf) :
    ∃ current, after.shelfTitled? request.vault = some current ∧ current.vault = shelf.vault ∧
      current.items.find? (titled request.item) =
        before.itemTitled? request.vault request.item := by
  have sameVault := find?_vaults request.vault after
  rw [spares.vaults, find?_vaults, found] at sameVault
  obtain ⟨current, currentFound, isVault⟩ := Option.map_eq_some_iff.mp sameVault.symm
  refine ⟨current, currentFound, isVault, ?_⟩
  rw [← spares.item, itemTitled?_of_found currentFound (Text.sameTitle_self _)]

end Spares

/-- What a turn of an upsert does: a call is recorded, or the request is carried out. -/
inductive Contributes (request : UpsertRequest) (before : Memory) : Memory → Prop where
  | reads (calls : List CallRecord) : Contributes request before (before.recorded calls)
  | writes {kind : UpsertKind} {after : Memory} (wrote : Wrote request before kind after)
      (sound : Sound before → Sound after) : Contributes request before after

theorem Contributes.idle (memory : Memory) : Contributes request memory memory := by
  have reads : Contributes request memory (memory.recorded []) := .reads []
  simpa [recorded] using reads

theorem storeField_issued_le (issued : Nat) (title value : String) (fields : List Field) :
    issued ≤ (storeField issued title value fields).2 := by
  unfold storeField
  split
  · exact Nat.le_refl _
  · exact Nat.le_succ _

namespace Wrote

theorem issued_le (wrote : Wrote request memory kind after) : memory.issued ≤ after.issued := by
  cases wrote with
  | updated calls found itemFound => exact storeField_issued_le ..
  | created calls found missing => exact Nat.le_add_right ..

/-- A write does not touch what is found under other titles. -/
theorem itemTitled?_of_apart (wrote : Wrote request memory kind after) {vault title : String}
    (apart : (Text.sameTitle request.vault vault && Text.sameTitle request.item title) = false) :
    after.itemTitled? vault title = memory.itemTitled? vault title := by
  cases wrote with
  | updated calls found itemFound =>
    refine (itemTitled?_overwritten found itemFound vault title).trans ?_
    rw [apart, if_neg Bool.false_ne_true]
  | created calls found missing =>
    refine (itemTitled?_extended found missing vault title).trans ?_
    rw [apart, if_neg Bool.false_ne_true]

end Wrote

/-- What an upsert does spares the items of requests about other items. -/
theorem Contributes.spares (contributes : Contributes request before after)
    (apart : request.meets other = false) : Spares other before after := by
  cases contributes with
  | reads calls => exact Spares.recorded calls
  | writes wrote sound =>
    exact ⟨sound, wrote.failures_eq, wrote.vaults_eq, wrote.issued_le,
      wrote.itemTitled?_of_apart apart⟩

/-! ## The assurance of an upsert -/

/-- The item of a request after its write, which it was before, if it was there. -/
def writtenItem (request : UpsertRequest) (vaultId : String) (issued : Nat) :
    Option Item → Item
  | some item => { item with
      fields := (storeField issued request.field request.value item.fields).1 }
  | none => createdItem request vaultId issued

/-- How a request is carried out, by what is found of its item. -/
def kindFor : Option Item → UpsertKind
  | some _ => .updated
  | none => .created

/-- The item of a request is as its write leaves it, with ids from some time on. -/
def Holds (request : UpsertRequest) (vaultId : String) (memory after : Memory) : Prop :=
  ∃ issued ≥ memory.issued, after.itemTitled? request.vault request.item =
    some (writtenItem request vaultId issued (memory.itemTitled? request.vault request.item))

/-- What an upsert promises: it succeeds, and its item holds the value. -/
def Delivers (request : UpsertRequest) (vaultId : String) (memory : Memory)
    (result : Except Failure UpsertOutcome) (after : Memory) : Prop :=
  result = .ok (request.outcome (kindFor (memory.itemTitled? request.vault request.item))) ∧
    Holds request vaultId memory after

section Assurance

variable {item : Item}

/-- A call is answered in a store whose calls do not fail. -/
theorem answer_of_spared (working : memory.failures = []) (spares : Spares request memory before)
    (call : Call) : before.answer call = (before.recorded [call.record]).perform call := by
  refine answer_of_permitted before call ?_
  rw [spares.failures, working]
  rfl

theorem Spares.then_recorded (spares : Spares request memory before) (calls : List CallRecord) :
    Spares request memory (before.recorded calls) :=
  spares.trans (.recorded calls)

/-- The vaults are listed as they were. -/
theorem Spares.answer_listVaults (working : memory.failures = [])
    (spares : Spares request memory before) :
    before.answer .listVaults = (.ok memory.vaults, before.recorded [.listVaults]) := by
  rw [answer_of_spared working spares, perform, ← spares.vaults]
  rfl

/-- The list of the vault's items leads to the item of the request as it was. -/
theorem Spares.answer_listItems (sound : Sound memory) (working : memory.failures = [])
    (found : memory.shelfTitled? request.vault = some shelf)
    (spares : Spares request memory before) :
    ∃ items, before.answer (.listItems shelf.vault.id) =
        (.ok items, before.recorded [.listItems shelf.vault.id]) ∧
      ItemSummary.find? request.item items =
        (memory.itemTitled? request.vault request.item).map Item.summary := by
  obtain ⟨current, currentFound, isVault, inCurrent⟩ := spares.shelfTitled? found
  have member : current ∈ before.shelves := List.mem_of_find?_eq_some currentFound
  have listed := ((spares.sound sound).recorded
    [.listItems current.vault.id]).perform_listItems member
  rw [← isVault]
  refine ⟨current.items.map Item.summary, ?_, ?_⟩
  · rw [answer_of_spared working spares]
    exact listed
  · rw [find?_summaries, inCurrent]

/-- The id of the item of a request leads to it. -/
theorem Spares.answer_getItem (sound : Sound memory) (working : memory.failures = [])
    (found : memory.shelfTitled? request.vault = some shelf)
    (itemFound : memory.itemTitled? request.vault request.item = some item)
    (spares : Spares request memory before) :
    before.answer (.getItem shelf.vault.id item.id) =
      (.ok item, before.recorded [.getItem shelf.vault.id item.id]) := by
  obtain ⟨current, currentFound, isVault, inCurrent⟩ := spares.shelfTitled? found
  rw [itemFound] at inCurrent
  have member : current ∈ before.shelves := List.mem_of_find?_eq_some currentFound
  rw [← isVault, answer_of_spared working spares]
  exact ((spares.sound sound).recorded _).perform_getItem member
    (List.mem_of_find?_eq_some inCurrent)

/-- Writing the changed item back carries the request out. -/
theorem Spares.answer_putItem (sound : Sound memory) (working : memory.failures = [])
    (found : memory.shelfTitled? request.vault = some shelf)
    (itemFound : memory.itemTitled? request.vault request.item = some item)
    (spares : Spares request memory before) :
    let call : Call := .putItem
      { item with fields := Field.store request.field request.value item.fields }
    ∃ after, before.answer call = (.ok (), after) ∧ Contributes request before after ∧
      Holds request shelf.vault.id memory after := by
  intro call
  obtain ⟨current, currentFound, _, inCurrent⟩ := spares.shelfTitled? found
  rw [itemFound] at inCurrent
  have put : before.answer call =
      (.ok (), (before.overwritten request item).recorded [call.record]) := by
    rw [answer_of_spared working spares]
    exact ((spares.sound sound).recorded [call.record]).perform_putItem currentFound inCurrent
  refine ⟨_, put, .writes (.updated _ currentFound inCurrent) ?_, before.issued, spares.issued, ?_⟩
  · intro soundBefore
    have soundAfter := soundBefore.answer call
    rwa [put] at soundAfter
  · refine (itemTitled?_overwritten currentFound inCurrent _ _).trans ?_
    rw [itemFound]
    simp [writtenItem]

/-- Creating the item carries the request out. -/
theorem Spares.answer_createItem (sound : Sound memory) (working : memory.failures = [])
    (found : memory.shelfTitled? request.vault = some shelf)
    (missing : memory.itemTitled? request.vault request.item = none)
    (spares : Spares request memory before) :
    let call : Call := .createItem (Upsert.newItem request shelf.vault.id)
    ∃ made after, before.answer call = (.ok made, after) ∧ Contributes request before after ∧
      Holds request shelf.vault.id memory after := by
  intro call
  obtain ⟨current, currentFound, isVault, inCurrent⟩ := spares.shelfTitled? found
  rw [missing] at inCurrent
  have created : before.answer call =
      (.ok (createdItem request current.vault.id before.issued),
        (before.extended request current.vault.id).recorded [call.record]) := by
    have performed := ((spares.sound sound).recorded [call.record]).perform_createItem currentFound
    rw [answer_of_spared working spares]
    rw [isVault] at performed ⊢
    exact performed
  refine ⟨_, _, created, .writes (.created _ currentFound inCurrent) ?_, before.issued,
    spares.issued, ?_⟩
  · intro soundBefore
    have soundAfter := soundBefore.answer call
    rwa [created] at soundAfter
  · refine (itemTitled?_extended currentFound inCurrent _ _).trans ?_
    rw [missing, isVault]
    simp [writtenItem]

/-- What is held is held as long as the item is spared. -/
theorem Holds.mono {vaultId : String} (holds : Holds request vaultId memory before)
    (spares : Spares request before after) : Holds request vaultId memory after := by
  obtain ⟨issued, later, held⟩ := holds
  exact ⟨issued, later, spares.item.trans held⟩

/-- An upsert of an item that is there is assured: the item that is read is the one that is
written, whatever happens in between. -/
theorem assured_update (sound : Sound memory) (working : memory.failures = [])
    (found : memory.shelfTitled? request.vault = some shelf)
    (itemFound : memory.itemTitled? request.vault request.item = some item)
    (spares : Spares request memory before) :
    (Upsert.update request shelf.vault.id item.id).run.Assured answer (Spares request)
      (Contributes request) (fun result after => ∃ kind, result = .ok kind ∧
        kind = .updated ∧ Holds request shelf.vault.id memory after) before := by
  unfold Upsert.update
  refine Session.assured_bind Spares.refl (Session.assured_callDuring _ _ fun later relied => ?_)
  have sparesLater := spares.trans relied
  refine ⟨item, _, sparesLater.answer_getItem sound working found itemFound, .reads _,
    fun last kept => ⟨item, rfl, ?_⟩⟩
  have sparesLast := (sparesLater.then_recorded _).trans kept
  refine Session.assured_log_bind ?_
  refine Session.assured_bind Spares.refl (Session.assured_callDuring _ _ fun later relied => ?_)
  obtain ⟨after, put, contributes, holds⟩ :=
    (sparesLast.trans relied).answer_putItem sound working found itemFound
  refine ⟨(), after, put, contributes, fun last kept => ⟨(), rfl, fun ended relied => ?_⟩⟩
  exact ⟨.updated, rfl, rfl, holds.mono (kept.trans relied)⟩

/-- An upsert of an item that is not there is assured: nobody else creates it. -/
theorem assured_create (sound : Sound memory) (working : memory.failures = [])
    (found : memory.shelfTitled? request.vault = some shelf)
    (missing : memory.itemTitled? request.vault request.item = none)
    (spares : Spares request memory before) :
    (Upsert.create request shelf.vault.id).run.Assured answer (Spares request)
      (Contributes request) (fun result after => ∃ kind, result = .ok kind ∧
        kind = .created ∧ Holds request shelf.vault.id memory after) before := by
  unfold Upsert.create
  refine Session.assured_bind Spares.refl (Session.assured_callDuring _ _ fun later relied => ?_)
  obtain ⟨made, after, created, contributes, holds⟩ :=
    (spares.trans relied).answer_createItem sound working found missing
  refine ⟨made, after, created, contributes, fun last kept => ⟨made, rfl, fun ended relied => ?_⟩⟩
  exact ⟨.created, rfl, rfl, holds.mono (kept.trans relied)⟩

/-- An upsert that relies on its item being spared is assured of its success. -/
theorem assured_upsert (sound : Sound memory) (working : memory.failures = [])
    (found : memory.shelfTitled? request.vault = some shelf) :
    (upsert request).run.Assured answer (Spares request) (Contributes request)
      (Delivers request shelf.vault.id memory) memory := by
  unfold upsert
  refine Session.assured_bind Spares.refl (Session.assured_callDuring _ _ fun first relied => ?_)
  refine ⟨memory.vaults, _, relied.answer_listVaults working, .reads _,
    fun second kept => ⟨memory.vaults, rfl, ?_⟩⟩
  have sparesSecond := (relied.then_recorded _).trans kept
  rw [select_vaults, found]
  refine Session.assured_ok_bind ?_
  refine Session.assured_bind Spares.refl (Session.assured_callDuring _ _ fun third relied => ?_)
  have sparesThird := sparesSecond.trans relied
  obtain ⟨items, listed, itemsFind⟩ := sparesThird.answer_listItems sound working found
  refine ⟨items, _, listed, .reads _, fun fourth kept => ⟨items, rfl, ?_⟩⟩
  have sparesFourth := (sparesThird.then_recorded _).trans kept
  dsimp only
  rw [itemsFind]
  cases itemFound : memory.itemTitled? request.vault request.item with
  | some item =>
    refine Session.assured_bind Spares.refl
      ((assured_update sound working found itemFound sparesFourth).mono ?_)
    rintro result after ⟨kind, rfl, rfl, holds⟩
    refine ⟨.updated, rfl, fun last relied => ⟨?_, holds.mono relied⟩⟩
    rw [itemFound]
    rfl
  | none =>
    refine Session.assured_bind Spares.refl
      ((assured_create sound working found itemFound sparesFourth).mono ?_)
    rintro result after ⟨kind, rfl, rfl, holds⟩
    refine ⟨.created, rfl, fun last relied => ⟨?_, holds.mono relied⟩⟩
    rw [itemFound]
    rfl

end Assurance

end Store.Memory

end SecretRefs

import SecretRefs.Proofs.Turns
import SecretRefs.Proofs.Upsert.InMemory

/-!
# The calls of an upsert

An upsert makes its calls one after another and stops at the first that fails. `Upsert.Ran` has
every way in which that can go, by the calls, their answers and the result; `Upsert.ran` says
that there is no other, whatever the store answers. `Upsert.Orderly` is what follows for the
order of the calls, for writes and for failures.

An upsert that fails on a store in memory has changed nothing but the record of calls.
-/

namespace SecretRefs

namespace Store.Call

/-- Whether a call changes what the store holds. -/
def isWrite : Store.Call → Bool
  | .putItem _ => true
  | .createItem _ => true
  | _ => false

/-- The step of a write that a call is. -/
def step? : Store.Call → Option WriteStep
  | .resolve _ => none
  | .listVaults => some .listVaults
  | .listItems _ => some .listItems
  | .getItem _ _ => some .getItem
  | .putItem _ => some .putItem
  | .createItem _ => some .createItem

end Store.Call

namespace Upsert

variable {request : UpsertRequest}

/-- An item with the value of a request stored in it. -/
def changed (request : UpsertRequest) (item : Item) : Item :=
  { item with fields := Field.store request.field request.value item.fields }

/-- The turns of an upsert, with its result. -/
inductive Ran (request : UpsertRequest) :
    List Store.Turn → Except Failure UpsertOutcome → Prop where
  | listVaultsFailed (cause : Failure) :
      Ran request [⟨.listVaults, .error cause⟩] (.error (.write .listVaults cause))
  | vaultMissing {vaults : List VaultSummary}
      (missing : VaultSummary.find? request.vault vaults = none) :
      Ran request [⟨.listVaults, .ok vaults⟩]
        (.error (.vaultNotFound request.vault (vaults.map VaultSummary.title)))
  | listItemsFailed {vaults : List VaultSummary} {vault : VaultSummary}
      (found : VaultSummary.find? request.vault vaults = some vault) (cause : Failure) :
      Ran request [⟨.listVaults, .ok vaults⟩, ⟨.listItems vault.id, .error cause⟩]
        (.error (.write .listItems cause))
  | getItemFailed {vaults : List VaultSummary} {vault : VaultSummary} {items : List ItemSummary}
      {listed : ItemSummary} (found : VaultSummary.find? request.vault vaults = some vault)
      (itemFound : ItemSummary.find? request.item items = some listed) (cause : Failure) :
      Ran request
        [⟨.listVaults, .ok vaults⟩, ⟨.listItems vault.id, .ok items⟩,
          ⟨.getItem vault.id listed.id, .error cause⟩]
        (.error (.write .getItem cause))
  | putItemFailed {vaults : List VaultSummary} {vault : VaultSummary} {items : List ItemSummary}
      {listed : ItemSummary} (found : VaultSummary.find? request.vault vaults = some vault)
      (itemFound : ItemSummary.find? request.item items = some listed) (item : Item)
      (cause : Failure) :
      Ran request
        [⟨.listVaults, .ok vaults⟩, ⟨.listItems vault.id, .ok items⟩,
          ⟨.getItem vault.id listed.id, .ok item⟩, ⟨.putItem (changed request item), .error cause⟩]
        (.error (.write .putItem cause))
  | updated {vaults : List VaultSummary} {vault : VaultSummary} {items : List ItemSummary}
      {listed : ItemSummary} (found : VaultSummary.find? request.vault vaults = some vault)
      (itemFound : ItemSummary.find? request.item items = some listed) (item : Item) :
      Ran request
        [⟨.listVaults, .ok vaults⟩, ⟨.listItems vault.id, .ok items⟩,
          ⟨.getItem vault.id listed.id, .ok item⟩, ⟨.putItem (changed request item), .ok ()⟩]
        (.ok (request.outcome .updated))
  | createItemFailed {vaults : List VaultSummary} {vault : VaultSummary}
      {items : List ItemSummary} (found : VaultSummary.find? request.vault vaults = some vault)
      (missing : ItemSummary.find? request.item items = none) (cause : Failure) :
      Ran request
        [⟨.listVaults, .ok vaults⟩, ⟨.listItems vault.id, .ok items⟩,
          ⟨.createItem (newItem request vault.id), .error cause⟩]
        (.error (.write .createItem cause))
  | created {vaults : List VaultSummary} {vault : VaultSummary} {items : List ItemSummary}
      (found : VaultSummary.find? request.vault vaults = some vault)
      (missing : ItemSummary.find? request.item items = none) (made : Item) :
      Ran request
        [⟨.listVaults, .ok vaults⟩, ⟨.listItems vault.id, .ok items⟩,
          ⟨.createItem (newItem request vault.id), .ok made⟩]
        (.ok (request.outcome .created))

@[simp] theorem failure?_ok (call : Store.Call) (value : call.Result) :
    Store.Turn.failure? ⟨call, no_index (.ok value)⟩ = none := rfl

@[simp] theorem failure?_error (call : Store.Call) (cause : Failure) :
    Store.Turn.failure? ⟨call, no_index (.error cause)⟩ = some cause := rfl

section Run

variable {State : Type} (backend : Store.Backend State)

/-- A call of a write on a store whose calls are listed. -/
theorem callDuring_recording (step : WriteStep) (call : Store.Call) (state : State)
    (earlier : List Store.Turn) :
    Session.on (α := no_index call.Result) (Session.callDuring step call)
        (Dialogue.recording backend) (state, earlier) =
      ((backend call state).1.mapError (.write step),
        ((backend call state).2, earlier ++ [⟨call, (backend call state).1⟩])) := rfl

/-- Every upsert goes in one of the ways. -/
theorem ran (request : UpsertRequest) (state : State) :
    Ran request ((upsert request).turns backend state)
      ((upsert request).on backend state).1 := by
  have same := Session.on_recording (upsert request) backend state []
  -- One run of the upsert on the listing store gives both its calls and its result.
  suffices whole : Ran request
      ((upsert request).on (Dialogue.recording backend) (state, [])).2.2
      ((upsert request).on (Dialogue.recording backend) (state, [])).1 by
    rwa [same] at whole
  clear same
  unfold upsert
  rw [Session.on_bind, callDuring_recording]
  obtain ⟨cause | vaults, state⟩ := backend .listVaults state
  · exact .listVaultsFailed cause
  simp only [Except.mapError, Session.resume_ok]
  rw [Session.on_bind, Session.on_mk_pure, VaultSummary.select]
  cases found : VaultSummary.find? request.vault vaults with
  | none => exact .vaultMissing found
  | some vault =>
    simp only [Session.resume_ok]
    rw [Session.on_bind, callDuring_recording]
    obtain ⟨cause | items, state⟩ := backend (.listItems vault.id) state
    · exact .listItemsFailed found cause
    simp only [Except.mapError, Session.resume_ok]
    cases itemFound : ItemSummary.find? request.item items with
    | none =>
      simp only [on_report, create]
      rw [Session.on_bind, callDuring_recording]
      obtain ⟨cause | made, state⟩ := backend (.createItem (newItem request vault.id)) state
      · exact .createItemFailed found itemFound cause
      · exact .created found itemFound made
    | some listed =>
      simp only [on_report, update]
      rw [Session.on_bind, callDuring_recording]
      obtain ⟨cause | item, state⟩ := backend (.getItem vault.id listed.id) state
      · exact .getItemFailed found itemFound cause
      simp only [Except.mapError, Session.resume_ok]
      rw [Session.on_bind, Session.on_log, Session.resume_ok, Session.on_bind,
        callDuring_recording, ← changed]
      obtain ⟨cause | done, state⟩ := backend (.putItem (changed request item)) state
      · exact .putItemFailed found itemFound item cause
      · exact .updated found itemFound item

end Run

/-- The calls that store a value in an item that is there. -/
def updating (vaultId itemId : String) (written : Item) : List Store.Call :=
  [.listVaults, .listItems vaultId, .getItem vaultId itemId, .putItem written]

/-- The calls that store a value in an item that is created. -/
def creating (request : UpsertRequest) (vaultId : String) : List Store.Call :=
  [.listVaults, .listItems vaultId, .createItem (newItem request vaultId)]

/-- The calls that carry a request out, with the vault, the item and the content that follow
from the answers among some turns. -/
inductive Plan (request : UpsertRequest) (turns : List Store.Turn) :
    UpsertKind → List Store.Call → Prop where
  /-- The first item with the title in the first vault with the title is read and written. -/
  | update {vaultId itemId : String} {written : Item}
      (isVault : ∀ vaults, ⟨.listVaults, .ok vaults⟩ ∈ turns →
        ∀ vault ∈ VaultSummary.find? request.vault vaults, vault.id = vaultId)
      (isItem : ∀ items, ⟨.listItems vaultId, .ok items⟩ ∈ turns →
        ∃ item ∈ ItemSummary.find? request.item items, item.id = itemId)
      (isWritten : ∀ item, ⟨.getItem vaultId itemId, .ok item⟩ ∈ turns →
        written = changed request item) :
      Plan request turns .updated (updating vaultId itemId written)
  /-- The first vault with the title has no item with the title, and one is created. -/
  | create {vaultId : String}
      (isVault : ∀ vaults, ⟨.listVaults, .ok vaults⟩ ∈ turns →
        ∀ vault ∈ VaultSummary.find? request.vault vaults, vault.id = vaultId)
      (isMissing : ∀ items, ⟨.listItems vaultId, .ok items⟩ ∈ turns →
        ItemSummary.find? request.item items = none) :
      Plan request turns .created (creating request vaultId)

/-- What an upsert makes of a store, seen from its turns and its result. -/
structure Orderly (request : UpsertRequest) (turns : List Store.Turn)
    (result : Except Failure UpsertOutcome) : Prop where
  /-- The calls follow a plan as far as they go. -/
  planned : ∃ kind plan, Plan request turns kind plan ∧ turns.map Dialogue.Turn.query <+: plan
  /-- Every call but the last one is no write and succeeds. -/
  readsFirst : ∀ turn ∈ turns.dropLast, turn.query.isWrite = false ∧ turn.failure? = none
  /-- The failure of the last call is the result, put down to the step that the call is. -/
  failureNamed : ∀ turn ∈ turns.getLast?, ∀ failure ∈ turn.failure?,
    ∃ step ∈ turn.query.step?, result = .error (.write step failure)
  /-- If no vault has the title, the titles that there are make the failure, and that is all. -/
  vaultMissing : ∀ vaults, ⟨.listVaults, .ok vaults⟩ ∈ turns →
    VaultSummary.find? request.vault vaults = none →
      turns = [⟨.listVaults, .ok vaults⟩] ∧
        result = .error (.vaultNotFound request.vault (vaults.map VaultSummary.title))
  /-- If a vault has the title and no call fails, the plan is carried out to its end. -/
  carriedOut : (∀ vaults, ⟨.listVaults, .ok vaults⟩ ∈ turns →
      VaultSummary.find? request.vault vaults ≠ none) →
    (∀ turn ∈ turns, turn.failure? = none) →
      ∃ kind, Plan request turns kind (turns.map Dialogue.Turn.query) ∧
        result = .ok (request.outcome kind)

/-- Each way in which an upsert can go is orderly. -/
theorem Ran.orderly {turns : List Store.Turn} {result : Except Failure UpsertOutcome}
    (ran : Ran request turns result) : Orderly request turns result := by
  cases ran with
  | listVaultsFailed cause =>
    have plan : Plan request [⟨.listVaults, .error cause⟩] .created (creating request "") :=
      .create (by simp) (by simp)
    exact ⟨⟨_, _, plan, by simp [creating]⟩, by simp, by simp [Store.Call.step?], by simp,
      by simp⟩
  | @vaultMissing vaults missing =>
    have plan : Plan request [⟨.listVaults, .ok vaults⟩] .created (creating request "") :=
      .create (by simp [missing]) (by simp)
    exact ⟨⟨_, _, plan, by simp [creating]⟩, by simp, by simp, by simp, by simp [missing]⟩
  | @listItemsFailed vaults vault found cause =>
    have plan : Plan request [⟨.listVaults, .ok vaults⟩, ⟨.listItems vault.id, .error cause⟩]
        .created (creating request vault.id) :=
      .create (by simp [found]) (by simp)
    exact ⟨⟨_, _, plan, by simp [creating]⟩, by simp [Store.Call.isWrite],
      by simp [Store.Call.step?], by simp [found], by simp⟩
  | @getItemFailed vaults vault items listed found itemFound cause =>
    have plan (written : Item) : Plan request
        [⟨.listVaults, .ok vaults⟩, ⟨.listItems vault.id, .ok items⟩,
          ⟨.getItem vault.id listed.id, .error cause⟩]
        .updated (updating vault.id listed.id written) :=
      .update (by simp [found]) (by simp [itemFound]) (by simp)
    exact ⟨⟨_, _, plan ⟨"", "", "", .login, [], []⟩, by simp [updating]⟩,
      by simp [Store.Call.isWrite], by simp [Store.Call.step?], by simp [found], by simp⟩
  | @putItemFailed vaults vault items listed found itemFound item cause =>
    have plan : Plan request
        [⟨.listVaults, .ok vaults⟩, ⟨.listItems vault.id, .ok items⟩,
          ⟨.getItem vault.id listed.id, .ok item⟩, ⟨.putItem (changed request item), .error cause⟩]
        .updated (updating vault.id listed.id (changed request item)) :=
      .update (by simp [found]) (by simp [itemFound]) (by simp)
    exact ⟨⟨_, _, plan, by simp [updating]⟩, by simp [Store.Call.isWrite],
      by simp [Store.Call.step?], by simp [found], by simp⟩
  | @updated vaults vault items listed found itemFound item =>
    have plan : Plan request
        [⟨.listVaults, .ok vaults⟩, ⟨.listItems vault.id, .ok items⟩,
          ⟨.getItem vault.id listed.id, .ok item⟩, ⟨.putItem (changed request item), .ok ()⟩]
        .updated (updating vault.id listed.id (changed request item)) :=
      .update (by simp [found]) (by simp [itemFound]) (by simp)
    exact ⟨⟨_, _, plan, by simp [updating]⟩, by simp [Store.Call.isWrite], by simp,
      by simp [found], fun _ _ => ⟨_, plan, rfl⟩⟩
  | @createItemFailed vaults vault items found missing cause =>
    have plan : Plan request
        [⟨.listVaults, .ok vaults⟩, ⟨.listItems vault.id, .ok items⟩,
          ⟨.createItem (newItem request vault.id), .error cause⟩]
        .created (creating request vault.id) :=
      .create (by simp [found]) (by simp [missing])
    exact ⟨⟨_, _, plan, by simp [creating]⟩, by simp [Store.Call.isWrite],
      by simp [Store.Call.step?], by simp [found], by simp⟩
  | @created vaults vault items found missing made =>
    have plan : Plan request
        [⟨.listVaults, .ok vaults⟩, ⟨.listItems vault.id, .ok items⟩,
          ⟨.createItem (newItem request vault.id), .ok made⟩]
        .created (creating request vault.id) :=
      .create (by simp [found]) (by simp [missing])
    exact ⟨⟨_, _, plan, by simp [creating]⟩, by simp [Store.Call.isWrite], by simp,
      by simp [found], fun _ _ => ⟨_, plan, rfl⟩⟩

end Upsert

namespace Store.Memory

variable {memory after : Memory} {shelf : Shelf} {request : UpsertRequest} {failure : Failure}

theorem rewritten_error {item : Item}
    (run : memory.rewritten request shelf item = (.error failure, after)) :
    ∃ calls, after = memory.recorded calls := by
  unfold rewritten at run
  split at run
  · exact ⟨_, (Prod.ext_iff.mp run).2.symm⟩
  · split at run
    · exact ⟨_, (Prod.ext_iff.mp run).2.symm⟩
    · cases (Prod.ext_iff.mp run).1

theorem appended_error (run : memory.appended request shelf = (.error failure, after)) :
    ∃ calls, after = memory.recorded calls := by
  unfold appended at run
  split at run
  · exact ⟨_, (Prod.ext_iff.mp run).2.symm⟩
  · cases (Prod.ext_iff.mp run).1

/-- A transition that fails before its outcome is told has failed the same way. -/
theorem of_map_error {kind : Except Failure UpsertKind}
    (failed : kind.map request.outcome = .error failure) : kind = .error failure := by
  cases kind with
  | ok kind => cases failed
  | error cause => exact congrArg _ (Except.error.inj failed)

/-- An upsert that fails has recorded calls and done nothing else. -/
theorem upserted_error (run : memory.upserted request = (.error failure, after)) :
    ∃ calls, after = memory.recorded calls := by
  unfold upserted at run
  split at run
  · exact ⟨_, (Prod.ext_iff.mp run).2.symm⟩
  · split at run
    · exact ⟨_, (Prod.ext_iff.mp run).2.symm⟩
    · rename_i shelf found
      split at run
      · exact ⟨_, (Prod.ext_iff.mp run).2.symm⟩
      · obtain ⟨written, isAfter⟩ := Prod.ext_iff.mp run
        have failed := of_map_error written
        cases itemFound : shelf.items.find? (titled request.item) with
        | some item =>
          rw [itemFound] at failed isAfter
          exact rewritten_error (Prod.ext failed isAfter)
        | none =>
          rw [itemFound] at failed isAfter
          exact appended_error (Prod.ext failed isAfter)

end Store.Memory

/-- On every store an upsert makes its calls in order, writes at most once and last, stops at
the first failure and names it. On a store in memory, whatever calls are made to fail there, an
upsert that fails changes nothing but the record of calls. -/
theorem upsert_orderly (request : UpsertRequest) :
    (∀ {State : Type} (backend : Store.Backend State) (state : State),
      Upsert.Orderly request ((upsert request).turns backend state)
        ((upsert request).on backend state).1) ∧
    ∀ {memory after : Store.Memory} {failure : Failure}, Store.Memory.Reachable memory →
      (upsert request).on Store.Memory.answer memory = (.error failure, after) →
        ∃ calls, after = memory.recorded calls := by
  refine ⟨fun backend state => (Upsert.ran backend request state).orderly, ?_⟩
  intro memory after failure reachable run
  rw [Store.Memory.on_upsert reachable.sound] at run
  exact Store.Memory.upserted_error run

/-- An upsert to a store that fails to write items back. -/
theorem failed_upsert_orderly :
    let memory := ((Store.Memory.empty.addItem "Work" "Mail" [("token", "old")]).2).failOn
      .putItem "down"
    let request : UpsertRequest := ⟨"Work", "Mail", "TOKEN", "new", .login⟩
    Store.Memory.Reachable memory ∧
      Upsert.Orderly request ((upsert request).turns Store.Memory.answer memory)
        (.error (.write .putItem (.store "down" none))) ∧
      ∃ calls, ((upsert request).on Store.Memory.answer memory).2 = memory.recorded calls := by
  intro memory request
  have reachable : Store.Memory.Reachable memory :=
    .failOn .putItem "down" (.addItem "Work" "Mail" [("token", "old")] .empty)
  have failed : ((upsert request).on Store.Memory.answer memory).1 =
      .error (.write .putItem (.store "down" none)) := by
    decide +kernel +zetaReduce
  obtain ⟨orderly, unchanged⟩ := upsert_orderly request
  refine ⟨reachable, ?_, unchanged reachable (Prod.ext failed rfl)⟩
  rw [← failed]
  exact orderly Store.Memory.answer memory

end SecretRefs

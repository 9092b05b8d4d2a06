import SecretRefs.Proofs.Store.Answer
import SecretRefs.Proofs.Store.Numbering

/-!
# What a failed call leaves behind

A call that fails is recorded, and it changes neither what is in the store nor which calls are
made to fail. The counter is another matter: an item that is to be replaced gets ids for its new
fields before it is looked for, so a replacement that finds no item loses these ids (`lostIds`).
An item that is to be created loses none, since its vault is looked for first.

Later operations see the shelves, the injected failures and the counter of a store and nothing
else (`Agrees`). So the ids that they are given are the same with and without a failed call
exactly if the call lost none (`failed_call_spares_ids_iff`).
-/

namespace SecretRefs.Store.Memory

/-! ## The store after a failed call -/

/-- The number of ids that a call loses if it fails. -/
def lostIds (memory : Memory) : Call → Nat
  | .putItem item =>
    if memory.failures.lookup .putItem = none then
      item.fields.countP fun field => field.id.isEmpty
    else 0
  | _ => 0

/-- The greatest number of resolve calls at one time, after a call that is answered at once. -/
def peakAfter (memory : Memory) : Call → Nat
  | .resolve _ =>
    if memory.failures.lookup .resolve = none then max memory.peak 1 else memory.peak
  | _ => memory.peak

variable {memory other : Memory} {call : Call} {failure : Failure}

theorem lostIds_eq_zero_iff :
    memory.lostIds call = 0 ↔
      ∀ item, call = .putItem item → memory.failures.lookup .putItem = none →
        ∀ field ∈ item.fields, field.id ≠ "" := by
  cases call with
  | putItem item =>
    by_cases permitted : memory.failures.lookup .putItem = none
    · simp [lostIds, permitted, List.countP_eq_zero]
    · simp [lostIds, permitted]
  | _ => simp [lostIds]

/-- What a call that fails does although calls of its kind are not made to. -/
theorem perform_of_failed (permitted : memory.failures.lookup call.kind = none)
    (failed : (memory.perform call).1 = .error failure) :
    (memory.perform call).2 = { memory with
      issued := memory.issued + memory.lostIds call
      peak := memory.peakAfter call } := by
  cases call with
  | resolve reference =>
    replace permitted : memory.failures.lookup .resolve = none := permitted
    simp [perform, lostIds, peakAfter, permitted]
  | listVaults => cases failed
  | listItems vaultId =>
    simp only [perform] at failed ⊢
    split at failed
    · cases failed
    · rfl
  | getItem vaultId itemId =>
    simp only [perform] at failed ⊢
    split at failed
    · cases failed
    · rfl
  | putItem item =>
    replace permitted : memory.failures.lookup .putItem = none := permitted
    -- the ids are taken whether or not there is an item
    simp only [perform] at failed ⊢
    split at failed
    · cases failed
    · simp only [lostIds, peakAfter, permitted, if_true, snd_numberFields]
  | createItem item =>
    simp only [perform] at failed ⊢
    split at failed
    · rfl
    · cases failed

/-- A failed call is recorded, and it may lose ids. -/
theorem answer_of_failed (failed : (memory.answer call).1 = .error failure) :
    (memory.answer call).2 = { memory with
      calls := memory.calls ++ [call.record]
      issued := memory.issued + memory.lostIds call
      peak := memory.peakAfter call } := by
  cases injected : memory.failures.lookup call.kind with
  | none =>
    rw [answer_of_permitted memory call injected] at failed ⊢
    exact perform_of_failed injected failed
  | some detail =>
    rw [answer_of_failing memory call injected]
    -- nothing is lost, whatever the call is
    have nothing : memory.lostIds call = 0 ∧ memory.peakAfter call = memory.peak := by
      cases call <;> simp_all [lostIds, peakAfter, Call.kind]
    rw [nothing.1, nothing.2]
    rfl

/-! ## What later operations see -/

/-- Another store differs in the record of calls and the peak only. -/
def Agrees (memory other : Memory) : Prop :=
  ∃ calls peak, other = { memory with calls, peak }

namespace Agrees

theorem addVault (agrees : Agrees memory other) (title : String) :
    (other.addVault title).1 = (memory.addVault title).1 ∧
      Agrees (memory.addVault title).2 (other.addVault title).2 := by
  obtain ⟨calls, peak, rfl⟩ := agrees
  have sameShelf : shelfTitled? { memory with calls, peak } title = memory.shelfTitled? title :=
    rfl
  unfold Memory.addVault
  rw [sameShelf]
  cases memory.shelfTitled? title with
  | some shelf => exact ⟨rfl, calls, peak, rfl⟩
  | none => exact ⟨rfl, calls, peak, rfl⟩

theorem newVaultIds (agrees : Agrees memory other) (title : String) :
    other.newVaultIds title = memory.newVaultIds title := by
  have sameId := (agrees.addVault title).1
  obtain ⟨calls, peak, rfl⟩ := agrees
  unfold Memory.newVaultIds
  rw [sameId]
  rfl

/-- A call that is not made to fail. -/
theorem perform (agrees : Agrees memory other) (call : Call) :
    (other.perform call).1 = (memory.perform call).1 ∧
      Agrees (memory.perform call).2 (other.perform call).2 := by
  obtain ⟨calls, peak, rfl⟩ := agrees
  have sameShelf : ∀ vaultId, shelf? { memory with calls, peak } vaultId = memory.shelf? vaultId :=
    fun _ => rfl
  cases call with
  | resolve reference => exact ⟨rfl, calls, max peak 1, rfl⟩
  | listVaults => exact ⟨rfl, calls, peak, rfl⟩
  | listItems vaultId =>
    simp only [Memory.perform, sameShelf]
    split
    · exact ⟨rfl, calls, peak, rfl⟩
    · exact ⟨rfl, calls, peak, rfl⟩
  | getItem vaultId itemId =>
    simp only [Memory.perform, sameShelf]
    split
    · exact ⟨rfl, calls, peak, rfl⟩
    · exact ⟨rfl, calls, peak, rfl⟩
  | putItem item =>
    simp only [Memory.perform, shelf?]
    split
    · exact ⟨rfl, calls, peak, rfl⟩
    · exact ⟨rfl, calls, peak, rfl⟩
  | createItem item =>
    simp only [Memory.perform, sameShelf]
    split
    · exact ⟨rfl, calls, peak, rfl⟩
    · exact ⟨rfl, calls, peak, rfl⟩

theorem newIdsPerforming (agrees : Agrees memory other) (call : Call) :
    other.newIdsPerforming call = memory.newIdsPerforming call := by
  have sameAnswer := (agrees.perform call).1
  obtain ⟨calls, peak, rfl⟩ := agrees
  cases call with
  | createItem item =>
    simp only [Memory.newIdsPerforming]
    rw [sameAnswer]
  | _ => rfl

theorem enter (agrees : Agrees memory other) (call : Call) :
    (other.enter call).1 = (memory.enter call).1 ∧
      Agrees (memory.enter call).2 (other.enter call).2 := by
  obtain ⟨calls, peak, rfl⟩ := agrees
  exact ⟨rfl, calls ++ [call.record], peak, rfl⟩

theorem answer (agrees : Agrees memory other) (call : Call) :
    other.newIdsAnswering call = memory.newIdsAnswering call ∧
      Agrees (memory.answer call).2 (other.answer call).2 := by
  obtain ⟨sameOutcome, entered⟩ := agrees.enter call
  unfold newIdsAnswering Memory.answer
  revert sameOutcome entered
  rcases memory.enter call with ⟨failure | _, left⟩
  · rcases other.enter call with ⟨_, right⟩
    rintro rfl entered
    exact ⟨rfl, entered⟩
  · rcases other.enter call with ⟨_, right⟩
    rintro rfl entered
    exact ⟨entered.newIdsPerforming call, (entered.perform call).2⟩

/-- An operation gives out the same ids, and it leaves stores that agree again. -/
theorem act (agrees : Agrees memory other) (operation : Operation) :
    operation.givesOut other = operation.givesOut memory ∧
      Agrees (operation.act memory) (operation.act other) := by
  cases operation with
  | addVault title => exact ⟨agrees.newVaultIds title, (agrees.addVault title).2⟩
  | addItem vault title fields =>
    obtain ⟨sameVault, added⟩ := agrees.addVault vault
    have sameNew := agrees.newVaultIds vault
    simp only [Operation.givesOut, Operation.act, Memory.addItem, sameNew]
    revert sameVault added
    rcases memory.addVault vault with ⟨id, left⟩
    rcases other.addVault vault with ⟨_, right⟩
    rintro same ⟨calls, peak, isRight⟩
    dsimp only at same isRight
    subst same isRight
    exact ⟨rfl, calls, peak, rfl⟩
  | failOn kind detail =>
    obtain ⟨calls, peak, rfl⟩ := agrees
    exact ⟨rfl, calls, peak, rfl⟩
  | ask call => exact agrees.answer call
  | start reference underWay =>
    obtain ⟨calls, peak, rfl⟩ := agrees
    exact ⟨rfl, _, _, rfl⟩

/-- Operations give out the same ids. -/
theorem givenOut (agrees : Agrees memory other) (operations : List Operation) :
    givenOut operations other = givenOut operations memory := by
  induction operations generalizing memory other with
  | nil => rfl
  | cons operation rest inductionHypothesis =>
    obtain ⟨same, later⟩ := agrees.act operation
    unfold Memory.givenOut
    rw [same, inductionHypothesis later]

end Agrees

/-- Of stores with the same shelves and injected failures, those with the same counter and no
others give out the same ids whatever is done. -/
theorem givenOut_eq_iff (shelves : other.shelves = memory.shelves)
    (failures : other.failures = memory.failures) :
    (∀ operations, givenOut operations other = givenOut operations memory) ↔
      other.issued = memory.issued := by
  constructor
  · intro same
    -- a new item gets an id in either store
    let operations : List Operation := [.addItem "" "" []]
    have numbered := (moves_after operations memory).numbered
    have numbered' := (moves_after operations other).numbered
    rw [same operations] at numbered'
    exact numbered'.issued_eq numbered (by simp [operations, givenOut, Operation.givesOut])
  · intro issued operations
    refine Agrees.givenOut ⟨other.calls, other.peak, ?_⟩ operations
    rw [← shelves, ← failures, ← issued]

/-- A failed call is recorded and changes neither the shelves nor the injected failures. It
leaves the ids that later operations give out as they would be without it, exactly if it is not
the replacement of a missing item with a field to be numbered. -/
theorem failed_call_spares_ids_iff (memory : Memory) (call : Call) {failure : Failure}
    (failed : (memory.answer call).1 = .error failure) :
    let after := (memory.answer call).2
    after = { memory with
        calls := memory.calls ++ [call.record]
        issued := memory.issued + memory.lostIds call
        peak := memory.peakAfter call } ∧
      ((∀ operations, givenOut operations after = givenOut operations memory) ↔
        ∀ item, call = .putItem item → memory.failures.lookup .putItem = none →
          ∀ field ∈ item.fields, field.id ≠ "") := by
  intro after
  have whole : after = _ := answer_of_failed failed
  refine ⟨whole, ?_⟩
  rw [givenOut_eq_iff (by rw [whole]) (by rw [whole]), whole, ← lostIds_eq_zero_iff]
  exact Nat.add_eq_left

/-- A creation in a vault that is missing: the new field would need an id and takes none. -/
theorem failed_creation_spares_ids :
    let memory := (empty.addVault "Work").2
    let call : Call := .createItem ⟨"vault-9", "Mail", .login, [Field.concealed "token" "x"]⟩
    (memory.answer call).1 = .error (noVault "vault-9") ∧
      ∀ operations, givenOut operations (memory.answer call).2 = givenOut operations memory := by
  intro memory call
  have failed : (memory.answer call).1 = .error (noVault "vault-9") := rfl
  refine ⟨failed, (failed_call_spares_ids_iff memory call failed).2.mpr ?_⟩
  intro item isReplacement
  exact absurd isReplacement (by simp [call])

/-- A replacement of an item that is missing: the next vault gets another id than without it. -/
theorem failed_replacement_takes_id :
    let memory := (empty.addVault "Work").2
    let call : Call :=
      .putItem ⟨"item-9", "vault-1", "Mail", .login, [Field.concealed "token" "x"], []⟩
    Reachable memory ∧ (memory.answer call).1 = .error (noItem "item-9") ∧
      (memory.answer call).2.issued ≠ memory.issued ∧
      (memory.addVault "Home").1 = "vault-2" ∧
      ((memory.answer call).2.addVault "Home").1 = "vault-3" := by
  intro memory call
  refine ⟨.addVault "Work" .empty, rfl, ?_, ?_, ?_⟩
  · decide
  · decide +kernel +zetaReduce
  · decide +kernel +zetaReduce

end SecretRefs.Store.Memory

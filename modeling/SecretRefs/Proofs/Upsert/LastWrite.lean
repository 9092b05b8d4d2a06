import SecretRefs.Proofs.Upsert.Effect

/-!
# Sequences of upserts

A store in memory whose calls do not fail works under upserts like a map from places to
secrets, with places compared ignoring case: each place holds what was written there last.

`Writes` has the sequences in which every request is carried out. The induction over it
carries the places that are taken: an item that is there stays there, and so does a field.
-/

namespace SecretRefs

/-- The value of the last request about a place, if there is one. -/
def lastWrite? (requests : List UpsertRequest) (vault item field : String) : Option String :=
  (requests.filter fun request => request.addresses vault item field).getLast?.map
    UpsertRequest.value

namespace Store.Memory

variable {memory after : Memory} {requests : List UpsertRequest}

/-- One upsert of a sequence. -/
structure Turn where
  request : UpsertRequest
  before : Memory
  result : Except Failure UpsertOutcome
  after : Memory

/-- Whether an upsert created an item. -/
def Turn.created (turn : Turn) : Bool :=
  match turn.result with
  | .ok outcome => outcome.kind == .created
  | .error _ => false

/-- The number of fields that an upsert added to the store. -/
def Turn.addedFields (turn : Turn) : Nat :=
  turn.after.fieldCount - turn.before.fieldCount

/-- The upserts of a sequence, one after the other. -/
def turns : List UpsertRequest → Memory → List Turn
  | [], _ => []
  | request :: rest, memory =>
    let run := (upsert request).on answer memory
    ⟨request, memory, run.1, run.2⟩ :: turns rest run.2

/-- The store after a sequence of upserts. -/
def afterAll : List UpsertRequest → Memory → Memory
  | [], memory => memory
  | request :: rest, memory => afterAll rest ((upsert request).on answer memory).2

/-- Sequences of upserts that are all carried out. -/
inductive Writes : Memory → List Turn → Memory → Prop where
  | nil {memory : Memory} : Writes memory [] memory
  | cons {memory middle after : Memory} {request : UpsertRequest} {kind : UpsertKind}
      {rest : List Turn} (wrote : Wrote request memory kind middle)
      (writes : Writes middle rest after) :
      Writes memory (⟨request, memory, .ok (request.outcome kind), middle⟩ :: rest) after

theorem map_request_turns (requests : List UpsertRequest) (memory : Memory) :
    (turns requests memory).map Turn.request = requests := by
  induction requests generalizing memory with
  | nil => rfl
  | cons request rest inductionHypothesis =>
    exact congrArg (request :: ·) (inductionHypothesis _)

/-- Requests to vaults that are there are all carried out if no calls are made to fail. -/
theorem writes_of_working (reachable : Reachable memory) (working : memory.failures = [])
    (present : ∀ request ∈ requests, (memory.shelfTitled? request.vault).isSome) :
    Writes memory (turns requests memory) (afterAll requests memory) := by
  induction requests generalizing memory with
  | nil => exact .nil
  | cons request rest inductionHypothesis =>
    obtain ⟨kind, result, wrote⟩ :=
      upserted_of_working working (present request List.mem_cons_self)
    rw [← on_upsert reachable.sound] at result wrote
    simp only [turns, afterAll]
    rw [result]
    refine .cons wrote (inductionHypothesis (reachable.on _) ?_ ?_)
    · rw [wrote.failures_eq, working]
    · intro later member
      rw [wrote.isSome_shelfTitled?]
      exact present later (List.mem_cons_of_mem request member)

namespace Writes

variable {turns : List Turn}

/-- Every upsert of the sequence is carried out on the store before it. -/
theorem wrote (writes : Writes memory turns after) {turn : Turn} (member : turn ∈ turns) :
    ∃ kind, turn.result = .ok (turn.request.outcome kind) ∧
      Wrote turn.request turn.before kind turn.after := by
  induction writes with
  | nil => cases member
  | cons wrote _ inductionHypothesis =>
    rcases List.mem_cons.mp member with rfl | later
    · exact ⟨_, rfl, wrote⟩
    · exact inductionHypothesis later

/-- An item that is there is there before each upsert. -/
theorem isSome_itemTitled? (writes : Writes memory turns after) {vault title : String}
    (present : (memory.itemTitled? vault title).isSome) :
    ∀ turn ∈ turns, (turn.before.itemTitled? vault title).isSome := by
  induction writes with
  | nil => intro turn member; cases member
  | cons wrote _ inductionHypothesis =>
    intro turn member
    rcases List.mem_cons.mp member with rfl | later
    · exact present
    · apply inductionHypothesis _ turn later
      rw [wrote.isSome_itemTitled?, present, Bool.or_true]

/-- A request that creates its item is the first one about it. -/
theorem created_first (writes : Writes memory turns after) :
    turns.Pairwise fun earlier later => later.created = true →
      ¬ (Text.sameTitle earlier.request.vault later.request.vault ∧
        Text.sameTitle earlier.request.item later.request.item) := by
  induction writes with
  | nil => exact .nil
  | @cons memory middle after request kind rest wrote writes inductionHypothesis =>
    refine .cons ?_ inductionHypothesis
    rintro later member created ⟨sameVault, sameItem⟩
    have present : (middle.itemTitled? later.request.vault later.request.item).isSome := by
      rw [wrote.isSome_itemTitled?, sameVault, sameItem]
      rfl
    obtain ⟨laterKind, result, laterWrote⟩ := writes.wrote member
    have isCreated : laterKind = .created := by
      simpa [Turn.created, result, UpsertRequest.outcome] using created
    have absent := laterWrote.kind_eq_created_iff.mp isCreated
    have there := writes.isSome_itemTitled? present later member
    simp [absent] at there

/-- Each place holds what was written there last, or else what it held at first. -/
theorem secretTitled?_eq (writes : Writes memory turns after) (vault item field : String) :
    after.secretTitled? vault item field =
      (lastWrite? (turns.map Turn.request) vault item field).or
        (memory.secretTitled? vault item field) := by
  induction writes with
  | nil => rfl
  | @cons memory middle after request kind rest wrote writes inductionHypothesis =>
    rw [inductionHypothesis, wrote.secretTitled?_eq, List.map_cons, lastWrite?, lastWrite?]
    cases addressed : request.addresses vault item field with
    | false => simp [addressed]
    | true =>
      rw [List.filter_cons, if_pos addressed, List.getLast?_cons, if_pos rfl]
      cases ((rest.map Turn.request).filter fun request =>
        request.addresses vault item field).getLast? with
      | none => rfl
      | some last => rfl

/-- Each creation adds one item. -/
theorem length_items (writes : Writes memory turns after) :
    after.items.length = memory.items.length + turns.countP Turn.created := by
  induction writes with
  | nil => simp
  | @cons memory middle after request kind rest wrote writes inductionHypothesis =>
    rw [inductionHypothesis, wrote.length_items, List.countP_cons]
    cases kind with
    | created => simp [Turn.created, UpsertRequest.outcome]; omega
    | updated => simp [Turn.created, UpsertRequest.outcome]

/-- The requests about one place add a field only if the place held nothing, and then one. -/
theorem sum_addedFields_le (writes : Writes memory turns after) (vault item field : String) :
    ((turns.filter fun turn => turn.request.addresses vault item field).map
        Turn.addedFields).sum ≤
      if (memory.secretTitled? vault item field).isSome then 0 else 1 := by
  induction writes with
  | nil => simp
  | @cons memory middle after request kind rest wrote writes inductionHypothesis =>
    rw [wrote.secretTitled?_eq] at inductionHypothesis
    cases addressed : request.addresses vault item field with
    | false =>
      rw [List.filter_cons_of_neg (by simp [addressed])]
      simpa [addressed] using inductionHypothesis
    | true =>
      have held : memory.secretTitled? request.vault request.item request.field =
          memory.secretTitled? vault item field := secretTitled?_congr addressed memory
      have added := wrote.fieldCount_eq
      rw [held] at added
      rw [List.filter_cons, if_pos addressed, List.map_cons, List.sum_cons, Turn.addedFields]
      dsimp only
      simp only [addressed, if_true, Option.isSome_some] at inductionHypothesis
      omega

end Writes

/-- Upserts on a store whose calls do not fail all succeed, and afterwards each place holds
what was written there last, or else what it held before. An upsert creates its item if there
is none, which no earlier one can have been about. Each creation adds one item, and what is
written to one place adds at most one field. -/
theorem upserts_keep_last_writes (reachable : Reachable memory) (working : memory.failures = [])
    (present : ∀ request ∈ requests, (memory.shelfTitled? request.vault).isSome) :
    (∀ turn ∈ turns requests memory,
      turn.before.fieldCount ≤ turn.after.fieldCount ∧
      ∃ kind, turn.result = .ok (turn.request.outcome kind) ∧
        (kind = .created ↔
          turn.before.itemTitled? turn.request.vault turn.request.item = none)) ∧
    ((turns requests memory).Pairwise fun earlier later => later.created = true →
      ¬ (Text.sameTitle earlier.request.vault later.request.vault ∧
        Text.sameTitle earlier.request.item later.request.item)) ∧
    (∀ request ∈ requests, ∃ value,
      lastWrite? requests request.vault request.item request.field = some value ∧
        (afterAll requests memory).secretTitled? request.vault request.item request.field =
          some value) ∧
    (∀ vault item field, (afterAll requests memory).secretTitled? vault item field =
      (lastWrite? requests vault item field).or (memory.secretTitled? vault item field)) ∧
    (afterAll requests memory).items.length =
      memory.items.length + (turns requests memory).countP Turn.created ∧
    ∀ vault item field,
      (((turns requests memory).filter fun turn =>
        turn.request.addresses vault item field).map Turn.addedFields).sum ≤ 1 := by
  have writes := writes_of_working reachable working present
  have held := writes.secretTitled?_eq
  rw [map_request_turns] at held
  refine ⟨?_, writes.created_first, ?_, held, writes.length_items, ?_⟩
  · intro turn member
    obtain ⟨kind, result, wrote⟩ := writes.wrote member
    refine ⟨?_, kind, result, wrote.kind_eq_created_iff⟩
    rw [wrote.fieldCount_eq]
    exact Nat.le_add_right _ _
  · intro request member
    have about : request ∈ requests.filter fun one =>
        one.addresses request.vault request.item request.field :=
      List.mem_filter.mpr ⟨member, by simp [UpsertRequest.addresses]⟩
    have isLast := List.getLast?_eq_some_getLast (List.ne_nil_of_mem about)
    have written : lastWrite? requests request.vault request.item request.field = some _ :=
      congrArg (Option.map UpsertRequest.value) isLast
    exact ⟨_, written, by rw [held, written, Option.some_or]⟩
  · intro vault item field
    have bound := writes.sum_addedFields_le vault item field
    split at bound <;> omega

/-- Two writes to one place of an empty vault, spelled differently: the second counts. -/
theorem second_write_kept :
    let memory := (Memory.empty.addVault "Work").2
    let requests : List UpsertRequest :=
      [⟨"work", "Mail", "Token", "first", .login⟩, ⟨"Work", "mail", "TOKEN", "second", .login⟩]
    Reachable memory ∧ memory.failures = [] ∧
      (∀ request ∈ requests, (memory.shelfTitled? request.vault).isSome) ∧
      (afterAll requests memory).secretTitled? "WORK" "MAIL" "token" = some "second" := by
  intro memory requests
  have reachable : Reachable memory := .addVault "Work" .empty
  have present : ∀ request ∈ requests, (memory.shelfTitled? request.vault).isSome := by
    decide +kernel
  obtain ⟨_, _, _, held, _⟩ := upserts_keep_last_writes reachable rfl present
  refine ⟨reachable, rfl, present, (held "WORK" "MAIL" "token").trans ?_⟩
  decide +kernel

end Store.Memory

end SecretRefs

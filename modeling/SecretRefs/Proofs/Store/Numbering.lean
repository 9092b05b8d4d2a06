import SecretRefs.Proofs.Store.Reachable

/-!
# Ids are given out once

An `Operation` is anything that can be done to a store in memory, and `Operation.givesOut` has
the ids that the counter of the store gives out while it is done, those included that a
failing call loses. A list of ids is `Numbered` from a counter on if it has the numbers behind
the counter, one after the other.

`Operation.moves` is the step: what an operation gives out is numbered from the counter on,
and the counter has moved by as many. So the ids of a whole run are numbered from the start
(`moves_after`), and no two of them are equal. With `Sound` this makes the ids and titles of a
store name one thing each, whatever was done to it (`identities_kept`).
-/

namespace SecretRefs.Store.Memory

/-! ## Numbered ids -/

/-- The kinds of things that have ids. -/
def idKinds : List String := ["vault", "item", "field"]

/-- Ids of different kinds are different, whatever their numbers are. -/
theorem idText_ne_of_kind_ne {kind other : String} (isKind : kind ∈ idKinds)
    (isOther : other ∈ idKinds) (differ : kind ≠ other) (number number' : Nat) :
    idText kind number ≠ idText other number' := by
  intro same
  have starts : ∀ kind ∈ idKinds, ∀ number : Nat,
      (idText kind number).toList.head? = kind.toList.head? := by
    simp [idKinds, idText]
  have sameStart : kind.toList.head? = other.toList.head? := by
    rw [← starts kind isKind number, same, starts other isOther number']
  have startsDiffer : ∀ kind ∈ idKinds, ∀ other ∈ idKinds,
      kind.toList.head? = other.toList.head? → kind = other := by
    decide
  exact differ (startsDiffer kind isKind other isOther sameStart)

/-- An id has one number. -/
theorem number_eq_of_idText_eq {kind other : String} (isKind : kind ∈ idKinds)
    (isOther : other ∈ idKinds) {number number' : Nat}
    (same : idText kind number = idText other number') : number = number' := by
  by_cases sameKind : kind = other
  · exact idText_injective (sameKind ▸ same)
  · exact absurd same (idText_ne_of_kind_ne isKind isOther sameKind number number')

/-- Ids with the numbers behind a counter, in order. -/
inductive Numbered : Nat → List String → Prop where
  | nil {issued : Nat} : Numbered issued []
  | cons {issued : Nat} {ids : List String} {kind : String} (isKind : kind ∈ idKinds)
      (later : Numbered (issued + 1) ids) : Numbered issued (idText kind (issued + 1) :: ids)

namespace Numbered

variable {issued : Nat} {ids more : List String}

theorem single {kind : String} (isKind : kind ∈ idKinds) :
    Numbered issued [idText kind (issued + 1)] :=
  .cons isKind .nil

/-- The first id has the next number. -/
theorem head {id : String} (numbered : Numbered issued (id :: ids)) :
    ∃ kind ∈ idKinds, id = idText kind (issued + 1) := by
  generalize whole : id :: ids = all at numbered
  cases numbered with
  | nil => cases whole
  | cons isKind _ => exact ⟨_, isKind, (List.cons.inj whole).1⟩

/-- Ids tell the counter that they are numbered from. -/
theorem issued_eq {issued' : Nat} (numbered : Numbered issued ids)
    (numbered' : Numbered issued' ids) (nonempty : ids ≠ []) : issued = issued' := by
  obtain ⟨id, rest, rfl⟩ := List.exists_cons_of_ne_nil nonempty
  obtain ⟨kind, isKind, isId⟩ := numbered.head
  obtain ⟨kind', isKind', isId'⟩ := numbered'.head
  have := number_eq_of_idText_eq isKind isKind' (isId.symm.trans isId')
  omega

/-- The numbers go on where an earlier list ends. -/
theorem append (numbered : Numbered issued ids) (later : Numbered (issued + ids.length) more) :
    Numbered issued (ids ++ more) := by
  induction numbered with
  | nil => exact later
  | cons isKind _ inductionHypothesis =>
    refine .cons isKind (inductionHypothesis ?_)
    rwa [Nat.add_assoc, Nat.add_comm 1]

/-- An id of the list has one of the numbers behind the counter. -/
theorem exists_number (numbered : Numbered issued ids) {id : String} (member : id ∈ ids) :
    ∃ kind ∈ idKinds, ∃ number, issued < number ∧ number ≤ issued + ids.length ∧
      id = idText kind number := by
  induction numbered with
  | nil => cases member
  | @cons issued ids kind isKind _ inductionHypothesis =>
    rw [List.length_cons]
    rcases List.mem_cons.mp member with rfl | later
    · exact ⟨kind, isKind, issued + 1, by omega, by omega, rfl⟩
    · obtain ⟨other, isOther, number, behind, within, isId⟩ := inductionHypothesis later
      exact ⟨other, isOther, number, by omega, by omega, isId⟩

theorem nodup (numbered : Numbered issued ids) : ids.Nodup := by
  induction numbered with
  | nil => exact List.nodup_nil
  | cons isKind later inductionHypothesis =>
    refine List.nodup_cons.mpr ⟨fun member => ?_, inductionHypothesis⟩
    obtain ⟨other, isOther, number, behind, _, isId⟩ := later.exists_number member
    have := number_eq_of_idText_eq isKind isOther isId
    omega

end Numbered

/-! ## What operations give out -/

/-- The ids that fields without one have got. -/
def newIds (fields numbered : List Field) : List String :=
  ((fields.zip numbered).filter fun (field, _) => field.id.isEmpty).map fun (_, field) => field.id

/-- What adding a vault gives out. A vault that is there keeps its id. -/
def newVaultIds (memory : Memory) (title : String) : List String :=
  if (memory.shelfTitled? title).isSome then [] else [(memory.addVault title).1]

/-- What a call gives out once it is recorded and not made to fail. A replaced item gets ids for
its new fields even if it turns out to be missing. -/
def newIdsPerforming (memory : Memory) : Call → List String
  | .putItem item => newIds item.fields (numberFields memory.issued item.fields).1
  | .createItem item =>
    match (memory.perform (.createItem item)).1 with
    | .ok created => created.id :: newIds item.fields created.fields
    | .error _ => []
  | _ => []

/-- What a call gives out. A call that is made to fail gives out nothing. -/
def newIdsAnswering (memory : Memory) (call : Call) : List String :=
  match memory.enter call with
  | (.error _, _) => []
  | (.ok (), entered) => entered.newIdsPerforming call

/-- Anything that can be done to a store in memory. -/
inductive Operation where
  | addVault (title : String)
  | addItem (vault title : String) (fields : List (String × String))
  | failOn (kind : CallKind) (detail : String)
  | ask (call : Call)
  /-- A resolve call starts that takes time, as one of `underWay`. -/
  | start (reference : Reference) (underWay : Nat)

namespace Operation

/-- The store after an operation. -/
def act : Operation → Memory → Memory
  | .addVault title, memory => (memory.addVault title).2
  | .addItem vault title fields, memory => (memory.addItem vault title fields).2
  | .failOn kind detail, memory => memory.failOn kind detail
  | .ask call, memory => (memory.answer call).2
  | .start reference underWay, memory =>
    { (memory.enter (.resolve reference)).2 with peak := max memory.peak underWay }

/-- The ids that the counter gives out while an operation is done, in order. -/
def givesOut : Operation → Memory → List String
  | .addVault title, memory => memory.newVaultIds title
  | .addItem vault title fields, memory =>
    let concealed := fields.map fun (title, value) => Field.concealed title value
    memory.newVaultIds vault ++
      (memory.addItem vault title fields).1 ::
        newIds concealed (numberFields ((memory.addVault vault).2.issued + 1) concealed).1
  | .failOn _ _, _ => []
  | .ask call, memory => memory.newIdsAnswering call
  | .start _ _, _ => []

end Operation

/-- The store after operations. -/
def after : List Operation → Memory → Memory
  | [], memory => memory
  | operation :: rest, memory => after rest (operation.act memory)

/-- The ids that the counter gives out in the course of operations, in order. -/
def givenOut : List Operation → Memory → List String
  | [], _ => []
  | operation :: rest, memory => operation.givesOut memory ++ givenOut rest (operation.act memory)

/-- Operations make a store that comes about of one that does. -/
theorem Reachable.after {memory : Memory} (reachable : Reachable memory)
    (operations : List Operation) : Reachable (after operations memory) := by
  induction operations generalizing memory with
  | nil => exact reachable
  | cons operation rest inductionHypothesis =>
    refine inductionHypothesis ?_
    cases operation with
    | addVault title => exact .addVault title reachable
    | addItem vault title fields => exact .addItem vault title fields reachable
    | failOn kind detail => exact .failOn kind detail reachable
    | ask call => exact .call call reachable
    | start reference underWay => exact .start reference underWay reachable

/-! ## The counter -/

/-- Ids that are given out while the counter moves from one place to another. -/
structure Moves (issued : Nat) (ids : List String) (issuedAfter : Nat) : Prop where
  numbered : Numbered issued ids
  counted : issuedAfter = issued + ids.length

namespace Moves

variable {issued middle issuedAfter : Nat} {ids more : List String}

theorem stay : Moves issued [] issued :=
  ⟨.nil, rfl⟩

theorem next (kind : String) (isKind : kind ∈ idKinds) :
    Moves issued [idText kind (issued + 1)] (issued + 1) :=
  ⟨.single isKind, rfl⟩

theorem trans (first : Moves issued ids middle) (second : Moves middle more issuedAfter) :
    Moves issued (ids ++ more) issuedAfter := by
  obtain ⟨numbered, rfl⟩ := first
  obtain ⟨later, rfl⟩ := second
  exact ⟨numbered.append later, by rw [List.length_append, Nat.add_assoc]⟩

end Moves

/-- The ids of new fields. -/
theorem moves_numberFields (issued : Nat) (fields : List Field) :
    Moves issued (newIds fields (numberFields issued fields).1) (numberFields issued fields).2 := by
  induction fields generalizing issued with
  | nil => exact .stay
  | cons field rest inductionHypothesis =>
    unfold numberFields
    by_cases unnumbered : field.id.isEmpty = true
    · rw [if_pos unnumbered]
      have later := Moves.trans (.next "field" (by decide))
        (inductionHypothesis (issued + 1))
      simpa [newIds, unnumbered] using later
    · rw [if_neg unnumbered]
      simpa [newIds, unnumbered] using inductionHypothesis issued

theorem moves_addVault (title : String) (memory : Memory) :
    Moves memory.issued (memory.newVaultIds title) (memory.addVault title).2.issued := by
  unfold newVaultIds addVault
  cases memory.shelfTitled? title with
  | some shelf => exact .stay
  | none => exact .next "vault" (by decide)

theorem moves_perform (memory : Memory) (call : Call) :
    Moves memory.issued (memory.newIdsPerforming call) (memory.perform call).2.issued := by
  cases call with
  | resolve reference => exact .stay
  | listVaults => exact .stay
  | listItems vaultId =>
    unfold Memory.perform
    dsimp only
    split
    · exact .stay
    · exact .stay
  | getItem vaultId itemId =>
    unfold Memory.perform
    dsimp only
    split
    · exact .stay
    · exact .stay
  | putItem item =>
    have moves := moves_numberFields memory.issued item.fields
    unfold Memory.perform
    dsimp only
    split
    · exact moves
    · exact moves
  | createItem item =>
    have moves := Moves.trans (.next "item" (by decide))
      (moves_numberFields (memory.issued + 1) item.fields)
    unfold newIdsPerforming Memory.perform
    dsimp only
    cases memory.shelf? item.vaultId with
    | none => exact .stay
    | some shelf => exact moves

theorem moves_answer (memory : Memory) (call : Call) :
    Moves memory.issued (memory.newIdsAnswering call) (memory.answer call).2.issued := by
  have recorded : (memory.enter call).2.issued = memory.issued := rfl
  unfold newIdsAnswering answer
  rw [← recorded]
  obtain ⟨failure | _, entered⟩ := memory.enter call
  · exact .stay
  · exact moves_perform entered call

/-- What an operation gives out is numbered from the counter on, and the counter has moved by as
many. -/
theorem Operation.moves (operation : Operation) (memory : Memory) :
    Moves memory.issued (operation.givesOut memory) (operation.act memory).issued := by
  cases operation with
  | addVault title => exact moves_addVault title memory
  | addItem vault title fields =>
    exact (moves_addVault vault memory).trans
      ((Moves.next "item" (by decide)).trans (moves_numberFields _ _))
  | failOn kind detail => exact .stay
  | ask call => exact moves_answer memory call
  | start reference underWay => exact .stay

/-- What is given out in the course of operations is numbered. -/
theorem moves_after (operations : List Operation) (memory : Memory) :
    Moves memory.issued (givenOut operations memory) (after operations memory).issued := by
  induction operations generalizing memory with
  | nil => exact .stay
  | cons operation rest inductionHypothesis =>
    exact (operation.moves memory).trans (inductionHypothesis (operation.act memory))

theorem after_append (operations more : List Operation) (memory : Memory) :
    after (operations ++ more) memory = after more (after operations memory) := by
  induction operations generalizing memory with
  | nil => rfl
  | cons operation rest inductionHypothesis => exact inductionHypothesis (operation.act memory)

/-- A store that comes about is the empty one after operations. -/
theorem Reachable.exists_operations {memory : Memory} (reachable : Reachable memory) :
    ∃ operations, Memory.after operations Memory.empty = memory := by
  have more (operation : Operation) {memory : Memory}
      (before : ∃ operations, Memory.after operations Memory.empty = memory) :
      ∃ operations, Memory.after operations Memory.empty = operation.act memory := by
    obtain ⟨operations, rfl⟩ := before
    exact ⟨operations ++ [operation], after_append operations [operation] Memory.empty⟩
  induction reachable with
  | empty => exact ⟨[], rfl⟩
  | addVault title _ before => exact more (.addVault title) before
  | addItem vault title fields _ before => exact more (.addItem vault title fields) before
  | failOn kind detail _ before => exact more (.failOn kind detail) before
  | call call _ before => exact more (.ask call) before
  | start reference underWay _ before => exact more (.start reference underWay) before

/-- An id is new to a store if it was not given out, in whatever way the store came about. -/
def New (memory : Memory) (id : String) : Prop :=
  ∀ operations, after operations empty = memory → id ∉ givenOut operations empty

/-- An id is new if its number is ahead of the counter. -/
theorem new_of_lt {memory : Memory} {kind : String} (isKind : kind ∈ idKinds) {number : Nat}
    (ahead : memory.issued < number) : New memory (idText kind number) := by
  rintro operations rfl member
  obtain ⟨numbered, counted⟩ := moves_after operations empty
  obtain ⟨other, isOther, older, _, within, same⟩ := numbered.exists_number member
  have := number_eq_of_idText_eq isKind isOther same
  omega

/-! ## The invariant -/

/-- Whatever is done to an empty store: vaults have different titles ignoring case, no two
vaults or items have the same id, an item names the vault that it is in, every field has an id,
and the counter never gives out an id twice. The counter has the number of the ids that it has
given out, so one of 64 bits counts alike as long as there are fewer than `2 ^ 64`. -/
theorem identities_kept (operations : List Operation) :
    let memory := after operations empty
    (memory.vaults.Pairwise fun one other => Text.sameTitle one.title other.title = false) ∧
      (memory.vaults.map VaultSummary.id ++ memory.items.map Item.id).Nodup ∧
      (∀ shelf ∈ memory.shelves, ∀ item ∈ shelf.items, item.vaultId = shelf.vault.id) ∧
      (∀ item ∈ memory.items, ∀ field ∈ item.fields, field.id ≠ "") ∧
      (givenOut operations empty).Nodup ∧
      memory.issued = (givenOut operations empty).length := by
  intro memory
  have sound : Sound memory := (Reachable.empty.after operations).sound
  have moves := moves_after operations empty
  refine ⟨sound.titlesDiffer, ?_, sound.housed, sound.numbered, moves.numbered.nodup,
    moves.counted.trans (Nat.zero_add _)⟩
  refine List.nodup_append.mpr ⟨sound.vaultIds, sound.itemIds, ?_⟩
  intro id isVaultId other isItemId same
  obtain ⟨vault, vaultMember, rfl⟩ := List.mem_map.mp isVaultId
  obtain ⟨item, itemMember, rfl⟩ := List.mem_map.mp isItemId
  obtain ⟨number, _, vaultNumber⟩ := sound.vaultIdsIssued vault vaultMember
  obtain ⟨number', _, itemNumber⟩ := sound.itemIdsIssued item itemMember
  rw [vaultNumber, itemNumber] at same
  exact idText_ne_of_kind_ne (by decide) (by decide) (by decide) number number' same

end SecretRefs.Store.Memory

import SecretRefs.Proofs.Tree.Visit

/-!
# Resolutions against the clock end

A resolution that takes turns ends after no more turns than it may take, and it is one of the runs
in which the calls end in any order. At the start of a turn every call asks for a visit or waits
for the clock (`Ready`), and the next turn starts in the same way. If a turn neither starts nor
ends a call, nothing is put off, and what asks for a visit gets less; and if nothing asks for one,
some call waits, since otherwise it would be forgotten. So `turnsLeft` gets smaller in every turn
(`Ready.turnsLeft_lt`).

`run_reaches` is the outcome.
-/

namespace SecretRefs.Tree.Schedule

open SecretRefs.Tree.Task

section Turns

variable {room : Nat} {start situation last : Situation} {task after : Task}

/-- A situation in which a turn may start. -/
structure Ready (room : Nat) (situation : Situation) (task : Task) : Prop where
  running : Running (Heeded situation) room none true task
  once : ∀ number, task.load.numbered number ≤ 1
  unopened : ∀ number, situation.opened ≤ number → task.load.numbered number = 0
  noneOff : situation.putOff = []

/-- A bound for the turns to come. With a weight, each lane can ask for a visit before the clock
goes on, and once more after that. -/
def turnsLeft (lanes : Nat) (situation : Situation) (task : Task) : Nat :=
  task.load.weight * (2 * (lanes + 1)) + (if situation.waiting = [] then 0 else lanes + 1) +
    task.load.queued

/-- Who asks for a visit after a turn, and the situation then. -/
def asked (last : Situation) : List Lane × Situation :=
  if last.putOff ≠ [] then (last.putOff, { last with putOff := [] })
  else if last.again = true then ([], last)
  else (last.waiting, { last with waiting := [], instant := last.instant + 1 })

theorem run_askers (last : Situation) : askers.run last = (.ok (asked last).1, (asked last).2) := by
  unfold askers asked
  rw [run_get_bind]
  cases last.putOff with
  | cons lane rest => rfl
  | nil =>
    cases last.again with
    | true => rfl
    | false => rfl

/-- Between turns nothing but marks changes. -/
theorem same_asked (last : Situation) : (asked last).2.memory = last.memory ∧
    (asked last).2.underWay = last.underWay ∧ (asked last).2.opened = last.opened := by
  unfold asked
  split
  · exact ⟨rfl, rfl, rfl⟩
  · split
    · exact ⟨rfl, rfl, rfl⟩
    · exact ⟨rfl, rfl, rfl⟩

theorem putOff_asked (last : Situation) : (asked last).2.putOff = [] := by
  unfold asked
  split
  · rfl
  · rename_i noneOff
    split
    · exact not_not.mp noneOff
    · exact not_not.mp noneOff

/-- Everything is heeded in the next turn, be it because it asked for a visit before that. -/
theorem heeded_asked {lane : Lane} {awake : Bool} {since : Option Nat}
    (heeded : Heeded last lane awake since) : Heeded (asked last).2 lane awake since ∨
      lane ∈ (asked last).1 ∧ Heeded (asked last).2 lane true since := by
  obtain ⟨past, ⟨waited, isAwake | isPutOff⟩ | waits⟩ := heeded
  all_goals unfold asked
  · split
    · exact .inl ⟨past, .inl ⟨waited, .inl isAwake⟩⟩
    · split
      · exact .inl ⟨past, .inl ⟨waited, .inl isAwake⟩⟩
      · exact .inl ⟨fun instant member => Nat.le_succ_of_le (past instant member),
          .inl ⟨fun instant member => Nat.lt_succ_of_le (past instant member), .inl isAwake⟩⟩
  · rw [if_pos (List.ne_nil_of_mem isPutOff)]
    exact .inr ⟨isPutOff, past, .inl ⟨waited, .inl rfl⟩⟩
  · split
    · exact .inl ⟨past, .inr waits⟩
    · split
      · exact .inl ⟨past, .inr waits⟩
      · exact .inr ⟨waits, fun instant member => Nat.le_succ_of_le (past instant member),
          .inl ⟨fun instant member => Nat.lt_succ_of_le (past instant member), .inl rfl⟩⟩

/-- The situation at the start of a turn. -/
def turnStart (situation : Situation) : Situation :=
  { situation with left := allowance, again := false }

/-- After a turn, the next one may start. -/
theorem Ready.turn (ready : Ready room situation task) (later : Later (turnStart situation) last)
    (stands : Stands (turnStart situation) room none task.load after last)
    (unfinished : after.tree? = none) :
    Ready room (asked last).2 ((asked last).1.foldl wake after) := by
  have same := requeued_wakeAll (asked last).1 after
  have numbered (number : Nat) := stands.eased.numbered number
  have wasUnopened (number : Nat) (new : (turnStart situation).opened ≤ number) :
      task.load.numbered number = 0 := ready.unopened number new
  have once (number : Nat) : after.load.numbered number ≤ 1 := by
    have was := ready.once number
    have part := numbered number
    split at part
    · rename_i new
      have := wasUnopened number new.1
      omega
    · omega
  refine ⟨?_, fun number => ?_, fun number new => ?_, putOff_asked last⟩
  · refine @Running.wakeAll (Heeded (asked last).2) _ _
      (fun lane awake asks since => (Later.refl _).heeded) _ once ?_
    refine (stands.running unfinished).mono (fun lane awake asks since wakes heeded => ?_)
      fun _ => rfl
    exact (heeded_asked heeded).imp_left ((Later.refl _).heeded wakes)
  · rw [same.numbered]
    exact once number
  · rw [(same_asked last).2.2] at new
    have part := numbered number
    have := wasUnopened number (Nat.le_trans later.opened new)
    rw [same.numbered]
    split at part
    · rename_i between
      exact absurd between.2 (Nat.not_lt.mpr new)
    · omega

/-- After a turn there are fewer turns to come. If the turn neither starts nor ends a call, either
fewer lanes ask for a visit, or the clock goes on for someone who waits. -/
theorem Ready.turnsLeft_lt (ready : Ready room situation task)
    (later : Later (turnStart situation) last)
    (stands : Stands (turnStart situation) room none task.load after last)
    (unfinished : after.tree? = none) {lanes : Nat} (atMost : task.load.capacity ≤ lanes) :
    turnsLeft lanes (asked last).2 ((asked last).1.foldl wake after) <
      turnsLeft lanes situation task := by
  have same := requeued_wakeAll (asked last).1 after
  have queued := (ready.turn later stands unfinished).running.queued_le
  rw [same.capacity] at queued
  have capacity := stands.eased.capacity
  have lighter := stands.eased.weight
  unfold turnsLeft
  rw [same.weight]
  by_cases idle : after.load.weight = task.load.weight
  · obtain ⟨-, putOff, waiting, fewer⟩ := stands.eased.idle idle (Nat.succ_pos 127)
    have noneOff : last.putOff = [] := putOff.trans ready.noneOff
    have sameWaiting : last.waiting = situation.waiting := waiting
    rw [idle]
    cases again : last.again with
    | true =>
      have isAsked : asked last = ([], last) := by
        rw [asked, if_neg (not_not.mpr noneOff), if_pos again]
      rw [again] at fewer
      have fewer : after.load.queued + 1 ≤ task.load.queued := fewer
      rw [isAsked, List.foldl_nil, sameWaiting]
      omega
    | false =>
      have isAsked : asked last =
          (last.waiting, { last with waiting := [], instant := last.instant + 1 }) := by
        rw [asked, if_neg (not_not.mpr noneOff), if_neg (by rw [again]; exact Bool.false_ne_true)]
      have someWait : situation.waiting ≠ [] := by
        intro noneWait
        obtain ⟨lane, asks, since, wakes, -, heeded⟩ := (stands.running unfinished).exists_heeded
        rw [noneOff, sameWaiting, noneWait] at heeded
        rcases heeded with ⟨-, isAwake | member⟩ | member
        · rw [again] at wakes
          exact Bool.false_ne_true (wakes isAwake)
        · cases member
        · cases member
      rw [if_neg someWait]
      rw [isAsked] at queued ⊢
      rw [if_pos rfl]
      omega
  · have product := Nat.mul_le_mul_right (2 * (lanes + 1))
      (Nat.succ_le_of_lt (Nat.lt_of_le_of_ne lighter idle))
    rw [Nat.succ_mul] at product
    split
    · omega
    · omega

/-- A turn of a resolution, and what comes after it. -/
theorem run_finish (store : String) (depth turns : Nat) (task : Task) (situation : Situation) :
    (finish store depth (turns + 1) task).run situation =
      match (visit store depth none task).run (turnStart situation) with
      | (.ok after, last) =>
        match after.tree? with
        | some tree => (.ok tree, last)
        | none => (finish store depth turns ((asked last).1.foldl wake after)).run (asked last).2
      | (.error failure, last) => (.error failure, last) := by
  rw [finish, run_modify_bind, run_bind, turnStart]
  generalize (visit store depth none task).run _ = run
  obtain ⟨failure | after, last⟩ := run
  · rfl
  · cases after with
    | finished tree => rfl
    | _ =>
      simp only [tree?]
      rw [run_bind, run_askers]

/-- A resolution that may take enough turns ends, and it only takes steps. The induction is on the
turns. -/
theorem finish_reaches {memory : Store.Memory} (store : String) {turns lanes : Nat}
    (alike : Alike memory situation) (counted : situation.underWay = task.progress.calls)
    (ready : Ready room situation task) (atMost : task.load.capacity ≤ lanes)
    (enough : turnsLeft lanes situation task < turns) :
    let run := (finish store room turns task).run situation
    run.2.memory.peak ≤ max situation.memory.peak task.progress.width ∧
      Progress.Reaches (answers memory) task.progress (Progress.ended run.1) := by
  induction turns generalizing task situation with
  | zero => exact absurd enough (Nat.not_lt_zero _)
  | succ turns inductionHypothesis =>
    have led := leads_visit store room none task 0 (turnStart situation)
      (alike.marked rfl rfl) (counted.trans (Nat.zero_add _).symm)
    have visited := (visits_visit store room none).running task (turnStart situation) ready.running
    unfold Proceeds at visited
    rw [run_finish]
    generalize (visit store room none task).run (turnStart situation) = run at led visited ⊢
    obtain ⟨stillAlike, peak, stillCounted, reached⟩ := led
    obtain ⟨later, stands⟩ := visited
    rw [Nat.zero_add] at peak
    obtain ⟨failure | after, last⟩ := run
    · exact ⟨peak, reached⟩
    · have later : Later (turnStart situation) last := later
      have stands : Stands (turnStart situation) room none task.load after last := stands after rfl
      have counted := stillCounted after rfl
      rw [Nat.zero_add] at counted
      simp only
      split
      · rename_i tree isDone
        obtain rfl : after = .finished tree := by
          cases after with
          | finished other => exact congrArg Task.finished (Option.some.inj isDone)
          | _ => cases isDone
        exact ⟨peak, reached⟩
      · rename_i unfinished
        have woken := progress_wakeAll (asked last).1 after
        have same := requeued_wakeAll (asked last).1 after
        obtain ⟨sameMemory, sameCount, -⟩ := same_asked last
        have fewer := ready.turnsLeft_lt later stands unfinished atMost
        have ended := inductionHypothesis (stillAlike.marked sameMemory sameCount)
          (by rw [woken, sameCount, counted]) (ready.turn later stands unfinished)
          (same.capacity ▸ Nat.le_trans stands.eased.capacity atMost) (by omega)
        rw [woken, sameMemory] at ended
        have narrower := Progress.Reaches.width_le reached
        simp only [came] at narrower peak reached
        refine ⟨?_, reached.trans ended.2⟩
        have laterPeak := ended.1
        simp only [turnStart] at peak
        omega

/-- Against the clock a resolution ends, and it is one of the runs in which calls end in any order,
with no more calls at a time than the width of the tree. -/
theorem run_reaches (store : String) (tree : Json) (lasting : Bool) (memory : Store.Memory) :
    let result := run store tree lasting memory
    Progress.Reaches (answers memory) (.due tree) (Progress.ended result.1) ∧
      result.2.1.peak ≤ max memory.peak (width tree) := by
  let begun : Situation :=
    { memory, events := [], lasting, underWay := 0, left := allowance, putOff := [],
      waiting := [], instant := 0, opened := 0, again := false }
  have alike : Alike memory begun := ⟨rfl, rfl, nofun⟩
  have ready : Ready (size tree) begun (.due tree) :=
    ⟨running_due (Nat.le_refl _), fun _ => Nat.zero_le _, fun _ _ => rfl, rfl⟩
  have enough : turnsLeft (size tree) begun (.due tree) < 6 * size tree * (size tree + 1) + 1 := by
    have bound : turnsLeft (size tree) begun (.due tree) =
        3 * size tree * (2 * (size tree + 1)) := rfl
    rw [bound, Nat.mul_mul_mul_comm, Nat.mul_assoc 6]
    exact Nat.lt_succ_self _
  obtain ⟨peak, ended⟩ := finish_reaches store alike rfl ready (Nat.sub_le _ _) enough
  exact ⟨ended, peak⟩

/-- A tree that is resolved against the clock is the one that is resolved from left to right. -/
theorem run_eq_resolve {store : String} {tree resolved : Json} {lasting : Bool}
    {memory : Store.Memory} (isResolved : (run store tree lasting memory).1 = .ok resolved) :
    ((Tree.resolve store tree).on (.fixed (answers memory)) []).1 = .ok resolved := by
  obtain ⟨reaches, _⟩ := run_reaches store tree lasting memory
  rw [isResolved] at reaches
  exact reaches.eq_ok store

end Turns

end SecretRefs.Tree.Schedule

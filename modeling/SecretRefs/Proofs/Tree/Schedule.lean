import SecretRefs.Proofs.Tree.Task
import SecretRefs.Tree.Schedule

/-!
# Visits only take steps

Whatever a turn of a resolution visits only takes steps of the runs in which the calls end in any
order. `Leads` says so of a part of the resolution, together with the calls under way and with
their greatest number. It has a rule for each way in which visits are put together, and
`leads_visit` is put together from these rules.
-/

namespace SecretRefs.Tree.Schedule

/-! ## What a part of the resolution leads to -/

/-- The answers of a store in memory. -/
def answers (memory : Store.Memory) (call : Store.Call) : call.Answer :=
  (memory.answer call).1

/-- Whether the store answers as `memory` does. -/
structure Alike (memory : Store.Memory) (situation : Situation) : Prop where
  shelves : situation.memory.shelves = memory.shelves
  failures : situation.memory.failures = memory.failures
  /-- No call is under way if all of them fail. -/
  permitted : 0 < situation.underWay → memory.failures.lookup .resolve = none

/-- Marks do not matter to what the store answers. -/
theorem Alike.marked {memory : Store.Memory} {situation changed : Situation}
    (alike : Alike memory situation) (sameMemory : changed.memory = situation.memory)
    (sameCount : changed.underWay = situation.underWay) : Alike memory changed := by
  refine ⟨?_, ?_, ?_⟩
  · rw [sameMemory]
    exact alike.shelves
  · rw [sameMemory]
    exact alike.failures
  · rw [sameCount]
    exact alike.permitted

/-- What the outcome of a step comes to. -/
def came {α : Type} (after : α → Progress) : Except Failure α → Progress
  | .ok value => after value
  | .error failure => .failed failure

/-- What a step made of a situation in which the tree is at `before` and `outside` other calls
are under way. -/
structure Led {α : Type} (memory : Store.Memory) (outside : Nat) (before : Progress)
    (situation : Situation) (run : Except Failure α × Situation) (after : α → Progress) :
    Prop where
  alike : Alike memory run.2
  peak_le : run.2.memory.peak ≤ max situation.memory.peak (outside + before.width)
  underWay : ∀ value, run.1 = .ok value → run.2.underWay = outside + (after value).calls
  reaches : Progress.Reaches (answers memory) before (came after run.1)

/-- Whether a step of the resolution takes a tree from `before` to `after`, or to a failure. -/
def Leads {α : Type} (memory : Store.Memory) (before : Progress) (step : Step α)
    (after : α → Progress) : Prop :=
  ∀ outside situation, Alike memory situation → situation.underWay = outside + before.calls →
    Led memory outside before situation (step.run situation) after

/-- Whether a step only changes marks. -/
def Marks {α : Type} (step : Step α) : Prop :=
  ∀ situation, ∃ value last, step.run situation = (.ok value, last) ∧
    last.memory = situation.memory ∧ last.underWay = situation.underWay

section Rules

variable {α β : Type} {memory : Store.Memory} {before middle : Progress} {step : Step α}

theorem run_bind (step : Step α) (next : α → Step β) (situation : Situation) :
    (step >>= next).run situation =
      match step.run situation with
      | (.ok value, last) => (next value).run last
      | (.error failure, last) => (.error failure, last) := by
  simp only [ExceptT.run, Bind.bind, ExceptT.bind, ExceptT.mk, StateT.bind]
  obtain ⟨failure | value, last⟩ := step situation
  · rfl
  · rfl

theorem run_tryCatch (step : Step α) (handle : Failure → Step α) (situation : Situation) :
    (tryCatch step handle).run situation =
      match step.run situation with
      | (.ok value, last) => (.ok value, last)
      | (.error failure, last) => (handle failure).run last := by
  simp only [ExceptT.run, tryCatch, tryCatchThe, MonadExceptOf.tryCatch, ExceptT.tryCatch,
    ExceptT.mk, Bind.bind, StateT.bind]
  obtain ⟨failure | value, last⟩ := step situation
  · rfl
  · rfl

/-- A step may be taken after what made no call and left the peak within bounds. -/
theorem Led.after {outside : Nat} {situation changed : Situation}
    {run : Except Failure α × Situation} {after : α → Progress}
    (led : Led memory outside middle changed run after)
    (reaches : Progress.Reaches (answers memory) before middle)
    (peak_le : max changed.memory.peak (outside + middle.width) ≤
      max situation.memory.peak (outside + before.width)) :
    Led memory outside before situation run after := by
  refine ⟨led.alike, Nat.le_trans led.peak_le peak_le, led.underWay, ?_⟩
  exact reaches.trans led.reaches

/-- A step that makes no call may tell what is done without one. -/
theorem Leads.pure {value : α} {after : α → Progress}
    (reaches : Progress.Reaches (answers memory) before (after value))
    (same : (after value).calls = before.calls) : Leads memory before (pure value) after := by
  intro outside situation alike underWay
  refine ⟨alike, Nat.le_max_left _ _, ?_, reaches⟩
  rintro _ ⟨⟩
  rw [same]
  exact underWay

/-- A step that does nothing. -/
theorem Leads.keep (value : α) (after : α → Progress) :
    Leads memory (after value) (Pure.pure value) after :=
  .pure (.refl _ _) rfl

theorem Leads.throw {failure : Failure} {after : α → Progress}
    (reaches : Progress.Reaches (answers memory) before (.failed failure)) :
    Leads memory before (throw failure) after :=
  fun _ _ alike _ => ⟨alike, Nat.le_max_left _ _, nofun, reaches⟩

theorem Leads.bind {next : α → Step β} {middle : α → Progress} {after : β → Progress}
    (first : Leads memory before step middle)
    (rest : ∀ value, Leads memory (middle value) (next value) after) :
    Leads memory before (step >>= next) after := by
  intro outside situation alike underWay
  obtain ⟨stillAlike, peak, counted, reached⟩ := first outside situation alike underWay
  rw [run_bind]
  generalize step.run situation = run at stillAlike peak counted reached ⊢
  obtain ⟨failure | value, last⟩ := run
  · exact ⟨stillAlike, peak, nofun, reached⟩
  · -- What is left is no wider than before, so the bound on the calls still holds.
    refine (rest value outside last stillAlike (counted value rfl)).after reached ?_
    have narrower := reached.width_le
    simp only [came] at narrower peak
    omega

theorem Leads.ite {condition : Prop} [Decidable condition] {other : Step α} {after : α → Progress}
    (yes : Leads memory before step after) (no : Leads memory before other after) :
    Leads memory before (if condition then step else other) after := by
  split
  · exact yes
  · exact no

/-- A step may be taken after others that neither start nor end a call. -/
theorem Leads.after {after : α → Progress}
    (reaches : Progress.Reaches (answers memory) before middle)
    (same : middle.calls = before.calls) (leads : Leads memory middle step after) :
    Leads memory before step after := by
  have first : Leads memory before (Pure.pure ()) fun _ => middle := .pure reaches same
  have both := first.bind fun _ => leads
  rwa [pure_bind] at both

theorem Marks.leads (marks : Marks step) (before : Progress) :
    Leads memory before step fun _ => before := by
  intro outside situation alike underWay
  obtain ⟨value, last, run, sameMemory, sameCount⟩ := marks situation
  rw [run]
  refine ⟨alike.marked sameMemory sameCount, ?_, fun _ _ => sameCount.trans underWay, .refl _ _⟩
  rw [sameMemory]
  exact Nat.le_max_left _ _

/-- A part of a container goes on there, if there is room for its calls beside those of the
others. -/
theorem Leads.part {shape : Shape} {earlier later : List Progress} {part : Progress}
    {after : α → Progress} (ready : Progress.Ready earlier shape)
    (room : Progress.callsAmong earlier + part.width + Progress.callsAmong later ≤
      (Progress.node shape (earlier ++ part :: later)).width)
    (leads : Leads memory part step after) :
    Leads memory (.node shape (earlier ++ part :: later)) step
      fun value => .node shape (earlier ++ after value :: later) := by
  have counts (one : Progress) : (Progress.node shape (earlier ++ one :: later)).calls =
      Progress.callsAmong earlier + Progress.callsAmong later + one.calls := by
    rw [Progress.calls, Progress.callsAmong_append, Progress.callsAmong]
    omega
  intro outside situation alike underWay
  rw [counts] at underWay
  obtain ⟨stillAlike, peak, counted, reached⟩ :=
    leads (outside + (Progress.callsAmong earlier + Progress.callsAmong later)) situation alike
      (by omega)
  generalize step.run situation = run at stillAlike peak counted reached ⊢
  refine ⟨stillAlike, by omega, ?_, ?_⟩
  · intro value isValue
    rw [counts, counted value isValue]
    omega
  · obtain ⟨failure | value, last⟩ := run
    · exact reached.failed_part ready later
    · exact reached.part ready later

end Rules

/-! ## Calls -/

section Calls

variable {α β : Type} {memory : Store.Memory} {situation : Situation} {reference : Reference}

theorem run_get_bind (next : Situation → Step β) :
    ((get : Step Situation) >>= next).run situation = (next situation).run situation := by
  rw [run_bind]
  rfl

theorem run_set_bind (changed : Situation) (next : PUnit → Step β) :
    ((set changed : Step PUnit) >>= next).run situation = (next ()).run changed := by
  rw [run_bind]
  rfl

theorem run_modify_bind (change : Situation → Situation) (next : PUnit → Step β) :
    ((modify change : Step PUnit) >>= next).run situation = (next ()).run (change situation) := by
  rw [run_bind]
  rfl

theorem marks_get : Marks get :=
  fun situation => ⟨situation, situation, rfl, rfl, rfl⟩

theorem marks_modify {change : Situation → Situation}
    (sameMemory : ∀ situation, (change situation).memory = situation.memory)
    (sameCount : ∀ situation, (change situation).underWay = situation.underWay) :
    Marks (modify change) :=
  fun situation => ⟨(), change situation, rfl, sameMemory situation, sameCount situation⟩

/-- Marks may change before a step. -/
theorem Leads.modify {before : Progress} {change : Situation → Situation}
    {next : PUnit → Step β} {after : β → Progress}
    (sameMemory : ∀ situation, (change situation).memory = situation.memory)
    (sameCount : ∀ situation, (change situation).underWay = situation.underWay)
    (leads : Leads memory before (next ()) after) :
    Leads memory before (modify change >>= next) after :=
  ((marks_modify sameMemory sameCount).leads before).bind fun _ => leads

theorem marks_putOff (lane : Lane) : Marks (putOff lane) := by
  refine marks_modify ?_ ?_ <;>
  · intro situation
    split
    · rfl
    · rfl

/-- Only the shelves of a store matter to what a reference leads to. -/
theorem lookup_congr {first second : Store.Memory} (same : first.shelves = second.shelves) :
    first.lookup reference = second.lookup reference := by
  simp only [Store.Memory.lookup, Store.Memory.shelfTitled?, same]

theorem enter_of_permitted (permitted : memory.failures.lookup .resolve = none) :
    memory.enter (.resolve reference) = (.ok (),
      { memory with calls := memory.calls ++ [Store.Call.record (.resolve reference)] }) := by
  simp only [Store.Memory.enter, Store.Call.kind, permitted]

theorem enter_of_failing {detail : String}
    (failing : memory.failures.lookup .resolve = some detail) :
    memory.enter (.resolve reference) = (.error (.store detail none),
      { memory with calls := memory.calls ++ [Store.Call.record (.resolve reference)] }) := by
  simp only [Store.Memory.enter, Store.Call.kind, failing]

theorem answers_of_permitted (permitted : memory.failures.lookup .resolve = none) :
    answers memory (.resolve reference) = memory.lookup reference := by
  rw [answers, Store.Memory.answer, enter_of_permitted permitted]
  exact lookup_congr rfl

theorem answers_of_failing {detail : String}
    (failing : memory.failures.lookup .resolve = some detail) :
    answers memory (.resolve reference) = .error (.store detail none) := by
  rw [answers, Store.Memory.answer, enter_of_failing failing]

/-- A call that is under way ends with its answer. -/
theorem leads_endCall (reference : Reference) :
    Leads memory (.calling reference) (endCall reference) Task.progress := by
  intro outside situation alike underWay
  have permitted : memory.failures.lookup .resolve = none := by
    refine alike.permitted ?_
    rw [underWay]
    exact Nat.succ_pos outside
  have ended : Alike memory
      { situation with underWay := situation.underWay - 1, left := situation.left - 1 } :=
    ⟨alike.shelves, alike.failures, fun _ => permitted⟩
  have counted : situation.underWay - 1 = outside + 0 := by
    rw [underWay]
    rfl
  have answered : answers memory (.resolve reference) = situation.memory.lookup reference := by
    rw [answers_of_permitted permitted, lookup_congr alike.shelves]
  unfold endCall
  rw [run_get_bind, run_set_bind]
  cases found : situation.memory.lookup reference with
  | ok secret =>
    refine ⟨ended, Nat.le_max_left _ _, ?_, ?_⟩
    · rintro _ ⟨⟩
      exact counted
    · exact .of_turn (.answer reference secret) (found ▸ answered.symm)
  | error cause =>
    refine ⟨ended, Nat.le_max_left _ _, nofun, ?_⟩
    exact .of_turn (.refuse reference cause) (found ▸ answered.symm)

/-- To look at a call ends it or leaves it under way. -/
theorem leads_lookAt (lane : Lane) (reference : Reference) (since : Option Nat) :
    Leads memory (.calling reference) (lookAt lane reference since) Task.progress := by
  intro outside situation alike underWay
  have stays (since : Option Nat) :
      Leads memory (.calling reference) (Pure.pure (.calling reference since)) Task.progress :=
    .keep (Task.calling reference since) Task.progress
  unfold lookAt
  rw [run_get_bind]
  split
  · exact ((marks_putOff lane).leads _).bind (fun _ => stays since) outside situation alike underWay
  · split
    · split
      · exact leads_endCall reference outside situation alike underWay
      · exact stays _ outside situation alike underWay
    · split
      · rw [run_set_bind]
        refine (stays _ outside _ ?_ ?_).after (.refl _ _) (Nat.le_refl _)
        · exact alike.marked rfl rfl
        · exact underWay
      · exact leads_endCall reference outside situation alike underWay

/-- To start a call leaves it under way or ends it. -/
theorem leads_startCall (store : String) (lane : Lane) {tree : Json}
    (isReference : view tree = .reference reference) :
    Leads memory (.due tree) (startCall store lane reference) Task.progress := by
  intro outside situation alike underWay
  have asked : Progress.Reaches (answers memory) (.due tree) (.calling reference) :=
    .of_step (.ask isReference)
  have narrow : (Progress.due tree).width = 1 := width_reference isReference
  have sameFailures : situation.memory.failures.lookup .resolve =
      memory.failures.lookup .resolve := by
    rw [alike.failures]
  unfold startCall
  rw [run_modify_bind, run_get_bind]
  cases failing : memory.failures.lookup .resolve with
  | some detail =>
    simp only [enter_of_failing (sameFailures.trans failing)]
    refine ⟨⟨alike.shelves, alike.failures, alike.permitted⟩, Nat.le_max_left _ _, nofun, ?_⟩
    exact asked.trans (.of_turn (.refuse reference _) (answers_of_failing failing).symm)
  | none =>
    simp only [enter_of_permitted (sameFailures.trans failing)]
    rw [run_set_bind]
    refine (leads_lookAt lane reference none outside _ ?_ ?_).after asked ?_
    · exact ⟨alike.shelves, alike.failures, fun _ => failing⟩
    · exact congrArg (· + 1) underWay
    · rw [narrow]
      simp only [Progress.width, Progress.calls] at underWay ⊢
      omega

end Calls

/-! ## Containers -/

section Containers

variable {memory : Store.Memory}

/-- Beside the calls of the other elements there is room for those of one. -/
theorem room_sideBySide (earlier later : List Task) (part : Progress) :
    Progress.callsAmong (Task.progressOf earlier) + part.width +
        Progress.callsAmong (Task.progressOf later) ≤
      (Progress.node .array (Task.progressOf earlier ++ part :: Task.progressOf later)).width := by
  have others (tasks : List Task) : Progress.callsAmong (Task.progressOf tasks) ≤
      ((Task.progressOf tasks).map Progress.width).sum := by
    refine Progress.callsAmong_le_of_sideBySide ?_
    intro part member
    rw [Task.progressOf_eq] at member
    obtain ⟨task, _, rfl⟩ := List.mem_map.mp member
    exact task.inOrder_progress.calls_le_width
  have front := others earlier
  have back := others later
  simp only [Progress.width, Progress.widths_eq, Shape.width, List.map_append, List.map_cons,
    List.sum_append, List.sum_cons]
  omega

/-- Beside entries that are done or due there is room for the calls of one. -/
theorem room_oneByOne (keys : List String) (values trees : List Json) (part : Progress) :
    Progress.callsAmong (values.map .done) + part.width + Progress.callsAmong (trees.map .due) ≤
      (Progress.node (.mapping keys) (values.map .done ++ part :: trees.map .due)).width := by
  rw [Progress.callsAmong_done, Progress.callsAmong_due]
  simp only [Progress.width, Progress.widths_eq, Shape.width, List.map_append, List.map_cons,
    List.foldr_append, List.foldr_cons]
  induction values with
  | nil =>
    simp only [List.map_nil, List.foldr_nil]
    omega
  | cons value values inductionHypothesis =>
    simp only [List.map_cons, List.foldr_cons]
    omega

/-- The elements of an array go on one after another in a turn. -/
theorem leads_mapM {visit : Task → Step Task} (tasks : List Task)
    (each : ∀ task ∈ tasks, Leads memory task.progress (visit task) Task.progress)
    (earlier : List Task) :
    Leads memory (.node .array (Task.progressOf (earlier ++ tasks))) (tasks.mapM visit)
      fun after => .node .array (Task.progressOf (earlier ++ after)) := by
  induction tasks generalizing earlier with
  | nil =>
    rw [List.mapM_nil]
    exact .keep [] fun after => .node .array (Task.progressOf (earlier ++ after))
  | cons task rest inductionHypothesis =>
    rw [List.mapM_cons, Task.progressOf_append, Task.progressOf]
    have first := (each task List.mem_cons_self).part (Progress.ready_array _)
      (room_sideBySide earlier rest task.progress)
    refine first.bind ?_
    intro task
    have others := inductionHypothesis (fun one member => each one (List.mem_cons_of_mem _ member))
      (earlier ++ [task])
    simp only [List.append_assoc, List.singleton_append] at others
    rw [Task.progressOf_append, Task.progressOf] at others
    exact others.bind fun after => .keep (task :: after) fun after =>
      .node .array (Task.progressOf (earlier ++ after))

/-- A short array goes on with all its elements. -/
theorem leads_ofElements {step : Step (List Task)} {before : Progress}
    (leads : Leads memory before step fun after => .node .array (Task.progressOf after)) :
    Leads memory before (Task.ofElements <$> step) Task.progress := by
  rw [map_eq_pure_bind]
  refine leads.bind ?_
  intro elements
  unfold Task.ofElements
  split
  · rename_i trees found
    obtain ⟨closed, none⟩ := Task.reaches_array (answers memory) found
    exact .pure closed none.symm
  · exact .keep (.sequence elements) Task.progress

/-- An entry of a mapping goes on; when it is done, the mapping goes on with the next. -/
theorem leads_entry {before after : Json.Entries} {key : String} {current : Progress}
    {step : Step Task} {next : Task → Step Task} (leads : Leads memory current step Task.progress)
    (finished : ∀ tree, Leads memory
      (.node (.mapping ((before ++ [(key, tree)]).map Prod.fst ++ after.map Prod.fst))
        (((before ++ [(key, tree)]).map Prod.snd).map .done ++ (after.map Prod.snd).map .due))
      (next (.finished tree)) Task.progress)
    (others : ∀ task, (∀ tree, task ≠ .finished tree) →
      next task = pure (.mapping before key task after)) :
    Leads memory
      (.node (.mapping (before.map Prod.fst ++ key :: after.map Prod.fst))
        ((before.map Prod.snd).map .done ++ current :: (after.map Prod.snd).map .due))
      (step >>= next) Task.progress := by
  have ready (shape : Shape) := Progress.ready_done (before.map Prod.snd) shape
  refine (leads.part (ready _) (room_oneByOne _ _ _ _)).bind ?_
  intro task
  by_cases isFinished : ∃ tree, task = .finished tree
  · obtain ⟨tree, rfl⟩ := isFinished
    have onward := finished tree
    simp only [List.map_append, List.map_cons, List.map_nil, List.append_assoc,
      List.singleton_append] at onward
    exact onward
  · rw [others task (not_exists.mp isFinished)]
    exact .keep (.mapping before key task after) Task.progress

/-- The entries of a mapping go on one after another as far as they are done at once. -/
theorem leads_visitEntries {visit : Task → Step Task}
    (each : ∀ tree, Leads memory (.due tree) (visit (.due tree)) Task.progress)
    (before after : Json.Entries) :
    Leads memory
      (.node (.mapping (before.map Prod.fst ++ after.map Prod.fst))
        ((before.map Prod.snd).map .done ++ (after.map Prod.snd).map .due))
      (visitEntries visit before after) Task.progress := by
  induction after generalizing before with
  | nil =>
    rw [visitEntries, List.map_nil, List.map_nil, List.map_nil, List.append_nil, List.append_nil]
    refine .pure ?_ (Progress.callsAmong_done _).symm
    have closed := Progress.Step.close (.mapping (before.map Prod.fst)) (before.map Prod.snd)
    rw [Shape.fill, zip_keys_values] at closed
    exact .of_step closed
  | cons entry after inductionHypothesis =>
    obtain ⟨key, value⟩ := entry
    rw [visitEntries]
    refine leads_entry (each value) (fun tree => inductionHypothesis (before ++ [(key, tree)])) ?_
    intro task unfinished
    cases task with
    | finished tree => exact absurd rfl (unfinished tree)
    | _ => rfl

end Containers

/-! ## Lanes -/

section Lanes

variable {memory : Store.Memory}

/-- A visit of a lane that fails leaves no call of the lane under way. -/
theorem leads_visitLane {visit : Task → Step Task} {task : Task}
    (leads : Leads memory task.progress (visit task) Task.progress) :
    Leads memory task.progress (visitLane visit task) fun visited => visited.1.progress := by
  intro outside start alike underWay
  have visited : Led memory outside task.progress start
      ((tryCatch (visit task) fun failure => do
        modify fun situation =>
          { situation with underWay := start.underWay - task.callsUnderWay }
        pure (.failed failure)).run { start with again := false }) Task.progress := by
    obtain ⟨stillAlike, peak, counted, reached⟩ :=
      leads outside { start with again := false }
        (alike.marked rfl rfl) underWay
    rw [run_tryCatch]
    generalize (visit task).run { start with again := false } = run
      at stillAlike peak counted reached ⊢
    obtain ⟨failure | task, last⟩ := run
    · simp only
      rw [run_modify_bind]
      -- The calls of the lane are dropped; those outside of it stay under way.
      refine ⟨⟨stillAlike.shelves, stillAlike.failures, ?_⟩, peak, ?_, reached⟩
      · intro some
        exact alike.permitted (Nat.lt_of_lt_of_le some (Nat.sub_le _ _))
      · rintro _ ⟨⟩
        change start.underWay - task.callsUnderWay = outside + 0
        rw [underWay, task.callsUnderWay_eq, Nat.add_sub_cancel]
        rfl
    · exact ⟨stillAlike, peak, counted, reached⟩
  unfold visitLane
  rw [run_get_bind, run_set_bind, run_bind]
  generalize (tryCatch (visit task) _ : Step Task).run _ = run at visited ⊢
  obtain ⟨failure | task, last⟩ := run
  · exact ⟨visited.alike, visited.peak_le, nofun, visited.reaches⟩
  · simp only
    rw [run_get_bind, run_modify_bind]
    obtain ⟨stillAlike, peak, counted, reached⟩ := visited
    refine ⟨stillAlike.marked rfl rfl, peak, ?_, reached⟩
    rintro _ ⟨⟩
    exact counted task rfl

/-- The place of a task in a list. -/
theorem split_of_getElem? {tasks : List Task} {position : Nat} {task : Task}
    (found : tasks[position]? = some task) :
    ∃ earlier later, tasks = earlier ++ task :: later ∧
      ∀ other, tasks.set position other = earlier ++ other :: later := by
  obtain ⟨inside, rfl⟩ := List.getElem?_eq_some_iff.mp found
  refine ⟨tasks.take position, tasks.drop (position + 1), ?_, ?_⟩
  · simp
  · intro other
    rw [List.set_eq_take_append_cons_drop, if_pos inside]

/-- An array is over if its lanes are done or if the first that is not has failed. -/
theorem leads_over {tasks : List Task} {rest : Step Task}
    (leads : Leads memory (.node .array (Task.progressOf tasks)) rest Task.progress) :
    Leads memory (.node .array (Task.progressOf tasks))
      (match tasks.find? fun task => task.tree?.isNone with
        | none => pure (.finished (.array ((Task.trees? tasks).getD [])))
        | some (.failed failure) => throw failure
        | some _ => rest) Task.progress := by
  split
  · rename_i allDone
    have each : ∀ task ∈ tasks, task.tree? ≠ none := by
      simpa [List.find?_eq_none] using allDone
    obtain ⟨trees, isTrees⟩ := Task.exists_trees? each
    obtain ⟨closed, none⟩ := Task.reaches_array (answers memory) isTrees
    rw [isTrees]
    exact .pure closed none.symm
  · rename_i failure isFirst
    have member : Progress.failed failure ∈ Task.progressOf tasks := by
      rw [Task.progressOf_eq]
      exact List.mem_map.mpr ⟨.failed failure, List.mem_of_find?_eq_some isFirst, rfl⟩
    exact .throw (.of_step (.abort member))
  · exact leads

/-- The lanes of an array go on in the order in which they ask for it. -/
theorem leads_visitLanes {visit : Lane → Task → Step Task}
    (each : ∀ lane task, Leads memory task.progress (visit lane task) Task.progress)
    (first steps visited asking : Nat) (queue : List Nat) (tasks : List Task) :
    Leads memory (.node .array (Task.progressOf tasks))
      (visitLanes visit first steps visited asking queue tasks) Task.progress := by
  have rests (queue : List Nat) (tasks : List Task) :
      Leads memory (.node .array (Task.progressOf tasks)) (pure (.lanes first queue tasks))
        Task.progress :=
    .keep (Task.lanes first queue tasks) Task.progress
  induction steps generalizing visited asking queue tasks with
  | zero => exact rests queue tasks
  | succ steps inductionHypothesis =>
    match queue with
    | [] => exact rests [] tasks
    | position :: queue =>
      unfold visitLanes
      simp only
      split
      · exact inductionHypothesis visited asking queue tasks
      · rename_i isUnfinished
        cases found : tasks[position]? with
        | none =>
          rw [found] at isUnfinished
          exact absurd rfl isUnfinished
        | some task =>
          obtain ⟨earlier, later, rfl, changed⟩ := split_of_getElem? found
          have visit := (leads_visitLane (each (some (first + position)) task)).part
            (Progress.ready_array _) (room_sideBySide earlier later task.progress)
          rw [Task.progressOf_append, Task.progressOf, Option.getD_some]
          refine visit.bind ?_
          rintro ⟨task, again⟩
          simp only [changed]
          have parts : Task.progressOf (earlier ++ task :: later) =
              Task.progressOf earlier ++ task.progress :: Task.progressOf later := by
            rw [Task.progressOf_append, Task.progressOf]
          rw [← parts]
          generalize earlier ++ task :: later = tasks
          refine .ite ?_ (.ite ?_ ?_)
          · exact leads_over (inductionHypothesis 0 0 queue tasks)
          · exact .modify (fun _ => rfl) (fun _ => rfl) (rests _ tasks)
          · exact inductionHypothesis _ _ _ tasks

/-- A long array goes on with all its elements. -/
theorem leads_openLanes {visit : Lane → Task → Step Task}
    (each : ∀ lane task, Leads memory task.progress (visit lane task) Task.progress)
    (elements : List Json) :
    Leads memory (.node .array (elements.map .due)) (openLanes visit elements) Task.progress := by
  unfold openLanes
  refine (marks_get.leads _).bind fun situation => ?_
  refine .modify (fun _ => rfl) (fun _ => rfl) ?_
  rw [← Task.progressOf_due]
  exact leads_visitLanes each _ _ _ _ _ _

end Lanes

/-! ## Visits -/

section Visits

variable {memory : Store.Memory}

/-- A part of a container that is due may start. -/
theorem Leads.start {α : Type} {tree : Json} {shape : Shape} {parts : List Json} {step : Step α}
    {after : α → Progress} (isContainer : view tree = .container shape parts)
    (leads : Leads memory (.node shape (parts.map .due)) step after) :
    Leads memory (.due tree) step after :=
  .after (.of_step (.start isContainer)) (Progress.callsAmong_due parts) leads

/-- Whatever is visited only takes steps. The induction is on the depth. -/
theorem leads_visit (store : String) (depth : Nat) (lane : Lane) (task : Task) :
    Leads memory task.progress (visit store depth lane task) Task.progress := by
  induction depth generalizing lane task with
  | zero => exact .keep task Task.progress
  | succ depth inductionHypothesis =>
    have rests (task : Task) : Leads memory task.progress (pure task) Task.progress :=
      .keep task Task.progress
    have plain {tree : Json} (isPlain : view tree = .plain) :
        Leads memory (.due tree) (pure (.finished tree)) Task.progress :=
      .pure (.of_step (.keep isPlain)) rfl
    cases task with
    | due tree =>
      cases tree with
      | string text =>
        rw [visit]
        rcases viewText_cases text with ⟨leaf, rfl, isLeaf⟩ | ⟨unparsed, isPlain⟩
        · rw [leaf.parsed]
          exact leads_startCall store lane isLeaf
        · rw [unparsed]
          exact plain isPlain
      | array elements =>
        rw [visit]
        refine .start rfl (.ite ?_ ?_)
        · refine leads_ofElements ?_
          have each := leads_mapM (elements.map .due)
            (fun task _ => inductionHypothesis lane task) []
          rw [List.nil_append, Task.progressOf_due, List.mapM_map] at each
          exact each
        · exact leads_openLanes inductionHypothesis elements
      | object entries =>
        rw [visit]
        refine .start rfl ?_
        exact leads_visitEntries (fun tree => inductionHypothesis lane (.due tree)) [] entries
      | _ => exact plain rfl
    | calling reference since => exact leads_lookAt lane reference since
    | sequence elements =>
      rw [visit]
      refine leads_ofElements ?_
      exact leads_mapM elements (fun task _ => inductionHypothesis lane task) []
    | lanes first queue elements => exact leads_visitLanes inductionHypothesis _ _ _ _ _ _
    | mapping before key current after =>
      rw [visit]
      have each (tree : Json) := inductionHypothesis lane (.due tree)
      refine leads_entry (inductionHypothesis lane current)
        (fun tree => leads_visitEntries each (before ++ [(key, tree)]) after) ?_
      intro task unfinished
      cases task with
      | finished tree => exact absurd rfl (unfinished tree)
      | _ => rfl
    | finished tree => exact rests (.finished tree)
    | failed failure => exact rests (.failed failure)

end Visits

end SecretRefs.Tree.Schedule

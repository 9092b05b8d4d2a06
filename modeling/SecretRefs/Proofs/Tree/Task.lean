import SecretRefs.Proofs.Tree.Concurrency
import SecretRefs.Tree.Task

/-!
# Tasks as trees in the course of a resolution

A task is a `Progress` with marks for the turns (`Task.progress`). The calls under way are those
in flight, the entries of mappings are in order, and to wake lanes changes marks only.
-/

namespace SecretRefs.Tree

namespace Task

mutual

/-- A task without the marks for the turns. -/
def progress : Task → Progress
  | .due tree => .due tree
  | .finished tree => .done tree
  | .failed failure => .failed failure
  | .calling reference _ => .calling reference
  | .sequence elements => .node .array (progressOf elements)
  | .lanes _ _ elements => .node .array (progressOf elements)
  | .mapping before key current after =>
    .node (.mapping (before.map Prod.fst ++ key :: after.map Prod.fst))
      ((before.map Prod.snd).map .done ++ progress current :: (after.map Prod.snd).map .due)

/-- Tasks without the marks for the turns. -/
def progressOf : List Task → List Progress
  | [] => []
  | task :: rest => progress task :: progressOf rest

end

theorem progressOf_eq (tasks : List Task) : progressOf tasks = tasks.map progress := by
  induction tasks with
  | nil => rfl
  | cons task rest inductionHypothesis => rw [progressOf, inductionHypothesis, List.map_cons]

theorem progressOf_append (tasks others : List Task) :
    progressOf (tasks ++ others) = progressOf tasks ++ progressOf others := by
  rw [progressOf_eq, progressOf_eq, progressOf_eq, List.map_append]

theorem progressOf_due (trees : List Json) : progressOf (trees.map .due) = trees.map .due := by
  rw [progressOf_eq, List.map_map]
  rfl

theorem progressOf_finished (trees : List Json) :
    progressOf (trees.map .finished) = trees.map .done := by
  rw [progressOf_eq, List.map_map]
  rfl

/-- Induction on a task, with a hypothesis for each of its parts. -/
@[elab_as_elim]
theorem partsInduction {motive : Task → Prop} (due : ∀ tree, motive (.due tree))
    (finished : ∀ tree, motive (.finished tree)) (failed : ∀ failure, motive (.failed failure))
    (calling : ∀ reference since, motive (.calling reference since))
    (sequence : ∀ elements, (∀ task ∈ elements, motive task) → motive (.sequence elements))
    (lanes : ∀ first queue elements, (∀ task ∈ elements, motive task) →
      motive (.lanes first queue elements))
    (mapping : ∀ before key current after, motive current →
      motive (.mapping before key current after)) (task : Task) : motive task :=
  match task with
  | .due tree => due tree
  | .finished tree => finished tree
  | .failed failure => failed failure
  | .calling reference since => calling reference since
  | .sequence elements => sequence elements fun task _ =>
    partsInduction due finished failed calling sequence lanes mapping task
  | .lanes first queue elements => lanes first queue elements fun task _ =>
    partsInduction due finished failed calling sequence lanes mapping task
  | .mapping before key current after => mapping before key current after
    (partsInduction due finished failed calling sequence lanes mapping current)

/-- The entries before the one that a mapping is at are done, and those after it are due. -/
theorem inOrder_progress (task : Task) : task.progress.InOrder := by
  induction task using partsInduction with
  | due tree => exact .due tree
  | finished tree => exact .done tree
  | failed failure => exact .failed failure
  | calling reference since => exact .calling reference
  | sequence elements inductionHypothesis =>
    rw [progress, progressOf_eq]
    exact .array (by simpa using inductionHypothesis)
  | lanes first queue elements inductionHypothesis =>
    rw [progress, progressOf_eq]
    exact .array (by simpa using inductionHypothesis)
  | mapping before key current after inductionHypothesis =>
    rw [progress]
    refine .mapping ?_ ?_
    · intro part member
      rw [List.mem_append, List.mem_cons] at member
      rcases member with isBefore | rfl | isAfter
      · obtain ⟨tree, _, rfl⟩ := List.mem_map.mp isBefore
        exact .done tree
      · exact inductionHypothesis
      · obtain ⟨tree, _, rfl⟩ := List.mem_map.mp isAfter
        exact .due tree
    · have doneFirst : ∀ part ∈ (before.map Prod.snd).map Progress.done, part.IsDone := by
        intro part member
        obtain ⟨tree, _, rfl⟩ := List.mem_map.mp member
        exact ⟨tree, rfl⟩
      have dueLast : ∀ part ∈ (after.map Prod.snd).map Progress.due, part.IsDue := by
        intro part member
        obtain ⟨tree, _, rfl⟩ := List.mem_map.mp member
        exact ⟨tree, rfl⟩
      rw [List.pairwise_append, List.pairwise_cons]
      refine ⟨?_, ⟨fun part member => .inr (dueLast part member), ?_⟩,
        fun part member _ _ => .inl (doneFirst part member)⟩
      · exact List.pairwise_of_forall_mem_list fun part member _ _ => .inl (doneFirst part member)
      · exact List.pairwise_of_forall_mem_list fun _ _ part member => .inr (dueLast part member)

theorem callsUnderWayAmong_eq {tasks : List Task}
    (each : ∀ task ∈ tasks, task.callsUnderWay = task.progress.calls) :
    callsUnderWayAmong tasks = Progress.callsAmong (progressOf tasks) := by
  induction tasks with
  | nil => rfl
  | cons task rest inductionHypothesis =>
    have others := inductionHypothesis fun one member => each one (List.mem_cons_of_mem _ member)
    rw [callsUnderWayAmong, progressOf, Progress.callsAmong, others, each task List.mem_cons_self]

theorem callsUnderWay_eq (task : Task) : task.callsUnderWay = task.progress.calls := by
  induction task using partsInduction with
  | sequence elements inductionHypothesis =>
    rw [callsUnderWay, progress, Progress.calls, callsUnderWayAmong_eq inductionHypothesis]
  | lanes first queue elements inductionHypothesis =>
    rw [callsUnderWay, progress, Progress.calls, callsUnderWayAmong_eq inductionHypothesis]
  | mapping before key current after inductionHypothesis =>
    rw [callsUnderWay, progress, Progress.calls, Progress.callsAmong_append,
      Progress.callsAmong_done, Progress.callsAmong, Progress.callsAmong_due, inductionHypothesis]
    omega
  | due tree => rfl
  | finished tree => rfl
  | failed failure => rfl
  | calling reference since => rfl

/-- A lane that is woken among tasks is woken in the first one that has it. -/
theorem split_of_wakeAmong? {number position found : Nat} {tasks others : List Task}
    (woke : wakeAmong? number position tasks = some (found, others)) :
    ∃ earlier task later woken, tasks = earlier ++ task :: later ∧
      others = earlier ++ woken :: later ∧ found = position + earlier.length ∧
      task.wake? number = some woken ∧ ∀ one ∈ earlier, one.wake? number = none := by
  induction tasks generalizing position others with
  | nil => cases woke
  | cons first rest inductionHypothesis =>
    rw [wakeAmong?] at woke
    split at woke
    · rename_i woken isWoken
      cases woke
      exact ⟨[], first, rest, woken, rfl, rfl, rfl, isWoken, fun _ member => nomatch member⟩
    · rename_i asleep
      obtain ⟨⟨_, others⟩, inRest, same⟩ := Option.map_eq_some_iff.mp woke
      cases same
      obtain ⟨earlier, task, later, woken, rfl, rfl, rfl, isWoken, noneEarlier⟩ :=
        inductionHypothesis inRest
      refine ⟨first :: earlier, task, later, woken, rfl, rfl, ?_, isWoken, ?_⟩
      · rw [List.length_cons]
        omega
      · rintro one (_ | ⟨_, member⟩)
        · exact asleep
        · exact noneEarlier one member

theorem wakeAmong?_eq_none {number position : Nat} {tasks : List Task}
    (asleep : wakeAmong? number position tasks = none) :
    ∀ task ∈ tasks, task.wake? number = none := by
  induction tasks generalizing position with
  | nil => exact fun _ member => nomatch member
  | cons first rest inductionHypothesis =>
    rw [wakeAmong?] at asleep
    split at asleep
    · cases asleep
    · rename_i firstAsleep
      rintro task (_ | ⟨_, member⟩)
      · exact firstAsleep
      · exact inductionHypothesis (Option.map_eq_none_iff.mp asleep) task member

/-- How a lane of an array is woken: it has the number, or a lane in it has the number. -/
inductive WakesLane (number first : Nat) :
    (elements : List Task) → (position : Nat) → (after : List Task) → Prop where
  | own {elements : List Task} {position : Nat} (inside : position < elements.length)
      (isNumber : first + position = number) : WakesLane number first elements position elements
  | inner {earlier later : List Task} {task woken : Task}
      (outside : ∀ position < (earlier ++ task :: later).length, first + position ≠ number)
      (isWoken : task.wake? number = some woken) :
      WakesLane number first (earlier ++ task :: later) earlier.length (earlier ++ woken :: later)

theorem WakesLane.length_eq {number first position : Nat} {elements after : List Task}
    (wakes : WakesLane number first elements position after) :
    after.length = elements.length := by
  cases wakes with
  | own inside isNumber => rfl
  | inner outside isWoken =>
    rw [List.length_append, List.length_append, List.length_cons, List.length_cons]

theorem WakesLane.position_lt {number first position : Nat} {elements after : List Task}
    (wakes : WakesLane number first elements position after) : position < elements.length := by
  cases wakes with
  | own inside isNumber => exact inside
  | inner outside isWoken =>
    rw [List.length_append, List.length_cons]
    omega

/-- A lane that is woken in an array asks its queue for a visit. -/
theorem exists_wakesLane {number first : Nat} {queue : List Nat} {elements : List Task}
    {after : Task} (woke : (lanes first queue elements).wake? number = some after) :
    ∃ position elementsAfter, WakesLane number first elements position elementsAfter ∧
      after = .lanes first (enqueue position queue) elementsAfter := by
  rw [wake?] at woke
  split at woke
  · rename_i inside
    rw [Bool.and_eq_true_iff, decide_eq_true_iff, decide_eq_true_iff] at inside
    split at woke
    · cases woke
    · cases woke
      exact ⟨_, _, .own (by omega) (by omega), rfl⟩
  · rename_i outside
    rw [Bool.and_eq_true_iff, decide_eq_true_iff, decide_eq_true_iff] at outside
    obtain ⟨_, inElements, rfl⟩ := Option.map_eq_some_iff.mp woke
    obtain ⟨earlier, task, later, woken, rfl, others, isPosition, isWoken, -⟩ :=
      split_of_wakeAmong? inElements
    rw [Nat.zero_add] at isPosition
    refine ⟨_, _, isPosition ▸ others ▸ .inner (fun position within isNumber => ?_) isWoken, rfl⟩
    exact outside ⟨by omega, by omega⟩

/-- If no lane is woken in an array, none of its lanes that are not over has the number. Only in
a lane of another number can there be others. -/
theorem asleep_of_lanes {number first position : Nat} {queue : List Nat} {elements : List Task}
    {task : Task} (asleep : (lanes first queue elements).wake? number = none)
    (found : elements[position]? = some task) (goesOn : task.isOver = false) :
    first + position ≠ number ∧
      (first ≤ number ∧ number < first + elements.length ∨ task.wake? number = none) := by
  obtain ⟨within, -⟩ := List.getElem?_eq_some_iff.mp found
  rw [wake?] at asleep
  split at asleep
  · rename_i inside
    rw [Bool.and_eq_true_iff, decide_eq_true_iff, decide_eq_true_iff] at inside
    refine ⟨?_, .inl inside⟩
    rintro rfl
    rw [Nat.add_sub_cancel_left, found, Option.all_some, goesOn] at asleep
    cases asleep
  · rename_i outside
    rw [Bool.and_eq_true_iff, decide_eq_true_iff, decide_eq_true_iff] at outside
    refine ⟨?_, .inr ?_⟩
    · rintro rfl
      exact outside ⟨Nat.le_add_right _ _, by omega⟩
    · exact wakeAmong?_eq_none (Option.map_eq_none_iff.mp asleep) task (List.mem_of_getElem? found)

theorem progress_wake? {number : Nat} {task woken : Task} (woke : task.wake? number = some woken) :
    woken.progress = task.progress := by
  induction task using partsInduction generalizing woken with
  | sequence elements inductionHypothesis =>
    rw [wake?] at woke
    obtain ⟨_, inElements, rfl⟩ := Option.map_eq_some_iff.mp woke
    obtain ⟨earlier, task, later, woken, rfl, others, -, isWoken, -⟩ :=
      split_of_wakeAmong? inElements
    have same := inductionHypothesis task (List.mem_append_cons_self) isWoken
    rw [progress, progress, others, progressOf_append, progressOf_append, progressOf, progressOf,
      same]
  | lanes first queue elements inductionHypothesis =>
    obtain ⟨_, _, wakes, rfl⟩ := exists_wakesLane woke
    cases wakes with
    | own inside isNumber => rw [progress, progress]
    | inner outside isWoken =>
      have same := inductionHypothesis _ List.mem_append_cons_self isWoken
      rw [progress, progress, progressOf_append, progressOf_append, progressOf, progressOf, same]
  | mapping before key current after inductionHypothesis =>
    rw [wake?] at woke
    obtain ⟨woken, inCurrent, rfl⟩ := Option.map_eq_some_iff.mp woke
    rw [progress, progress, inductionHypothesis inCurrent]
  | _ => cases woke

/-- To wake lanes only marks them. -/
theorem progress_wakeAll (lanes : List (Option Nat)) (task : Task) :
    (lanes.foldl wake task).progress = task.progress := by
  induction lanes generalizing task with
  | nil => rfl
  | cons lane lanes inductionHypothesis =>
    rw [List.foldl_cons, inductionHypothesis]
    cases lane with
    | none => rfl
    | some number =>
      rw [wake]
      cases woke : task.wake? number with
      | none => rfl
      | some woken => exact progress_wake? woke

/-- Tasks that are done have trees. -/
theorem eq_finished_of_trees? {tasks : List Task} {trees : List Json}
    (found : trees? tasks = some trees) : tasks = trees.map .finished := by
  induction tasks generalizing trees with
  | nil =>
    cases found
    rfl
  | cons task rest inductionHypothesis =>
    rw [trees?, List.mapM_cons] at found
    obtain ⟨tree, isTree, found⟩ := Option.bind_eq_some_iff.mp found
    obtain ⟨others, inRest, found⟩ := Option.bind_eq_some_iff.mp found
    cases found
    rw [List.map_cons, ← inductionHypothesis inRest]
    cases task with
    | finished tree =>
      cases isTree
      rfl
    | _ => cases isTree

theorem exists_trees? {tasks : List Task} (each : ∀ task ∈ tasks, task.tree? ≠ none) :
    ∃ trees, trees? tasks = some trees := by
  induction tasks with
  | nil => exact ⟨[], rfl⟩
  | cons task rest inductionHypothesis =>
    obtain ⟨tree, isTree⟩ := Option.ne_none_iff_exists'.mp (each task List.mem_cons_self)
    obtain ⟨trees, found⟩ := inductionHypothesis fun one member =>
      each one (List.mem_cons_of_mem _ member)
    refine ⟨tree :: trees, ?_⟩
    rw [trees?] at found ⊢
    rw [List.mapM_cons, isTree, found]
    rfl

/-- An array whose elements are tasks with trees is done in one step. -/
theorem reaches_array (answer : (call : Store.Call) → call.Answer) {tasks : List Task}
    {trees : List Json} (found : trees? tasks = some trees) :
    Progress.Reaches answer (.node .array (progressOf tasks)) (.done (.array trees)) ∧
      Progress.callsAmong (progressOf tasks) = 0 := by
  rw [eq_finished_of_trees? found, progressOf_finished]
  exact ⟨.of_step (.close .array trees), Progress.callsAmong_done trees⟩

end Task

end SecretRefs.Tree

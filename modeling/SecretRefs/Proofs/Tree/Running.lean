import Mathlib.Data.List.Perm.Subperm
import SecretRefs.Proofs.Tree.Task

/-!
# Tasks that go on

What is left of a task is its `Load`: a weight that every call that starts or ends makes smaller,
the lanes that it has or will have, those of them that ask for a visit, and the numbers they have.

A task is `Running` if it is not over and if none of its calls is forgotten: of each one it holds
what `heeded` says of the lane around it, of whether the lane and all those around it ask for a
visit, and of the instant since when the call is waited for. To wake a lane makes the calls in it
heeded in another way (`Running.wakeAll`).
-/

namespace SecretRefs.Tree

/-- What is left of a task. -/
@[ext]
structure Load where
  /-- At least the number of visits that can still change something. -/
  weight : Nat
  /-- The number of lanes, those to come included. -/
  capacity : Nat
  /-- The number of lanes that ask for a visit. -/
  queued : Nat
  /-- The number of lanes with a number. -/
  numbered : Nat → Nat

namespace Load

/-- The load of parts in which no lane is opened yet. -/
def ofParts (weight capacity : Nat) : Load :=
  ⟨weight, capacity, 0, fun _ => 0⟩

instance : Add Load :=
  ⟨fun one other => ⟨one.weight + other.weight, one.capacity + other.capacity,
    one.queued + other.queued, fun number => one.numbered number + other.numbered number⟩⟩

variable (one other third : Load) (weight capacity number : Nat)

@[simp] theorem add_weight : (one + other).weight = one.weight + other.weight := rfl

@[simp] theorem add_capacity : (one + other).capacity = one.capacity + other.capacity := rfl

@[simp] theorem add_queued : (one + other).queued = one.queued + other.queued := rfl

@[simp] theorem add_numbered :
    (one + other).numbered number = one.numbered number + other.numbered number := rfl

@[simp] theorem ofParts_weight : (ofParts weight capacity).weight = weight := rfl

@[simp] theorem ofParts_capacity : (ofParts weight capacity).capacity = capacity := rfl

@[simp] theorem ofParts_queued : (ofParts weight capacity).queued = 0 := rfl

@[simp] theorem ofParts_numbered : (ofParts weight capacity).numbered number = 0 := rfl

theorem add_assoc : one + other + third = one + (other + third) := by
  ext <;> simp [Nat.add_assoc]

theorem add_comm : one + other = other + one := by
  ext <;> simp [Nat.add_comm]

@[simp] theorem nothing_add : ofParts 0 0 + one = one := by
  ext <;> simp

@[simp] theorem add_nothing : one + ofParts 0 0 = one := by
  ext <;> simp

end Load

namespace Task

/-- The load of a part that is not started. A string can be a call that starts, is waited for and
ends. -/
def dueLoad (tree : Json) : Load :=
  .ofParts (3 * size tree) (size tree - 1)

/-- The load of the entries of a mapping that are not started. -/
def entriesLoad (entries : Json.Entries) : Load :=
  .ofParts (3 * entriesSize entries) (entriesSize entries)

/-- The load of a call. -/
def callLoad (since : Option Nat) : Load :=
  .ofParts (if since.isNone then 2 else 1) 0

/-- The load of lanes themselves. -/
def lanesLoad (first queued count : Nat) : Load :=
  ⟨0, count, queued, fun number => if first ≤ number ∧ number < first + count then 1 else 0⟩

@[simp] theorem lanesLoad_numbered (first queued count number : Nat) :
    (lanesLoad first queued count).numbered number =
      if first ≤ number ∧ number < first + count then 1 else 0 := rfl

mutual

/-- What is left of a task. -/
def load : Task → Load
  | .due tree => dueLoad tree
  | .finished _ => .ofParts 0 0
  | .failed _ => .ofParts 0 0
  | .calling _ since => callLoad since
  | .sequence elements => loadOf elements
  | .lanes first queue elements => lanesLoad first queue.length elements.length + loadOf elements
  | .mapping _ _ current after => load current + entriesLoad after

/-- What is left of tasks. -/
def loadOf : List Task → Load
  | [] => .ofParts 0 0
  | task :: rest => load task + loadOf rest

end

theorem loadOf_append (tasks others : List Task) :
    loadOf (tasks ++ others) = loadOf tasks + loadOf others := by
  induction tasks with
  | nil =>
    rw [List.nil_append, loadOf, Load.nothing_add]
  | cons task rest inductionHypothesis =>
    rw [List.cons_append, loadOf, loadOf, inductionHypothesis, Load.add_assoc]

theorem size_le_elementsSize {element : Json} {elements : List Json} (member : element ∈ elements) :
    size element ≤ elementsSize elements := by
  induction member with
  | head rest => exact Nat.le_add_right _ _
  | tail first member inductionHypothesis => exact Nat.le_add_left_of_le inductionHypothesis

theorem size_le_entriesSize {entry : String × Json} {entries : Json.Entries}
    (member : entry ∈ entries) : size entry.2 ≤ entriesSize entries := by
  induction member with
  | head rest => exact Nat.le_add_right _ _
  | tail first member inductionHypothesis => exact Nat.le_add_left_of_le inductionHypothesis

theorem length_le_elementsSize (elements : List Json) :
    elements.length ≤ elementsSize elements := by
  induction elements with
  | nil => exact Nat.le_refl 0
  | cons element rest inductionHypothesis =>
    have := size_pos element
    rw [List.length_cons, elementsSize]
    omega

theorem loadOf_due (elements : List Json) : loadOf (elements.map .due) =
    .ofParts (3 * elementsSize elements) (elementsSize elements - elements.length) := by
  induction elements with
  | nil => rfl
  | cons element rest inductionHypothesis =>
    have some := size_pos element
    have others := length_le_elementsSize rest
    rw [List.map_cons, loadOf, load, inductionHypothesis]
    ext
    · simp only [dueLoad, elementsSize, Load.add_weight, Load.ofParts_weight]
      omega
    · simp only [dueLoad, elementsSize, Load.add_capacity, Load.ofParts_capacity, List.length_cons]
      omega
    · rfl
    · rfl

theorem loadOf_finished (trees : List Json) : loadOf (trees.map .finished) = .ofParts 0 0 := by
  induction trees with
  | nil => rfl
  | cons tree rest inductionHypothesis =>
    rw [List.map_cons, loadOf, inductionHypothesis, Load.add_nothing]
    rfl

/-- The load of a task is a part of the load of those that it is among. -/
theorem exists_loadOf {task : Task} {tasks : List Task} (member : task ∈ tasks) :
    ∃ rest, loadOf tasks = load task + rest := by
  obtain ⟨earlier, later, rfl⟩ := List.append_of_mem member
  refine ⟨loadOf earlier + loadOf later, ?_⟩
  rw [loadOf_append, loadOf]
  ext <;> simp <;> omega

theorem load_of_tree? {task : Task} (isDone : task.tree? ≠ none) : load task = .ofParts 0 0 := by
  cases task with
  | finished tree => rfl
  | _ => exact absurd rfl isDone

theorem load_of_isOver {task : Task} (isOver : task.isOver = true) :
    load task = .ofParts 0 0 := by
  cases task with
  | finished tree => rfl
  | failed failure => rfl
  | _ => cases isOver

theorem queued_loadOf_le {tasks : List Task}
    (each : ∀ task ∈ tasks, task.load.queued ≤ task.load.capacity) :
    (loadOf tasks).queued ≤ (loadOf tasks).capacity := by
  induction tasks with
  | nil => exact Nat.le_refl 0
  | cons task rest inductionHypothesis =>
    have first := each task List.mem_cons_self
    have others := inductionHypothesis fun one member => each one (List.mem_cons_of_mem _ member)
    simp only [loadOf, Load.add_queued, Load.add_capacity]
    omega

/-! ## Running tasks -/

/-- Whether a task has something to do, with at most `room` levels, and everything that is to be
done in it is `heeded`. -/
inductive Running (heeded : Option Nat → Bool → Option Nat → Prop) :
    (room : Nat) → (lane : Option Nat) → (awake : Bool) → Task → Prop where
  | due {room : Nat} {lane : Option Nat} {awake : Bool} {tree : Json} (fits : size tree ≤ room)
      (isHeeded : heeded lane awake none) : Running heeded room lane awake (.due tree)
  | calling {room : Nat} {lane : Option Nat} {awake : Bool} {reference : Reference}
      {since : Option Nat} (isHeeded : heeded lane awake since) :
      Running heeded (room + 1) lane awake (.calling reference since)
  | sequence {room : Nat} {lane : Option Nat} {awake : Bool} {elements : List Task}
      (each : ∀ task ∈ elements, task.tree? = none → Running heeded room lane awake task)
      (goesOn : ∃ task ∈ elements, task.tree? = none) :
      Running heeded (room + 1) lane awake (.sequence elements)
  | lanes {room : Nat} {lane : Option Nat} {awake : Bool} {first : Nat} {queue : List Nat}
      {elements : List Task} (nodup : queue.Nodup)
      (inside : ∀ position ∈ queue, position < elements.length)
      (each : ∀ position task, elements[position]? = some task → task.isOver = false →
        Running heeded room (some (first + position)) (awake && queue.contains position) task)
      (goesOn : ∃ task ∈ elements, task.isOver = false) :
      Running heeded (room + 1) lane awake (.lanes first queue elements)
  | mapping {room : Nat} {lane : Option Nat} {awake : Bool} {before after : Json.Entries}
      {key : String} {current : Task} (goesOn : Running heeded room lane awake current)
      (fits : ∀ entry ∈ after, size entry.2 ≤ room) :
      Running heeded (room + 1) lane awake (.mapping before key current after)

namespace Running

variable {heeded heededAfter : Option Nat → Bool → Option Nat → Prop} {room : Nat}
  {lane : Option Nat} {awake asks : Bool} {task after : Task}

theorem isOver (running : Running heeded room lane awake task) : task.isOver = false := by
  cases running <;> rfl

theorem tree? (running : Running heeded room lane awake task) : task.tree? = none := by
  cases running <;> rfl

theorem room_pos (running : Running heeded room lane awake task) : 0 < room := by
  cases running with
  | due fits => exact Nat.lt_of_lt_of_le (size_pos _) fits
  | _ => exact Nat.succ_pos _

/-- Something is to be done. -/
theorem weight_pos (running : Running heeded room lane awake task) : 0 < task.load.weight := by
  induction running with
  | @due _ _ _ tree =>
    have := size_pos tree
    simp only [load, dueLoad, Load.ofParts_weight]
    omega
  | @calling _ _ _ _ since => cases since <;> exact Nat.succ_pos _
  | sequence each goesOn inductionHypothesis =>
    obtain ⟨task, member, unfinished⟩ := goesOn
    obtain ⟨rest, isLoad⟩ := exists_loadOf member
    have some := inductionHypothesis task member unfinished
    simp only [load, isLoad, Load.add_weight]
    omega
  | lanes nodup inside each goesOn inductionHypothesis =>
    obtain ⟨task, member, unfinished⟩ := goesOn
    obtain ⟨position, found⟩ := List.mem_iff_getElem?.mp member
    obtain ⟨rest, isLoad⟩ := exists_loadOf member
    have some := inductionHypothesis position task found unfinished
    simp only [load, isLoad, Load.add_weight]
    omega
  | mapping goesOn fits inductionHypothesis =>
    simp only [load, Load.add_weight]
    omega

theorem length_queue_le {queue : List Nat} {elements : List Task} (nodup : queue.Nodup)
    (inside : ∀ position ∈ queue, position < elements.length) : queue.length ≤ elements.length := by
  have subperm := nodup.subperm fun position member => List.mem_range.mpr (inside position member)
  rw [← List.length_range (n := elements.length)]
  exact subperm.length_le

/-- No more lanes ask for a visit than there are. -/
theorem queued_le (running : Running heeded room lane awake task) :
    task.load.queued ≤ task.load.capacity := by
  induction running with
  | due fits => exact Nat.zero_le _
  | calling isHeeded => exact Nat.zero_le _
  | @sequence _ _ _ elements each goesOn inductionHypothesis =>
    refine queued_loadOf_le fun task member => ?_
    by_cases unfinished : task.tree? = none
    · exact inductionHypothesis task member unfinished
    · rw [load_of_tree? unfinished]
      exact Nat.le_refl 0
  | @lanes _ _ _ first queue elements nodup inside each goesOn inductionHypothesis =>
    have own := length_queue_le nodup inside
    have others : (loadOf elements).queued ≤ (loadOf elements).capacity := by
      refine queued_loadOf_le fun task member => ?_
      cases isOver : task.isOver with
      | false =>
        obtain ⟨position, found⟩ := List.mem_iff_getElem?.mp member
        exact inductionHypothesis position task found isOver
      | true =>
        rw [load_of_isOver isOver]
        exact Nat.le_refl 0
    simp only [load, lanesLoad, Load.add_queued, Load.add_capacity]
    omega
  | mapping goesOn fits inductionHypothesis =>
    simp only [load, entriesLoad, Load.add_queued, Load.add_capacity, Load.ofParts_queued,
      Load.ofParts_capacity]
    omega

/-- Something in a running task is heeded. -/
theorem exists_heeded (running : Running heeded room lane awake task) :
    ∃ around asks since, (asks = true → awake = true) ∧ heeded around asks since := by
  induction running with
  | due fits isHeeded => exact ⟨_, _, _, id, isHeeded⟩
  | calling isHeeded => exact ⟨_, _, _, id, isHeeded⟩
  | sequence each goesOn inductionHypothesis =>
    obtain ⟨task, member, unfinished⟩ := goesOn
    exact inductionHypothesis task member unfinished
  | lanes nodup inside each goesOn inductionHypothesis =>
    obtain ⟨task, member, unfinished⟩ := goesOn
    obtain ⟨position, found⟩ := List.mem_iff_getElem?.mp member
    obtain ⟨around, asks, since, wakes, isHeeded⟩ :=
      inductionHypothesis position task found unfinished
    exact ⟨around, asks, since, fun asking => (Bool.and_eq_true_iff.mp (wakes asking)).1, isHeeded⟩
  | mapping goesOn fits inductionHypothesis => exact inductionHypothesis

/-- A lane asks for a visit if it did and those around it still do. -/
theorem asks_of_asks (wakes : awake = true → asks = true) (queued : Bool) :
    (awake && queued) = true → (asks && queued) = true := by
  rw [Bool.and_eq_true_iff, Bool.and_eq_true_iff]
  exact And.imp_left wakes

/-- What is heeded in one way is heeded in another that asks for no more, be it in the lanes of
the task or in the lane around it. -/
theorem change (running : Running heeded room lane awake task)
    (inner : ∀ number awake asks since, (awake = true → asks = true) →
      heeded (some number) awake since → heededAfter (some number) asks since)
    (direct : ∀ since, heeded lane awake since → heededAfter lane asks since)
    (wakes : awake = true → asks = true) : Running heededAfter room lane asks task := by
  induction running generalizing asks with
  | due fits isHeeded => exact .due fits (direct _ isHeeded)
  | calling isHeeded => exact .calling (direct _ isHeeded)
  | sequence each goesOn inductionHypothesis =>
    exact .sequence (fun task member unfinished =>
      inductionHypothesis task member unfinished direct wakes) goesOn
  | @lanes _ _ awake first queue elements nodup inside each goesOn inductionHypothesis =>
    refine .lanes nodup inside (fun position task found unfinished => ?_) goesOn
    have stillAsks := asks_of_asks wakes (queue.contains position)
    exact inductionHypothesis position task found unfinished
      (fun since => inner _ _ _ since stillAsks) stillAsks
  | mapping goesOn fits inductionHypothesis =>
    exact .mapping (inductionHypothesis direct wakes) fits

theorem mono (running : Running heeded room lane awake task)
    (weaker : ∀ lane awake asks since, (awake = true → asks = true) →
      heeded lane awake since → heededAfter lane asks since)
    (wakes : awake = true → asks = true) : Running heededAfter room lane asks task :=
  running.change (fun _ => weaker _) (fun since => weaker _ _ _ since wakes) wakes

end Running

/-! ## Waking lanes -/

theorem numbered_le_of_mem {task : Task} {tasks : List Task} (member : task ∈ tasks)
    (number : Nat) : task.load.numbered number ≤ (loadOf tasks).numbered number := by
  obtain ⟨rest, isLoad⟩ := exists_loadOf member
  rw [isLoad, Load.add_numbered]
  exact Nat.le_add_right _ _

/-- A task in which a lane is woken has the lane. -/
theorem numbered_of_wake? {number : Nat} {task after : Task}
    (woke : task.wake? number = some after) : 1 ≤ task.load.numbered number := by
  induction task using partsInduction generalizing after with
  | sequence elements inductionHypothesis =>
    rw [wake?] at woke
    obtain ⟨_, inElements, rfl⟩ := Option.map_eq_some_iff.mp woke
    obtain ⟨earlier, task, later, woken, rfl, -, -, isWoken, -⟩ := split_of_wakeAmong? inElements
    have member : task ∈ earlier ++ task :: later := List.mem_append_cons_self
    exact Nat.le_trans (inductionHypothesis task member isWoken) (numbered_le_of_mem member number)
  | lanes first queue elements inductionHypothesis =>
    obtain ⟨_, _, wakes, rfl⟩ := exists_wakesLane woke
    rw [load, Load.add_numbered]
    cases wakes with
    | own inside isNumber =>
      rw [lanesLoad_numbered, if_pos (by omega)]
      exact Nat.le_add_right _ _
    | @inner earlier later task woken outside isWoken =>
      have member : task ∈ earlier ++ task :: later := List.mem_append_cons_self
      exact Nat.le_add_left_of_le (Nat.le_trans (inductionHypothesis task member isWoken)
        (numbered_le_of_mem member number))
  | mapping before key current after inductionHypothesis =>
    rw [wake?] at woke
    obtain ⟨woken, inCurrent, rfl⟩ := Option.map_eq_some_iff.mp woke
    rw [load, Load.add_numbered]
    exact Nat.le_add_right_of_le (inductionHypothesis inCurrent)
  | _ => cases woke

/-- Whether loads are the same but for the lanes that ask for a visit. -/
structure Requeued (before after : Load) : Prop where
  weight : after.weight = before.weight
  capacity : after.capacity = before.capacity
  numbered : ∀ number, after.numbered number = before.numbered number

namespace Requeued

variable {before between after others othersAfter : Load}

theorem refl (load : Load) : Requeued load load :=
  ⟨rfl, rfl, fun _ => rfl⟩

theorem trans (first : Requeued before between) (second : Requeued between after) :
    Requeued before after :=
  ⟨second.weight.trans first.weight, second.capacity.trans first.capacity,
    fun number => (second.numbered number).trans (first.numbered number)⟩

theorem add (one : Requeued before after) (other : Requeued others othersAfter) :
    Requeued (before + others) (after + othersAfter) where
  weight := by rw [Load.add_weight, Load.add_weight, one.weight, other.weight]
  capacity := by rw [Load.add_capacity, Load.add_capacity, one.capacity, other.capacity]
  numbered number := by
    rw [Load.add_numbered, Load.add_numbered, one.numbered, other.numbered]

/-- A change in one of several tasks. -/
theorem among {task woken : Task} (same : Requeued task.load woken.load)
    (earlier later : List Task) :
    Requeued (loadOf (earlier ++ task :: later)) (loadOf (earlier ++ woken :: later)) := by
  rw [loadOf_append, loadOf_append, loadOf, loadOf]
  exact (refl _).add (same.add (refl _))

end Requeued

/-- To wake a lane changes what asks for a visit and nothing else of the load. -/
theorem requeued_wake? {number : Nat} {task after : Task}
    (woke : task.wake? number = some after) : Requeued task.load after.load := by
  induction task using partsInduction generalizing after with
  | sequence elements inductionHypothesis =>
    rw [wake?] at woke
    obtain ⟨⟨_, _⟩, inElements, rfl⟩ := Option.map_eq_some_iff.mp woke
    obtain ⟨earlier, task, later, woken, rfl, rfl, -, isWoken, -⟩ := split_of_wakeAmong? inElements
    exact (inductionHypothesis task List.mem_append_cons_self isWoken).among earlier later
  | lanes first queue elements inductionHypothesis =>
    obtain ⟨position, elementsAfter, wakes, rfl⟩ := exists_wakesLane woke
    have own : Requeued (lanesLoad first queue.length elements.length)
        (lanesLoad first (enqueue position queue).length elementsAfter.length) := by
      rw [wakes.length_eq]
      exact ⟨rfl, rfl, fun _ => rfl⟩
    refine own.add ?_
    cases wakes with
    | own inside isNumber => exact .refl _
    | inner outside isWoken =>
      exact (inductionHypothesis _ List.mem_append_cons_self isWoken).among _ _
  | mapping before key current after inductionHypothesis =>
    rw [wake?] at woke
    obtain ⟨woken, inCurrent, rfl⟩ := Option.map_eq_some_iff.mp woke
    exact (inductionHypothesis inCurrent).add (.refl _)
  | _ => cases woke

theorem mem_enqueue {position other : Nat} {queue : List Nat} :
    other ∈ enqueue position queue ↔ other ∈ queue ∨ other = position := by
  unfold enqueue
  split
  · rename_i member
    rw [List.contains_iff_mem] at member
    constructor
    · exact .inl
    · rintro (inQueue | rfl)
      · exact inQueue
      · exact member
  · rw [List.mem_append, List.mem_singleton]

theorem nodup_enqueue {queue : List Nat} (nodup : queue.Nodup) (position : Nat) :
    (enqueue position queue).Nodup := by
  unfold enqueue
  split
  · exact nodup
  · rename_i notMember
    rw [List.contains_iff_mem] at notMember
    refine List.nodup_append.mpr ⟨nodup, List.pairwise_singleton _ _, ?_⟩
    rintro other member _ isPosition rfl
    exact notMember (List.mem_singleton.mp isPosition ▸ member)

/-- What is found in a list after one of its members is replaced. -/
theorem found_or_beside {position : Nat} {earlier later : List Task} {woken other : Task}
    (found : (earlier ++ woken :: later)[position]? = some other) :
    position = earlier.length ∧ other = woken ∨
      other ∈ earlier ++ later ∧ ∀ task, (earlier ++ task :: later)[position]? = some other := by
  rcases Nat.lt_trichotomy position earlier.length with isEarlier | rfl | isLater
  · rw [List.getElem?_append_left isEarlier] at found
    refine .inr ⟨List.mem_append_left _ (List.mem_of_getElem? found), fun task => ?_⟩
    rw [List.getElem?_append_left isEarlier, found]
  · rw [List.getElem?_append_right (Nat.le_refl _), Nat.sub_self, List.getElem?_cons_zero] at found
    exact .inl ⟨rfl, (Option.some.inj found).symm⟩
  · obtain ⟨beyond, rfl⟩ := Nat.exists_eq_add_of_lt isLater
    have isBeyond : earlier.length + beyond + 1 - earlier.length = beyond + 1 := by omega
    rw [List.getElem?_append_right (by omega), isBeyond, List.getElem?_cons_succ] at found
    refine .inr ⟨List.mem_append_right _ (List.mem_of_getElem? found), fun task => ?_⟩
    rw [List.getElem?_append_right (by omega), isBeyond, List.getElem?_cons_succ, found]

theorem isOver_of_wake? {number : Nat} {task after : Task}
    (woke : task.wake? number = some after) : task.isOver = false := by
  cases task with
  | finished tree => cases woke
  | failed failure => cases woke
  | _ => rfl

theorem tree?_of_isOver {task : Task} (goesOn : task.isOver = false) : task.tree? = none := by
  cases task with
  | finished tree => cases goesOn
  | _ => rfl

theorem wake?_eq_none {number : Nat} {task : Task} (lacks : task.load.numbered number = 0) :
    task.wake? number = none := by
  rw [Option.eq_none_iff_forall_ne_some]
  intro after woke
  have has := numbered_of_wake? woke
  omega

/-- If a task has the only lane with a number, those beside it have none. -/
theorem numbered_beside {number : Nat} {earlier later : List Task} {task after : Task}
    (woke : task.wake? number = some after)
    (once : (loadOf (earlier ++ task :: later)).numbered number ≤ 1) :
    ∀ other ∈ earlier ++ later, other.load.numbered number = 0 := by
  intro other member
  have has := numbered_of_wake? woke
  have part := numbered_le_of_mem member number
  simp only [loadOf_append, loadOf, Load.add_numbered] at once part
  omega

/-- Whether the lane with a number is heeded in another way after it is woken, and all else in
the same way. -/
structure Rouses (number : Nat) (heeded after : Option Nat → Bool → Option Nat → Prop) : Prop where
  other : ∀ lane awake asks since, lane ≠ some number → (awake = true → asks = true) →
    heeded lane awake since → after lane asks since
  woken : ∀ awake since, heeded (some number) awake since → after (some number) true since

theorem Rouses.awake {number : Nat} {heeded after : Option Nat → Bool → Option Nat → Prop}
    (rouses : Rouses number heeded after) {lane : Option Nat} {awake : Bool} {since : Option Nat}
    (isHeeded : heeded lane awake since) : after lane true since := by
  by_cases isLane : lane = some number
  · subst isLane
    exact rouses.woken _ _ isHeeded
  · exact rouses.other _ _ _ _ isLane (fun _ => rfl) isHeeded

namespace Running

variable {number : Nat} {heeded heededAfter : Option Nat → Bool → Option Nat → Prop} {room : Nat}
  {lane : Option Nat} {awake asks : Bool} {task after : Task}

/-- A task that does not have the lane that is woken stays as it is. -/
theorem unwoken (running : Running heeded room lane awake task)
    (rouses : Rouses number heeded heededAfter) (asleep : task.wake? number = none)
    (once : task.load.numbered number ≤ 1)
    (direct : ∀ since, heeded lane awake since → heededAfter lane asks since)
    (wakes : awake = true → asks = true) : Running heededAfter room lane asks task := by
  induction running generalizing asks with
  | due fits isHeeded => exact .due fits (direct _ isHeeded)
  | calling isHeeded => exact .calling (direct _ isHeeded)
  | sequence each goesOn inductionHypothesis =>
    rw [wake?, Option.map_eq_none_iff] at asleep
    refine .sequence (fun task member unfinished => ?_) goesOn
    exact inductionHypothesis task member unfinished (wakeAmong?_eq_none asleep task member)
      (Nat.le_trans (numbered_le_of_mem member number) once) direct wakes
  | @lanes _ _ awake first queue elements nodup inside each goesOn inductionHypothesis =>
    rw [load, Load.add_numbered, lanesLoad_numbered] at once
    refine .lanes nodup inside (fun position task found unfinished => ?_) goesOn
    have part := numbered_le_of_mem (List.mem_of_getElem? found) number
    obtain ⟨apart, isInside | asleep⟩ := asleep_of_lanes asleep found unfinished
    all_goals
      have stillAsks := asks_of_asks wakes (queue.contains position)
      refine inductionHypothesis position task found unfinished ?_ (by omega)
        (fun since => rouses.other _ _ _ _ (fun same => apart (Option.some.inj same)) stillAsks)
        stillAsks
    · rw [if_pos isInside] at once
      exact wake?_eq_none (by omega)
    · exact asleep
  | mapping goesOn fits inductionHypothesis =>
    rw [wake?, Option.map_eq_none_iff] at asleep
    rw [load, Load.add_numbered] at once
    exact .mapping (inductionHypothesis asleep (Nat.le_of_add_right_le once) direct wakes) fits

/-- A lane in which no lane is woken goes on beside the one that now asks for a visit. -/
theorem besideWoken {first position other : Nat} {queue : List Nat}
    (running : Running heeded room (some (first + other)) (awake && queue.contains other) task)
    (rouses : Rouses number heeded heededAfter) (lacks : task.load.numbered number = 0)
    (isWoken : first + other = number → other = position) :
    Running heededAfter room (some (first + other))
      (true && (enqueue position queue).contains other) task := by
  have stillAsks : (awake && queue.contains other) = true →
      (true && (enqueue position queue).contains other) = true := by
    rw [Bool.and_eq_true_iff, Bool.true_and, List.contains_iff_mem, List.contains_iff_mem]
    exact fun both => mem_enqueue.mpr (.inl both.2)
  refine running.unwoken rouses (wake?_eq_none lacks) (by omega) (fun since isHeeded => ?_)
    stillAsks
  by_cases isNumber : first + other = number
  · have asks : (enqueue position queue).contains other = true :=
      List.contains_iff_mem.mpr (mem_enqueue.mpr (.inr (isWoken isNumber)))
    rw [asks]
    exact rouses.awake isHeeded
  · exact rouses.other _ _ _ _ (fun same => isNumber (Option.some.inj same)) stillAsks isHeeded

/-- A task that is woken asks for a visit with the lane that has the number. -/
theorem woken (running : Running heeded room lane awake task)
    (rouses : Rouses number heeded heededAfter) (woke : task.wake? number = some after)
    (once : task.load.numbered number ≤ 1) : Running heededAfter room lane true after := by
  induction running generalizing after with
  | due fits => cases woke
  | calling isHeeded => cases woke
  | @sequence room lane _ _ each goesOn inductionHypothesis =>
    rw [wake?] at woke
    obtain ⟨⟨_, _⟩, inElements, rfl⟩ := Option.map_eq_some_iff.mp woke
    obtain ⟨earlier, task, later, woken, rfl, rfl, -, isWoken, -⟩ := split_of_wakeAmong? inElements
    have member : task ∈ earlier ++ task :: later := List.mem_append_cons_self
    have running := inductionHypothesis task member
      (tree?_of_isOver (isOver_of_wake? isWoken)) isWoken
      (Nat.le_trans (numbered_le_of_mem member number) once)
    have beside := numbered_beside isWoken once
    refine .sequence (fun other isOther otherUnfinished => ?_)
      ⟨woken, List.mem_append_cons_self, running.tree?⟩
    have others (isBeside : other ∈ earlier ++ later) :
        Running heededAfter room lane true other := by
      have lacks := beside other isBeside
      have isElement : other ∈ earlier ++ task :: later := by
        simp only [List.mem_append, List.mem_cons] at isBeside ⊢
        exact isBeside.imp_right .inr
      exact (each other isElement otherUnfinished).unwoken rouses (wake?_eq_none lacks)
        (by omega) (fun _ => rouses.awake) fun _ => rfl
    rcases List.mem_append.mp isOther with isEarlier | _ | ⟨_, isLater⟩
    · exact others (List.mem_append_left _ isEarlier)
    · exact running
    · exact others (List.mem_append_right _ isLater)
  | @lanes room _ awake first queue elements nodup inside each goesOn inductionHypothesis =>
    rw [load, Load.add_numbered, lanesLoad_numbered] at once
    obtain ⟨position, elementsAfter, wakes, rfl⟩ := exists_wakesLane woke
    have insideAfter : ∀ other ∈ enqueue position queue, other < elementsAfter.length := by
      intro other inQueue
      rw [wakes.length_eq]
      rcases mem_enqueue.mp inQueue with wasInQueue | rfl
      · exact inside other wasInQueue
      · exact wakes.position_lt
    cases wakes with
    | own isInside isNumber =>
      rw [if_pos (by omega)] at once
      refine .lanes (nodup_enqueue nodup _) insideAfter
        (fun other task found unfinished => ?_) goesOn
      have part := numbered_le_of_mem (List.mem_of_getElem? found) number
      exact (each other task found unfinished).besideWoken rouses (by omega) fun _ => by omega
    | @inner earlier later task woken outside isWoken =>
      have isAt : (earlier ++ task :: later)[earlier.length]? = some task := by simp
      have part := numbered_le_of_mem (List.mem_of_getElem? isAt) number
      have running := inductionHypothesis _ task isAt (isOver_of_wake? isWoken) isWoken (by omega)
      have beside := numbered_beside isWoken (Nat.le_trans (Nat.le_add_left _ _) once)
      refine .lanes (nodup_enqueue nodup _) insideAfter
        (fun other task found unfinished => ?_) ⟨woken, List.mem_append_cons_self, running.isOver⟩
      rcases found_or_beside found with ⟨rfl, rfl⟩ | ⟨isBeside, found⟩
      · rw [List.contains_iff_mem.mpr (mem_enqueue.mpr (.inr rfl))]
        exact running
      · obtain ⟨within, -⟩ := List.getElem?_eq_some_iff.mp (found _)
        exact (each other _ (found _) unfinished).besideWoken rouses (beside _ isBeside)
          fun isNumber => absurd isNumber (outside other within)
  | mapping goesOn fits inductionHypothesis =>
    rw [wake?] at woke
    obtain ⟨woken, inCurrent, rfl⟩ := Option.map_eq_some_iff.mp woke
    rw [load, Load.add_numbered] at once
    exact .mapping (inductionHypothesis inCurrent (Nat.le_of_add_right_le once)) fits

end Running

theorem requeued_wakeAll (lanes : List (Option Nat)) (task : Task) :
    Requeued task.load (lanes.foldl wake task).load := by
  induction lanes generalizing task with
  | nil => exact .refl _
  | cons lane lanes inductionHypothesis =>
    refine .trans ?_ (inductionHypothesis (task.wake lane))
    cases lane with
    | none => exact .refl _
    | some number =>
      rw [wake]
      cases woke : task.wake? number with
      | none => exact .refl _
      | some after => exact requeued_wake? woke

/-- After lanes are woken, what waited for that is heeded as what asks for a visit. The induction
is on the lanes. -/
theorem Running.wakeAll {heeded : Option Nat → Bool → Option Nat → Prop} {room : Nat} {task : Task}
    (mono : ∀ lane awake asks since, (awake = true → asks = true) → heeded lane awake since →
      heeded lane asks since) (lanes : List (Option Nat))
    (once : ∀ number, task.load.numbered number ≤ 1)
    (running : Running (fun lane awake since =>
      heeded lane awake since ∨ lane ∈ lanes ∧ heeded lane true since) room none true task) :
    Running heeded room none true (lanes.foldl wake task) := by
  induction lanes generalizing task with
  | nil =>
    refine running.mono (fun lane awake asks since wakes isHeeded => ?_) id
    rcases isHeeded with isHeeded | ⟨member, -⟩
    · exact mono _ _ _ _ wakes isHeeded
    · cases member
  | cons first lanes inductionHypothesis =>
    rw [List.foldl_cons]
    have stillOnce (number : Nat) : (task.wake first).load.numbered number ≤ 1 :=
      (requeued_wakeAll [first] task).numbered number ▸ once number
    refine inductionHypothesis stillOnce ?_
    cases first with
    | none =>
      refine running.change (fun number awake asks since wakes isHeeded => ?_)
        (fun since isHeeded => ?_) id
      · rcases isHeeded with isHeeded | ⟨member, isHeeded⟩
        · exact .inl (mono _ _ _ _ wakes isHeeded)
        · exact .inr ⟨(List.mem_cons.mp member).resolve_left (Option.some_ne_none number), isHeeded⟩
      · exact .inl (isHeeded.elim id And.right)
    | some number =>
      have rouses : Rouses number
          (fun lane awake since =>
            heeded lane awake since ∨ lane ∈ some number :: lanes ∧ heeded lane true since)
          fun lane awake since =>
            heeded lane awake since ∨ lane ∈ lanes ∧ heeded lane true since := by
        constructor
        · intro lane awake asks since apart wakes isHeeded
          rcases isHeeded with isHeeded | ⟨member, isHeeded⟩
          · exact .inl (mono _ _ _ _ wakes isHeeded)
          · exact .inr ⟨(List.mem_cons.mp member).resolve_left apart, isHeeded⟩
        · intro awake since isHeeded
          rcases isHeeded with isHeeded | ⟨-, isHeeded⟩
          · exact .inl (mono _ _ _ _ (fun _ => rfl) isHeeded)
          · exact .inl isHeeded
      rw [wake]
      cases woke : task.wake? number with
      | none =>
        exact running.unwoken rouses woke (once number)
          (fun since => rouses.other _ _ _ _ (Option.some_ne_none number).symm id) id
      | some after => exact running.woken rouses woke (once number)

end Task

end SecretRefs.Tree

import SecretRefs.Proofs.Tree.Interleaving
import SecretRefs.Tree.Task

/-!
# Calls in flight at once

`width` bounds the calls of a tree that can be in flight at once: those of the elements of an
array add up, of the entries of a mapping only the widest counts. It is a bound because the
entries of a mapping take turns in every run (`Progress.InOrder`), and because no step makes
what is left of a tree wider. A run can always go on until it is over (`exists_step`), and it is
over after finitely many steps (`Step.stepsLeft_lt`).

`resolve_interleaved` says what is the same in all runs with fixed answers. That the resolution
against the clock is one of them is `Schedule.run_reaches`.
-/

namespace SecretRefs.Tree

mutual

/-- How many calls of a tree can be in flight at once. -/
def width : Json → Nat
  | .string text => if Reference.isReference text then 1 else 0
  | .array elements => elementsWidth elements
  | .object entries => entriesWidth entries
  | _ => 0

/-- The same of elements, which are resolved side by side. -/
def elementsWidth : List Json → Nat
  | [] => 0
  | element :: rest => width element + elementsWidth rest

/-- The same of entries, which are resolved one after another. -/
def entriesWidth : Json.Entries → Nat
  | [] => 0
  | (_, value) :: rest => max (width value) (entriesWidth rest)

end

/-- The width of a container whose parts have these widths. -/
def Shape.width : Shape → List Nat → Nat
  | .array, widths => widths.sum
  | .mapping _, widths => widths.foldr max 0

section Measures

variable {tree : Json} {reference : Reference} {shape : Shape} {parts : List Json}

theorem width_reference (isReference : view tree = .reference reference) : width tree = 1 := by
  obtain ⟨leaf, rfl, _⟩ := leaf_of_view isReference
  rw [width, isReference_leaf]
  rfl

theorem elementsWidth_eq (elements : List Json) :
    elementsWidth elements = (elements.map width).sum := by
  induction elements with
  | nil => rfl
  | cons element rest inductionHypothesis =>
    rw [elementsWidth, inductionHypothesis, List.map_cons, List.sum_cons]

theorem entriesWidth_eq (entries : Json.Entries) :
    entriesWidth entries = ((entries.map Prod.snd).map width).foldr max 0 := by
  induction entries with
  | nil => rfl
  | cons entry rest inductionHypothesis =>
    rw [entriesWidth, inductionHypothesis, List.map_cons, List.map_cons, List.foldr_cons]

theorem width_container (isContainer : view tree = .container shape parts) :
    width tree = shape.width (parts.map width) := by
  rcases container_of_view isContainer with ⟨rfl, rfl⟩ | ⟨entries, rfl, rfl, rfl⟩
  · rw [width, elementsWidth_eq, Shape.width]
  · rw [width, entriesWidth_eq, Shape.width]

/-- A container is no wider if one of its parts is not. -/
theorem Shape.width_mono (shape : Shape) (earlier later : List Nat) {before after : Nat}
    (narrower : after ≤ before) :
    shape.width (earlier ++ after :: later) ≤ shape.width (earlier ++ before :: later) := by
  cases shape with
  | array =>
    simp only [Shape.width, List.sum_append, List.sum_cons]
    omega
  | mapping keys =>
    simp only [Shape.width, List.foldr_append, List.foldr_cons]
    induction earlier with
    | nil =>
      simp only [List.foldr_nil]
      omega
    | cons first earlier inductionHypothesis =>
      simp only [List.foldr_cons]
      omega

theorem elementsSize_eq (elements : List Json) :
    elementsSize elements = (elements.map size).sum := by
  induction elements with
  | nil => rfl
  | cons element rest inductionHypothesis =>
    rw [elementsSize, inductionHypothesis, List.map_cons, List.sum_cons]

theorem entriesSize_eq (entries : Json.Entries) :
    entriesSize entries = ((entries.map Prod.snd).map size).sum := by
  induction entries with
  | nil => rfl
  | cons entry rest inductionHypothesis =>
    rw [entriesSize, inductionHypothesis, List.map_cons, List.map_cons, List.sum_cons]

theorem size_container (isContainer : view tree = .container shape parts) :
    size tree = (parts.map size).sum + 1 := by
  rcases container_of_view isContainer with ⟨rfl, rfl⟩ | ⟨entries, rfl, rfl, rfl⟩
  · rw [size, elementsSize_eq]
  · rw [size, entriesSize_eq]

theorem size_pos (tree : Json) : 0 < size tree := by
  cases tree <;> exact Nat.succ_pos _

end Measures

namespace Progress

mutual

/-- The number of calls in flight. -/
def calls : Progress → Nat
  | .calling _ => 1
  | .node _ parts => callsAmong parts
  | _ => 0

/-- The number of calls in flight of some parts. -/
def callsAmong : List Progress → Nat
  | [] => 0
  | part :: parts => calls part + callsAmong parts

end

mutual

/-- How many calls can be in flight at once from here on. -/
def width : Progress → Nat
  | .due tree => Tree.width tree
  | .calling _ => 1
  | .node shape parts => shape.width (widths parts)
  | _ => 0

/-- The widths of parts. -/
def widths : List Progress → List Nat
  | [] => []
  | part :: parts => width part :: widths parts

end

theorem widths_eq (parts : List Progress) : widths parts = parts.map width := by
  induction parts with
  | nil => rfl
  | cons part parts inductionHypothesis => rw [widths, inductionHypothesis, List.map_cons]

/-- Whether in each mapping an entry is done before a later one is started. -/
inductive InOrder : Progress → Prop where
  | due (tree : Json) : InOrder (.due tree)
  | calling (reference : Reference) : InOrder (.calling reference)
  | done (tree : Json) : InOrder (.done tree)
  | failed (failure : Failure) : InOrder (.failed failure)
  | array {parts : List Progress} (each : ∀ part ∈ parts, InOrder part) :
      InOrder (.node .array parts)
  | mapping {keys : List String} {parts : List Progress} (each : ∀ part ∈ parts, InOrder part)
      (oneByOne : parts.Pairwise fun earlier later => earlier.IsDone ∨ later.IsDue) :
      InOrder (.node (.mapping keys) parts)

theorem InOrder.each {shape : Shape} {parts : List Progress}
    (inOrder : InOrder (.node shape parts)) :
    ∀ part ∈ parts, InOrder part := by
  cases inOrder with
  | array each => exact each
  | mapping each => exact each

section Steps

variable {before after : Progress} {turn : Option Store.Turn} {turns : List Store.Turn}

/-- What is done takes no steps. -/
theorem Step.not_isDone (step : Step before turn after) : ¬before.IsDone := by
  rintro ⟨tree, rfl⟩
  cases step

/-- A step keeps the entries of mappings in order. -/
theorem InOrder.step (step : Step before turn after) (inOrder : InOrder before) :
    InOrder after := by
  induction step with
  | keep => exact .done _
  | ask => exact .calling _
  | answer => exact .done _
  | refuse => exact .failed _
  | @start tree shape parts isContainer =>
    have each : ∀ part ∈ parts.map Progress.due, InOrder part := by
      intro part member
      obtain ⟨tree, _, rfl⟩ := List.mem_map.mp member
      exact .due tree
    cases shape with
    | array => exact .array each
    | mapping keys =>
      refine .mapping each (List.pairwise_of_forall_mem_list ?_)
      intro earlier _ later member
      obtain ⟨tree, _, rfl⟩ := List.mem_map.mp member
      exact .inr ⟨tree, rfl⟩
  | @part shape earlier before after turn ready step later inductionHypothesis =>
    have each : ∀ part ∈ earlier ++ after :: later, InOrder part := by
      intro part member
      rw [List.mem_append, List.mem_cons] at member
      rcases member with isEarlier | rfl | isLater
      · exact inOrder.each part (List.mem_append_left _ isEarlier)
      · exact inductionHypothesis (inOrder.each before List.mem_append_cons_self)
      · exact inOrder.each part (List.mem_append_right _ (List.mem_cons_of_mem _ isLater))
    cases inOrder with
    | array => exact .array each
    | mapping _ oneByOne =>
      -- What takes the step is not done, so the entries after it are due; those before it are
      -- done, since it was ready.
      refine .mapping each ?_
      rw [List.pairwise_append, List.pairwise_cons] at oneByOne ⊢
      obtain ⟨isEarlier, ⟨beforeLater, isLater⟩, _⟩ := oneByOne
      refine ⟨isEarlier, ⟨?_, isLater⟩, ?_⟩
      · intro part member
        exact .inr ((beforeLater part member).resolve_left step.not_isDone)
      · intro part member _ _
        exact .inl (ready part member)
  | close => exact .done _
  | abort => exact .failed _

/-- No step makes what is left wider. -/
theorem Step.width_le (step : Step before turn after) : after.width ≤ before.width := by
  induction step with
  | keep => exact Nat.zero_le _
  | ask isReference =>
    simp only [width]
    exact Nat.le_of_eq (width_reference isReference).symm
  | answer => exact Nat.zero_le _
  | refuse => exact Nat.zero_le _
  | @start tree shape parts isContainer =>
    simp only [width, widths_eq, List.map_map]
    rw [width_container isContainer]
    exact Nat.le_refl _
  | part ready step later inductionHypothesis =>
    simp only [width, widths_eq, List.map_append, List.map_cons]
    exact Shape.width_mono _ _ _ inductionHypothesis
  | close => exact Nat.zero_le _
  | abort => exact Nat.zero_le _

/-- A run keeps the entries of mappings in order. -/
theorem InOrder.steps (steps : Steps before turns after) (inOrder : InOrder before) :
    InOrder after := by
  induction steps with
  | refl => exact inOrder
  | step step _ inductionHypothesis => exact inductionHypothesis (inOrder.step step)

/-- In a run what is left gets no wider. -/
theorem Steps.width_le (steps : Steps before turns after) : after.width ≤ before.width := by
  induction steps with
  | refl => exact Nat.le_refl _
  | step step _ inductionHypothesis => exact Nat.le_trans inductionHypothesis step.width_le

end Steps

/-! ## Calls in flight and width -/

theorem callsAmong_append (parts others : List Progress) :
    callsAmong (parts ++ others) = callsAmong parts + callsAmong others := by
  induction parts with
  | nil => exact (Nat.zero_add _).symm
  | cons part parts inductionHypothesis =>
    rw [List.cons_append, callsAmong, callsAmong, inductionHypothesis, Nat.add_assoc]

theorem callsAmong_done (values : List Json) : callsAmong (values.map .done) = 0 := by
  induction values with
  | nil => rfl
  | cons value values inductionHypothesis =>
    rw [List.map_cons, callsAmong, inductionHypothesis]
    rfl

/-- Parts that are due have no calls in flight. -/
theorem callsAmong_of_isDue {parts : List Progress} (due : ∀ part ∈ parts, part.IsDue) :
    callsAmong parts = 0 := by
  induction parts with
  | nil => rfl
  | cons part parts inductionHypothesis =>
    obtain ⟨tree, rfl⟩ := due part List.mem_cons_self
    have others := inductionHypothesis fun one member => due one (List.mem_cons_of_mem _ member)
    rw [callsAmong, others]
    rfl

theorem callsAmong_due (trees : List Json) : callsAmong (trees.map .due) = 0 := by
  refine callsAmong_of_isDue ?_
  intro part member
  obtain ⟨tree, _, rfl⟩ := List.mem_map.mp member
  exact ⟨tree, rfl⟩

/-- Calls in flight of parts that go on side by side add up. -/
theorem callsAmong_le_of_sideBySide {parts : List Progress}
    (each : ∀ part ∈ parts, part.calls ≤ part.width) :
    callsAmong parts ≤ (parts.map width).sum := by
  induction parts with
  | nil => exact Nat.le_refl _
  | cons part parts inductionHypothesis =>
    have here := each part List.mem_cons_self
    have others := inductionHypothesis fun one member => each one (List.mem_cons_of_mem _ member)
    rw [callsAmong, List.map_cons, List.sum_cons]
    omega

/-- Calls in flight of entries that take turns are all of one entry. -/
theorem callsAmong_le_of_oneByOne {parts : List Progress}
    (each : ∀ part ∈ parts, part.calls ≤ part.width)
    (oneByOne : parts.Pairwise fun earlier later => earlier.IsDone ∨ later.IsDue) :
    callsAmong parts ≤ (parts.map width).foldr max 0 := by
  induction parts with
  | nil => exact Nat.le_refl _
  | cons part parts inductionHypothesis =>
    rw [List.pairwise_cons] at oneByOne
    obtain ⟨first, later⟩ := oneByOne
    have others := inductionHypothesis (fun one member => each one (List.mem_cons_of_mem _ member))
      later
    have here := each part List.mem_cons_self
    rw [callsAmong, List.map_cons, List.foldr_cons]
    by_cases isDone : part.IsDone
    · obtain ⟨tree, rfl⟩ := isDone
      simp only [calls]
      omega
    · have none := callsAmong_of_isDue fun one member => (first one member).resolve_left isDone
      omega

/-- There are never more calls in flight than the width of what is left. -/
theorem InOrder.calls_le_width {progress : Progress} (inOrder : InOrder progress) :
    progress.calls ≤ progress.width := by
  induction inOrder with
  | due tree => exact Nat.zero_le _
  | calling reference => exact Nat.le_refl _
  | done tree => exact Nat.le_refl _
  | failed failure => exact Nat.le_refl _
  | array each inductionHypothesis =>
    simp only [calls, width, widths_eq, Shape.width]
    exact callsAmong_le_of_sideBySide inductionHypothesis
  | mapping each oneByOne inductionHypothesis =>
    simp only [calls, width, widths_eq, Shape.width]
    exact callsAmong_le_of_oneByOne inductionHypothesis oneByOne

/-! ## Going on -/

mutual

/-- A bound on the number of steps from here on. -/
def stepsLeft : Progress → Nat
  | .due tree => 2 * size tree
  | .calling _ => 1
  | .node _ parts => stepsLeftOf parts + 1
  | _ => 0

/-- The same of parts together. -/
def stepsLeftOf : List Progress → Nat
  | [] => 0
  | part :: parts => stepsLeft part + stepsLeftOf parts

end

theorem stepsLeftOf_append (parts others : List Progress) :
    stepsLeftOf (parts ++ others) = stepsLeftOf parts + stepsLeftOf others := by
  induction parts with
  | nil => exact (Nat.zero_add _).symm
  | cons part parts inductionHypothesis =>
    rw [List.cons_append, stepsLeftOf, stepsLeftOf, inductionHypothesis, Nat.add_assoc]

theorem stepsLeftOf_due (trees : List Json) :
    stepsLeftOf (trees.map .due) = 2 * (trees.map size).sum := by
  induction trees with
  | nil => rfl
  | cons tree trees inductionHypothesis =>
    rw [List.map_cons, stepsLeftOf, inductionHypothesis, List.map_cons, List.sum_cons, stepsLeft]
    omega

/-- No run goes on for ever. -/
theorem Step.stepsLeft_lt {before after : Progress} {turn : Option Store.Turn}
    (step : Step before turn after) : after.stepsLeft < before.stepsLeft := by
  induction step with
  | @keep tree _ =>
    have := size_pos tree
    simp only [stepsLeft]
    omega
  | @ask tree _ _ =>
    have := size_pos tree
    simp only [stepsLeft]
    omega
  | answer => exact Nat.one_pos
  | refuse => exact Nat.one_pos
  | start isContainer =>
    simp only [stepsLeft, stepsLeftOf_due, size_container isContainer]
    omega
  | part _ _ _ inductionHypothesis =>
    simp only [stepsLeft, stepsLeftOf_append, stepsLeftOf]
    omega
  | close => exact Nat.succ_pos _
  | abort => exact Nat.succ_pos _

/-- Parts are all done, or there is a first one that is not. -/
theorem all_isDone_or_first (parts : List Progress) :
    (∃ values : List Json, parts = values.map .done) ∨
      ∃ earlier part later, parts = earlier ++ part :: later ∧
        (∀ one ∈ earlier, one.IsDone) ∧ ¬part.IsDone := by
  induction parts with
  | nil => exact .inl ⟨[], rfl⟩
  | cons part parts inductionHypothesis =>
    by_cases isDone : part.IsDone
    · rcases inductionHypothesis with
        ⟨values, rfl⟩ | ⟨earlier, first, later, rfl, allDone, unfinished⟩
      · obtain ⟨tree, rfl⟩ := isDone
        exact .inl ⟨tree :: values, rfl⟩
      · refine .inr ⟨part :: earlier, first, later, rfl, ?_, unfinished⟩
        simpa using ⟨isDone, allDone⟩
    · exact .inr ⟨[], part, parts, rfl, by simp, isDone⟩

/-- Whatever is answered, a resolution that is not over can go on. -/
theorem exists_step (answer : (call : Store.Call) → call.Answer) (progress : Progress) :
    progress.IsDone ∨ (∃ failure, progress = .failed failure) ∨
      ∃ turn after, Step progress turn after ∧ Follow answer turn.toList := by
  match progress with
  | .done tree => exact .inl ⟨tree, rfl⟩
  | .failed failure => exact .inr (.inl ⟨failure, rfl⟩)
  | .calling reference =>
    refine .inr (.inr ?_)
    cases answered : answer (.resolve reference) with
    | ok secret =>
      exact ⟨_, _, .answer reference secret, by simpa [Follow] using answered.symm⟩
    | error cause =>
      exact ⟨_, _, .refuse reference cause, by simpa [Follow] using answered.symm⟩
  | .due tree =>
    refine .inr (.inr ?_)
    cases isView : view tree with
    | reference reference => exact ⟨_, _, .ask isView, by simp [Follow]⟩
    | plain => exact ⟨_, _, .keep isView, by simp [Follow]⟩
    | container shape parts => exact ⟨_, _, .start isView, by simp [Follow]⟩
  | .node shape parts =>
    refine .inr (.inr ?_)
    rcases all_isDone_or_first parts with
      ⟨values, rfl⟩ | ⟨earlier, part, later, split, allDone, unfinished⟩
    · exact ⟨_, _, .close shape values, by simp [Follow]⟩
    · have member : part ∈ parts := by
        rw [split]
        exact List.mem_append_cons_self
      have smaller : sizeOf part < sizeOf (Progress.node shape parts) := by
        have := List.sizeOf_lt_of_mem member
        simp only [Progress.node.sizeOf_spec]
        omega
      have ready : Ready earlier shape := by
        cases shape with
        | array => trivial
        | mapping keys => exact allDone
      rcases exists_step answer part with isDone | ⟨failure, rfl⟩ | ⟨turn, after, step, follows⟩
      · exact absurd isDone unfinished
      · exact ⟨_, _, .abort member, by simp [Follow]⟩
      · rw [split]
        exact ⟨_, _, .part ready step later, follows⟩
termination_by sizeOf progress

/-- Whether a run with fixed answers cannot go on. -/
def Completed (answer : (call : Store.Call) → call.Answer) (progress : Progress) : Prop :=
  ∀ turn after, Step progress turn after → ¬Follow answer turn.toList

/-- From everywhere a run with fixed answers can be completed. -/
theorem exists_completed (answer : (call : Store.Call) → call.Answer) (progress : Progress) :
    ∃ last, Reaches answer progress last ∧ Completed answer last := by
  by_cases completed : Completed answer progress
  · exact ⟨progress, .refl answer progress, completed⟩
  · simp only [Completed, not_forall, not_not] at completed
    obtain ⟨turn, after, step, follow⟩ := completed
    have shorter := step.stepsLeft_lt
    obtain ⟨last, reaches, completed⟩ := exists_completed answer after
    have first : Reaches answer progress after := ⟨_, .single step, follow⟩
    exact ⟨last, first.trans reaches, completed⟩
termination_by progress.stepsLeft

section Fixed

variable {answer : (call : Store.Call) → call.Answer} {tree : Json}

theorem follow_turns (store : String) (tree : Json) (calls : List Store.Call) :
    Follow answer ((resolve store tree).turns (.fixed answer) calls) := by
  intro turn member
  obtain ⟨_, answered⟩ := Dialogue.answered_turns _ _ _ turn member
  exact answered.symm

/-- The resolution from left to right is one of the runs. -/
theorem reaches_ended (store : String) (answer : (call : Store.Call) → call.Answer)
    (tree : Json) :
    Reaches answer (.due tree) (ended ((resolve store tree).on (.fixed answer) []).1) :=
  ⟨_, steps_of_walked (walked_resolve store (.fixed answer) tree []), follow_turns store tree []⟩

theorem Reaches.width_le {before after : Progress} (reaches : Reaches answer before after) :
    after.width ≤ before.width := by
  obtain ⟨turns, steps, _⟩ := reaches
  exact steps.width_le

/-- A run that ends with a tree ends with the one from left to right. -/
theorem Reaches.eq_ok {resolved : Json} (reaches : Reaches answer (.due tree) (.done resolved))
    (store : String) : ((resolve store tree).on (.fixed answer) []).1 = .ok resolved := by
  obtain ⟨turns, steps, follow⟩ := reaches
  obtain ⟨ordered, same, walked⟩ := Walked.of_steps steps
  have fromLeft := walked_resolve store (.fixed answer) tree []
  refine fromLeft.deterministic (follow_turns store tree []) walked ?_
  exact fun turn member => follow turn (same.subset member)

/-- A run that fails does so at some leaf. -/
theorem Reaches.failed_at_leaf {failure : Failure}
    (reaches : Reaches answer (.due tree) (.failed failure)) :
    ∃ leaf ∈ leaves tree, ∃ cause, answer leaf.call = .error cause ∧
      failure = blamed leaf.text cause := by
  obtain ⟨turns, steps, follow⟩ := reaches
  cases Blames.of_steps steps with
  | @due _ leaf cause member refused =>
    exact ⟨leaf, member, cause, (follow _ refused).symm, blame_leaf leaf cause⟩

/-- A run that cannot go on has ended with a tree or failed. -/
theorem Completed.isOver {progress : Progress} (completed : Completed answer progress) :
    (∃ resolved, progress = .done resolved) ∨ ∃ failure, progress = .failed failure := by
  rcases exists_step answer progress with isDone | isFailed | ⟨turn, after, step, follow⟩
  · exact .inl isDone
  · exact .inr isFailed
  · exact absurd follow (completed turn after step)

end Fixed

end Progress

/-- What is resolved has only leaves with secrets. -/
theorem hasSecret_of_resolved {store : String} {answer : (call : Store.Call) → call.Answer}
    {tree resolved : Json}
    (isResolved : ((resolve store tree).on (.fixed answer) []).1 = .ok resolved) :
    ∀ leaf ∈ leaves tree, HasSecret answer leaf := by
  rcases all_hasSecret_or_first_error answer (leaves tree) with
    all | ⟨before, leaf, after, cause, split, earlier, refused⟩
  · exact all
  · rw [resolve_of_error store split earlier refused] at isResolved
    cases isResolved

/-- With fixed answers every completed run of a resolution whose leaves all have secrets ends
with the tree of the resolution from left to right, which is one of the runs; if a leaf has none,
every completed run fails, and does so as some leaf says. In no run an entry of a mapping is
started before the entries before it are done, and there are at most `width` calls in flight. -/
theorem resolve_interleaved (store : String) (answer : (call : Store.Call) → call.Answer)
    (tree : Json) :
    (∀ progress, Progress.Reaches answer (.due tree) progress → Progress.Completed answer progress →
      ((∀ leaf ∈ leaves tree, HasSecret answer leaf) → ∃ resolved, progress = .done resolved ∧
        ((resolve store tree).on (.fixed answer) []).1 = .ok resolved) ∧
      ((∃ leaf ∈ leaves tree, ¬HasSecret answer leaf) → ∃ leaf ∈ leaves tree, ∃ cause,
        answer leaf.call = .error cause ∧ progress = .failed (blamed leaf.text cause))) ∧
    Progress.Reaches answer (.due tree)
      (Progress.ended ((resolve store tree).on (.fixed answer) []).1) ∧
    (∀ progress, Progress.Reaches answer (.due tree) progress →
      progress.InOrder ∧ progress.calls ≤ width tree) := by
  refine ⟨?_, Progress.reaches_ended store answer tree, ?_⟩
  · intro progress reaches completed
    rcases completed.isOver with ⟨resolved, rfl⟩ | ⟨failure, rfl⟩
    · have isResolved := reaches.eq_ok store
      refine ⟨fun _ => ⟨resolved, rfl, isResolved⟩, ?_⟩
      rintro ⟨leaf, member, hasNone⟩
      exact absurd (hasSecret_of_resolved isResolved leaf member) hasNone
    · obtain ⟨leaf, member, cause, refused, rfl⟩ := reaches.failed_at_leaf
      refine ⟨?_, fun _ => ⟨leaf, member, cause, refused, rfl⟩⟩
      intro all
      obtain ⟨secret, found⟩ := all leaf member
      cases refused.symm.trans found
  · intro progress reaches
    obtain ⟨turns, steps, _⟩ := reaches
    have inOrder := (Progress.InOrder.due tree).steps steps
    exact ⟨inOrder, Nat.le_trans inOrder.calls_le_width steps.width_le⟩

end SecretRefs.Tree

import SecretRefs.Proofs.Turns
import SecretRefs.Proofs.Tree.View

/-!
# Resolutions whose calls end in any order

A `Progress` is a tree in the course of a resolution. `Progress.Step` lets any part that may go
on do so, and any call end: the parts of an array go on side by side, an entry of a mapping
when the entries before it are done. `Progress.Walked` is the evaluation from left to right.

A step keeps what a walk from there leads to (`Walked.of_step`), up to the order of the calls,
so every run that ends with a tree ends with that of a walk in which each reference got the
same answer. With answers that are fixed there is one such tree only.
-/

namespace SecretRefs.Tree

/-- A tree in the course of a resolution. -/
inductive Progress where
  /-- A part that is not started. -/
  | due (tree : Json)
  /-- A reference whose call is in flight. -/
  | calling (reference : Reference)
  | done (tree : Json)
  | failed (failure : Failure)
  /-- A container whose parts are under way. -/
  | node (shape : Shape) (parts : List Progress)

namespace Progress

/-- Whether a part is done. -/
def IsDone (progress : Progress) : Prop :=
  ∃ tree, progress = .done tree

/-- Whether no call of a part was made. -/
def IsDue (progress : Progress) : Prop :=
  ∃ tree, progress = .due tree

/-- Whether a part may go on that has these before it. -/
def Ready (earlier : List Progress) : Shape → Prop
  | .array => True
  | .mapping _ => ∀ part ∈ earlier, part.IsDone

/-- A step of a resolution, with the turn if it ends a call. -/
inductive Step : Progress → Option Store.Turn → Progress → Prop where
  | keep {tree : Json} (isPlain : view tree = .plain) : Step (.due tree) none (.done tree)
  | ask {tree : Json} {reference : Reference} (isReference : view tree = .reference reference) :
      Step (.due tree) none (.calling reference)
  | answer (reference : Reference) (secret : String) :
      Step (.calling reference) (some ⟨.resolve reference, .ok secret⟩) (.done (.string secret))
  | refuse (reference : Reference) (cause : Failure) :
      Step (.calling reference) (some ⟨.resolve reference, .error cause⟩)
        (.failed (blame reference cause))
  /-- All parts of a container are due at once. -/
  | start {tree : Json} {shape : Shape} {parts : List Json}
      (isContainer : view tree = .container shape parts) :
      Step (.due tree) none (.node shape (parts.map .due))
  | part {shape : Shape} {earlier : List Progress} {before after : Progress}
      {turn : Option Store.Turn} (ready : Ready earlier shape) (step : Step before turn after)
      (later : List Progress) :
      Step (.node shape (earlier ++ before :: later)) turn
        (.node shape (earlier ++ after :: later))
  | close (shape : Shape) (values : List Json) :
      Step (.node shape (values.map .done)) none (.done (shape.fill values))
  /-- A failure of a part is one of the container; what is in flight is dropped. -/
  | abort {shape : Shape} {parts : List Progress} {failure : Failure}
      (member : .failed failure ∈ parts) : Step (.node shape parts) none (.failed failure)

/-- Any number of steps, with the turns. -/
inductive Steps : Progress → List Store.Turn → Progress → Prop where
  | refl (progress : Progress) : Steps progress [] progress
  | step {before middle after : Progress} {turn : Option Store.Turn} {turns : List Store.Turn}
      (first : Step before turn middle) (rest : Steps middle turns after) :
      Steps before (turn.toList ++ turns) after

mutual

/-- What a resolution comes to that goes on from left to right, with the turns in order. -/
inductive Walked : Progress → List Store.Turn → Except Failure Json → Prop where
  | done (tree : Json) : Walked (.done tree) [] (.ok tree)
  | keep {tree : Json} (isPlain : view tree = .plain) : Walked (.due tree) [] (.ok tree)
  | ask {tree : Json} {reference : Reference} {turns : List Store.Turn}
      {result : Except Failure Json} (isReference : view tree = .reference reference)
      (walked : Walked (.calling reference) turns result) : Walked (.due tree) turns result
  | answer (reference : Reference) (secret : String) :
      Walked (.calling reference) [⟨.resolve reference, .ok secret⟩] (.ok (.string secret))
  | refuse (reference : Reference) (cause : Failure) :
      Walked (.calling reference) [⟨.resolve reference, .error cause⟩]
        (.error (blame reference cause))
  | start {tree : Json} {shape : Shape} {parts : List Json} {turns : List Store.Turn}
      {result : Except Failure Json} (isContainer : view tree = .container shape parts)
      (walked : Walked (.node shape (parts.map .due)) turns result) :
      Walked (.due tree) turns result
  | close {shape : Shape} {parts : List Progress} {turns : List Store.Turn} {values : List Json}
      (walked : WalkedParts parts turns (.ok values)) :
      Walked (.node shape parts) turns (.ok (shape.fill values))
  | abort {shape : Shape} {parts : List Progress} {turns : List Store.Turn} {failure : Failure}
      (walked : WalkedParts parts turns (.error failure)) :
      Walked (.node shape parts) turns (.error failure)

/-- The same of parts, of which none is looked at after a failure. -/
inductive WalkedParts : List Progress → List Store.Turn → Except Failure (List Json) → Prop where
  | nil : WalkedParts [] [] (.ok [])
  | cons {part : Progress} {parts : List Progress} {turns more : List Store.Turn} {value : Json}
      {values : List Json} (first : Walked part turns (.ok value))
      (rest : WalkedParts parts more (.ok values)) :
      WalkedParts (part :: parts) (turns ++ more) (.ok (value :: values))
  | later {part : Progress} {parts : List Progress} {turns more : List Store.Turn} {value : Json}
      {failure : Failure} (first : Walked part turns (.ok value))
      (rest : WalkedParts parts more (.error failure)) :
      WalkedParts (part :: parts) (turns ++ more) (.error failure)
  | stop {part : Progress} {turns : List Store.Turn} {failure : Failure}
      (first : Walked part turns (.error failure)) (parts : List Progress) :
      WalkedParts (part :: parts) turns (.error failure)

end

section Inversion

variable {tree : Json} {reference : Reference} {shape : Shape} {parts : List Json}
  {turns : List Store.Turn} {result : Except Failure Json}

/-- A walk of a reference is one call. -/
theorem Walked.of_reference (isReference : view tree = .reference reference)
    (walked : Walked (.due tree) turns result) :
    ∃ answer : Except Failure String, turns = [⟨.resolve reference, answer⟩] ∧
      result = (answer.mapError (blame reference)).map .string := by
  cases walked with
  | keep isPlain => cases isReference.symm.trans isPlain
  | start isContainer => cases isReference.symm.trans isContainer
  | ask found walked =>
    cases isReference.symm.trans found
    cases walked with
    | answer _ secret => exact ⟨.ok secret, rfl, rfl⟩
    | refuse _ cause => exact ⟨.error cause, rfl, rfl⟩

/-- A walk of a plain tree makes no call. -/
theorem Walked.of_plain (isPlain : view tree = .plain) (walked : Walked (.due tree) turns result) :
    turns = [] ∧ result = .ok tree := by
  cases walked with
  | keep => exact ⟨rfl, rfl⟩
  | ask isReference => cases isPlain.symm.trans isReference
  | start isContainer => cases isPlain.symm.trans isContainer

/-- A walk of a container is one of its parts. -/
theorem Walked.of_container (isContainer : view tree = .container shape parts)
    (walked : Walked (.due tree) turns result) :
    ∃ rest, WalkedParts (parts.map .due) turns rest ∧ result = rest.map shape.fill := by
  cases walked with
  | keep isPlain => cases isContainer.symm.trans isPlain
  | ask isReference => cases isContainer.symm.trans isReference
  | start found walked =>
    cases isContainer.symm.trans found
    cases walked with
    | close walked => exact ⟨_, walked, rfl⟩
    | abort walked => exact ⟨_, walked, rfl⟩

/-- A walk of parts begins with one of the first part. -/
theorem WalkedParts.of_cons {part : Progress} {parts : List Progress} {turns : List Store.Turn}
    {result : Except Failure (List Json)} (walked : WalkedParts (part :: parts) turns result) :
    (∃ failure, Walked part turns (.error failure) ∧ result = .error failure) ∨
      ∃ value front back rest, Walked part front (.ok value) ∧ WalkedParts parts back rest ∧
        turns = front ++ back ∧ result = rest.map (value :: ·) := by
  cases walked with
  | cons first rest => exact .inr ⟨_, _, _, _, first, rest, rfl, rfl⟩
  | later first rest => exact .inr ⟨_, _, _, _, first, rest, rfl, rfl⟩
  | stop first => exact .inl ⟨_, first, rfl⟩

end Inversion

section Steps

variable {before middle after : Progress} {turn : Option Store.Turn}
  {turns more : List Store.Turn}

theorem Steps.single (step : Step before turn after) : Steps before turn.toList after := by
  have one := Steps.step step (.refl after)
  rwa [List.append_nil] at one

theorem Steps.trans (first : Steps before turns middle) (second : Steps middle more after) :
    Steps before (turns ++ more) after := by
  induction first with
  | refl => exact second
  | step step _ inductionHypothesis =>
    rw [List.append_assoc]
    exact .step step (inductionHypothesis second)

/-- A part of a container takes its steps there. -/
theorem Steps.part {shape : Shape} {earlier : List Progress} (ready : Ready earlier shape)
    (steps : Steps before turns after) (later : List Progress) :
    Steps (.node shape (earlier ++ before :: later)) turns
      (.node shape (earlier ++ after :: later)) := by
  induction steps with
  | refl => exact .refl _
  | step step _ inductionHypothesis => exact .step (.part ready step later) inductionHypothesis

end Steps

/-! ## What a step keeps -/

section Walks

variable {before after : Progress} {turn : Option Store.Turn} {turns : List Store.Turn}
  {first second parts : List Progress} {values : List Json} {value resolved : Json}

theorem WalkedParts.append {more : List Store.Turn} {others : List Json}
    (front : WalkedParts first turns (.ok values)) (back : WalkedParts second more (.ok others)) :
    WalkedParts (first ++ second) (turns ++ more) (.ok (values ++ others)) := by
  induction first generalizing turns values with
  | nil =>
    cases front
    exact back
  | cons part parts inductionHypothesis =>
    cases front with
    | cons walked rest =>
      rw [List.append_assoc]
      exact .cons walked (inductionHypothesis rest)

theorem WalkedParts.of_append (walked : WalkedParts (first ++ second) turns (.ok values)) :
    ∃ front back early late, turns = front ++ back ∧ values = early ++ late ∧
      WalkedParts first front (.ok early) ∧ WalkedParts second back (.ok late) := by
  induction first generalizing turns values with
  | nil => exact ⟨[], turns, [], values, rfl, rfl, .nil, walked⟩
  | cons part parts inductionHypothesis =>
    cases walked with
    | cons head rest =>
      obtain ⟨front, back, early, late, rfl, rfl, isFront, isBack⟩ := inductionHypothesis rest
      exact ⟨_ ++ front, back, _ :: early, late, (List.append_assoc ..).symm, rfl,
        .cons head isFront, isBack⟩

/-- Parts that are done are walked without a call. -/
theorem walkedParts_done (values : List Json) : WalkedParts (values.map .done) [] (.ok values) := by
  induction values with
  | nil => exact .nil
  | cons value values inductionHypothesis => exact .cons (.done value) inductionHypothesis

/-- To walk on after a step is to walk from before it, but for the place of the turn. -/
theorem Walked.of_step (step : Step before turn after)
    (walked : Walked after turns (.ok resolved)) :
    ∃ ordered, ordered.Perm (turn.toList ++ turns) ∧ Walked before ordered (.ok resolved) := by
  induction step generalizing turns resolved with
  | keep isPlain =>
    cases walked
    exact ⟨[], .refl _, .keep isPlain⟩
  | ask isReference => exact ⟨turns, .refl _, .ask isReference walked⟩
  | answer reference secret =>
    cases walked
    exact ⟨_, .refl _, .answer reference secret⟩
  | refuse => cases walked
  | start isContainer => exact ⟨turns, .refl _, .start isContainer walked⟩
  | part ready step later inductionHypothesis =>
    cases walked with
    | close whole =>
      obtain ⟨front, back, early, late, rfl, rfl, isFront, isBack⟩ := whole.of_append
      cases isBack with
      | @cons _ _ here behind value values isPart isBehind =>
        obtain ⟨ordered, same, isBefore⟩ := inductionHypothesis isPart
        -- A walk comes to the turn of the step only after those of the earlier parts.
        refine ⟨front ++ (ordered ++ behind), ?_,
          .close (isFront.append (.cons isBefore isBehind))⟩
        have moved := (same.append_right behind).append_left front
        rw [List.append_assoc] at moved
        exact moved.trans (List.perm_append_comm_assoc ..)
  | close shape values =>
    cases walked
    exact ⟨[], .refl _, .close (walkedParts_done values)⟩
  | abort => cases walked

/-- A run that ends with a tree ends with that of a walk, with the same turns in some order. -/
theorem Walked.of_steps (steps : Steps before turns (.done resolved)) :
    ∃ ordered, ordered.Perm turns ∧ Walked before ordered (.ok resolved) := by
  generalize isEnd : Progress.done resolved = ended at steps
  induction steps with
  | refl =>
    subst isEnd
    exact ⟨[], .refl _, .done resolved⟩
  | step step _ inductionHypothesis =>
    obtain ⟨ordered, same, walked⟩ := inductionHypothesis isEnd
    obtain ⟨whole, moved, isWhole⟩ := walked.of_step step
    exact ⟨whole, moved.trans (same.append_left _), isWhole⟩

/-- Where the failure of a run with these turns may come from. -/
inductive Blames (turns : List Store.Turn) : Failure → Progress → Prop where
  | here (failure : Failure) : Blames turns failure (.failed failure)
  | calling {reference : Reference} {cause : Failure}
      (refused : ⟨.resolve reference, .error cause⟩ ∈ turns) :
      Blames turns (blame reference cause) (.calling reference)
  | due {tree : Json} {leaf : Leaf} {cause : Failure} (member : leaf ∈ leaves tree)
      (refused : ⟨.resolve leaf.reference, .error cause⟩ ∈ turns) :
      Blames turns (blame leaf.reference cause) (.due tree)
  | part {shape : Shape} {parts : List Progress} {part : Progress} {failure : Failure}
      (member : part ∈ parts) (blames : Blames turns failure part) :
      Blames turns failure (.node shape parts)

theorem Blames.mono {failure : Failure} {progress : Progress} {more : List Store.Turn}
    (kept : turns ⊆ more) (blames : Blames turns failure progress) :
    Blames more failure progress := by
  induction blames with
  | here failure => exact .here failure
  | calling refused => exact .calling (kept refused)
  | due member refused => exact .due member (kept refused)
  | part member _ inductionHypothesis => exact .part member inductionHypothesis

/-- A failure after a step was there before it, or is that of the turn or of a later one. -/
theorem Blames.of_step {failure : Failure} (step : Step before turn after)
    (blames : Blames turns failure after) : Blames (turn.toList ++ turns) failure before := by
  induction step with
  | keep => cases blames
  | ask isReference =>
    obtain ⟨leaf, rfl, rfl⟩ := leaf_of_view isReference
    cases blames with
    | calling refused =>
      have member : leaf ∈ leaves (.string leaf.text) := by
        rw [leaves_leaf]
        exact List.mem_singleton_self leaf
      exact .due member refused
  | answer => cases blames
  | refuse reference cause =>
    cases blames
    exact .calling (by simp)
  | start isContainer =>
    cases blames with
    | part member inside =>
      obtain ⟨tree, isPart, rfl⟩ := List.mem_map.mp member
      cases inside with
      | due member refused =>
        refine .due ?_ refused
        rw [leaves_container isContainer]
        exact List.mem_flatMap.mpr ⟨tree, isPart, member⟩
  | part ready step later inductionHypothesis =>
    cases blames with
    | part member inside =>
      rw [List.mem_append, List.mem_cons] at member
      rcases member with isEarlier | rfl | isLater
      · exact .part (List.mem_append_left _ isEarlier) (inside.mono (List.subset_append_right ..))
      · exact .part (List.mem_append_cons_self) (inductionHypothesis inside)
      · exact .part (List.mem_append_right _ (List.mem_cons_of_mem _ isLater))
          (inside.mono (List.subset_append_right ..))
  | close => cases blames
  | abort member =>
    cases blames
    exact .part member (.here _)

/-- A run that fails does so as a turn says. -/
theorem Blames.of_steps {failure : Failure} (steps : Steps before turns (.failed failure)) :
    Blames turns failure before := by
  generalize isEnd : Progress.failed failure = ended at steps
  induction steps with
  | refl =>
    subst isEnd
    exact .here failure
  | step step _ inductionHypothesis => exact (inductionHypothesis isEnd).of_step step

end Walks

/-! ## The run from left to right -/

/-- The end of a run with this result. -/
def ended : Except Failure Json → Progress
  | .ok tree => .done tree
  | .error failure => .failed failure

/-- A resolution without a call that fails does not fail. -/
theorem exists_ok_of_steps {tree : Json} {turns : List Store.Turn}
    {outcome : Except Failure Json} (steps : Steps (.due tree) turns (ended outcome))
    (answered : ∀ turn ∈ turns, turn.failure? = none) : ∃ resolved, outcome = .ok resolved := by
  cases outcome with
  | ok resolved => exact ⟨resolved, rfl⟩
  | error failure =>
    cases Blames.of_steps steps with
    | due member refused => cases answered _ refused

theorem ready_array (earlier : List Progress) : Ready earlier .array :=
  trivial

theorem ready_done (values : List Json) (shape : Shape) : Ready (values.map .done) shape := by
  cases shape with
  | array => trivial
  | mapping keys =>
    intro part member
    obtain ⟨value, _, rfl⟩ := List.mem_map.mp member
    exact ⟨value, rfl⟩

/-- A container is resolved by the runs of its parts, if each of these has one. -/
theorem steps_of_walkedParts (shape : Shape) {trees : List Json}
    (each : ∀ tree ∈ trees, ∀ turns result, Walked (.due tree) turns result →
      Steps (.due tree) turns (ended result))
    (values : List Json) {turns : List Store.Turn} {result : Except Failure (List Json)}
    (walked : WalkedParts (trees.map .due) turns result) :
    Steps (.node shape (values.map .done ++ trees.map .due)) turns
      (ended (result.map fun others => shape.fill (values ++ others))) := by
  induction trees generalizing values turns result with
  | nil =>
    cases walked
    rw [List.map_nil, List.append_nil]
    simp only [Except.map, List.append_nil]
    exact .single (.close shape values)
  | cons tree trees inductionHypothesis =>
    have others := inductionHypothesis fun one member => each one (List.mem_cons_of_mem tree member)
    have ready := ready_done values shape
    have grown (value : Json) : values.map .done ++ Progress.done value :: trees.map .due =
        (values ++ [value]).map .done ++ trees.map .due := by
      simp
    rw [List.map_cons] at walked ⊢
    rcases walked.of_cons with
      ⟨failure, first, rfl⟩ | ⟨value, front, back, rest, first, tail, rfl, rfl⟩
    · have firstSteps := (each tree List.mem_cons_self _ _ first).part ready (trees.map .due)
      have member : Progress.failed failure ∈
          values.map .done ++ Progress.failed failure :: trees.map .due :=
        List.mem_append_cons_self
      have aborted := firstSteps.trans (.single (.abort member))
      rwa [Option.toList_none, List.append_nil] at aborted
    · have firstSteps := (each tree List.mem_cons_self _ _ first).part ready (trees.map .due)
      have restSteps := others (values ++ [value]) tail
      rw [← grown] at restSteps
      have joined := firstSteps.trans restSteps
      cases rest with
      | error failure => exact joined
      | ok rest => simpa [Except.map] using joined

/-- A walk is one of the runs. -/
theorem steps_of_walked {tree : Json} {turns : List Store.Turn} {result : Except Failure Json}
    (walked : Walked (.due tree) turns result) : Steps (.due tree) turns (ended result) := by
  induction tree using viewInduction generalizing turns result with
  | reference tree reference isReference =>
    obtain ⟨answer, rfl, rfl⟩ := walked.of_reference isReference
    have asked := Steps.single (.ask isReference)
    cases answer with
    | ok secret => exact asked.trans (.single (.answer reference secret))
    | error cause => exact asked.trans (.single (.refuse reference cause))
  | plain tree isPlain =>
    obtain ⟨rfl, rfl⟩ := walked.of_plain isPlain
    exact .single (.keep isPlain)
  | container tree shape parts isContainer inductionHypothesis =>
    obtain ⟨rest, walkedParts, rfl⟩ := walked.of_container isContainer
    have each : ∀ part ∈ parts, ∀ turns result, Walked (.due part) turns result →
        Steps (.due part) turns (ended result) :=
      fun part member turns result => inductionHypothesis part member
    exact .step (.start isContainer) (steps_of_walkedParts shape each [] walkedParts)

section Session

variable {State : Type} (store : String) (backend : Store.Backend State)

theorem resolve_plain {tree : Json} (isPlain : view tree = .plain) :
    resolve store tree = pure tree := by
  cases tree with
  | string text =>
    rcases viewText_cases text with ⟨leaf, _, isLeaf⟩ | ⟨unparsed, _⟩
    · cases isLeaf.symm.trans isPlain
    · rw [resolve, unparsed]
  | array elements => cases isPlain
  | object entries => cases isPlain
  | _ => rfl

theorem walkedParts_resolveElements {trees : List Json}
    (each : ∀ tree ∈ trees, ∀ state, Walked (.due tree) ((resolve store tree).turns backend state)
      ((resolve store tree).on backend state).1) (state : State) :
    WalkedParts (trees.map .due) ((resolveElements store trees).turns backend state)
      ((resolveElements store trees).on backend state).1 := by
  induction trees generalizing state with
  | nil => exact .nil
  | cons tree trees inductionHypothesis =>
    have others := inductionHypothesis fun one member => each one (List.mem_cons_of_mem tree member)
    have first := each tree List.mem_cons_self state
    unfold resolveElements
    rw [List.map_cons, Session.turns_bind, Session.on_bind]
    generalize (resolve store tree).on backend state = run at first ⊢
    obtain ⟨failure | value, after⟩ := run
    · exact .stop first _
    · have rest := others after
      simp only [Session.resume_ok]
      rw [Session.turns_bind, Session.on_bind]
      generalize (resolveElements store trees).on backend after = run at rest ⊢
      obtain ⟨failure | values, last⟩ := run
      · exact .later first rest
      · simp only [Session.turns_pure, List.append_nil]
        exact .cons first rest

/-- The values of a mapping are resolved as the elements of an array are. -/
theorem resolveEntries_eq (entries : Json.Entries) (state : State) :
    (resolveEntries store entries).turns backend state =
        (resolveElements store (entries.map Prod.snd)).turns backend state ∧
      (resolveEntries store entries).on backend state =
        (((resolveElements store (entries.map Prod.snd)).on backend state).1.map
            ((entries.map Prod.fst).zip ·),
          ((resolveElements store (entries.map Prod.snd)).on backend state).2) := by
  induction entries generalizing state with
  | nil => exact ⟨rfl, rfl⟩
  | cons entry entries inductionHypothesis =>
    obtain ⟨key, value⟩ := entry
    unfold resolveEntries
    simp only [List.map_cons]
    unfold resolveElements
    rw [Session.turns_bind, Session.turns_bind, Session.on_bind, Session.on_bind]
    obtain ⟨failure | resolved, after⟩ := (resolve store value).on backend state
    · exact ⟨rfl, rfl⟩
    · obtain ⟨sameTurns, sameRun⟩ := inductionHypothesis after
      simp only [Session.resume_ok]
      rw [Session.turns_bind, Session.turns_bind, Session.on_bind, Session.on_bind, sameTurns,
        sameRun]
      obtain ⟨failure | values, last⟩ :=
        (resolveElements store (entries.map Prod.snd)).on backend after
      · exact ⟨rfl, rfl⟩
      · exact ⟨rfl, rfl⟩

/-- A container is resolved by its parts, one after another. -/
theorem resolve_container {tree : Json} {shape : Shape} {parts : List Json}
    (isContainer : view tree = .container shape parts) (state : State) :
    (resolve store tree).turns backend state = (resolveElements store parts).turns backend state ∧
      (resolve store tree).on backend state =
        (((resolveElements store parts).on backend state).1.map shape.fill,
          ((resolveElements store parts).on backend state).2) := by
  rcases container_of_view isContainer with ⟨rfl, rfl⟩ | ⟨entries, rfl, rfl, rfl⟩
  · unfold resolve
    rw [Session.turns_bind, Session.on_bind]
    obtain ⟨failure | values, after⟩ := (resolveElements store parts).on backend state
    · exact ⟨rfl, rfl⟩
    · exact ⟨List.append_nil _, rfl⟩
  · obtain ⟨sameTurns, sameRun⟩ := resolveEntries_eq store backend entries state
    unfold resolve
    rw [Session.turns_bind, Session.on_bind, sameTurns, sameRun]
    obtain ⟨failure | values, after⟩ :=
      (resolveElements store (entries.map Prod.snd)).on backend state
    · exact ⟨rfl, rfl⟩
    · exact ⟨List.append_nil _, rfl⟩

/-- On any store that answers at once a resolution is a walk. -/
theorem walked_resolve (tree : Json) (state : State) :
    Walked (.due tree) ((resolve store tree).turns backend state)
      ((resolve store tree).on backend state).1 := by
  induction tree using viewInduction generalizing state with
  | reference tree reference isReference =>
    refine .ask isReference ?_
    obtain ⟨leaf, rfl, rfl⟩ := leaf_of_view isReference
    unfold resolve
    rw [leaf.parsed]
    simp only
    rw [Session.turns_bind, Session.on_bind]
    have asked : (resolveReference store leaf.reference).on backend state =
      ((backend (.resolve leaf.reference) state).1.mapError (blame leaf.reference),
        (backend (.resolve leaf.reference) state).2) := rfl
    have turn : (resolveReference store leaf.reference).turns backend state =
      [⟨.resolve leaf.reference, (backend (.resolve leaf.reference) state).1⟩] := rfl
    rw [asked, turn]
    obtain ⟨cause | secret, after⟩ := backend (.resolve leaf.reference) state
    · exact .refuse leaf.reference cause
    · exact .answer leaf.reference secret
  | plain tree isPlain =>
    have kept : resolve store tree = pure tree := resolve_plain store isPlain
    rw [kept]
    exact .keep isPlain
  | container tree shape parts isContainer inductionHypothesis =>
    refine .start isContainer ?_
    have walked := walkedParts_resolveElements store backend inductionHypothesis state
    obtain ⟨sameTurns, sameRun⟩ := resolve_container store backend isContainer state
    rw [sameTurns, sameRun]
    generalize (resolveElements store parts).on backend state = run at walked ⊢
    obtain ⟨failure | values, after⟩ := run
    · exact .abort walked
    · exact .close walked

end Session

/-! ## Answers that are fixed -/

section Fixed

variable {answer : (call : Store.Call) → call.Answer}

/-- Whether the answers of turns are those of a function. -/
def Follow (answer : (call : Store.Call) → call.Answer) (turns : List Store.Turn) : Prop :=
  ∀ turn ∈ turns, turn.answer = answer turn.query

theorem follow_append {turns more : List Store.Turn} :
    Follow answer (turns ++ more) ↔ Follow answer turns ∧ Follow answer more :=
  List.forall_mem_append

/-- Whether some run with fixed answers leads from one state of a resolution to another. -/
def Reaches (answer : (call : Store.Call) → call.Answer) (before after : Progress) : Prop :=
  ∃ turns, Steps before turns after ∧ Follow answer turns

namespace Reaches

variable {before middle after : Progress}

theorem refl (answer : (call : Store.Call) → call.Answer) (progress : Progress) :
    Reaches answer progress progress :=
  ⟨[], .refl progress, by simp [Follow]⟩

theorem trans (first : Reaches answer before middle) (second : Reaches answer middle after) :
    Reaches answer before after := by
  obtain ⟨turns, steps, follow⟩ := first
  obtain ⟨more, moreSteps, alsoFollow⟩ := second
  exact ⟨turns ++ more, steps.trans moreSteps, follow_append.mpr ⟨follow, alsoFollow⟩⟩

/-- A step that ends no call can be taken whatever is answered. -/
theorem of_step (step : Step before none after) : Reaches answer before after :=
  ⟨_, .single step, by simp [Follow]⟩

/-- A call can end with its answer. -/
theorem of_turn {turn : Store.Turn} (step : Step before (some turn) after)
    (answered : turn.answer = answer turn.query) : Reaches answer before after :=
  ⟨_, .single step, by simpa [Follow] using answered⟩

theorem part {shape : Shape} {earlier : List Progress} (ready : Ready earlier shape)
    (reaches : Reaches answer before after) (later : List Progress) :
    Reaches answer (.node shape (earlier ++ before :: later))
      (.node shape (earlier ++ after :: later)) := by
  obtain ⟨turns, steps, follow⟩ := reaches
  exact ⟨turns, steps.part ready later, follow⟩

/-- A failure of a part is one of the container. -/
theorem failed_part {shape : Shape} {earlier : List Progress} {failure : Failure}
    (ready : Ready earlier shape) (reaches : Reaches answer before (.failed failure))
    (later : List Progress) :
    Reaches answer (.node shape (earlier ++ before :: later)) (.failed failure) :=
  (reaches.part ready later).trans (of_step (.abort List.mem_append_cons_self))

end Reaches

/-- Two walks of parts with the same answers have the same result, if this is so for each
part. -/
theorem WalkedParts.deterministic {trees : List Json}
    (each : ∀ tree ∈ trees, ∀ turns more result other,
      Walked (.due tree) turns result → Follow answer turns →
      Walked (.due tree) more other → Follow answer more → result = other)
    {turns more : List Store.Turn} {result other : Except Failure (List Json)}
    (first : WalkedParts (trees.map .due) turns result) (follows : Follow answer turns)
    (second : WalkedParts (trees.map .due) more other) (alsoFollows : Follow answer more) :
    result = other := by
  induction trees generalizing turns more result other with
  | nil =>
    cases first
    cases second
    rfl
  | cons tree trees inductionHypothesis =>
    have here := each tree List.mem_cons_self
    have others := @inductionHypothesis fun one member =>
      each one (List.mem_cons_of_mem tree member)
    rw [List.map_cons] at first second
    rcases first.of_cons with
      ⟨failure, head, rfl⟩ | ⟨value, front, back, rest, head, tail, rfl, rfl⟩
    · rcases second.of_cons with ⟨_, alike, rfl⟩ | ⟨_, _, _, _, alike, _, rfl, rfl⟩
      · cases here _ _ _ _ head follows alike alsoFollows
        rfl
      · cases here _ _ _ _ head follows alike (follow_append.mp alsoFollows).1
    · obtain ⟨followsFront, followsBack⟩ := follow_append.mp follows
      rcases second.of_cons with ⟨_, alike, rfl⟩ | ⟨_, _, _, _, alike, alikeTail, rfl, rfl⟩
      · cases here _ _ _ _ head followsFront alike alsoFollows
      · obtain ⟨alsoFront, alsoBack⟩ := follow_append.mp alsoFollows
        cases here _ _ _ _ head followsFront alike alsoFront
        rw [others tail followsBack alikeTail alsoBack]

/-- With fixed answers there is one result of a walk. -/
theorem Walked.deterministic {tree : Json} {turns more : List Store.Turn}
    {result other : Except Failure Json}
    (first : Walked (.due tree) turns result) (follows : Follow answer turns)
    (second : Walked (.due tree) more other) (alsoFollows : Follow answer more) :
    result = other := by
  induction tree using viewInduction generalizing turns more result other with
  | reference tree reference isReference =>
    obtain ⟨found, rfl, rfl⟩ := first.of_reference isReference
    obtain ⟨again, rfl, rfl⟩ := second.of_reference isReference
    have same : found = again := by
      have isFound := follows _ (List.mem_singleton_self _)
      have isAgain := alsoFollows _ (List.mem_singleton_self _)
      exact isFound.trans isAgain.symm
    rw [same]
  | plain tree isPlain =>
    rw [(first.of_plain isPlain).2, (second.of_plain isPlain).2]
  | container tree shape parts isContainer inductionHypothesis =>
    obtain ⟨rest, walked, rfl⟩ := first.of_container isContainer
    obtain ⟨again, alike, rfl⟩ := second.of_container isContainer
    have each : ∀ part ∈ parts, ∀ turns more result other,
        Walked (.due part) turns result → Follow answer turns →
        Walked (.due part) more other → Follow answer more → result = other :=
      fun part member turns more result other => inductionHypothesis part member
    rw [walked.deterministic each follows alike alsoFollows]

end Fixed

end Progress

end SecretRefs.Tree

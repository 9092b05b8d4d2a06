import SecretRefs.Proofs.Session

/-!
# The turns of a run

What a program asks for, one question after another, and the answers that it gets, are the
turns of its run. They are listed by answering with `Dialogue.recording`, which lists each turn
and answers as before: `Dialogue.outcome_recording` says that nothing else is changed.
-/

namespace SecretRefs

namespace Dialogue

/-- A question with the answer that it got. -/
structure Turn (Query : Type) (Answer : Query → Type) where
  query : Query
  answer : Answer query

variable {Query : Type} {Answer : Query → Type} {Note α Error State : Type}

/-- Answers as before and adds each turn to a list. -/
def recording (answer : (question : Query) → StateM State (Answer question))
    (question : Query) : StateM (State × List (Turn Query Answer)) (Answer question) :=
  fun (state, turns) =>
    ((answer question state).1, ((answer question state).2,
      turns ++ [⟨question, (answer question state).1⟩]))

variable (answer : (question : Query) → StateM State (Answer question))

/-- The turns of a run. -/
def turns (program : ExceptT Error (Dialogue Query Answer Note) α) (state : State) :
    List (Turn Query Answer) :=
  (outcome (recording answer) program (state, [])).2.2

/-- Answering one question after another adds to the list, whatever is in it. -/
theorem run_recording (dialogue : Dialogue Query Answer Note α) (state : State) :
    ∃ more, ∀ earlier, run (recording answer) (fun _ => pure ()) dialogue (state, earlier) =
      ((run answer (fun _ => pure ()) dialogue state).1,
        ((run answer (fun _ => pure ()) dialogue state).2, earlier ++ more)) := by
  induction dialogue generalizing state with
  | done result => exact ⟨[], fun earlier => by rw [List.append_nil]; rfl⟩
  | note entry rest inductionHypothesis => exact inductionHypothesis state
  | ask question resume inductionHypothesis =>
    obtain ⟨more, later⟩ :=
      inductionHypothesis (answer question state).1 (answer question state).2
    refine ⟨⟨question, (answer question state).1⟩ :: more, fun earlier => ?_⟩
    refine (later (earlier ++ [⟨question, (answer question state).1⟩])).trans ?_
    rw [List.append_assoc, List.singleton_append]
    rfl

/-- To list the turns of a run does not change it. -/
theorem outcome_recording (program : ExceptT Error (Dialogue Query Answer Note) α)
    (state : State) (earlier : List (Turn Query Answer)) :
    outcome (recording answer) program (state, earlier) =
      ((outcome answer program state).1,
        ((outcome answer program state).2, earlier ++ turns answer program state)) := by
  obtain ⟨more, recorded⟩ := run_recording answer program.run state
  have fromStart : turns answer program state = more :=
    congrArg (fun run => run.2.2) (recorded [])
  rw [fromStart]
  exact recorded earlier

/-- Whether a turn has the answer of some state. -/
def Answered (turn : Turn Query Answer) : Prop :=
  ∃ before, (answer turn.query before).1 = turn.answer

/-- Nothing but answers is listed. -/
theorem answered_run_recording (dialogue : Dialogue Query Answer Note α) (state : State)
    {earlier : List (Turn Query Answer)} (answered : ∀ turn ∈ earlier, Answered answer turn) :
    ∀ turn ∈ (run (recording answer) (fun _ => pure ()) dialogue (state, earlier)).2.2,
      Answered answer turn := by
  induction dialogue generalizing state earlier with
  | done result => exact answered
  | note entry rest inductionHypothesis => exact inductionHypothesis state answered
  | ask question resume inductionHypothesis =>
    refine inductionHypothesis _ _ fun turn member => ?_
    rcases List.mem_append.mp member with old | new
    · exact answered turn old
    · rw [List.mem_singleton.mp new]
      exact ⟨state, rfl⟩

/-- The turns of a run have the answers of some states. -/
theorem answered_turns (program : ExceptT Error (Dialogue Query Answer Note) α)
    (state : State) : ∀ turn ∈ turns answer program state, Answered answer turn :=
  answered_run_recording answer program.run state (by simp)

end Dialogue

/-- A store call with the answer that it got. -/
abbrev Store.Turn : Type :=
  Dialogue.Turn Store.Call Store.Call.Answer

/-- The failure of a call that failed. -/
def Store.Turn.failure? (turn : Store.Turn) : Option Failure :=
  match turn.answer with
  | .ok _ => none
  | .error failure => some failure

namespace Session

variable {State α : Type}

/-- The calls of a session to a store, with the answers. -/
def turns (session : Session α) (backend : Store.Backend State) (state : State) :
    List Store.Turn :=
  Dialogue.turns backend session state

/-- A session makes the same of a store whose calls are listed. -/
theorem on_recording (session : Session α) (backend : Store.Backend State) (state : State)
    (earlier : List Store.Turn) :
    session.on (Dialogue.recording backend) (state, earlier) =
      ((session.on backend state).1,
        ((session.on backend state).2, earlier ++ session.turns backend state)) :=
  Dialogue.outcome_recording backend session state earlier

/-- The turns of a session and of what follows it. -/
theorem turns_bind {β : Type} (session : Session α) (next : α → Session β)
    (backend : Store.Backend State) (state : State) :
    (session >>= next).turns backend state =
      match session.on backend state with
      | (.ok value, after) => session.turns backend state ++ (next value).turns backend after
      | (.error _, _) => session.turns backend state := by
  change ((session >>= next).on (Dialogue.recording backend) (state, [])).2.2 = _
  rw [on_bind, on_recording, List.nil_append]
  obtain ⟨failure | value, after⟩ := session.on backend state
  · rfl
  · exact congrArg (fun run => run.2.2) (on_recording (next value) backend after _)

@[simp] theorem turns_pure (value : α) (backend : Store.Backend State) (state : State) :
    (pure value : Session α).turns backend state = [] := rfl

end Session

end SecretRefs

import SecretRefs.Store

/-!
# Sessions on a store

`Dialogue.outcome` is `Dialogue.run` for answers that are given at once and may change a
state, with the notes left out. A `Store.Backend` answers each call of a session in this way,
and `Session.on` is the outcome of a session on it. The equations below say what each building
block of a session does to the state, so that no proof about a command has to open a dialogue.

`Dialogue.run_interpret` lets a backend be made of dialogues with a server: answering
every call by a dialogue and running the whole is the same as running each answer.
-/

namespace SecretRefs

/-- A store that answers each call at once, with a state that the call may change. -/
abbrev Store.Backend (State : Type) : Type :=
  (call : Store.Call) → StateM State call.Answer

/-- A call gives a value exactly if the value is what is left when failures are forgotten. -/
theorem Failure.eq_ok_iff {α : Type} {answered : Except Failure α} {value : α} :
    answered = .ok value ↔ answered.toOption = some value := by
  cases answered with
  | error failure => simp [Except.toOption]
  | ok given => simp [Except.toOption]

namespace Dialogue

variable {Query : Type} {Answer : Query → Type} {Note α β : Type}
  {m : Type → Type} [Monad m] [LawfulMonad m]

/-- A dialogue and what follows it run one after the other. -/
theorem run_bind (dialogue : Dialogue Query Answer Note α)
    (next : α → Dialogue Query Answer Note β)
    (answer : (question : Query) → m (Answer question)) (take : Note → m Unit) :
    (dialogue.bind next).run answer take =
      dialogue.run answer take >>= fun value => (next value).run answer take := by
  induction dialogue with
  | done result => simp [bind, run]
  | note entry rest inductionHypothesis => simp [bind, run, inductionHypothesis]
  | ask question resume inductionHypothesis => simp [bind, run, inductionHypothesis]

/-- To run a dialogue whose questions are answered by dialogues is to run each of these
in place of an answer. -/
theorem run_interpret {Query' : Type} {Answer' : Query' → Type}
    (dialogue : Dialogue Query Answer Note α)
    (by' : (question : Query) → Dialogue Query' Answer' Note (Answer question))
    (answer : (question : Query') → m (Answer' question)) (take : Note → m Unit) :
    (dialogue.interpret by').run answer take =
      dialogue.run (fun question => (by' question).run answer take) take := by
  induction dialogue with
  | done result => simp [interpret, run]
  | note entry rest inductionHypothesis => simp [interpret, run, inductionHypothesis]
  | ask question resume inductionHypothesis =>
    simp [interpret, run, run_bind, inductionHypothesis]

section Outcome

variable {State Error : Type} (answer : (question : Query) → StateM State (Answer question))

/-- The result of a program whose questions are answered at once, and the state after it. -/
def outcome (program : ExceptT Error (Dialogue Query Answer Note) α) (state : State) :
    Except Error α × State :=
  run answer (fun _ => pure ()) program.run state

/-- How a program goes on after the outcome of its first part. -/
def resume (next : α → ExceptT Error (Dialogue Query Answer Note) β) :
    Except Error α × State → Except Error β × State
  | (.ok value, state) => outcome answer (next value) state
  | (.error failure, state) => (.error failure, state)

/-- A program goes on with the result of its first part, unless that is a failure. -/
theorem outcome_bind (program : ExceptT Error (Dialogue Query Answer Note) α)
    (next : α → ExceptT Error (Dialogue Query Answer Note) β) (state : State) :
    outcome answer (program >>= next) state =
      resume answer next (outcome answer program state) := by
  have unfolded : outcome answer (program >>= next) state =
      ((run answer (fun _ => pure ()) program.run >>= fun result =>
        run answer (fun _ => pure ()) (ExceptT.bindCont next result)) state) :=
    congrFun (run_bind program.run (ExceptT.bindCont next) answer _) state
  rw [unfolded]
  change (match run answer (fun _ => pure ()) program.run state with
    | (result, state) =>
      run answer (fun _ => pure ()) (ExceptT.bindCont next result) state) = _
  unfold outcome
  rcases run answer (fun _ => pure ()) program.run state with ⟨result | result, after⟩
  · rfl
  · rfl

/-- A program that succeeds does so with the result of its first part. -/
theorem outcome_bind_ok {program : ExceptT Error (Dialogue Query Answer Note) α}
    {next : α → ExceptT Error (Dialogue Query Answer Note) β} {state after : State} {result : β}
    (run : outcome answer (program >>= next) state = (.ok result, after)) :
    ∃ value middle, outcome answer program state = (.ok value, middle) ∧
      outcome answer (next value) middle = (.ok result, after) := by
  rw [outcome_bind] at run
  generalize outcome answer program state = first at run
  rcases first with ⟨failure | value, middle⟩
  · cases run
  · exact ⟨value, middle, rfl, run⟩

/-- To end with a value changes no state. -/
theorem snd_resume_pure (value : α → β) (first : Except Error α × State) :
    (resume answer (fun result => (pure (value result) : ExceptT Error
      (Dialogue Query Answer Note) β)) first).2 = first.2 := by
  obtain ⟨failure | result, after⟩ := first
  · rfl
  · rfl

end Outcome

end Dialogue

namespace Session

variable {State α β : Type}

/-- The result of a session on a store, and the state after it. -/
def on (session : Session α) (backend : Store.Backend State) (state : State) :
    Except Failure α × State :=
  Dialogue.outcome backend session state

/-- What a store makes of a session after the result of an earlier one. -/
def resume (next : α → Session β) (backend : Store.Backend State) :
    Except Failure α × State → Except Failure β × State :=
  Dialogue.resume backend next

variable (backend : Store.Backend State) (state : State)

@[simp] theorem on_pure (value : α) :
    (pure value : Session α).on backend state = (.ok value, state) := rfl

@[simp] theorem on_throw (failure : Failure) :
    (throw failure : Session α).on backend state = (.error failure, state) := rfl

@[simp] theorem on_mk_pure (outcome : Except Failure α) :
    Session.on (ExceptT.mk (pure outcome)) backend state = (outcome, state) := rfl

/-- A session goes on with the result of its first part, unless that is a failure. -/
theorem on_bind (session : Session α) (next : α → Session β) :
    (session >>= next).on backend state = resume next backend (session.on backend state) :=
  Dialogue.outcome_bind backend session next state

@[simp] theorem resume_ok (next : α → Session β) (value : α) :
    resume next backend (.ok value, state) = (next value).on backend state := rfl

@[simp] theorem resume_error (next : α → Session β) (failure : Failure) :
    resume next backend (.error failure, state) = (.error failure, state) := rfl

theorem snd_resume_pure (value : α → β) (first : Except Failure α × State) :
    (resume (fun result => (pure (value result) : Session β)) backend first).2 = first.2 :=
  Dialogue.snd_resume_pure backend value first

-- The result type of a call computes, so it must not be a key of the next two equations.

/-- A call gives the answer of the store. -/
@[simp] theorem on_call (call : Store.Call) :
    Session.on (α := no_index call.Result) (Session.call call) backend state =
      backend call state := rfl

/-- An event changes nothing. -/
@[simp] theorem on_log (event : Event) :
    (Session.log event).on backend state = (.ok (), state) := rfl

/-- A call of a write gives the answer of the store, with the step in a failure. -/
theorem on_callDuring (step : WriteStep) (call : Store.Call) :
    Session.on (α := no_index call.Result) (Session.callDuring step call) backend state =
      ((backend call state).1.mapError (.write step), (backend call state).2) := rfl

end Session

end SecretRefs

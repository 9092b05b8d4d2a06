import SecretRefs.Proofs.Session

/-!
# Two runs that look alike

What a store keeps secret is a matter of two runs: an observer who sees results only through a
function `seen` cannot tell them apart. `Session.LookAlike` says this of the ends of two runs
on two stores whose states are related; it goes from the first part of a session to the whole
(`LookAlike.bind`), if what follows treats results that look alike alike.
-/

namespace SecretRefs

variable {State Other α β γ δ : Type} {related : State → Other → Prop}

/-- Two ends of runs look alike to one who sees a result only through `seen` and a failure as it
is, and leave related states. -/
structure Session.LookAlike (related : State → Other → Prop) (seen : α → β)
    (one : Except Failure α × State) (other : Except Failure α × Other) : Prop where
  results : one.1.map seen = other.1.map seen
  states : related one.2 other.2

/-- Two stores answer every reference alike, as long as their states are related. -/
def Store.LookAlike (related : State → Other → Prop) (seen : String → String)
    (one : Store.Backend State) (other : Store.Backend Other) : Prop :=
  ∀ reference state otherState, related state otherState →
    Session.LookAlike related seen (one (.resolve reference) state)
      (other (.resolve reference) otherState)

/-- Results that are the same to one who sees them only through `seen` are the same failure, or
both are values. -/
theorem alike_cases {seen : α → β} {one other : Except Failure α}
    (same : one.map seen = other.map seen) :
    (∃ failure, one = .error failure ∧ other = .error failure) ∨
      ∃ value otherValue, one = .ok value ∧ other = .ok otherValue ∧
        seen value = seen otherValue := by
  cases one with
  | error failure =>
    cases other with
    | error otherFailure =>
      cases same
      exact .inl ⟨failure, rfl, rfl⟩
    | ok otherValue => cases same
  | ok value =>
    cases other with
    | error otherFailure => cases same
    | ok otherValue => exact .inr ⟨value, otherValue, rfl, rfl, Except.ok.inj same⟩

namespace Session.LookAlike

variable {one : Store.Backend State} {other : Store.Backend Other} {state : State}
  {otherState : Other} {seen : α → β} {run : Except Failure α × State}
  {otherRun : Except Failure α × Other}

/-- Runs that look alike still do when their values are changed by a function that keeps what
looks alike. -/
theorem map {seenNext : γ → δ} (alike : LookAlike related seen run otherRun) (next : α → γ)
    (kept : ∀ value otherValue, seen value = seen otherValue →
      seenNext (next value) = seenNext (next otherValue)) :
    LookAlike related seenNext (run.1.map next, run.2) (otherRun.1.map next, otherRun.2) := by
  obtain ⟨result, after⟩ := run
  obtain ⟨otherResult, otherAfter⟩ := otherRun
  refine ⟨?_, alike.states⟩
  rcases alike_cases alike.results with ⟨failure, rfl, rfl⟩ | ⟨value, otherValue, rfl, rfl, same⟩
  · rfl
  · exact congrArg Except.ok (kept value otherValue same)

/-- Runs that look alike still do when their failures are put otherwise. -/
theorem mapError (alike : LookAlike related seen run otherRun) (change : Failure → Failure) :
    LookAlike related seen (run.1.mapError change, run.2)
      (otherRun.1.mapError change, otherRun.2) := by
  obtain ⟨result, after⟩ := run
  obtain ⟨otherResult, otherAfter⟩ := otherRun
  refine ⟨?_, alike.states⟩
  rcases alike_cases alike.results with ⟨failure, rfl, rfl⟩ | ⟨value, otherValue, rfl, rfl, same⟩
  · rfl
  · exact congrArg Except.ok same

/-- Sessions look alike if their first parts do, and what follows does after results that look
alike. -/
theorem bind {seenNext : γ → δ} {session otherSession : Session α} {next otherNext : α → Session γ}
    (first : LookAlike related seen (session.on one state) (otherSession.on other otherState))
    (rest : ∀ value otherValue after otherAfter, seen value = seen otherValue →
      related after otherAfter → LookAlike related seenNext ((next value).on one after)
        ((otherNext otherValue).on other otherAfter)) :
    LookAlike related seenNext ((session >>= next).on one state)
      ((otherSession >>= otherNext).on other otherState) := by
  rw [on_bind, on_bind]
  generalize session.on one state = run at first ⊢
  generalize otherSession.on other otherState = otherRun at first ⊢
  obtain ⟨result, after⟩ := run
  obtain ⟨otherResult, otherAfter⟩ := otherRun
  rcases alike_cases first.results with ⟨failure, rfl, rfl⟩ | ⟨value, otherValue, rfl, rfl, same⟩
  · exact ⟨rfl, first.states⟩
  · exact rest value otherValue after otherAfter same first.states

end Session.LookAlike

namespace Session

variable {backend : Store.Backend State} {state : State} {session otherSession : Session α}
  {next otherNext : α → Session β}

/-- What follows the same first part gives the same if it does after each result. -/
theorem fst_on_bind_congr (rest : ∀ value after,
    ((next value).on backend after).1 = ((otherNext value).on backend after).1) :
    ((session >>= next).on backend state).1 = ((session >>= otherNext).on backend state).1 := by
  rw [on_bind, on_bind]
  obtain ⟨failure | value, after⟩ := session.on backend state
  · rfl
  · exact rest value after

/-- First parts with the same result may leave any states, if what follows gives the same
whatever the state is. -/
theorem fst_on_bind_of_fst
    (first : (session.on backend state).1 = (otherSession.on backend state).1)
    (rest : ∀ value after otherAfter,
      ((next value).on backend after).1 = ((next value).on backend otherAfter).1) :
    ((session >>= next).on backend state).1 = ((otherSession >>= next).on backend state).1 := by
  rw [on_bind, on_bind]
  generalize session.on backend state = run at first ⊢
  generalize otherSession.on backend state = otherRun at first ⊢
  obtain ⟨failure | value, after⟩ := run
  · obtain ⟨result, otherAfter⟩ := otherRun
    cases first
    rfl
  · obtain ⟨result, otherAfter⟩ := otherRun
    cases first
    exact rest value after otherAfter

end Session

end SecretRefs

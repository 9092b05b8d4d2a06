import Mathlib.Data.List.Count
import Mathlib.Logic.Function.Basic
import SecretRefs.Proofs.Session

/-!
# Dialogues that take turns

Several dialogues run on one store, each answered one question at a time. A schedule says whose
turn it is (`Dialogue.play`), so the schedules are the interleavings.

`Assured` is a judgement on one dialogue by itself: whatever the others do to the state between
its turns, as long as they do what the dialogue relies on, each turn does what it guarantees,
and the end is as promised. Where each dialogue guarantees what the others rely on, all keep
their assurance through every schedule (`assured_play`).
-/

namespace SecretRefs.Dialogue

variable {Query : Type} {Answer : Query → Type} {Note State Party α β : Type}

/-- One turn: the next question is answered, and the notes before it are passed over. A dialogue
without a further question has ended. -/
def turn (answer : (question : Query) → StateM State (Answer question)) :
    Dialogue Query Answer Note α → State → Dialogue Query Answer Note α × State
  | .done result, state => (.done result, state)
  | .note _ rest, state => rest.turn answer state
  | .ask question resume, state =>
    (resume (answer question state).1, (answer question state).2)

/-- The result of a dialogue that has no further question. -/
def result? : Dialogue Query Answer Note α → Option α
  | .done result => some result
  | .note _ rest => rest.result?
  | .ask _ _ => none

/-- The dialogues and the state after the turns of a schedule. -/
def play [DecidableEq Party] (answer : (question : Query) → StateM State (Answer question)) :
    List Party → (Party → Dialogue Query Answer Note α) → State →
      (Party → Dialogue Query Answer Note α) × State
  | [], dialogues, state => (dialogues, state)
  | party :: schedule, dialogues, state =>
    let taken := (dialogues party).turn answer state
    play answer schedule (Function.update dialogues party taken.1) taken.2

/-! ## The number of questions -/

/-- Whether a dialogue asks at most so many questions, whatever the answers are. -/
def AsksAtMost : Nat → Dialogue Query Answer Note α → Prop
  | _, .done _ => True
  | count, .note _ rest => rest.AsksAtMost count
  | 0, .ask _ _ => False
  | count + 1, .ask _ resume => ∀ answer, (resume answer).AsksAtMost count

section Counting

variable (answer : (question : Query) → StateM State (Answer question))

theorem AsksAtMost.mono {dialogue : Dialogue Query Answer Note α} {count more : Nat}
    (bounded : dialogue.AsksAtMost count) (le : count ≤ more) : dialogue.AsksAtMost more := by
  induction dialogue generalizing count more with
  | done result => trivial
  | note entry rest inductionHypothesis => exact inductionHypothesis bounded le
  | ask question resume inductionHypothesis =>
    cases count with
    | zero => exact bounded.elim
    | succ count =>
      cases more with
      | zero => omega
      | succ more => exact fun reply => inductionHypothesis reply (bounded reply) (by omega)

/-- A turn asks one question of those that are left. -/
theorem AsksAtMost.turn {dialogue : Dialogue Query Answer Note α} {count : Nat}
    (bounded : dialogue.AsksAtMost count) (state : State) :
    (dialogue.turn answer state).1.AsksAtMost (count - 1) := by
  induction dialogue with
  | done result => trivial
  | note entry rest inductionHypothesis => exact inductionHypothesis bounded
  | ask question resume =>
    cases count with
    | zero => exact bounded.elim
    | succ count => exact bounded (answer question state).1

/-- A dialogue and what follows it ask at most as many questions as the two together. -/
theorem AsksAtMost.bind {dialogue : Dialogue Query Answer Note α}
    {next : α → Dialogue Query Answer Note β} {count more : Nat}
    (bounded : dialogue.AsksAtMost count) (rest : ∀ result, (next result).AsksAtMost more) :
    (dialogue.bind next).AsksAtMost (count + more) := by
  induction dialogue generalizing count with
  | done result => exact (rest result).mono (Nat.le_add_left more count)
  | note entry others inductionHypothesis => exact inductionHypothesis bounded
  | ask question resume inductionHypothesis =>
    cases count with
    | zero => exact bounded.elim
    | succ count =>
      rw [Nat.succ_add]
      exact fun reply => inductionHypothesis reply (bounded reply)

theorem AsksAtMost.isSome_result? {dialogue : Dialogue Query Answer Note α}
    (bounded : dialogue.AsksAtMost 0) : dialogue.result?.isSome := by
  induction dialogue with
  | done result => rfl
  | note entry rest inductionHypothesis => exact inductionHypothesis bounded
  | ask question resume => exact bounded.elim

variable [DecidableEq Party]

/-- What is left to ask after a schedule. -/
theorem asksAtMost_play (schedule : List Party) {dialogues : Party → Dialogue Query Answer Note α}
    {bound : Party → Nat} (bounded : ∀ party, (dialogues party).AsksAtMost (bound party))
    (state : State) (party : Party) :
    ((play answer schedule dialogues state).1 party).AsksAtMost
      (bound party - schedule.count party) := by
  induction schedule generalizing dialogues bound state with
  | nil => exact bounded party
  | cons next schedule inductionHypothesis =>
    have boundedNext : ∀ other, (Function.update dialogues next
        ((dialogues next).turn answer state).1 other).AsksAtMost
          (Function.update bound next (bound next - 1) other) := by
      intro other
      by_cases same : other = next
      · subst same
        simpa using (bounded other).turn answer state
      · simpa [Function.update_of_ne same] using bounded other
    refine (inductionHypothesis boundedNext ((dialogues next).turn answer state).2).mono ?_
    by_cases same : party = next
    · subst same
      simp
      omega
    · simp [Function.update_of_ne same, List.count_cons_of_ne (Ne.symm same)]

/-- A dialogue has ended after as many turns as it asks questions. -/
theorem isSome_result?_play (schedule : List Party)
    {dialogues : Party → Dialogue Query Answer Note α} {bound : Nat}
    (bounded : ∀ party, (dialogues party).AsksAtMost bound) (state : State) {party : Party}
    (enough : bound ≤ schedule.count party) :
    ((play answer schedule dialogues state).1 party).result?.isSome := by
  have left := asksAtMost_play answer schedule bounded state party
  rw [Nat.sub_eq_zero_of_le enough] at left
  exact left.isSome_result?

end Counting

/-! ## What a dialogue relies on and guarantees -/

section Assurance

variable (answer : (question : Query) → StateM State (Answer question))
  (rely guarantee : State → State → Prop) (promise : α → State → Prop)

/-- From a state on, each turn of a dialogue does what it guarantees and the end is as
promised, if what happens to the state in between is what the dialogue relies on. -/
def Assured : Dialogue Query Answer Note α → State → Prop
  | .done result, state => ∀ later, rely state later → promise result later
  | .note _ rest, state => rest.Assured state
  | .ask question resume, state => ∀ later, rely state later →
    guarantee later (answer question later).2 ∧
      (resume (answer question later).1).Assured (answer question later).2

variable {answer rely guarantee promise} {dialogue : Dialogue Query Answer Note α}
  {state later : State}

namespace Assured

/-- What a dialogue relies on does not take its assurance away. -/
theorem stable (trans : ∀ {one two three}, rely one two → rely two three → rely one three)
    (assured : dialogue.Assured answer rely guarantee promise state) (kept : rely state later) :
    dialogue.Assured answer rely guarantee promise later := by
  induction dialogue with
  | done result => exact fun last relied => assured last (trans kept relied)
  | note entry rest inductionHypothesis => exact inductionHypothesis assured
  | ask question resume => exact fun last relied => assured last (trans kept relied)

/-- A turn does what is guaranteed or nothing, and the rest is assured. -/
theorem turn (refl : ∀ one, rely one one) (idle : ∀ one, guarantee one one)
    (assured : dialogue.Assured answer rely guarantee promise state) :
    guarantee state (dialogue.turn answer state).2 ∧
      (dialogue.turn answer state).1.Assured answer rely guarantee promise
        (dialogue.turn answer state).2 := by
  induction dialogue with
  | done result => exact ⟨idle state, assured⟩
  | note entry rest inductionHypothesis => exact inductionHypothesis assured
  | ask question resume => exact assured state (refl state)

/-- A promise can be weakened. -/
theorem mono {weaker : α → State → Prop}
    (assured : dialogue.Assured answer rely guarantee promise state)
    (weaken : ∀ result later, promise result later → weaker result later) :
    dialogue.Assured answer rely guarantee weaker state := by
  induction dialogue generalizing state with
  | done result => exact fun later relied => weaken result later (assured later relied)
  | note entry rest inductionHypothesis => exact inductionHypothesis assured
  | ask question resume inductionHypothesis =>
    intro later relied
    obtain ⟨guaranteed, rest⟩ := assured later relied
    exact ⟨guaranteed, inductionHypothesis _ rest⟩

/-- A dialogue is assured of an end if its first part promises that what follows is. -/
theorem bind {promiseNext : β → State → Prop} {next : α → Dialogue Query Answer Note β}
    (refl : ∀ one, rely one one)
    (assured : dialogue.Assured answer rely guarantee (fun result later =>
      (next result).Assured answer rely guarantee promiseNext later) state) :
    (dialogue.bind next).Assured answer rely guarantee promiseNext state := by
  induction dialogue generalizing state with
  | done result => exact assured state (refl state)
  | note entry rest inductionHypothesis => exact inductionHypothesis assured
  | ask question resume inductionHypothesis =>
    intro later relied
    obtain ⟨guaranteed, rest⟩ := assured later relied
    exact ⟨guaranteed, inductionHypothesis _ rest⟩

/-- A dialogue that runs by itself keeps its promise. -/
theorem run (refl : ∀ one, rely one one)
    (assured : dialogue.Assured answer rely guarantee promise state) :
    promise (dialogue.run answer (fun _ => pure ()) state).1
      (dialogue.run answer (fun _ => pure ()) state).2 := by
  induction dialogue generalizing state with
  | done result => exact assured state (refl state)
  | note entry rest inductionHypothesis => exact inductionHypothesis assured
  | ask question resume inductionHypothesis =>
    exact inductionHypothesis _ (assured state (refl state)).2

/-- An ended dialogue has kept its promise. -/
theorem of_result? (refl : ∀ one, rely one one) {result : α}
    (assured : dialogue.Assured answer rely guarantee promise state)
    (ended : dialogue.result? = some result) : promise result state := by
  induction dialogue with
  | done found =>
    cases ended
    exact assured state (refl state)
  | note entry rest inductionHypothesis => exact inductionHypothesis assured ended
  | ask question resume => cases ended

end Assured

end Assurance

section Play

variable [DecidableEq Party] {answer : (question : Query) → StateM State (Answer question)}
  {rely guarantee : Party → State → State → Prop} {promise : Party → α → State → Prop}
  {dialogues : Party → Dialogue Query Answer Note α} {state : State}

/-- Through every schedule all dialogues keep their assurance, and an invariant of what they
guarantee is kept, if each relies on no more than the others guarantee. -/
theorem assured_play (invariant : State → Prop) (refl : ∀ party one, rely party one one)
    (trans : ∀ party {one two three}, rely party one two → rely party two three →
      rely party one three)
    (idle : ∀ party one, guarantee party one one)
    (compatible : ∀ {one other}, one ≠ other → ∀ before after, invariant before →
      guarantee one before after → rely other before after)
    (keeps : ∀ party before after, invariant before → guarantee party before after →
      invariant after)
    (schedule : List Party) (start : invariant state)
    (assured : ∀ party, (dialogues party).Assured answer (rely party) (guarantee party)
      (promise party) state) :
    invariant (play answer schedule dialogues state).2 ∧
      ∀ party, ((play answer schedule dialogues state).1 party).Assured answer (rely party)
        (guarantee party) (promise party) (play answer schedule dialogues state).2 := by
  induction schedule generalizing dialogues state with
  | nil => exact ⟨start, assured⟩
  | cons next schedule inductionHypothesis =>
    obtain ⟨guaranteed, rest⟩ := (assured next).turn (refl next) (idle next)
    refine inductionHypothesis (keeps next _ _ start guaranteed) fun party => ?_
    by_cases same : party = next
    · subst same
      rw [Function.update_self]
      exact rest
    · rw [Function.update_of_ne same]
      exact (assured party).stable (trans party)
        (compatible (Ne.symm same) _ _ start guaranteed)

end Play

end SecretRefs.Dialogue

namespace SecretRefs.Session

variable {State α β : Type} {backend : Store.Backend State}
  {rely guarantee : State → State → Prop} {promise : Except Failure α → State → Prop}
  {promiseNext : Except Failure β → State → Prop} {state : State}

/-- A session and what follows it ask at most as many questions as the two together. -/
theorem asksAtMost_bind {session : Session α} {next : α → Session β} {count more : Nat}
    (bounded : session.run.AsksAtMost count) (rest : ∀ value, (next value).run.AsksAtMost more) :
    (session >>= next).run.AsksAtMost (count + more) := by
  refine Dialogue.AsksAtMost.bind bounded fun result => ?_
  cases result with
  | error failure => trivial
  | ok value => exact rest value

theorem asksAtMost_callDuring (step : WriteStep) (call : Store.Call) :
    (Session.callDuring step call).run.AsksAtMost 1 :=
  fun _ => trivial

/-- A session is assured of an end if its first part promises to succeed in such a way that what
follows is. -/
theorem assured_bind {session : Session α} {next : α → Session β} (refl : ∀ one, rely one one)
    (assured : session.run.Assured backend rely guarantee (fun result later =>
      ∃ value, result = .ok value ∧
        (next value).run.Assured backend rely guarantee promiseNext later) state) :
    (session >>= next).run.Assured backend rely guarantee promiseNext state := by
  refine Dialogue.Assured.bind refl (assured.mono ?_)
  rintro result later ⟨value, rfl, rest⟩
  exact rest

/-- An event asks for no assurance. -/
theorem assured_log_bind {event : Event} {next : Unit → Session β}
    (rest : (next ()).run.Assured backend rely guarantee promiseNext state) :
    (Session.log event >>= next).run.Assured backend rely guarantee promiseNext state :=
  rest

/-- Nor does a result that is there. -/
theorem assured_ok_bind {value : α} {next : α → Session β}
    (rest : (next value).run.Assured backend rely guarantee promiseNext state) :
    (ExceptT.mk (pure (.ok value)) >>= next : Session β).run.Assured backend rely guarantee
      promiseNext state :=
  rest

/-- A call of a write is assured if it succeeds whenever it is made. -/
theorem assured_callDuring (step : WriteStep) (call : Store.Call)
    {promise : Except Failure call.Result → State → Prop}
    (succeeds : ∀ later, rely state later → ∃ result after,
      backend call later = (.ok result, after) ∧ guarantee later after ∧
        ∀ last, rely after last → promise (.ok result) last) :
    (Session.callDuring step call).run.Assured backend rely guarantee promise state := by
  intro later relied
  obtain ⟨result, after, answered, guaranteed, kept⟩ := succeeds later relied
  rw [answered]
  exact ⟨guaranteed, kept⟩

end SecretRefs.Session

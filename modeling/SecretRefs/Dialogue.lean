/-!
# Dialogues

A dialogue is a program that asks questions, may make notes, and ends with a
result. What it asks next can depend on every answer so far. It says nothing on
who answers: a store in memory, a server, an arbitrary function in a proof, or
several dialogues taking turns.

The main operations are `run`, which lets a monad answer, and `interpret`,
which answers each question by another dialogue.
-/

namespace SecretRefs

/-- A program that asks `Query`s, each with an answer of its own type. -/
inductive Dialogue (Query : Type) (Answer : Query → Type) (Note : Type) (α : Type) : Type where
  | done (result : α)
  | note (entry : Note) (rest : Dialogue Query Answer Note α)
  | ask (query : Query) (resume : Answer query → Dialogue Query Answer Note α)

namespace Dialogue

variable {Query : Type} {Answer : Query → Type} {Note α β : Type}

/-- Goes on with the result of a dialogue. -/
def bind (dialogue : Dialogue Query Answer Note α) (next : α → Dialogue Query Answer Note β) :
    Dialogue Query Answer Note β :=
  match dialogue with
  | .done result => next result
  | .note entry rest => .note entry (rest.bind next)
  | .ask query resume => .ask query fun answer => (resume answer).bind next

instance : Monad (Dialogue Query Answer Note) where
  pure := .done
  bind := bind

/-- Asks one question. -/
def query (question : Query) : Dialogue Query Answer Note (Answer question) :=
  .ask question .done

/-- Makes one note. -/
def record (entry : Note) : Dialogue Query Answer Note Unit :=
  .note entry (.done ())

/-- Runs a dialogue in a monad that answers the questions and takes the notes. -/
def run {m : Type → Type} [Monad m] (answer : (question : Query) → m (Answer question))
    (take : Note → m Unit) : Dialogue Query Answer Note α → m α
  | .done result => pure result
  | .note entry rest => do
    take entry
    rest.run answer take
  | .ask question resume => do
    let reply ← answer question
    (resume reply).run answer take

/-- Answers each question of a dialogue by a dialogue that asks other questions. -/
def interpret {Query' : Type} {Answer' : Query' → Type}
    (answer : (question : Query) → Dialogue Query' Answer' Note (Answer question)) :
    Dialogue Query Answer Note α → Dialogue Query' Answer' Note α
  | .done result => .done result
  | .note entry rest => .note entry (rest.interpret answer)
  | .ask question resume => (answer question).bind fun reply => (resume reply).interpret answer

end Dialogue

end SecretRefs

import SecretRefs.Tree.Task
import SecretRefs.Store.Memory

/-!
# Resolving trees against the clock

A store may take time for each secret. The elements of an array are then resolved side
by side, while an entry of a mapping starts when the one before it is done. All calls
take equally long.

A resolution goes in turns. A turn visits the tree in order, ends the calls that have
been waited for and starts those that are now due. It ends at most `allowance` calls;
what it cannot look at after that is put off, and the next turn starts with what was put
off last. Time passes only when there is nothing left to visit, and then for all calls
under way.

The elements of a long array are lanes, which are visited in the order in which they ask
for it. An array ends its visit early when two lanes asked for another visit during
theirs, or when it has visited all its lanes and none was done.

A failure ends the resolution on the spot. Only a lane holds its failure back until all
lanes before it are done.
-/

namespace SecretRefs.Tree.Schedule

/-- The part of a tree that is visited when a wait in it is over: a lane, or the whole
tree. -/
abbrev Lane : Type :=
  Option Nat

/-- The number of calls that end in one turn. -/
def allowance : Nat := 128

/-- The store, the log and the clock during a resolution. -/
structure Situation where
  memory : Store.Memory
  events : List Event
  /-- Whether calls take time. -/
  lasting : Bool
  /-- The number of calls under way. -/
  underWay : Nat
  /-- The number of calls that may still end in this turn. -/
  left : Nat
  /-- What this turn puts off, with the last of it first. -/
  putOff : List Lane
  /-- Who waits for a call to end, in the order of waiting. -/
  waiting : List Lane
  /-- The number of times that the clock went on. -/
  instant : Nat
  /-- The number of lanes opened so far. -/
  opened : Nat
  /-- Whether a part of the lane that is visited asks for another visit. -/
  again : Bool

/-- A step of a resolution. What it did to the situation stays if it fails. -/
abbrev Step (α : Type) : Type :=
  ExceptT Failure (StateM Situation) α

/-- Puts a lane off to another turn, once if it is put off several times in a row. -/
def putOff (lane : Lane) : Step Unit :=
  modify fun situation =>
    if situation.putOff.head? == some lane then situation
    else { situation with putOff := lane :: situation.putOff }

/-- Ends the call for a reference. -/
def endCall (reference : Reference) : Step Task := do
  let situation ← get
  set { situation with underWay := situation.underWay - 1, left := situation.left - 1 }
  match situation.memory.lookup reference with
  | .ok secret => pure (.finished (.string secret))
  | .error failure => throw (blame reference failure)

/-- Looks at a call, which ends if it was waited for since an earlier instant. -/
def lookAt (lane : Lane) (reference : Reference) (since : Option Nat) : Step Task := do
  let situation ← get
  if situation.left == 0 then
    putOff lane
    pure (.calling reference since)
  else
    match since with
    | some instant =>
      if instant < situation.instant then endCall reference
      else pure (.calling reference since)
    | none =>
      if situation.lasting then
        set { situation with waiting := situation.waiting ++ [lane] }
        pure (.calling reference (some situation.instant))
      else
        endCall reference

/-- Starts the call for a reference. -/
def startCall (store : String) (lane : Lane) (reference : Reference) : Step Task := do
  modify fun situation =>
    { situation with events := situation.events ++ [resolvingEvent store reference] }
  let situation ← get
  let (outcome, memory) := situation.memory.enter (.resolve reference)
  match outcome with
  | .error failure =>
    set { situation with memory }
    throw (blame reference failure)
  | .ok () =>
    let underWay := situation.underWay + 1
    set { situation with memory := { memory with peak := max memory.peak underWay }, underWay }
    lookAt lane reference none

/-- Visits the entries of a mapping, one after another as far as they are done at once. -/
def visitEntries (visit : Task → Step Task) (before : Json.Entries) :
    Json.Entries → Step Task
  | [] => pure (.finished (.object before))
  | (key, value) :: after => do
    match ← visit (.due value) with
    | .finished tree => visitEntries visit (before ++ [(key, tree)]) after
    | current => pure (.mapping before key current after)

/-- Visits a lane. A failure is held back and drops the calls of the lane. Also tells
whether the lane asks for another visit, which the array around it then does as well. -/
def visitLane (visit : Task → Step Task) (task : Task) : Step (Task × Bool) := do
  let start ← get
  set { start with again := false }
  let visited ← tryCatch (visit task) fun failure => do
    modify fun situation =>
      { situation with underWay := start.underWay - task.callsUnderWay }
    pure (.failed failure)
  let again := (← get).again
  modify fun situation => { situation with again := start.again || again }
  pure (visited, again)

/-- Visits the lanes of a long array from the queue, at most `steps` of them. `visited`
lanes were visited since one was done, and `asking` of them ask for another visit. -/
def visitLanes (visit : Lane → Task → Step Task) (first : Nat) :
    (steps visited asking : Nat) → (queue : List Nat) → List Task → Step Task
  | 0, _, _, queue, tasks => pure (.lanes first queue tasks)
  | _, _, _, [], tasks => pure (.lanes first [] tasks)
  | steps + 1, visited, asking, position :: queue, tasks => do
    let task := (tasks[position]?).getD (.finished .null)
    if task.isOver then
      visitLanes visit first steps visited asking queue tasks
    else
      let (task, again) ← visitLane (visit (some (first + position))) task
      let tasks := tasks.set position task
      if task.isOver then
        match tasks.find? fun task => task.tree?.isNone with
        | none => pure (.finished (.array ((Task.trees? tasks).getD [])))
        | some (.failed failure) => throw failure
        | some _ => visitLanes visit first steps 0 0 queue tasks
      else
        let queue := if again then Task.enqueue position queue else queue
        let asking := if again then asking + 1 else asking
        let running := tasks.countP fun task => !task.isOver
        if 2 ≤ asking || visited + 1 == running then
          modify fun situation => { situation with again := true }
          pure (.lanes first queue tasks)
        else
          visitLanes visit first steps (visited + 1) asking queue tasks

/-- Visits a long array. Between two lanes that are done each lane is visited at most
once, and a lane stands in the queue at most once more after it is done. -/
def visitArray (visit : Lane → Task → Step Task) (first : Nat) (queue : List Nat)
    (tasks : List Task) : Step Task :=
  visitLanes visit first ((tasks.length + 1) * (tasks.length + 2)) 0 0 queue tasks

/-- Makes a lane of each element of a long array. All of them ask for a visit. -/
def openLanes (visit : Lane → Task → Step Task) (elements : List Json) : Step Task := do
  let first := (← get).opened
  modify fun situation => { situation with opened := first + elements.length }
  visitArray visit first (List.range elements.length) (elements.map .due)

/-- Visits a part of a tree that is nested at most `depth` deep. -/
def visit (store : String) : (depth : Nat) → Lane → Task → Step Task
  | 0, _, task => pure task
  | depth + 1, lane, task =>
    match task with
    | .due (.string text) =>
      match Reference.parse? text with
      | some reference => startCall store lane reference
      | none => pure (.finished (.string text))
    | .due (.array elements) =>
      if elements.length ≤ shortLimit then
        Task.ofElements <$> elements.mapM fun element => visit store depth lane (.due element)
      else
        openLanes (visit store depth) elements
    | .due (.object entries) => visitEntries (visit store depth lane) [] entries
    | .due scalar => pure (.finished scalar)
    | .calling reference since => lookAt lane reference since
    | .sequence elements => Task.ofElements <$> elements.mapM (visit store depth lane)
    | .lanes first queue elements => visitArray (visit store depth) first queue elements
    | .mapping before key current after => do
      match ← visit store depth lane current with
      | .finished tree => visitEntries (visit store depth lane) (before ++ [(key, tree)]) after
      | current => pure (.mapping before key current after)
    | task => pure task

/-- What asks for a visit after a turn: what the turn put off, with the last of it first.
If that is nothing and no part asks for another visit, the clock goes on, and everyone who
waits asks in the order of waiting. -/
def askers : Step (List Lane) := do
  let situation ← get
  if !situation.putOff.isEmpty then
    set { situation with putOff := [] }
    pure situation.putOff
  else if situation.again then
    pure []
  else
    set { situation with waiting := [], instant := situation.instant + 1 }
    pure situation.waiting

/-- Takes turns until the tree is done, at most `turns` of them. -/
def finish (store : String) (depth : Nat) : (turns : Nat) → Task → Step Json
  | 0, _ => throw (.internal "resolution did not end")
  | turns + 1, task => do
    modify fun situation => { situation with left := allowance, again := false }
    match ← visit store depth none task with
    | .finished tree => pure tree
    | task =>
      let lanes ← askers
      finish store depth turns (lanes.foldl Task.wake task)

/-- Resolves a tree. A call starts, is waited for and ends, and from one of these to the
next each lane asks for two visits at most, so that the turns are always enough. -/
def resolve (store : String) (tree : Json) : Step Json :=
  finish store (size tree) (6 * size tree * (size tree + 1) + 1) (.due tree)

/-- Resolves a tree by a store in memory whose calls take time or end as soon as they are
waited for. The log gets the events. -/
def run (store : String) (tree : Json) (lasting : Bool) (memory : Store.Memory) :
    Except Failure Json × Store.Memory × List Event :=
  let (outcome, situation) := (resolve store tree).run
    { memory, events := [], lasting, underWay := 0, left := allowance, putOff := [],
      waiting := [], instant := 0, opened := 0, again := false }
  (outcome, situation.memory, situation.events)

end SecretRefs.Tree.Schedule

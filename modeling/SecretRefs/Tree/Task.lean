import SecretRefs.Tree.Resolution

/-!
# Trees in the course of a resolution

A `Task` is a tree of which some references are replaced, some are being asked for and
some are due. The elements of a long array are *lanes*: each is visited only when it
asks for it, and the array keeps the queue of those that do. All other parts are visited
together with the lane around them, or with the whole tree.
-/

namespace SecretRefs.Tree

/-- The number of elements up to which an array has no lanes. -/
def shortLimit : Nat := 30

mutual

/-- The number of values in a tree, containers included. -/
def size : Json → Nat
  | .array elements => elementsSize elements + 1
  | .object entries => entriesSize entries + 1
  | _ => 1

/-- The number of values in a list of trees. -/
def elementsSize : List Json → Nat
  | [] => 0
  | element :: rest => size element + elementsSize rest

/-- The number of values in entries. -/
def entriesSize : Json.Entries → Nat
  | [] => 0
  | (_, value) :: rest => size value + entriesSize rest

end

/-- A tree that is being resolved. -/
inductive Task where
  /-- A part that is not started. -/
  | due (tree : Json)
  /-- A part that is done. -/
  | finished (tree : Json)
  /-- A lane whose failure waits for the lanes before it. -/
  | failed (failure : Failure)
  /-- A reference whose secret is on its way, and the instant since when it is waited
  for. -/
  | calling (reference : Reference) (since : Option Nat)
  /-- A short array that is not done. -/
  | sequence (elements : List Task)
  /-- A long array that is not done, with the number of its first lane and the positions
  of the lanes that ask for a visit. -/
  | lanes (first : Nat) (queue : List Nat) (elements : List Task)
  /-- A mapping at the entry with this key; the entries before it are done. -/
  | mapping (before : Json.Entries) (key : String) (current : Task) (after : Json.Entries)

namespace Task

/-- The tree of a part that is done. -/
def tree? : Task → Option Json
  | .finished tree => some tree
  | _ => none

/-- Whether nothing is left to do, be it after a failure. -/
def isOver : Task → Bool
  | .finished _ => true
  | .failed _ => true
  | _ => false

/-- The trees of parts that are all done. -/
def trees? (tasks : List Task) : Option (List Json) :=
  tasks.mapM tree?

/-- A short array, which is done when its elements are. -/
def ofElements (elements : List Task) : Task :=
  match trees? elements with
  | some trees => .finished (.array trees)
  | none => .sequence elements

mutual

/-- The number of calls under way. -/
def callsUnderWay : Task → Nat
  | .calling _ _ => 1
  | .sequence elements => callsUnderWayAmong elements
  | .lanes _ _ elements => callsUnderWayAmong elements
  | .mapping _ _ current _ => callsUnderWay current
  | _ => 0

/-- The number of calls under way among elements. -/
def callsUnderWayAmong : List Task → Nat
  | [] => 0
  | task :: rest => callsUnderWay task + callsUnderWayAmong rest

end

/-- A queue with a position at its end, unless it is in the queue. -/
def enqueue (position : Nat) (queue : List Nat) : List Nat :=
  if queue.contains position then queue else queue ++ [position]

mutual

/-- The task with the lane of a number in the queue of its array, and with the lanes
around it in theirs. There is none if no unfinished lane has the number. -/
def wake? (number : Nat) : Task → Option Task
  | .sequence elements => (wakeAmong? number 0 elements).map fun (_, elements) => .sequence elements
  | .lanes first queue elements =>
    if first ≤ number && number < first + elements.length then
      if (elements[number - first]?).all isOver then none
      else some (.lanes first (enqueue (number - first) queue) elements)
    else
      (wakeAmong? number 0 elements).map fun (position, elements) =>
        .lanes first (enqueue position queue) elements
  | .mapping before key current after =>
    (wake? number current).map fun current => .mapping before key current after
  | _ => none

/-- The same among elements of which the first has a position, with the position of the
element that has the lane. -/
def wakeAmong? (number position : Nat) : List Task → Option (Nat × List Task)
  | [] => none
  | task :: rest =>
    match wake? number task with
    | some task => some (position, task :: rest)
    | none =>
      (wakeAmong? number (position + 1) rest).map fun (found, rest) => (found, task :: rest)

end

/-- The task after a request to visit a lane, or the whole tree if no lane is given. -/
def wake (task : Task) (lane : Option Nat) : Task :=
  match lane with
  | none => task
  | some number => (wake? number task).getD task

end Task

end SecretRefs.Tree

import SecretRefs.Json.Value
import SecretRefs.Store

/-!
# Resolving trees

Resolution replaces every string of a data tree that is a reference by the
secret a store gives for it. The result has the shape of the tree; everything
that is not a reference is kept. The first failure ends the resolution, and the
tree that was given is never changed.

`resolve` asks for the references one after another in the order of the tree,
which is what happens with a store that answers at once. `Tree.Schedule` has
the order for stores that take time.
-/

namespace SecretRefs.Tree

mutual

/-- The references in a tree, in order. -/
def references : Json → List Reference
  | .string text => (Reference.parse? text).toList
  | .array elements => elementReferences elements
  | .object entries => entryReferences entries
  | _ => []

/-- The references in a list of trees. -/
def elementReferences : List Json → List Reference
  | [] => []
  | element :: rest => references element ++ elementReferences rest

/-- The references in the values of entries. -/
def entryReferences : Json.Entries → List Reference
  | [] => []
  | (_, value) :: rest => references value ++ entryReferences rest

end

mutual

/-- The number of strings in a tree that are references. -/
def countReferences : Json → Nat
  | .string text => if Reference.isReference text then 1 else 0
  | .array elements => countElements elements
  | .object entries => countEntries entries
  | _ => 0

/-- The number of references in a list of trees. -/
def countElements : List Json → Nat
  | [] => 0
  | element :: rest => countReferences element + countElements rest

/-- The number of references in the values of entries. -/
def countEntries : Json.Entries → Nat
  | [] => 0
  | (_, value) :: rest => countReferences value + countEntries rest

end

/-- The part of the program that logs the resolution of trees. -/
def logTarget : String := "opref_resolve::tree"

/-- The event that announces a call. -/
def resolvingEvent (store : String) (reference : Reference) : Event where
  level := .debug
  target := logTarget
  message := "resolving secret reference"
  fields := [("store", store), ("vault", reference.vault), ("item", reference.item),
    ("field", reference.field)]

/-- What becomes of a store failure: one that names a reference is kept, any
other is put down to this reference. -/
def blame (reference : Reference) (failure : Failure) : Failure :=
  match failure with
  | .resolution _ _ => failure
  | _ => .resolution reference.render failure.message

/-- Asks a store for the secret of one reference. -/
def resolveReference (store : String) (reference : Reference) : Session String := do
  Session.log (resolvingEvent store reference)
  ExceptT.mk ((Dialogue.query (Store.Call.resolve reference)).bind fun answer =>
    .done (answer.mapError (blame reference)))

mutual

/-- Replaces the references in a tree by their secrets. -/
def resolve (store : String) : Json → Session Json
  | .string text =>
    match Reference.parse? text with
    | some reference => do
      let secret ← resolveReference store reference
      pure (.string secret)
    | none => pure (.string text)
  | .array elements => do
    let resolved ← resolveElements store elements
    pure (.array resolved)
  | .object entries => do
    let resolved ← resolveEntries store entries
    pure (.object resolved)
  | scalar => pure scalar

/-- Replaces the references in a list of trees. -/
def resolveElements (store : String) : List Json → Session (List Json)
  | [] => pure []
  | element :: rest => do
    let resolved ← resolve store element
    let others ← resolveElements store rest
    pure (resolved :: others)

/-- Replaces the references in the values of entries. -/
def resolveEntries (store : String) : Json.Entries → Session Json.Entries
  | [] => pure []
  | (key, value) :: rest => do
    let resolved ← resolve store value
    let others ← resolveEntries store rest
    pure ((key, resolved) :: others)

end

/-- The tree that stands in place of `tree` after its resolution, and the number
of references resolved or the failure. -/
def afterResolution (tree : Json) (outcome : Except Failure Json) : Except Failure Nat × Json :=
  match outcome with
  | .ok resolved => (.ok (countReferences tree), resolved)
  | .error failure => (.error failure, tree)

/-- The event that ends a resolution which must not fail. -/
def outcomeEvent (store : String) (outcome : Except Failure Nat) : Event :=
  match outcome with
  | .ok count =>
    { level := .info
      target := logTarget
      message := "secret references resolved"
      fields := [("references", toString count), ("store", store)] }
  | .error failure =>
    { level := .warn
      target := logTarget
      message := "failed to resolve secret references"
      fields := [("error", failure.message), ("store", store)] }

/-- Whether a resolution that must not fail did not. -/
def succeeded : Except Failure Nat → Bool
  | .ok _ => true
  | .error _ => false

/-- Resolves a tree, and tells what stands in its place after that. -/
def resolveInPlace (store : String) (tree : Json) :
    Dialogue Store.Call Store.Call.Answer Event (Except Failure Nat × Json) :=
  (resolve store tree).run.bind fun outcome => .done (afterResolution tree outcome)

/-- Resolves a tree in place and logs a failure. Tells whether there was none. -/
def resolveBestEffort (store : String) (tree : Json) :
    Dialogue Store.Call Store.Call.Answer Event (Bool × Json) :=
  (resolveInPlace store tree).bind fun (count, after) =>
    .note (outcomeEvent store count) (.done (succeeded count, after))

/-- The diagnostic text of a resolver for a store. -/
def inspectResolver (store : String) : String :=
  "TreeResolver \x7b store: " ++ Text.quoted store ++ " \x7d"

end SecretRefs.Tree

import SecretRefs.Tree.Resolution
import SecretRefs.Proofs.Reference
import SecretRefs.Proofs.Session

/-!
# What a resolution makes of a tree

A tree is seen in two ways that do not mention stores: as the list of its reference
leaves in order, and as a function of the texts in it. Resolution on a store that answers
at once goes down that list until the first failure, and its result is the tree with the
leaves replaced.

`resolve_on_fixed` carries the argument over the nesting: arrays and mappings both go on
with the calls of one part after another, so the calls of a container are those of its
leaves. `resolve_replaces_references` says what follows for a whole tree.
-/

namespace SecretRefs

/-- A store that answers by a fixed function and lists the calls it gets. -/
def Store.Backend.fixed (answer : (call : Store.Call) → call.Answer) :
    Store.Backend (List Store.Call) :=
  fun call calls => (answer call, calls ++ [call])

namespace Tree

mutual

/-- The strings of a tree, in order. -/
def texts : Json → List String
  | .string text => [text]
  | .array elements => elementTexts elements
  | .object entries => entryTexts entries
  | _ => []

/-- The strings of a list of trees. -/
def elementTexts : List Json → List String
  | [] => []
  | element :: rest => texts element ++ elementTexts rest

/-- The strings in the values of entries. -/
def entryTexts : Json.Entries → List String
  | [] => []
  | (_, value) :: rest => texts value ++ entryTexts rest

end

mutual

/-- The tree with each string changed. Everything else stays as and where it is. -/
def mapTexts (change : String → String) : Json → Json
  | .string text => .string (change text)
  | .array elements => .array (mapElementTexts change elements)
  | .object entries => .object (mapEntryTexts change entries)
  | scalar => scalar

/-- The elements of an array with each string in them changed. -/
def mapElementTexts (change : String → String) : List Json → List Json
  | [] => []
  | element :: rest => mapTexts change element :: mapElementTexts change rest

/-- The entries of a mapping with each string in their values changed. -/
def mapEntryTexts (change : String → String) : Json.Entries → Json.Entries
  | [] => []
  | (key, value) :: rest => (key, mapTexts change value) :: mapEntryTexts change rest

end

/-- A text that is a reference. -/
structure Leaf where
  text : String
  reference : Reference
  parsed : Reference.parse? text = some reference

namespace Leaf

/-- The leaf that a text is, if it is a reference. -/
def ofText? (text : String) : Option Leaf :=
  match parsed : Reference.parse? text with
  | some reference => some ⟨text, reference, parsed⟩
  | none => none

/-- The call that asks for the secret of a leaf. -/
def call (leaf : Leaf) : Store.Call :=
  .resolve leaf.reference

theorem ofText?_of_parse? {text : String} {reference : Reference}
    (parsed : Reference.parse? text = some reference) :
    ofText? text = some ⟨text, reference, parsed⟩ := by
  unfold ofText?
  split
  · rename_i other otherParsed
    have same : other = reference := Option.some.inj (otherParsed.symm.trans parsed)
    subst same
    rfl
  · rename_i unparsed
    cases parsed.symm.trans unparsed

theorem ofText?_of_parse?_none {text : String} (unparsed : Reference.parse? text = none) :
    ofText? text = none := by
  unfold ofText?
  split
  · rename_i parsed
    cases unparsed.symm.trans parsed
  · rfl

end Leaf

/-- The strings of a tree that are references, in order. -/
def leaves (tree : Json) : List Leaf :=
  (texts tree).filterMap Leaf.ofText?

/-- The failure of a resolution at a text: a failure that names a reference is kept, any
other is told of this text. -/
def blamed (text : String) (cause : Failure) : Failure :=
  match cause with
  | .resolution _ _ => cause
  | _ => .resolution text cause.message

/-- The reference that a failure is put down to is the text of the leaf. -/
theorem blame_leaf (leaf : Leaf) (cause : Failure) :
    blame leaf.reference cause = blamed leaf.text cause := by
  have name : leaf.reference.render = leaf.text := Reference.render_of_parse? leaf.parsed
  cases cause <;> simp [blame, blamed, name]

section Answers

variable (answer : (call : Store.Call) → call.Answer)

/-- Whether a store has a secret for a leaf. -/
def HasSecret (leaf : Leaf) : Prop :=
  ∃ secret, answer leaf.call = .ok secret

/-- What becomes of a text: the secret if it is a reference that has one. -/
def replacement (text : String) : String :=
  match Leaf.ofText? text with
  | some leaf => (answer leaf.call).toOption.getD text
  | none => text

/-- The leaves that a store is asked about, one after another up to the first without a
secret, and the failure at that one. -/
def settle : List Leaf → List Leaf × Option Failure
  | [] => ([], none)
  | leaf :: rest =>
    match answer leaf.call with
    | .ok _ => (leaf :: (settle rest).1, (settle rest).2)
    | .error cause => ([leaf], some (blamed leaf.text cause))

/-- How a part of a resolution ends that is about these leaves and would give `value`. -/
def ended {α : Type} (leaves : List Leaf) (value : α) (calls : List Store.Call) :
    Except Failure α × List Store.Call :=
  ((settle answer leaves).2.elim (.ok value) .error,
    calls ++ (settle answer leaves).1.map Leaf.call)

variable {answer}

/-- A store is asked about later leaves only if the earlier ones all have secrets. -/
theorem settle_append (first second : List Leaf) :
    settle answer (first ++ second) =
      match (settle answer first).2 with
      | none => ((settle answer first).1 ++ (settle answer second).1, (settle answer second).2)
      | some failure => ((settle answer first).1, some failure) := by
  induction first with
  | nil => rfl
  | cons leaf rest inductionHypothesis =>
    rw [List.cons_append, settle, settle, inductionHypothesis]
    cases answer leaf.call with
    | error cause => rfl
    | ok secret => cases (settle answer rest).2 <;> rfl

/-- A part without leaves ends well and makes no call. -/
theorem ended_nil {α : Type} (value : α) (calls : List Store.Call) :
    ended answer [] value calls = (.ok value, calls) := by
  simp [ended, settle]

/-- A part that ends well is followed by the next one, and a failure ends both. -/
theorem resume_ended {α β : Type} {first second : List Leaf} {value : α} {result : β}
    {next : α → Session β}
    (continued : ∀ calls, (next value).on (.fixed answer) calls =
      ended answer second result calls) (calls : List Store.Call) :
    Session.resume next (.fixed answer) (ended answer first value calls) =
      ended answer (first ++ second) result calls := by
  unfold ended at continued ⊢
  rw [settle_append]
  cases (settle answer first).2 with
  | none => simp [continued]
  | some failure => rfl

/-- After its last part a container makes no more calls. -/
theorem resume_last {α β : Type} {leaves : List Leaf} {value : α} {result : β}
    {next : α → Session β}
    (continued : ∀ calls, (next value).on (.fixed answer) calls = (.ok result, calls))
    (calls : List Store.Call) :
    Session.resume next (.fixed answer) (ended answer leaves value calls) =
      ended answer leaves result calls := by
  have lastEnded : ∀ calls, (next value).on (.fixed answer) calls =
      ended answer [] result calls :=
    fun calls => (continued calls).trans (ended_nil result calls).symm
  have joined : Session.resume next (.fixed answer) (ended answer leaves value calls) = _ :=
    resume_ended lastEnded calls
  rwa [List.append_nil] at joined

/-- One leaf is one call. -/
theorem resolveReference_on_fixed (store : String) (leaf : Leaf) (calls : List Store.Call) :
    (resolveReference store leaf.reference).on (.fixed answer) calls =
      ((answer leaf.call).mapError (blamed leaf.text), calls ++ [leaf.call]) := by
  have asked : (resolveReference store leaf.reference).on (.fixed answer) calls =
      ((answer leaf.call).mapError (blame leaf.reference), calls ++ [leaf.call]) := rfl
  rw [asked, funext (blame_leaf leaf)]

end Answers

section Resolution

variable (store : String) (answer : (call : Store.Call) → call.Answer)

theorem resolve_text_on_fixed (text : String) (calls : List Store.Call) :
    (resolve store (.string text)).on (.fixed answer) calls =
      ended answer (leaves (.string text)) (.string (replacement answer text)) calls := by
  unfold resolve
  split
  · rename_i reference parsed
    have found := Leaf.ofText?_of_parse? parsed
    rw [Session.on_bind, resolveReference_on_fixed store ⟨text, reference, parsed⟩]
    simp only [leaves, texts, List.filterMap_cons, found, List.filterMap_nil, ended, settle,
      replacement]
    cases answer (Leaf.call ⟨text, reference, parsed⟩) with
    | error cause => rfl
    | ok secret => rfl
  · rename_i unparsed
    have none := Leaf.ofText?_of_parse?_none unparsed
    simp only [leaves, texts, List.filterMap_cons, none, List.filterMap_nil, replacement,
      ended_nil]
    rfl

mutual

/-- The induction is on the tree. It is over any earlier calls, since the parts of a
container come after one another. -/
theorem resolve_on_fixed (tree : Json) (calls : List Store.Call) :
    (resolve store tree).on (.fixed answer) calls =
      ended answer (leaves tree) (mapTexts (replacement answer) tree) calls := by
  match tree with
  | .string text => exact resolve_text_on_fixed store answer text calls
  | .array elements =>
    unfold resolve
    rw [Session.on_bind, resolveElements_on_fixed elements calls]
    exact resume_last (fun calls => rfl) calls
  | .object entries =>
    unfold resolve
    rw [Session.on_bind, resolveEntries_on_fixed entries calls]
    exact resume_last (fun calls => rfl) calls
  | .null => exact (ended_nil _ calls).symm
  | .boolean _ => exact (ended_nil _ calls).symm
  | .number _ => exact (ended_nil _ calls).symm

theorem resolveElements_on_fixed (elements : List Json) (calls : List Store.Call) :
    (resolveElements store elements).on (.fixed answer) calls =
      ended answer ((elementTexts elements).filterMap Leaf.ofText?)
        (mapElementTexts (replacement answer) elements) calls := by
  match elements with
  | [] => exact (ended_nil _ calls).symm
  | element :: rest =>
    unfold resolveElements
    rw [Session.on_bind, resolve_on_fixed element calls, elementTexts, List.filterMap_append]
    apply resume_ended
    intro calls
    rw [Session.on_bind, resolveElements_on_fixed rest calls]
    exact resume_last (fun calls => rfl) calls

theorem resolveEntries_on_fixed (entries : Json.Entries) (calls : List Store.Call) :
    (resolveEntries store entries).on (.fixed answer) calls =
      ended answer ((entryTexts entries).filterMap Leaf.ofText?)
        (mapEntryTexts (replacement answer) entries) calls := by
  match entries with
  | [] => exact (ended_nil _ calls).symm
  | (key, value) :: rest =>
    unfold resolveEntries
    rw [Session.on_bind, resolve_on_fixed value calls, entryTexts, List.filterMap_append]
    apply resume_ended
    intro calls
    rw [Session.on_bind, resolveEntries_on_fixed rest calls]
    exact resume_last (fun calls => rfl) calls

end

end Resolution

section Outcome

variable {answer : (call : Store.Call) → call.Answer}

/-- A store that has all secrets is asked for all of them. -/
theorem settle_of_hasSecret {leaves : List Leaf} (all : ∀ leaf ∈ leaves, HasSecret answer leaf) :
    settle answer leaves = (leaves, none) := by
  induction leaves with
  | nil => rfl
  | cons leaf rest inductionHypothesis =>
    obtain ⟨secret, found⟩ := all leaf List.mem_cons_self
    have later := inductionHypothesis fun other member =>
      all other (List.mem_cons_of_mem leaf member)
    simp [settle, found, later]

/-- A store is asked up to the first leaf without a secret. -/
theorem settle_of_error {before after : List Leaf} {leaf : Leaf} {cause : Failure}
    (earlier : ∀ other ∈ before, HasSecret answer other)
    (refused : answer leaf.call = .error cause) :
    settle answer (before ++ leaf :: after) =
      (before ++ [leaf], some (blamed leaf.text cause)) := by
  rw [settle_append, settle_of_hasSecret earlier]
  simp [settle, refused]

/-- Either all leaves have secrets, or one of them is the first that has none. -/
theorem all_hasSecret_or_first_error (answer : (call : Store.Call) → call.Answer)
    (leaves : List Leaf) :
    (∀ leaf ∈ leaves, HasSecret answer leaf) ∨
      ∃ before leaf after cause, leaves = before ++ leaf :: after ∧
        (∀ earlier ∈ before, HasSecret answer earlier) ∧ answer leaf.call = .error cause := by
  induction leaves with
  | nil => exact .inl (by simp)
  | cons leaf rest inductionHypothesis =>
    cases found : answer leaf.call with
    | error cause => exact .inr ⟨[], leaf, rest, cause, rfl, by simp, found⟩
    | ok secret =>
      have here : HasSecret answer leaf := ⟨secret, found⟩
      rcases inductionHypothesis with all | ⟨before, other, after, cause, split, earlier, refused⟩
      · exact .inl (by simpa using ⟨here, all⟩)
      · refine .inr ⟨leaf :: before, other, after, cause, ?_, ?_, refused⟩
        · rw [split, List.cons_append]
        · simpa using ⟨here, earlier⟩

/-- A tree whose leaves all have secrets is resolved by one call for each leaf. -/
theorem resolve_of_hasSecret (store : String) {tree : Json}
    (all : ∀ leaf ∈ leaves tree, HasSecret answer leaf) :
    (resolve store tree).on (.fixed answer) [] =
      (.ok (mapTexts (replacement answer) tree), (leaves tree).map Leaf.call) := by
  rw [resolve_on_fixed, ended, settle_of_hasSecret all]
  rfl

/-- The first leaf without a secret ends the resolution. -/
theorem resolve_of_error (store : String) {tree : Json} {before after : List Leaf} {leaf : Leaf}
    {cause : Failure} (split : leaves tree = before ++ leaf :: after)
    (earlier : ∀ other ∈ before, HasSecret answer other)
    (refused : answer leaf.call = .error cause) :
    (resolve store tree).on (.fixed answer) [] =
      (.error (blamed leaf.text cause), (before ++ [leaf]).map Leaf.call) := by
  rw [resolve_on_fixed, ended, split, settle_of_error earlier refused]
  rfl

end Outcome

/-- Resolution on a store that answers by a fixed function succeeds exactly if every
reference leaf has a secret, and then puts the secrets in the places of the leaves;
otherwise it fails as the first leaf without a secret says. The store is called for each
leaf in order, up to and including the first that fails, and for nothing else. -/
theorem resolve_replaces_references (store : String)
    (answer : (call : Store.Call) → call.Answer) (tree : Json) :
    (∀ resolved calls,
      (resolve store tree).on (.fixed answer) [] = (.ok resolved, calls) ↔
        (∀ leaf ∈ leaves tree, HasSecret answer leaf) ∧
          resolved = mapTexts (replacement answer) tree ∧
          calls = (leaves tree).map Leaf.call) ∧
    (∀ failure calls,
      (resolve store tree).on (.fixed answer) [] = (.error failure, calls) ↔
        ∃ before leaf after cause, leaves tree = before ++ leaf :: after ∧
          (∀ earlier ∈ before, HasSecret answer earlier) ∧
          answer leaf.call = .error cause ∧
          failure = blamed leaf.text cause ∧
          calls = (before ++ [leaf]).map Leaf.call) := by
  constructor
  · intro resolved calls
    constructor
    · intro run
      rcases all_hasSecret_or_first_error answer (leaves tree) with
        all | ⟨before, leaf, after, cause, split, earlier, refused⟩
      · rw [resolve_of_hasSecret store all] at run
        cases run
        exact ⟨all, rfl, rfl⟩
      · rw [resolve_of_error store split earlier refused] at run
        cases run
    · rintro ⟨all, rfl, rfl⟩
      exact resolve_of_hasSecret store all
  · intro failure calls
    constructor
    · intro run
      rcases all_hasSecret_or_first_error answer (leaves tree) with
        all | ⟨before, leaf, after, cause, split, earlier, refused⟩
      · rw [resolve_of_hasSecret store all] at run
        cases run
      · rw [resolve_of_error store split earlier refused] at run
        cases run
        exact ⟨before, leaf, after, cause, split, earlier, refused, rfl, rfl⟩
    · rintro ⟨before, leaf, after, cause, split, earlier, refused, rfl, rfl⟩
      exact resolve_of_error store split earlier refused

end Tree

end SecretRefs

import SecretRefs.Redaction
import SecretRefs.Tree.Report
import SecretRefs.Proofs.TwoRuns
import SecretRefs.Proofs.Tree.Interleaving

/-!
# Resolutions under redaction

`redacted` is a tree with its texts redacted. On stores whose secrets look alike under redaction
two resolutions of a tree look alike (`lookAlike_resolve`), and so do two runs in which calls end
in the same order (`Progress.Steps.redacted`). Trees that look alike have reports that look
alike (`report_redacted`): the shape, the paths and the failures are the same.
-/

namespace SecretRefs

/-- A turn with its secret redacted. -/
def Store.Turn.redacted : Store.Turn → Store.Turn
  | ⟨.resolve reference, answer⟩ => ⟨.resolve reference, answer.map Redaction.redact⟩
  | turn => turn

namespace Tree

/-- A tree with its texts redacted. -/
def redacted (tree : Json) : Json :=
  mapTexts Redaction.redact tree

/-- An entry of a report as it may be shown. -/
def ResolvedPath.redacted (entry : ResolvedPath) : ResolvedPath :=
  { entry with value := Redaction.redact entry.value }

@[simp] theorem redacted_array (elements : List Json) :
    redacted (.array elements) = .array (elements.map redacted) :=
  congrArg Json.array (mapElementTexts_eq Redaction.redact elements)

@[simp] theorem redacted_object (entries : Json.Entries) :
    redacted (.object entries) = .object (entries.map fun (key, value) =>
      (key, redacted value)) :=
  congrArg Json.object (mapEntryTexts_eq Redaction.redact entries)

/-- How two trees can look alike. -/
inductive LookAlike : Json → Json → Prop where
  | refl (tree : Json) : LookAlike tree tree
  | string {text otherText : String} (same : Redaction.redact text = Redaction.redact otherText) :
      LookAlike (.string text) (.string otherText)
  | array {elements others : List Json} (same : elements.map redacted = others.map redacted) :
      LookAlike (.array elements) (.array others)
  | object {entries others : Json.Entries}
      (same : redacted (.object entries) = redacted (.object others)) :
      LookAlike (.object entries) (.object others)

/-- Trees that are redacted to the same look alike in one of these ways. -/
theorem LookAlike.of_redacted {one other : Json} (same : redacted one = redacted other) :
    LookAlike one other := by
  cases one with
  | string text =>
    cases other with
    | string otherText => exact .string (Json.string.inj same)
    | _ => cases same
  | array elements =>
    cases other with
    | array others =>
      rw [redacted_array, redacted_array, Json.array.injEq] at same
      exact .array same
    | _ => cases same
  | object entries =>
    cases other with
    | object others => exact .object same
    | _ => cases same
  | null =>
    cases other with
    | null => exact .refl .null
    | _ => cases same
  | boolean value =>
    cases other with
    | boolean otherValue =>
      cases same
      exact .refl (.boolean value)
    | _ => cases same
  | number value =>
    cases other with
    | number otherValue =>
      cases same
      exact .refl (.number value)
    | _ => cases same

/-- The parts of a container are redacted one by one. -/
theorem redacted_fill (shape : Shape) (values : List Json) :
    redacted (shape.fill values) = shape.fill (values.map redacted) := by
  cases shape with
  | array => exact redacted_array values
  | mapping keys =>
    rw [Shape.fill, redacted_object, Shape.fill, List.zip_map_right]
    rfl

/-! ## Resolutions -/

section Sessions

variable {State Other : Type} {related : State → Other → Prop} {one : Store.Backend State}
  {other : Store.Backend Other} (store otherStore : String)

theorem lookAlike_resolveReference (alike : Store.LookAlike related Redaction.redact one other)
    (reference : Reference) {state : State} {otherState : Other}
    (start : related state otherState) :
    Session.LookAlike related Redaction.redact ((resolveReference store reference).on one state)
      ((resolveReference otherStore reference).on other otherState) :=
  (alike reference state otherState start).mapError (blame reference)

theorem lookAlike_resolveElements {trees : List Json}
    (each : ∀ tree ∈ trees, ∀ state otherState, related state otherState →
      Session.LookAlike related redacted ((resolve store tree).on one state)
        ((resolve otherStore tree).on other otherState)) {state : State} {otherState : Other}
    (start : related state otherState) :
    Session.LookAlike related (List.map redacted) ((resolveElements store trees).on one state)
      ((resolveElements otherStore trees).on other otherState) := by
  induction trees generalizing state otherState with
  | nil => exact ⟨rfl, start⟩
  | cons tree trees inductionHypothesis =>
    unfold resolveElements
    refine (each tree List.mem_cons_self _ _ start).bind ?_
    intro value otherValue after otherAfter sameValue afterRelated
    refine (inductionHypothesis (fun part member => each part (List.mem_cons_of_mem tree member))
      afterRelated).bind ?_
    intro values otherValues last otherLast sameValues lastRelated
    exact ⟨congrArg Except.ok (congrArg₂ List.cons sameValue sameValues), lastRelated⟩

/-- Two resolutions of a tree look alike on stores whose secrets do. -/
theorem lookAlike_resolve (alike : Store.LookAlike related Redaction.redact one other)
    (tree : Json) {state : State} {otherState : Other} (start : related state otherState) :
    Session.LookAlike related redacted ((resolve store tree).on one state)
      ((resolve otherStore tree).on other otherState) := by
  induction tree using viewInduction generalizing state otherState with
  | reference tree reference isReference =>
    obtain ⟨leaf, rfl, rfl⟩ := leaf_of_view isReference
    unfold resolve
    rw [leaf.parsed]
    refine (lookAlike_resolveReference store otherStore alike leaf.reference start).bind ?_
    intro secret otherSecret after otherAfter sameSecret afterRelated
    exact ⟨congrArg (Except.ok ∘ Json.string) sameSecret, afterRelated⟩
  | plain tree isPlain =>
    rw [Progress.resolve_plain store isPlain, Progress.resolve_plain otherStore isPlain]
    exact ⟨rfl, start⟩
  | container tree shape parts isContainer inductionHypothesis =>
    rw [(Progress.resolve_container store one isContainer state).2,
      (Progress.resolve_container otherStore other isContainer otherState).2]
    refine (lookAlike_resolveElements store otherStore
      (fun part member _ _ start => inductionHypothesis part member start) start).map shape.fill ?_
    intro values otherValues same
    rw [redacted_fill, redacted_fill, same]

end Sessions

/-! ## Calls that end in the same order -/

namespace Progress

mutual

/-- A resolution under way with what is done redacted. -/
def redacted : Progress → Progress
  | .due tree => .due tree
  | .calling reference => .calling reference
  | .done tree => .done (Tree.redacted tree)
  | .failed failure => .failed failure
  | .node shape parts => .node shape (redactedParts parts)

/-- The same of parts. -/
def redactedParts : List Progress → List Progress
  | [] => []
  | part :: parts => part.redacted :: redactedParts parts

end

theorem redacted_node (shape : Shape) (parts : List Progress) :
    (Progress.node shape parts).redacted = .node shape (parts.map redacted) := by
  have eachPart : redactedParts parts = parts.map redacted := by
    induction parts with
    | nil => rfl
    | cons part parts inductionHypothesis =>
      rw [redactedParts, inductionHypothesis, List.map_cons]
  rw [redacted, eachPart]

section Inversion

variable {progress : Progress} {reference : Reference} {given : Json} {failure : Failure}
  {shape : Shape} {parts : List Progress}

theorem eq_due (same : progress.redacted = .due given) : progress = .due given := by
  cases progress with
  | due tree => exact same
  | _ => cases same

theorem eq_calling (same : progress.redacted = .calling reference) :
    progress = .calling reference := by
  cases progress with
  | calling reference => exact same
  | _ => cases same

theorem eq_failed (same : progress.redacted = .failed failure) : progress = .failed failure := by
  cases progress with
  | failed failure => exact same
  | _ => cases same

theorem eq_done (same : progress.redacted = .done given) :
    ∃ tree, progress = .done tree ∧ Tree.redacted tree = given := by
  cases progress with
  | done tree => exact ⟨tree, rfl, Progress.done.inj same⟩
  | _ => cases same

theorem eq_node (same : progress.redacted = .node shape parts) :
    ∃ others, progress = .node shape others ∧ others.map redacted = parts := by
  cases progress with
  | node otherShape others =>
    rw [redacted_node] at same
    obtain ⟨rfl, sameParts⟩ := Progress.node.inj same
    exact ⟨others, rfl, sameParts⟩
  | _ => cases same

/-- Parts that are all done under redaction are done. -/
theorem eq_map_done {parts : List Progress} {values : List Json}
    (same : parts.map redacted = (values.map .done).map redacted) :
    ∃ others : List Json, parts = others.map .done ∧
      others.map Tree.redacted = values.map Tree.redacted := by
  induction values generalizing parts with
  | nil =>
    rw [List.map_nil, List.map_nil, List.map_eq_nil_iff] at same
    exact ⟨[], same, rfl⟩
  | cons value values inductionHypothesis =>
    obtain ⟨part, rest, rfl, samePart, sameRest⟩ := List.map_eq_cons_iff.mp same
    obtain ⟨tree, rfl, sameTree⟩ := eq_done samePart
    obtain ⟨others, rfl, sameOthers⟩ := inductionHypothesis sameRest
    exact ⟨tree :: others, rfl, congrArg₂ List.cons sameTree sameOthers⟩

/-- Whether a part may go on is seen under redaction. -/
theorem ready_redacted {earlier others : List Progress}
    (same : earlier.map redacted = others.map redacted) (ready : Ready earlier shape) :
    Ready others shape := by
  cases shape with
  | array => trivial
  | mapping keys =>
    intro part member
    have inEarlier : part.redacted ∈ earlier.map redacted := by
      rw [same]
      exact List.mem_map_of_mem member
    obtain ⟨before, isBefore, samePart⟩ := List.mem_map.mp inEarlier
    obtain ⟨tree, rfl⟩ := ready before isBefore
    obtain ⟨other, isDone, _⟩ := eq_done samePart.symm
    exact ⟨other, isDone⟩

end Inversion

/-- A turn of a resolution that looks like one with a secret has a secret that looks alike. -/
theorem eq_turn {turn : Store.Turn} {reference : Reference} {answer : Except Failure String}
    (same : turn.redacted = ⟨.resolve reference, answer⟩) :
    ∃ other : Except Failure String, turn = ⟨.resolve reference, other⟩ ∧
      other.map Redaction.redact = answer := by
  obtain ⟨query, other⟩ := turn
  cases query with
  | resolve otherReference =>
    obtain ⟨sameQuery, sameAnswer⟩ := Dialogue.Turn.mk.inj same
    cases sameQuery
    exact ⟨other, rfl, eq_of_heq sameAnswer⟩
  | _ => cases same

/-- What looks alike before a step can take a step that looks alike, to what looks alike. -/
theorem Step.redacted {before after other : Progress} {turn otherTurn : Option Store.Turn}
    (step : Step before turn after) (same : other.redacted = before.redacted)
    (sameTurn : otherTurn.map Store.Turn.redacted = turn.map Store.Turn.redacted) :
    ∃ last, Step other otherTurn last ∧ last.redacted = after.redacted := by
  induction step generalizing other otherTurn with
  | keep isPlain =>
    cases eq_due same
    cases Option.map_eq_none_iff.mp sameTurn
    exact ⟨_, .keep isPlain, rfl⟩
  | ask isReference =>
    cases eq_due same
    cases Option.map_eq_none_iff.mp sameTurn
    exact ⟨_, .ask isReference, rfl⟩
  | answer reference secret =>
    cases eq_calling same
    obtain ⟨turn, rfl, sameRedacted⟩ := Option.map_eq_some_iff.mp sameTurn
    obtain ⟨answer, rfl, sameAnswer⟩ := eq_turn sameRedacted
    cases answer with
    | error cause => cases sameAnswer
    | ok otherSecret =>
      refine ⟨_, .answer reference otherSecret, ?_⟩
      exact congrArg (Progress.done ∘ Json.string) (Except.ok.inj sameAnswer)
  | refuse reference cause =>
    cases eq_calling same
    obtain ⟨turn, rfl, sameRedacted⟩ := Option.map_eq_some_iff.mp sameTurn
    obtain ⟨answer, rfl, sameAnswer⟩ := eq_turn sameRedacted
    cases answer with
    | error otherCause =>
      cases sameAnswer
      exact ⟨_, .refuse reference cause, rfl⟩
    | ok otherSecret => cases sameAnswer
  | start isContainer =>
    cases eq_due same
    cases Option.map_eq_none_iff.mp sameTurn
    exact ⟨_, .start isContainer, rfl⟩
  | part ready step later inductionHypothesis =>
    rw [redacted_node, List.map_append, List.map_cons] at same
    obtain ⟨parts, rfl, sameParts⟩ := eq_node same
    obtain ⟨others, rest, rfl, sameEarlier, sameRest⟩ := List.map_eq_append_iff.mp sameParts
    obtain ⟨part, otherLater, rfl, samePart, sameLater⟩ := List.map_eq_cons_iff.mp sameRest
    obtain ⟨last, otherStep, sameLast⟩ := inductionHypothesis samePart sameTurn
    refine ⟨_, .part (ready_redacted sameEarlier.symm ready) otherStep otherLater, ?_⟩
    rw [redacted_node, redacted_node, List.map_append, List.map_append, List.map_cons,
      List.map_cons, sameEarlier, sameLast, sameLater]
  | close shape values =>
    cases Option.map_eq_none_iff.mp sameTurn
    rw [redacted_node] at same
    obtain ⟨parts, rfl, sameParts⟩ := eq_node same
    obtain ⟨others, rfl, sameOthers⟩ := eq_map_done sameParts
    refine ⟨_, .close shape others, congrArg Progress.done ?_⟩
    rw [redacted_fill, redacted_fill, sameOthers]
  | abort member =>
    cases Option.map_eq_none_iff.mp sameTurn
    rw [redacted_node] at same
    obtain ⟨parts, rfl, sameParts⟩ := eq_node same
    have failedMember := List.mem_map_of_mem (f := Progress.redacted) member
    rw [← sameParts] at failedMember
    obtain ⟨part, partMember, samePart⟩ := List.mem_map.mp failedMember
    cases eq_failed samePart
    exact ⟨_, .abort partMember, rfl⟩

/-- What looks alike before a run can take one whose turns look alike, to what looks alike. -/
theorem Steps.redacted {before after other : Progress} {turns otherTurns : List Store.Turn}
    (steps : Steps before turns after) (same : other.redacted = before.redacted)
    (sameTurns : otherTurns.map Store.Turn.redacted = turns.map Store.Turn.redacted) :
    ∃ last, Steps other otherTurns last ∧ last.redacted = after.redacted := by
  induction steps generalizing other otherTurns with
  | refl =>
    cases List.map_eq_nil_iff.mp sameTurns
    exact ⟨other, .refl other, same⟩
  | @step _ _ _ turn _ step _ inductionHypothesis =>
    rw [List.map_append] at sameTurns
    obtain ⟨front, back, rfl, sameFront, sameBack⟩ := List.map_eq_append_iff.mp sameTurns
    obtain ⟨otherTurn, rfl, sameTurn⟩ : ∃ otherTurn : Option Store.Turn,
        front = otherTurn.toList ∧
          otherTurn.map Store.Turn.redacted = turn.map Store.Turn.redacted := by
      cases turn with
      | none => exact ⟨none, List.map_eq_nil_iff.mp sameFront, rfl⟩
      | some turn =>
        obtain ⟨otherTurn, rfl, sameTurn⟩ := List.map_eq_singleton_iff.mp sameFront
        exact ⟨some otherTurn, rfl, congrArg some sameTurn⟩
    obtain ⟨middle, otherStep, sameMiddle⟩ := step.redacted same sameTurn
    obtain ⟨last, otherSteps, sameLast⟩ := inductionHypothesis sameMiddle sameBack
    exact ⟨last, .step otherStep otherSteps, sameLast⟩

/-- A run that ends has one with turns that look alike, with an outcome that looks alike. -/
theorem ended_redacted {given : Json} {turns otherTurns : List Store.Turn}
    {outcome : Except Failure Json} (steps : Steps (.due given) turns (ended outcome))
    (sameTurns : otherTurns.map Store.Turn.redacted = turns.map Store.Turn.redacted) :
    ∃ otherOutcome, Steps (.due given) otherTurns (ended otherOutcome) ∧
      outcome.map Tree.redacted = otherOutcome.map Tree.redacted := by
  have same : (Progress.due given).redacted = (Progress.due given).redacted := rfl
  obtain ⟨last, otherSteps, same⟩ := steps.redacted same sameTurns
  cases outcome with
  | error failure =>
    cases eq_failed same
    exact ⟨.error failure, otherSteps, rfl⟩
  | ok resolved =>
    obtain ⟨tree, rfl, sameTree⟩ := eq_done same
    exact ⟨.ok tree, otherSteps, congrArg Except.ok sameTree.symm⟩

end Progress

/-! ## Reports -/

section Reports

variable {one other : Json}

/-- A report as it may be shown, or the failure to give one. -/
def shown (outcome : Except Failure (List ResolvedPath)) :
    Except Failure (List ResolvedPath) :=
  outcome.map (List.map ResolvedPath.redacted)

/-- A report on a first part and one on the others are shown together. -/
theorem shown_append {first otherFirst rest otherRest : Except Failure (List ResolvedPath)}
    (sameFirst : shown first = shown otherFirst) (sameRest : shown rest = shown otherRest) :
    shown (first.bind fun report => rest.map (report ++ ·)) =
      shown (otherFirst.bind fun report => otherRest.map (report ++ ·)) := by
  rcases alike_cases sameFirst with ⟨failure, rfl, rfl⟩ | ⟨report, otherReport, rfl, rfl, same⟩
  · rfl
  · rcases alike_cases sameRest with ⟨failure, rfl, rfl⟩ | ⟨more, otherMore, rfl, rfl, sameMore⟩
    · rfl
    · simp [shown, Except.bind, Except.map, same, sameMore]

/-- Whether reports on a part look alike at every path for trees that look alike. -/
def ReportsAlike (given : Json) : Prop :=
  ∀ one other path, redacted one = redacted other →
    shown (reportAt given one path) = shown (reportAt given other path)

theorem reportElements_redacted {givens : List Json} (each : ∀ given ∈ givens, ReportsAlike given)
    {ones others : List Json} (same : ones.map redacted = others.map redacted) (path : String)
    (position : Nat) :
    shown (reportElements givens ones path position) =
      shown (reportElements givens others path position) := by
  induction givens generalizing ones others position with
  | nil => rfl
  | cons given givens inductionHypothesis =>
    cases ones with
    | nil =>
      rw [List.map_nil, eq_comm, List.map_eq_nil_iff] at same
      rw [same]
    | cons first rest =>
      obtain ⟨otherFirst, otherRest, rfl, sameFirst, sameRest⟩ := List.map_eq_cons_iff.mp same.symm
      rw [reportElements_cons, reportElements_cons]
      exact shown_append (each given List.mem_cons_self _ _ _ sameFirst.symm)
        (inductionHypothesis (fun one member => each one (List.mem_cons_of_mem given member))
          sameRest.symm (position + 1))

/-- What a key leads to is redacted with the mapping. -/
theorem find?_redacted (key : String) (entries : Json.Entries) :
    Json.find? key (entries.map fun (key, value) => (key, redacted value)) =
      (Json.find? key entries).map redacted := by
  unfold Json.find?
  induction entries with
  | nil => rfl
  | cons entry rest inductionHypothesis =>
    obtain ⟨name, value⟩ := entry
    rw [List.map_cons, List.lookup_cons, List.lookup_cons]
    cases key == name with
    | true => rfl
    | false => exact inductionHypothesis

theorem reportEntries_redacted {givens : Json.Entries}
    (each : ∀ given ∈ givens.map Prod.snd, ReportsAlike given) {ones others : Json.Entries}
    (same : redacted (.object ones) = redacted (.object others)) (path : String) :
    shown (reportEntries givens ones path) = shown (reportEntries givens others path) := by
  induction givens with
  | nil => rfl
  | cons entry givens inductionHypothesis =>
    obtain ⟨key, given⟩ := entry
    have sameFound : (Json.find? key ones).map redacted = (Json.find? key others).map redacted := by
      rw [redacted_object, redacted_object, Json.object.injEq] at same
      rw [← find?_redacted, same, find?_redacted]
    rw [reportEntries_cons, reportEntries_cons]
    generalize Json.find? key ones = found at sameFound ⊢
    generalize Json.find? key others = otherFound at sameFound ⊢
    cases found with
    | none =>
      cases otherFound with
      | none => rfl
      | some otherValue => cases sameFound
    | some value =>
      cases otherFound with
      | none => cases sameFound
      | some otherValue =>
        exact shown_append (each given List.mem_cons_self _ _ _ (Option.some.inj sameFound))
          (inductionHypothesis fun one member => each one (List.mem_cons_of_mem given member))

/-- A text that replaces a reference looks alike in trees that do. -/
theorem replacementText?_redacted (same : redacted one = redacted other) :
    (replacementText? one).map Redaction.redact =
      (replacementText? other).map Redaction.redact := by
  cases LookAlike.of_redacted same with
  | refl => rfl
  | string sameText => exact congrArg some sameText
  | array => rfl
  | object => rfl

/-- The reports on a tree look alike for trees that do. -/
theorem reportsAlike (given : Json) : ReportsAlike given := by
  induction given using viewInduction with
  | reference given reference isReference =>
    intro one other path same
    obtain ⟨leaf, rfl, _⟩ := leaf_of_view isReference
    have sameText := replacementText?_redacted same
    simp only [reportAt, isReference_leaf, if_true]
    generalize replacementText? one = text at sameText ⊢
    generalize replacementText? other = otherText at sameText ⊢
    cases text with
    | none =>
      cases otherText with
      | none => rfl
      | some otherText => cases sameText
    | some text =>
      cases otherText with
      | none => cases sameText
      | some otherText =>
        have redactedText : Redaction.redact text = Redaction.redact otherText :=
          Option.some.inj sameText
        simp [shown, Except.map, ResolvedPath.redacted, redactedText]
  | plain given isPlain =>
    intro one other path _
    have nothing (resolved : Json) : reportAt given resolved path = .ok [] := by
      cases given with
      | string text => simp [reportAt, isReference_of_plain isPlain]
      | array elements => cases isPlain
      | object entries => cases isPlain
      | _ => simp [reportAt]
    rw [nothing, nothing]
  | container given shape parts isContainer inductionHypothesis =>
    intro one other path same
    rcases container_of_view isContainer with ⟨rfl, rfl⟩ | ⟨entries, rfl, rfl, rfl⟩
    · cases LookAlike.of_redacted same with
      | refl => rfl
      | string => rfl
      | @array ones others sameElements =>
        have sameLength : ones.length = others.length := by
          simpa using congrArg List.length sameElements
        simp only [reportAt, sameLength]
        split
        · exact reportElements_redacted inductionHypothesis sameElements path 0
        · rfl
      | object => rfl
    · cases LookAlike.of_redacted same with
      | refl => rfl
      | string => rfl
      | array => rfl
      | object sameEntries =>
        simp only [reportAt]
        exact reportEntries_redacted inductionHypothesis sameEntries path

/-- The reports on a tree look alike for trees that do. -/
theorem report_redacted (given : Json) (same : redacted one = redacted other) :
    shown (report given one) = shown (report given other) :=
  reportsAlike given one other "" same

end Reports

end Tree

end SecretRefs

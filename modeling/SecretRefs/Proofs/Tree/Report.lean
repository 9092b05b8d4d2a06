import SecretRefs.Tree.Report
import SecretRefs.Proofs.Json.Keys
import SecretRefs.Proofs.Store.Reachable
import SecretRefs.Proofs.Tree.Interleaving

/-!
# Reports on what was resolved

The report on a tree and its resolution has an entry for each reference leaf, in order, with
the path of the leaf and the very secret that its call got (`Listed`). The resolution, the
report and the count are traversals of their own; `reports_of_walked` relates them by one
induction on the tree, over walks with any answers. So it does not matter to a report whether
a secret looks like a reference.

A mapping has each of its keys once (`Json.KeysDistinct`). A report looks values up by key, while
a resolution goes by position; the two agree because of it.
-/

namespace SecretRefs.Tree

/-- The turn in which a leaf gets its secret. -/
def Leaf.turn (leaf : Leaf) (secret : String) : Store.Turn :=
  ⟨.resolve leaf.reference, .ok secret⟩

mutual

/-- The shown paths of the reference leaves of a part, which is at `path`. -/
def pathsAt : Json → (path : String) → List String
  | .string text, path => if Reference.isReference text then [shownPath path] else []
  | .array elements, path => elementPaths elements path 0
  | .object entries, path => entryPaths entries path
  | _, _ => []

/-- The same of elements, the first of which has a position. -/
def elementPaths : List Json → (path : String) → (position : Nat) → List String
  | [], _, _ => []
  | element :: rest, path, position =>
    pathsAt element (childPath path (toString position)) ++ elementPaths rest path (position + 1)

/-- The same of the values of entries. -/
def entryPaths : Json.Entries → (path : String) → List String
  | [], _ => []
  | (key, value) :: rest, path => pathsAt value (childPath path key) ++ entryPaths rest path

end

/-- The shown paths of the reference leaves of a tree, in order. -/
def leafPaths (tree : Json) : List String :=
  pathsAt tree ""

/-- Leaves with their paths, the turns that got their secrets, and the entries on them. -/
inductive Listed : List Leaf → List String → List Store.Turn → List ResolvedPath → Prop where
  | nil : Listed [] [] [] []
  | cons {leaves : List Leaf} {paths : List String} {turns : List Store.Turn}
      {report : List ResolvedPath} (leaf : Leaf) (path secret : String)
      (rest : Listed leaves paths turns report) :
      Listed (leaf :: leaves) (path :: paths) (leaf.turn secret :: turns)
        (⟨path, secret⟩ :: report)

namespace Listed

variable {leaves others : List Leaf} {paths morePaths : List String}
  {turns moreTurns : List Store.Turn} {report more : List ResolvedPath}

theorem append (first : Listed leaves paths turns report)
    (second : Listed others morePaths moreTurns more) :
    Listed (leaves ++ others) (paths ++ morePaths) (turns ++ moreTurns) (report ++ more) := by
  induction first with
  | nil => exact second
  | cons leaf path secret _ inductionHypothesis => exact .cons leaf path secret inductionHypothesis

/-- There are as many entries as leaves and as turns. -/
theorem lengths (listed : Listed leaves paths turns report) :
    report.length = leaves.length ∧ report.length = turns.length := by
  induction listed with
  | nil => exact ⟨rfl, rfl⟩
  | cons leaf path secret _ inductionHypothesis =>
    simp only [List.length_cons, Nat.add_right_cancel_iff]
    exact inductionHypothesis

end Listed

/-- A report is given and lists leaves at these paths, wherever the part is. -/
def Reports (leaves : List Leaf) (turns : List Store.Turn) (paths : List String)
    (outcome : Except Failure (List ResolvedPath)) : Prop :=
  ∃ report, outcome = .ok report ∧ Listed leaves paths turns report

section Walks

variable {turns : List Store.Turn}

/-- The report on elements is made of the reports on each. -/
theorem reports_elements {elements values : List Json}
    (each : ∀ element ∈ elements, ∀ turns resolved,
      Progress.Walked (.due element) turns (.ok resolved) → ∀ path,
        Reports (leaves element) turns (pathsAt element path) (reportAt element resolved path))
    (walked : Progress.WalkedParts (elements.map .due) turns (.ok values)) (path : String)
    (position : Nat) :
    Reports (elements.flatMap leaves) turns (elementPaths elements path position)
      (reportElements elements values path position) := by
  induction elements generalizing turns values position with
  | nil =>
    cases walked
    exact ⟨[], rfl, .nil⟩
  | cons element rest inductionHypothesis =>
    cases walked with
    | @cons _ _ first more value others here later =>
      obtain ⟨report, isReport, listed⟩ :=
        inductionHypothesis (fun one member => each one (List.mem_cons_of_mem element member))
          later (position + 1)
      obtain ⟨head, isHead, headListed⟩ := each element List.mem_cons_self first value here
        (childPath path (toString position))
      refine ⟨head ++ report, ?_, headListed.append listed⟩
      simp only [reportElements, isHead, isReport]

/-- The report on entries is made of the reports on their values, if each key leads to its
value. -/
theorem reports_entries {entries : Json.Entries} {values : List Json} {found : Json.Entries}
    (each : ∀ value ∈ entries.map Prod.snd, ∀ turns resolved,
      Progress.Walked (.due value) turns (.ok resolved) → ∀ path,
        Reports (leaves value) turns (pathsAt value path) (reportAt value resolved path))
    (walked : Progress.WalkedParts ((entries.map Prod.snd).map .due) turns (.ok values))
    (leads : ∀ entry ∈ (entries.map Prod.fst).zip values,
      Json.find? entry.1 found = some entry.2) (path : String) :
    Reports ((entries.map Prod.snd).flatMap leaves) turns (entryPaths entries path)
      (reportEntries entries found path) := by
  induction entries generalizing turns values with
  | nil =>
    cases walked
    exact ⟨[], rfl, .nil⟩
  | cons entry rest inductionHypothesis =>
    obtain ⟨key, given⟩ := entry
    cases walked with
    | @cons _ _ first more value others here later =>
      have leadsHere : Json.find? key found = some value := leads (key, value) (by simp)
      obtain ⟨report, isReport, listed⟩ :=
        inductionHypothesis (fun one member => each one (List.mem_cons_of_mem given member)) later
          fun one member => leads one (by simp [member])
      obtain ⟨head, isHead, headListed⟩ := each given List.mem_cons_self first value here
        (childPath path key)
      refine ⟨head ++ report, ?_, headListed.append listed⟩
      simp only [reportEntries, leadsHere, isHead, isReport]

/-- A walk that ends well gives as many parts as there are. -/
theorem length_of_walkedParts {parts : List Progress} {values : List Json}
    (walked : Progress.WalkedParts parts turns (.ok values)) : values.length = parts.length := by
  induction parts generalizing turns values with
  | nil =>
    cases walked
    rfl
  | cons part parts inductionHypothesis =>
    cases walked with
    | cons first rest => simp [inductionHypothesis rest]

/-- The report on a walk that ends with a tree. -/
theorem reports_of_walked {tree resolved : Json} (distinct : tree.KeysDistinct)
    (walked : Progress.Walked (.due tree) turns (.ok resolved)) (path : String) :
    Reports (leaves tree) turns (pathsAt tree path) (reportAt tree resolved path) := by
  induction tree using viewInduction generalizing turns resolved path with
  | reference tree reference isReference =>
    obtain ⟨answer, rfl, isResolved⟩ := walked.of_reference isReference
    obtain ⟨leaf, rfl, rfl⟩ := leaf_of_view isReference
    have isLeaf := isReference_leaf leaf
    cases answer with
    | error cause => cases isResolved
    | ok secret =>
      cases isResolved
      refine ⟨[⟨shownPath path, secret⟩], ?_, ?_⟩
      · simp [reportAt, isLeaf, replacementText?]
      · rw [leaves_leaf, pathsAt, if_pos isLeaf]
        exact .cons leaf (shownPath path) secret .nil
  | plain tree isPlain =>
    obtain ⟨rfl, isResolved⟩ := walked.of_plain isPlain
    cases isResolved
    rw [leaves_plain isPlain]
    cases tree with
    | string text =>
      have noLeaf := isReference_of_plain isPlain
      refine ⟨[], ?_, ?_⟩
      · simp [reportAt, noLeaf]
      · simpa [pathsAt, noLeaf] using Listed.nil
    | array elements => cases isPlain
    | object entries => cases isPlain
    | null => exact ⟨[], rfl, .nil⟩
    | boolean value => exact ⟨[], rfl, .nil⟩
    | number value => exact ⟨[], rfl, .nil⟩
  | container tree shape parts isContainer inductionHypothesis =>
    obtain ⟨rest, walkedParts, isResolved⟩ := walked.of_container isContainer
    rw [leaves_container isContainer]
    cases rest with
    | error failure => cases isResolved
    | ok values =>
      cases isResolved
      have sameLength := length_of_walkedParts walkedParts
      rw [List.length_map] at sameLength
      rcases container_of_view isContainer with ⟨rfl, rfl⟩ | ⟨entries, rfl, rfl, rfl⟩
      · cases distinct with
        | array distinctParts =>
          have reports := reports_elements
            (fun part member turns resolved walked path =>
              inductionHypothesis part member (distinctParts part member) walked path)
            walkedParts path 0
          simpa [reportAt, pathsAt, Shape.fill, sameLength] using reports
      · cases distinct with
        | object keys distinctValues =>
          have keysKept : ((entries.map Prod.fst).zip values).map Prod.fst =
              entries.map Prod.fst := by
            rw [List.map_fst_zip]
            simp [sameLength]
          have distinctParts : ∀ value ∈ entries.map Prod.snd, value.KeysDistinct := by
            intro value member
            obtain ⟨entry, entryMember, rfl⟩ := List.mem_map.mp member
            exact distinctValues entry entryMember
          have leads : ∀ entry ∈ (entries.map Prod.fst).zip values,
              Json.find? entry.1 ((entries.map Prod.fst).zip values) = some entry.2 := by
            intro entry member
            rw [← keysKept] at keys
            exact Json.find?_of_mem keys member
          exact reports_entries
            (fun part member turns resolved walked path =>
              inductionHypothesis part member (distinctParts part member) walked path)
            walkedParts leads path

/-- What a report tells of a resolution that ended with a tree after these turns. -/
def ReportOf (tree : Json) (turns : List Store.Turn) (resolved : Json)
    (entries : List ResolvedPath) : Prop :=
  report tree resolved = .ok entries ∧ Listed (leaves tree) (leafPaths tree) turns entries ∧
    entries.length = countReferences tree ∧ entries.length = turns.length

theorem reportOf_walked {tree resolved : Json} (distinct : tree.KeysDistinct)
    (walked : Progress.Walked (.due tree) turns (.ok resolved)) :
    ∃ entries, ReportOf tree turns resolved entries := by
  obtain ⟨entries, isReport, listed⟩ := reports_of_walked distinct walked ""
  obtain ⟨asLeaves, asTurns⟩ := listed.lengths
  rw [← countReferences_eq] at asLeaves
  exact ⟨entries, isReport, listed, asLeaves, asTurns⟩

end Walks

section InPlace

variable {State : Type} (store : String) (tree : Json) (backend : Store.Backend State)
  (state : State)

/-- What a resolution in place tells and leaves. -/
def placed : Except Failure Nat × Json :=
  ((resolveInPlace store tree).run backend (fun _ => pure ()) state).1

/-- What a resolution that must not fail tells and leaves. -/
def placedBestEffort : Bool × Json :=
  ((resolveBestEffort store tree).run backend (fun _ => pure ()) state).1

theorem placed_eq :
    placed store tree backend state =
      afterResolution tree ((resolve store tree).on backend state).1 := by
  unfold placed resolveInPlace
  rw [Dialogue.run_bind]
  rfl

theorem placedBestEffort_eq :
    placedBestEffort store tree backend state =
      (succeeded (placed store tree backend state).1, (placed store tree backend state).2) := by
  unfold placedBestEffort resolveBestEffort
  rw [Dialogue.run_bind]
  rfl

end InPlace

/-- The report on a tree and its resolution lists the leaves with the secrets that their calls
got, on any store and in whatever order the calls end. A resolution in place counts as many and
leaves the resolution in the place of the tree; if it fails it leaves the tree, and only then a
resolution that must not fail tells so. -/
theorem resolve_then_report (store : String) {tree : Json} (distinct : tree.KeysDistinct) :
    (∀ {State : Type} (backend : Store.Backend State) (state : State),
      match ((resolve store tree).on backend state).1 with
      | .ok resolved => ∃ entries,
          ReportOf tree ((resolve store tree).turns backend state) resolved entries ∧
          placed store tree backend state = (.ok entries.length, resolved) ∧
          placedBestEffort store tree backend state = (true, resolved)
      | .error failure =>
          placed store tree backend state = (.error failure, tree) ∧
          placedBestEffort store tree backend state = (false, tree)) ∧
    (∀ turns outcome, Progress.Steps (.due tree) turns (Progress.ended outcome) →
      match outcome with
      | .ok resolved => ∃ ordered entries, ordered.Perm turns ∧
          ReportOf tree ordered resolved entries ∧
          afterResolution tree outcome = (.ok entries.length, resolved)
      | .error failure => afterResolution tree outcome = (.error failure, tree)) := by
  constructor
  · intro State backend state
    have walked := Progress.walked_resolve store backend tree state
    rw [placedBestEffort_eq, placed_eq]
    generalize ((resolve store tree).on backend state).1 = outcome at walked ⊢
    cases outcome with
    | error failure => exact ⟨rfl, rfl⟩
    | ok resolved =>
      obtain ⟨entries, isReport⟩ := reportOf_walked distinct walked
      have counted : entries.length = countReferences tree := isReport.2.2.1
      exact ⟨entries, isReport, by rw [counted]; rfl, rfl⟩
  · intro turns outcome steps
    cases outcome with
    | error failure => rfl
    | ok resolved =>
      obtain ⟨ordered, same, walked⟩ := Progress.Walked.of_steps steps
      obtain ⟨entries, isReport⟩ := reportOf_walked distinct walked
      have counted : entries.length = countReferences tree := isReport.2.2.1
      exact ⟨ordered, entries, same, isReport, by rw [counted]; rfl⟩

/-- A tree with one reference in two places, whose secret looks like a reference. -/
theorem mail_then_report :
    let tree : Json := .object [("key", .string "op://Work/Mail/token"),
      ("list", .array [.null, .string "op://Work/Mail/token"])]
    let memory := (Store.Memory.empty.addItem "Work" "Mail" [("token", "op://a/b/c")]).2
    tree.KeysDistinct ∧ ∃ resolved entries,
      ((resolve "memory" tree).on Store.Memory.answer memory).1 = .ok resolved ∧
      texts resolved = ["op://a/b/c", "op://a/b/c"] ∧
      ReportOf tree ((resolve "memory" tree).turns Store.Memory.answer memory) resolved entries ∧
      placed "memory" tree Store.Memory.answer memory = (.ok 2, resolved) := by
  intro tree memory
  have distinct : tree.KeysDistinct := by
    refine .object (by decide) ?_
    simp only [List.forall_mem_cons]
    refine ⟨.string _, .array ?_, by simp⟩
    simp only [List.forall_mem_cons]
    exact ⟨.null, .string _, by simp⟩
  have found : (((resolve "memory" tree).on Store.Memory.answer memory).1.toOption.map texts) =
      some ["op://a/b/c", "op://a/b/c"] := by
    decide +kernel +zetaReduce
  have counted : countReferences tree = 2 := by decide +kernel +zetaReduce
  -- From here on only these facts about the tree and the store count, not what they are.
  clear_value tree memory
  have report := (resolve_then_report "memory" distinct).1 Store.Memory.answer memory
  generalize ((resolve "memory" tree).on Store.Memory.answer memory).1 = outcome at found report ⊢
  cases outcome with
  | error failure => cases found
  | ok resolved =>
    obtain ⟨entries, isReport, isPlaced, _⟩ := report
    refine ⟨distinct, resolved, entries, rfl, Option.some.inj found, isReport, ?_⟩
    rw [isPlaced, isReport.2.2.1, counted]

end SecretRefs.Tree

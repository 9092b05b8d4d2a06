import SecretRefs.Proofs.Tree.Position

/-!
# Reports on any two trees

A report is given exactly if the second tree covers the first (`Covers`). That is a matter of each
node of the first tree for itself (`Fits`), and a report goes through the nodes in their order:
it has an entry for each reference, and ends at the first node that does not fit (`Told`). So one
induction on the first tree tells all about a report, whatever the second tree is.
-/

namespace SecretRefs.Tree

/-- Whether a tree is no container. -/
def isScalar : Json → Bool
  | .array _ => false
  | .object _ => false
  | _ => true

/-- Whether a tree is a string that is a reference. -/
def holdsReference : Json → Bool
  | .string text => Reference.isReference text
  | _ => false

/-- Whether a tree has the containers of another one and scalars in the places of its references.
In the places of other scalars it may have anything, and a mapping may have further keys. -/
inductive Covers : (given resolved : Json) → Prop where
  | reference {given resolved : Json} (isReference : holdsReference given = true)
      (scalar : isScalar resolved = true) : Covers given resolved
  | plain {given resolved : Json} (scalar : isScalar given = true)
      (noReference : holdsReference given = false) : Covers given resolved
  | array {elements values : List Json} (sameLength : elements.length = values.length)
      (each : ∀ (index : Nat) (given resolved : Json), elements[index]? = some given →
        values[index]? = some resolved → Covers given resolved) :
      Covers (.array elements) (.array values)
  | mapping {entries found : Json.Entries}
      (present : ∀ key given, (key, given) ∈ entries →
        ∃ resolved, Json.find? key found = some resolved)
      (each : ∀ key given resolved, (key, given) ∈ entries →
        Json.find? key found = some resolved → Covers given resolved) :
      Covers (.object entries) (.object found)

/-- Whether a part may stand in the place of another one, as far as the places below are not
looked at. -/
inductive Suits : (part found : Json) → Prop where
  | reference {part found : Json} (isReference : holdsReference part = true)
      (scalar : isScalar found = true) : Suits part found
  | plain {part found : Json} (scalar : isScalar part = true)
      (noReference : holdsReference part = false) : Suits part found
  | array {elements values : List Json} (sameLength : elements.length = values.length) :
      Suits (.array elements) (.array values)
  | mapping (entries found : Json.Entries) : Suits (.object entries) (.object found)

/-- Whether a tree has something that suits a node at its position. -/
def Fits (resolved : Json) (node : Node) : Prop :=
  ∃ found, at? node.position resolved = some found ∧ Suits node.part found

/-- The text of a scalar: a string is its own text, another scalar has its JSON text. -/
inductive ScalarText : Json → String → Prop where
  | string (text : String) : ScalarText (.string text) text
  | other {scalar : Json} (isScalar : isScalar scalar = true) (noString : scalar.text? = none) :
      ScalarText scalar scalar.render

/-- An entry of a report shows the path of a node and has the text found at its position. -/
structure Tells (resolved : Json) (node : Node) (entry : ResolvedPath) : Prop where
  path : entry.path = shownPath (pathOf node.position)
  value : ∃ found, at? node.position resolved = some found ∧ ScalarText found entry.value

/-- What a report tells of nodes that it goes through one after the other. -/
inductive Told (resolved : Json) : List Node → Except Failure (List ResolvedPath) → Prop where
  | nil : Told resolved [] (.ok [])
  | misfit {node : Node} {later : List Node} (misfits : ¬ Fits resolved node) :
      Told resolved (node :: later)
        (.error (.shapeMismatch (shownPath (pathOf node.position))))
  | other {node : Node} {later : List Node} {outcome : Except Failure (List ResolvedPath)}
      (noReference : holdsReference node.part = false) (fits : Fits resolved node)
      (rest : Told resolved later outcome) : Told resolved (node :: later) outcome
  | reference {node : Node} {later : List Node} {outcome : Except Failure (List ResolvedPath)}
      {entry : ResolvedPath} (isReference : holdsReference node.part = true)
      (fits : Fits resolved node) (tells : Tells resolved node entry)
      (rest : Told resolved later outcome) :
      Told resolved (node :: later) (outcome.map (entry :: ·))

variable {given resolved whole : Json} {position : List Branch}

/-! ## Scalars -/

theorem isScalar_of_holdsReference (isReference : holdsReference given = true) :
    isScalar given = true := by
  cases given with
  | string text => rfl
  | _ => cases isReference

theorem nodesAt_scalar (scalar : isScalar given = true) (position : List Branch) :
    nodesAt given position = [⟨position, given⟩] := by
  cases given with
  | array elements => cases scalar
  | object entries => cases scalar
  | _ => rfl

theorem replacementText?_eq_some_iff {text : String} :
    replacementText? resolved = some text ↔ ScalarText resolved text := by
  constructor
  · intro isText
    cases resolved with
    | string own =>
      cases isText
      exact .string _
    | array elements => cases isText
    | object entries => cases isText
    | _ =>
      cases isText
      exact .other rfl rfl
  · intro isText
    cases isText with
    | string own => rfl
    | other scalar noString =>
      cases resolved with
      | string own => cases noString
      | array elements => cases scalar
      | object entries => cases scalar
      | _ => rfl

theorem replacementText?_eq_none_iff :
    replacementText? resolved = none ↔ isScalar resolved = false := by
  cases resolved with
  | array elements => exact ⟨fun _ => rfl, fun _ => rfl⟩
  | object entries => exact ⟨fun _ => rfl, fun _ => rfl⟩
  | _ => exact ⟨nofun, nofun⟩

/-! ## What suits a node -/

theorem suits_array_iff {elements : List Json} {found : Json} :
    Suits (.array elements) found ↔
      ∃ values, found = .array values ∧ elements.length = values.length := by
  constructor
  · intro suits
    cases suits with
    | reference isReference scalar => cases isReference
    | plain scalar noReference => cases scalar
    | array sameLength => exact ⟨_, rfl, sameLength⟩
  · rintro ⟨values, rfl, sameLength⟩
    exact .array sameLength

theorem suits_object_iff {entries : Json.Entries} {found : Json} :
    Suits (.object entries) found ↔ ∃ others, found = .object others := by
  constructor
  · intro suits
    cases suits with
    | reference isReference scalar => cases isReference
    | plain scalar noReference => cases scalar
    | mapping entries found => exact ⟨found, rfl⟩
  · rintro ⟨others, rfl⟩
    exact .mapping entries others

theorem not_fits (leads : at? position whole = some resolved) (unsuited : ¬ Suits given resolved) :
    ¬ Fits whole ⟨position, given⟩ := by
  rintro ⟨found, isFound, suits⟩
  obtain rfl : resolved = found := Option.some.inj (leads.symm.trans isFound)
  exact unsuited suits

/-! ## Trees that cover others -/

theorem self_mem_nodesAt (tree : Json) (position : List Branch) :
    ⟨position, tree⟩ ∈ nodesAt tree position := by
  rw [nodesAt_eq]
  exact List.mem_cons_self

theorem mem_nodesAt_of_branch {one : Branch × Json} {node : Node} (member : one ∈ branches given)
    (below : node ∈ nodesAt one.2 (position ++ [one.1])) : node ∈ nodesAt given position := by
  rw [nodesAt_eq]
  exact List.mem_cons_of_mem _ (List.mem_flatMap.mpr ⟨one, member, below⟩)

/-- What covers a part has something for each of its nodes. -/
theorem fits_of_covers (covers : Covers given resolved)
    (leads : at? position whole = some resolved) :
    ∀ node ∈ nodesAt given position, Fits whole node := by
  induction covers generalizing position with
  | reference isReference scalar =>
    rw [nodesAt_scalar (isScalar_of_holdsReference isReference)]
    rintro node (_ | ⟨_, ⟨⟩⟩)
    exact ⟨_, leads, .reference isReference scalar⟩
  | plain scalar noReference =>
    rw [nodesAt_scalar scalar]
    rintro node (_ | ⟨_, ⟨⟩⟩)
    exact ⟨_, leads, .plain scalar noReference⟩
  | @array elements values sameLength each inductionHypothesis =>
    intro node member
    rw [nodesAt_eq, List.mem_cons, List.mem_flatMap] at member
    rcases member with rfl | ⟨⟨branch, part⟩, inElements, below⟩
    · exact ⟨_, leads, .array sameLength⟩
    · obtain ⟨index, isPart, rfl⟩ := mem_branches_array_iff.mp inElements
      have bounded : index < values.length :=
        sameLength ▸ (List.getElem?_eq_some_iff.mp isPart).1
      have isValue := List.getElem?_eq_getElem bounded
      refine inductionHypothesis index part _ isPart isValue ?_ node below
      rw [at?_concat leads]
      exact isValue
  | @mapping entries found present each inductionHypothesis =>
    intro node member
    rw [nodesAt_eq, List.mem_cons, List.mem_flatMap] at member
    rcases member with rfl | ⟨⟨branch, part⟩, inEntries, below⟩
    · exact ⟨_, leads, .mapping entries found⟩
    · obtain ⟨key, isEntry, rfl⟩ := mem_branches_object_iff.mp inEntries
      obtain ⟨value, isValue⟩ := present key part isEntry
      refine inductionHypothesis key part value isEntry isValue ?_ node below
      rw [at?_concat leads]
      exact isValue

/-- What has something for each node of a part covers it. -/
theorem covers_of_fits (leads : at? position whole = some resolved)
    (fits : ∀ node ∈ nodesAt given position, Fits whole node) : Covers given resolved := by
  induction given using branchInduction generalizing position resolved with
  | step given inductionHypothesis =>
    obtain ⟨found, isFound, suits⟩ := fits _ (self_mem_nodesAt given position)
    obtain rfl : resolved = found := Option.some.inj (leads.symm.trans isFound)
    -- What is below a branch is covered, if there is anything.
    have each : ∀ branch part value, (branch, part) ∈ branches given →
        branch.below? resolved = some value → Covers part value := by
      intro branch part value member isValue
      refine inductionHypothesis (branch, part) member ((at?_concat leads branch).trans isValue)
        fun node below => fits node (mem_nodesAt_of_branch member below)
    cases suits with
    | reference isReference scalar => exact .reference isReference scalar
    | plain scalar noReference => exact .plain scalar noReference
    | array sameLength =>
      exact .array sameLength fun index part value isPart isValue =>
        each (.element index) part value (mem_branches_array_iff.mpr ⟨index, isPart, rfl⟩) isValue
    | mapping entries found =>
      refine .mapping (fun key part isEntry => ?_) fun key part value isEntry isValue =>
        each (.entry key) part value (mem_branches_object_iff.mpr ⟨key, isEntry, rfl⟩) isValue
      have member : (.entry key, part) ∈ branches (.object entries) :=
        mem_branches_object_iff.mpr ⟨key, isEntry, rfl⟩
      obtain ⟨value, isValue, _⟩ :=
        fits _ (mem_nodesAt_of_branch member (self_mem_nodesAt part _))
      rw [at?_concat leads] at isValue
      exact ⟨value, isValue⟩

/-! ## What is told -/

namespace Told

variable {first second : List Node} {outcome others : Except Failure (List ResolvedPath)}

/-- What is told of nodes and then of others. -/
theorem append (told : Told resolved first outcome) (toldOthers : Told resolved second others) :
    Told resolved (first ++ second)
      (outcome.bind fun report => others.map (report ++ ·)) := by
  induction told with
  | nil =>
    have same : others.map (([] : List ResolvedPath) ++ ·) = others := by
      cases others <;> rfl
    rw [List.nil_append]
    simpa only [Except.bind, same] using toldOthers
  | misfit misfits => exact .misfit misfits
  | other noReference fits _ inductionHypothesis =>
    exact .other noReference fits inductionHypothesis
  | @reference node later outcome entry isReference fits tells _ inductionHypothesis =>
    have same : ((outcome.map (entry :: ·)).bind fun report => others.map (report ++ ·)) =
        (outcome.bind fun report => others.map (report ++ ·)).map (entry :: ·) := by
      cases outcome with
      | error failure => rfl
      | ok report => cases others <;> rfl
    rw [same]
    exact .reference isReference fits tells inductionHypothesis

/-- If a report is given, all nodes fit, and it has an entry for each reference. -/
theorem of_ok (told : Told resolved first outcome) {report : List ResolvedPath}
    (isReport : outcome = .ok report) :
    (∀ node ∈ first, Fits resolved node) ∧
      List.Forall₂ (Tells resolved) (first.filter fun node => holdsReference node.part) report := by
  induction told generalizing report with
  | nil =>
    cases isReport
    exact ⟨nofun, .nil⟩
  | misfit misfits => cases isReport
  | other noReference fits _ inductionHypothesis =>
    obtain ⟨all, listed⟩ := inductionHypothesis isReport
    refine ⟨List.forall_mem_cons.mpr ⟨fits, all⟩, ?_⟩
    rwa [List.filter_cons, noReference, if_neg Bool.false_ne_true]
  | @reference node later outcome entry isReference fits tells _ inductionHypothesis =>
    cases outcome with
    | error failure => cases isReport
    | ok rest =>
      cases isReport
      obtain ⟨all, listed⟩ := inductionHypothesis rfl
      refine ⟨List.forall_mem_cons.mpr ⟨fits, all⟩, ?_⟩
      rw [List.filter_cons, isReference, if_pos rfl]
      exact .cons tells listed

/-- If no report is given, the failure names the first node that does not fit. -/
theorem of_error (told : Told resolved first outcome) {failure : Failure}
    (failed : outcome = .error failure) :
    ∃ earlier node later, first = earlier ++ node :: later ∧
      (∀ one ∈ earlier, Fits resolved one) ∧ ¬ Fits resolved node ∧
      failure = .shapeMismatch (shownPath (pathOf node.position)) := by
  induction told with
  | nil => cases failed
  | @misfit node later misfits =>
    cases failed
    exact ⟨[], node, later, rfl, nofun, misfits, rfl⟩
  | @other before _ _ noReference fits _ inductionHypothesis =>
    obtain ⟨earlier, node, later, rfl, all, misfits, isFailure⟩ := inductionHypothesis failed
    exact ⟨before :: earlier, node, later, rfl, List.forall_mem_cons.mpr ⟨fits, all⟩, misfits,
      isFailure⟩
  | @reference before _ outcome entry isReference fits tells _ inductionHypothesis =>
    cases outcome with
    | ok rest => cases failed
    | error cause =>
      cases failed
      obtain ⟨earlier, node, later, rfl, all, misfits, isFailure⟩ := inductionHypothesis rfl
      exact ⟨before :: earlier, node, later, rfl, List.forall_mem_cons.mpr ⟨fits, all⟩, misfits,
        isFailure⟩

end Told

/-- Whether a report on a part tells of its nodes, whatever stands in its place. -/
def IsTold (given : Json) : Prop :=
  ∀ whole resolved position, at? position whole = some resolved →
    Told whole (nodesAt given position) (reportAt given resolved (pathOf position))

theorem told_elements {elements values : List Json} (each : ∀ element ∈ elements, IsTold element)
    (sameLength : elements.length = values.length) (index : Nat)
    (leads : ∀ offset value, values[offset]? = some value →
      at? (position ++ [.element (index + offset)]) whole = some value) :
    Told whole (elementNodes elements position index)
      (reportElements elements values (pathOf position) index) := by
  induction elements generalizing values index with
  | nil =>
    rw [reportElements]
    exact .nil
  | cons element rest inductionHypothesis =>
    cases values with
    | nil => cases sameLength
    | cons value values =>
      have toldHere := each element List.mem_cons_self whole value _ (leads 0 value rfl)
      have toldRest := inductionHypothesis
        (fun one member => each one (List.mem_cons_of_mem element member))
        (Nat.succ.inj sameLength) (index + 1) fun offset found isFound => by
          rw [Nat.add_assoc, Nat.add_comm 1]
          exact leads (offset + 1) found isFound
      rw [Nat.add_zero, pathOf_concat] at toldHere
      rw [elementNodes, reportElements_cons]
      exact toldHere.append toldRest

theorem told_entries {entries found : Json.Entries}
    (each : ∀ entry ∈ entries, IsTold entry.2)
    (leads : at? position whole = some (.object found)) :
    Told whole (entryNodes entries position) (reportEntries entries found (pathOf position)) := by
  induction entries with
  | nil =>
    rw [reportEntries]
    exact .nil
  | cons entry rest inductionHypothesis =>
    obtain ⟨key, given⟩ := entry
    have toldRest := inductionHypothesis fun one member =>
      each one (List.mem_cons_of_mem _ member)
    have here : at? (position ++ [.entry key]) whole = Json.find? key found :=
      at?_concat leads (.entry key)
    have isPath : pathOf (position ++ [.entry key]) = childPath (pathOf position) key :=
      pathOf_concat position (.entry key)
    rw [entryNodes, reportEntries_cons]
    cases isFound : Json.find? key found with
    | none =>
      -- The value itself is the node that has nothing at its position.
      have misfits : ¬ Fits whole ⟨position ++ [.entry key], given⟩ := by
        rintro ⟨value, isValue, _⟩
        cases (isValue.symm.trans here).trans isFound
      rw [nodesAt_eq, List.cons_append, mismatch, ← isPath]
      exact .misfit misfits
    | some value =>
      have toldHere := each _ List.mem_cons_self whole value _ (here.trans isFound)
      rw [isPath] at toldHere
      exact toldHere.append toldRest

/-- On a string the report tells of the string. -/
theorem isTold_string (text : String) : IsTold (.string text) := by
  intro whole resolved position leads
  rw [reportAt, nodesAt_scalar rfl]
  cases isReference : Reference.isReference text with
  | false =>
    rw [if_neg Bool.false_ne_true]
    exact .other isReference ⟨resolved, leads, .plain rfl isReference⟩ .nil
  | true =>
    rw [if_pos rfl]
    cases isText : replacementText? resolved with
    | none =>
      refine .misfit (not_fits leads fun suits => ?_)
      have container := replacementText?_eq_none_iff.mp isText
      cases suits with
      | reference _ scalar => cases container.symm.trans scalar
      | plain _ noReference => cases isReference.symm.trans noReference
    | some value =>
      have isScalarText := replacementText?_eq_some_iff.mp isText
      have holds : holdsReference (.string text) = true := isReference
      have scalar : isScalar resolved = true := by
        rw [← Bool.not_eq_false, ← replacementText?_eq_none_iff, isText]
        exact Option.some_ne_none value
      exact .reference holds ⟨resolved, leads, .reference holds scalar⟩
        ⟨rfl, resolved, leads, isScalarText⟩ .nil

theorem isTold_array {elements : List Json} (each : ∀ element ∈ elements, IsTold element) :
    IsTold (.array elements) := by
  intro whole resolved position leads
  rw [nodesAt]
  cases resolved with
  | array values =>
    rw [reportAt]
    by_cases sameLength : elements.length = values.length
    · rw [if_pos (beq_iff_eq.mpr sameLength)]
      refine .other rfl ⟨_, leads, .array sameLength⟩
        (told_elements each sameLength 0 fun offset value isValue => ?_)
      rw [Nat.zero_add, at?_concat leads]
      exact isValue
    · rw [if_neg (mt beq_iff_eq.mp sameLength)]
      refine .misfit (not_fits leads fun suits => ?_)
      obtain ⟨others, same, isLength⟩ := suits_array_iff.mp suits
      cases same
      exact sameLength isLength
  | _ =>
    refine .misfit (not_fits leads fun suits => ?_)
    obtain ⟨values, same, _⟩ := suits_array_iff.mp suits
    cases same

theorem isTold_object {entries : Json.Entries} (each : ∀ entry ∈ entries, IsTold entry.2) :
    IsTold (.object entries) := by
  intro whole resolved position leads
  rw [nodesAt]
  cases resolved with
  | object found =>
    rw [reportAt]
    exact .other rfl ⟨_, leads, .mapping entries found⟩ (told_entries each leads)
  | _ =>
    refine .misfit (not_fits leads fun suits => ?_)
    obtain ⟨others, same⟩ := suits_object_iff.mp suits
    cases same

/-- A report tells of the nodes of the first tree, whatever the second one is. -/
theorem isTold (given : Json) : IsTold given := by
  induction given using branchInduction with
  | step given inductionHypothesis =>
    cases given with
    | string text => exact isTold_string text
    | array elements =>
      refine isTold_array fun element member => ?_
      obtain ⟨index, isElement⟩ := List.getElem?_of_mem member
      exact inductionHypothesis (.element index, element)
        (mem_branches_array_iff.mpr ⟨index, isElement, rfl⟩)
    | object entries =>
      exact isTold_object fun entry member => inductionHypothesis (.entry entry.1, entry.2)
        (mem_branches_object_iff.mpr ⟨entry.1, member, rfl⟩)
    | _ =>
      intro whole resolved position leads
      exact .other rfl ⟨resolved, leads, .plain rfl rfl⟩ .nil

/-! ## Reports -/

/-- The nodes that hold references hold the leaves, in order. -/
theorem leaves_eq_nodes (tree : Json) (position : List Branch) :
    ((nodesAt tree position).filter fun node => holdsReference node.part).map Node.part =
      (leaves tree).map fun leaf => .string leaf.text := by
  induction tree using viewInduction generalizing position with
  | reference tree reference isReference =>
    obtain ⟨leaf, rfl, _⟩ := leaf_of_view isReference
    have holds : holdsReference (.string leaf.text) = true := isReference_leaf leaf
    rw [nodesAt_scalar rfl, List.filter_cons, holds, leaves_leaf]
    rfl
  | plain tree isPlain =>
    have scalar : isScalar tree = true := by
      cases tree with
      | array elements => cases isPlain
      | object entries => cases isPlain
      | _ => rfl
    have noReference : holdsReference tree = false := by
      cases tree with
      | string text => exact isReference_of_plain isPlain
      | _ => rfl
    rw [nodesAt_scalar scalar, List.filter_cons, noReference, leaves_plain isPlain]
    rfl
  | container tree shape parts isContainer inductionHypothesis =>
    have noReference : holdsReference tree = false := by
      rcases container_of_view isContainer with ⟨_, rfl⟩ | ⟨entries, _, _, rfl⟩
      · rfl
      · rfl
    have areParts := parts_of_view isContainer
    rw [nodesAt_eq, List.filter_cons, noReference, if_neg Bool.false_ne_true,
      List.filter_flatMap, List.map_flatMap, leaves_container isContainer, List.map_flatMap,
      ← areParts, List.flatMap_map]
    refine List.flatMap_congr fun one member => inductionHypothesis one.2 ?_ _
    rw [← areParts]
    exact List.mem_map_of_mem member

/-- The references that are counted are the nodes that hold one. -/
theorem countReferences_eq_nodes (tree : Json) (position : List Branch) :
    countReferences tree =
      ((nodesAt tree position).filter fun node => holdsReference node.part).length := by
  have sameLength := congrArg List.length (leaves_eq_nodes tree position)
  rw [List.length_map, List.length_map] at sameLength
  rw [countReferences_eq, sameLength]

/-- A report on two trees tells of the nodes of the first. -/
theorem told_report (given resolved : Json) :
    Told resolved (nodes given) (report given resolved) :=
  isTold given resolved resolved [] rfl

/-- That all nodes fit is what a report and a tree that covers the other have in common. -/
theorem exists_report_iff_covers :
    (∃ entries, report given resolved = .ok entries) ↔ Covers given resolved := by
  have told := told_report given resolved
  constructor
  · rintro ⟨entries, isReport⟩
    have leads : at? [] resolved = some resolved := rfl
    exact covers_of_fits leads (told.of_ok isReport).1
  · intro covers
    cases isReport : report given resolved with
    | ok entries => exact ⟨entries, rfl⟩
    | error failure =>
      obtain ⟨earlier, node, later, isNodes, _, misfits, _⟩ := told.of_error isReport
      have member : node ∈ nodes given := by
        rw [isNodes]
        exact List.mem_append_right _ List.mem_cons_self
      exact absurd (fits_of_covers covers rfl node member) misfits

/-- A report on any two trees is given exactly if the second covers the first. It then has as many
entries as the first has references, one for each in their order, with the text found at the same
position of the second. If no report is given, the failure names the first node that has nothing
that suits it at its position of the second tree. The nodes are what the positions of the first tree
lead to. -/
theorem report_of_any (given resolved : Json) :
    ((∃ entries, report given resolved = .ok entries) ↔ Covers given resolved) ∧
    (∀ entries, report given resolved = .ok entries →
      entries.length = countReferences given ∧
      List.Forall₂ (Tells resolved)
        ((nodes given).filter fun node => holdsReference node.part) entries) ∧
    (∀ failure, report given resolved = .error failure →
      ∃ earlier node later, nodes given = earlier ++ node :: later ∧
        (∀ one ∈ earlier, Fits resolved one) ∧ ¬ Fits resolved node ∧
        failure = .shapeMismatch (shownPath (pathOf node.position))) ∧
    (given.KeysDistinct → ∀ position part,
      ⟨position, part⟩ ∈ nodes given ↔ at? position given = some part) := by
  refine ⟨exists_report_iff_covers, fun entries isReport => ?_, fun failure failed => ?_,
    fun distinct position part => mem_nodes_iff distinct position⟩
  · obtain ⟨_, listed⟩ := (told_report given resolved).of_ok isReport
    refine ⟨?_, listed⟩
    rw [countReferences_eq_nodes given [], ← listed.length_eq]
    rfl
  · exact (told_report given resolved).of_error failed

/-- Two references in a tree, a tree that covers it with its keys in another order, and one whose
array is too short. -/
theorem list_reported :
    let given : Json := .object [("key", .string "op://v/i/f"),
      ("list", .array [.null, .string "op://v/i/g"])]
    let resolved : Json := .object [("list", .array [.object [], .number (.whole 42)]),
      ("more", .null), ("key", .string "secret")]
    let short : Json := .object [("list", .array [.string "secret"]), ("key", .boolean true)]
    given.KeysDistinct ∧
    report given resolved = .ok [⟨"key", "secret"⟩, ⟨"list.1", "42"⟩] ∧ Covers given resolved ∧
    countReferences given = 2 ∧
    report given short = .error (.shapeMismatch "list") ∧ ¬ Covers given short ∧
    ⟨[.entry "list", .element 1], .string "op://v/i/g"⟩ ∈ nodes given := by
  intro given resolved short
  have distinct : given.KeysDistinct := by
    refine .object (by decide) ?_
    simp only [List.forall_mem_cons]
    refine ⟨.string _, .array ?_, by simp⟩
    simp only [List.forall_mem_cons]
    exact ⟨.null, .string _, by simp⟩
  have isReport : report given resolved = .ok [⟨"key", "secret"⟩, ⟨"list.1", "42"⟩] :=
    Failure.eq_ok_iff.mpr (by decide +kernel)
  have failed : report given short = .error (.shapeMismatch "list") := rfl
  obtain ⟨covered, listed, _, isNodes⟩ := report_of_any given resolved
  refine ⟨distinct, isReport, covered.mp ⟨_, isReport⟩, (listed _ isReport).1.symm, failed, ?_,
    (isNodes distinct _ _).mpr rfl⟩
  intro covers
  obtain ⟨entries, isOk⟩ := (report_of_any given short).1.mpr covers
  cases failed.symm.trans isOk

end SecretRefs.Tree

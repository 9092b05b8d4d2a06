import Mathlib.Algebra.GroupWithZero.Nat
import Mathlib.Data.List.Basic
import SecretRefs.Proofs.Tree.Resolution
import SecretRefs.Tree.Report

/-!
# Trees by their parts

To a resolution a tree is a reference, a container of parts, or plain, that is, nothing to it.
`view` tells which. The elements of an array and the values of a mapping are its parts alike;
the `Shape` of a container is the rest of it. So what goes through a tree needs one equation
for each view and one induction (`viewInduction`), not one for each kind of container.
-/

namespace SecretRefs.Tree

/-- A container without its parts. -/
inductive Shape where
  | array
  | mapping (keys : List String)

/-- The container of a shape with these parts. -/
def Shape.fill : Shape → List Json → Json
  | .array, parts => .array parts
  | .mapping keys, parts => .object (keys.zip parts)

/-- What a tree is to a resolution. -/
inductive View where
  | reference (reference : Reference)
  | plain
  | container (shape : Shape) (parts : List Json)

/-- The view of a text. -/
def viewText (text : String) : View :=
  match Reference.parse? text with
  | some reference => .reference reference
  | none => .plain

/-- The view of a tree. -/
def view : Json → View
  | .string text => viewText text
  | .array elements => .container .array elements
  | .object entries => .container (.mapping (entries.map Prod.fst)) (entries.map Prod.snd)
  | _ => .plain

variable {tree part : Json} {reference : Reference} {shape : Shape} {parts : List Json}

/-- A text is viewed as a leaf or as plain. -/
theorem viewText_cases (text : String) :
    (∃ leaf : Leaf, leaf.text = text ∧ viewText text = .reference leaf.reference) ∨
      Reference.parse? text = none ∧ viewText text = .plain := by
  unfold viewText
  cases parsed : Reference.parse? text with
  | some reference => exact .inl ⟨⟨text, reference, parsed⟩, rfl, rfl⟩
  | none => exact .inr ⟨rfl, rfl⟩

theorem isReference_leaf (leaf : Leaf) : Reference.isReference leaf.text = true := by
  rw [Reference.isReference, leaf.parsed]
  rfl

theorem isReference_of_plain {text : String} (isPlain : view (.string text) = .plain) :
    Reference.isReference text = false := by
  rcases viewText_cases text with ⟨leaf, _, isLeaf⟩ | ⟨unparsed, _⟩
  · cases isLeaf.symm.trans isPlain
  · rw [Reference.isReference, unparsed]
    rfl

/-- A tree that is viewed as a reference is a leaf. -/
theorem leaf_of_view (isReference : view tree = .reference reference) :
    ∃ leaf : Leaf, tree = .string leaf.text ∧ leaf.reference = reference := by
  cases tree with
  | string text =>
    rcases viewText_cases text with ⟨leaf, rfl, isLeaf⟩ | ⟨_, isPlain⟩
    · exact ⟨leaf, rfl, View.reference.inj (isLeaf.symm.trans isReference)⟩
    · cases isPlain.symm.trans isReference
  | _ => cases isReference

/-- A tree that is viewed as a container is an array or a mapping. -/
theorem container_of_view (isContainer : view tree = .container shape parts) :
    (shape = .array ∧ tree = .array parts) ∨
      ∃ entries, shape = .mapping (entries.map Prod.fst) ∧ parts = entries.map Prod.snd ∧
        tree = .object entries := by
  cases tree with
  | string text =>
    rcases viewText_cases text with ⟨leaf, _, isLeaf⟩ | ⟨_, isPlain⟩
    · cases isLeaf.symm.trans isContainer
    · cases isPlain.symm.trans isContainer
  | array elements =>
    cases isContainer
    exact .inl ⟨rfl, rfl⟩
  | object entries =>
    cases isContainer
    exact .inr ⟨entries, rfl, rfl, rfl⟩
  | _ => cases isContainer

theorem zip_keys_values (entries : Json.Entries) :
    (entries.map Prod.fst).zip (entries.map Prod.snd) = entries := by
  have unzipped := List.zip_unzip entries
  rwa [List.unzip_eq_map] at unzipped

theorem sizeOf_part (isContainer : view tree = .container shape parts) (member : part ∈ parts) :
    sizeOf part < sizeOf tree := by
  rcases container_of_view isContainer with ⟨rfl, rfl⟩ | ⟨entries, rfl, rfl, rfl⟩
  · have := List.sizeOf_lt_of_mem member
    simp only [Json.array.sizeOf_spec]
    omega
  · obtain ⟨⟨key, value⟩, entryMember, rfl⟩ := List.mem_map.mp member
    have := List.sizeOf_lt_of_mem entryMember
    simp only [Json.object.sizeOf_spec, Prod.mk.sizeOf_spec] at this ⊢
    omega

/-- What holds of references and plain trees, and of containers if it does of their parts, holds
of all trees. -/
@[elab_as_elim]
theorem viewInduction {motive : Json → Prop}
    (reference : ∀ tree reference, view tree = .reference reference → motive tree)
    (plain : ∀ tree, view tree = .plain → motive tree)
    (container : ∀ tree shape parts, view tree = .container shape parts →
      (∀ part ∈ parts, motive part) → motive tree) (tree : Json) : motive tree :=
  match isView : view tree with
  | .reference found => reference tree found isView
  | .plain => plain tree isView
  | .container shape parts => container tree shape parts isView fun part member =>
    have := sizeOf_part isView member
    viewInduction reference plain container part
termination_by sizeOf tree

/-! ## What goes through trees -/

theorem elementTexts_eq (elements : List Json) :
    elementTexts elements = elements.flatMap texts := by
  induction elements with
  | nil => rfl
  | cons element rest inductionHypothesis =>
    rw [elementTexts, inductionHypothesis, List.flatMap_cons]

theorem entryTexts_eq (entries : Json.Entries) :
    entryTexts entries = (entries.map Prod.snd).flatMap texts := by
  induction entries with
  | nil => rfl
  | cons entry rest inductionHypothesis =>
    rw [entryTexts, inductionHypothesis, List.map_cons, List.flatMap_cons]

theorem mapElementTexts_eq (change : String → String) (elements : List Json) :
    mapElementTexts change elements = elements.map (mapTexts change) := by
  induction elements with
  | nil => rfl
  | cons element rest inductionHypothesis =>
    rw [mapElementTexts, inductionHypothesis, List.map_cons]

theorem mapEntryTexts_eq (change : String → String) (entries : Json.Entries) :
    mapEntryTexts change entries = entries.map fun (key, value) =>
      (key, mapTexts change value) := by
  induction entries with
  | nil => rfl
  | cons entry rest inductionHypothesis =>
    rw [mapEntryTexts, inductionHypothesis, List.map_cons]

theorem leaves_leaf (leaf : Leaf) : leaves (.string leaf.text) = [leaf] := by
  simp [leaves, texts, Leaf.ofText?_of_parse? leaf.parsed]

theorem leaves_plain (isPlain : view tree = .plain) : leaves tree = [] := by
  cases tree with
  | string text =>
    rcases viewText_cases text with ⟨leaf, _, isLeaf⟩ | ⟨unparsed, _⟩
    · cases isLeaf.symm.trans isPlain
    · simp [leaves, texts, Leaf.ofText?_of_parse?_none unparsed]
  | array elements => cases isPlain
  | object entries => cases isPlain
  | _ => rfl

/-- The leaves of a container are those of its parts. -/
theorem leaves_container (isContainer : view tree = .container shape parts) :
    leaves tree = parts.flatMap leaves := by
  have ofTexts (trees : List Json) :
      (trees.flatMap texts).filterMap Leaf.ofText? = trees.flatMap leaves :=
    List.filterMap_flatMap
  rcases container_of_view isContainer with ⟨rfl, rfl⟩ | ⟨entries, rfl, rfl, rfl⟩
  · rw [leaves, texts, elementTexts_eq, ofTexts]
  · rw [leaves, texts, entryTexts_eq, ofTexts]

theorem countElements_eq (elements : List Json) :
    countElements elements = (elements.map countReferences).sum := by
  induction elements with
  | nil => rfl
  | cons element rest inductionHypothesis =>
    rw [countElements, inductionHypothesis, List.map_cons, List.sum_cons]

theorem countEntries_eq (entries : Json.Entries) :
    countEntries entries = ((entries.map Prod.snd).map countReferences).sum := by
  induction entries with
  | nil => rfl
  | cons entry rest inductionHypothesis =>
    rw [countEntries, inductionHypothesis, List.map_cons, List.map_cons, List.sum_cons]

/-- The references that are counted are the leaves. -/
theorem countReferences_eq (tree : Json) : countReferences tree = (leaves tree).length := by
  induction tree using viewInduction with
  | reference tree reference isReference =>
    obtain ⟨leaf, rfl, _⟩ := leaf_of_view isReference
    rw [leaves_leaf, countReferences, isReference_leaf]
    rfl
  | plain tree isPlain =>
    rw [leaves_plain isPlain]
    cases tree with
    | string text =>
      rw [countReferences, isReference_of_plain isPlain]
      rfl
    | array elements => cases isPlain
    | object entries => cases isPlain
    | _ => rfl
  | container tree shape parts isContainer inductionHypothesis =>
    have sums : (parts.map countReferences).sum = (parts.flatMap leaves).length := by
      rw [List.length_flatMap, List.map_congr_left inductionHypothesis]
    rw [leaves_container isContainer, ← sums]
    rcases container_of_view isContainer with ⟨rfl, rfl⟩ | ⟨entries, rfl, rfl, rfl⟩
    · rw [countReferences, countElements_eq]
    · rw [countReferences, countEntries_eq]

theorem reportElements_cons (given first : Json) (givens rest : List Json) (path : String)
    (position : Nat) :
    reportElements (given :: givens) (first :: rest) path position =
      (reportAt given first (childPath path (toString position))).bind fun report =>
        (reportElements givens rest path (position + 1)).map (report ++ ·) := by
  rw [reportElements]
  cases reportAt given first (childPath path (toString position)) with
  | error failure => rfl
  | ok report =>
    dsimp only [Except.bind]
    cases reportElements givens rest path (position + 1) with
    | error failure => rfl
    | ok others => rfl

theorem reportEntries_cons (key path : String) (given : Json) (givens found : Json.Entries) :
    reportEntries ((key, given) :: givens) found path =
      match Json.find? key found with
      | none => .error (mismatch (childPath path key))
      | some value =>
        (reportAt given value (childPath path key)).bind fun report =>
          (reportEntries givens found path).map (report ++ ·) := by
  rw [reportEntries]
  cases Json.find? key found with
  | none => rfl
  | some value =>
    dsimp only
    cases reportAt given value (childPath path key) with
    | error failure => rfl
    | ok report =>
      dsimp only [Except.bind]
      cases reportEntries givens found path with
      | error failure => rfl
      | ok others => rfl

end SecretRefs.Tree

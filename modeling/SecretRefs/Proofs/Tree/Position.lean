import SecretRefs.Proofs.Json.Keys
import SecretRefs.Proofs.Tree.View

/-!
# Positions in a tree

A position leads down from the root of a tree, one branch after another: by an index into an array,
by a key into a mapping. `nodes` lists the nodes of a tree with their positions, each before those
below it and in the order of the tree. These are all positions that lead somewhere
(`mem_nodes_iff`), and the paths of a report are the written form of positions.
-/

namespace SecretRefs.Tree

/-- A step down from a container. -/
inductive Branch where
  | element (index : Nat)
  | entry (key : String)

namespace Branch

/-- The written form of a step. -/
def name : Branch → String
  | .element index => toString index
  | .entry key => key

/-- What a step leads to. -/
def below? : Branch → Json → Option Json
  | .element index, .array elements => elements[index]?
  | .entry key, .object entries => Json.find? key entries
  | _, _ => none

end Branch

/-- What a position leads to. -/
def at? : (position : List Branch) → Json → Option Json
  | [], tree => some tree
  | branch :: rest, tree => (branch.below? tree).bind (at? rest)

/-- The path of a position, as reports have it. -/
def pathOf (position : List Branch) : String :=
  position.foldl (fun path branch => childPath path branch.name) ""

/-- A node of a tree, with its position. -/
structure Node where
  position : List Branch
  part : Json

mutual

/-- The nodes of a part that is at a position, each before those below it. -/
def nodesAt : Json → (position : List Branch) → List Node
  | .array elements, position =>
    ⟨position, .array elements⟩ :: elementNodes elements position 0
  | .object entries, position => ⟨position, .object entries⟩ :: entryNodes entries position
  | part, position => [⟨position, part⟩]

/-- The nodes of elements, the first of which has an index. -/
def elementNodes : List Json → (position : List Branch) → (index : Nat) → List Node
  | [], _, _ => []
  | element :: rest, position, index =>
    nodesAt element (position ++ [.element index]) ++ elementNodes rest position (index + 1)

/-- The nodes of the values of entries. -/
def entryNodes : Json.Entries → (position : List Branch) → List Node
  | [], _ => []
  | (key, value) :: rest, position =>
    nodesAt value (position ++ [.entry key]) ++ entryNodes rest position

end

/-- The nodes of a tree, in order. -/
def nodes (tree : Json) : List Node :=
  nodesAt tree []

/-- The parts of a container with the steps to them. -/
def branches : Json → List (Branch × Json)
  | .array elements => elements.zipIdx.map fun one => (.element one.2, one.1)
  | .object entries => entries.map fun entry => (.entry entry.1, entry.2)
  | _ => []

variable {tree part : Json} {branch : Branch}

theorem at?_append (first second : List Branch) (tree : Json) :
    at? (first ++ second) tree = (at? first tree).bind (at? second) := by
  induction first generalizing tree with
  | nil => rfl
  | cons branch rest inductionHypothesis =>
    rw [List.cons_append, at?, at?, Option.bind_assoc]
    congr 1
    funext below
    exact inductionHypothesis below

theorem at?_concat {position : List Branch} {whole : Json} (leads : at? position whole = some tree)
    (branch : Branch) : at? (position ++ [branch]) whole = branch.below? tree := by
  rw [at?_append, leads, Option.bind_some, at?]
  cases branch.below? tree <;> rfl

theorem pathOf_concat (position : List Branch) (branch : Branch) :
    pathOf (position ++ [branch]) = childPath (pathOf position) branch.name :=
  List.foldl_concat ..

example : pathOf [.entry "list", .element 1, .entry "key"] = "list.1.key" := by decide +kernel

/-! ## Branches -/

theorem mem_branches_array_iff {elements : List Json} {one : Branch × Json} :
    one ∈ branches (.array elements) ↔
      ∃ index, elements[index]? = some one.2 ∧ one.1 = .element index := by
  unfold branches
  constructor
  · intro member
    obtain ⟨⟨element, index⟩, inElements, rfl⟩ := List.mem_map.mp member
    exact ⟨index, List.mem_zipIdx_iff_getElem?.mp inElements, rfl⟩
  · obtain ⟨branch, part⟩ := one
    rintro ⟨index, found, rfl⟩
    exact List.mem_map.mpr ⟨(part, index), List.mem_zipIdx_iff_getElem?.mpr found, rfl⟩

theorem mem_branches_object_iff {entries : Json.Entries} {one : Branch × Json} :
    one ∈ branches (.object entries) ↔ ∃ key, (key, one.2) ∈ entries ∧ one.1 = .entry key := by
  unfold branches
  constructor
  · intro member
    obtain ⟨⟨key, value⟩, inEntries, rfl⟩ := List.mem_map.mp member
    exact ⟨key, inEntries, rfl⟩
  · obtain ⟨branch, part⟩ := one
    rintro ⟨key, inEntries, rfl⟩
    exact List.mem_map.mpr ⟨(key, part), inEntries, rfl⟩

/-- The branches of a container lead to its parts. -/
theorem parts_of_view {shape : Shape} {parts : List Json}
    (isContainer : view tree = .container shape parts) :
    (branches tree).map Prod.snd = parts := by
  rcases container_of_view isContainer with ⟨_, rfl⟩ | ⟨entries, _, rfl, rfl⟩
  · rw [branches, List.map_map]
    exact List.zipIdx_map_fst 0 parts
  · rw [branches, List.map_map]
    rfl

/-- What holds of a tree if it does of all parts of it holds of all trees. -/
@[elab_as_elim]
theorem branchInduction {motive : Json → Prop}
    (step : ∀ tree, (∀ one ∈ branches tree, motive one.2) → motive tree) (tree : Json) :
    motive tree := by
  induction tree using viewInduction with
  | reference tree reference isReference =>
    obtain ⟨leaf, rfl, _⟩ := leaf_of_view isReference
    exact step _ nofun
  | plain tree isPlain =>
    refine step tree ?_
    cases tree with
    | array elements => cases isPlain
    | object entries => cases isPlain
    | _ => exact nofun
  | container tree shape parts isContainer inductionHypothesis =>
    refine step tree fun one member => inductionHypothesis one.2 ?_
    rcases container_of_view isContainer with ⟨rfl, rfl⟩ | ⟨entries, rfl, rfl, rfl⟩
    · obtain ⟨index, found, _⟩ := mem_branches_array_iff.mp member
      exact List.mem_of_getElem? found
    · obtain ⟨key, inEntries, _⟩ := mem_branches_object_iff.mp member
      exact List.mem_map_of_mem inEntries

theorem mem_branches_of_below? (leads : branch.below? tree = some part) :
    (branch, part) ∈ branches tree := by
  unfold Branch.below? at leads
  split at leads
  · exact mem_branches_array_iff.mpr ⟨_, leads, rfl⟩
  · obtain ⟨before, after, rfl, _⟩ := List.lookup_eq_some_iff.mp leads
    exact mem_branches_object_iff.mpr ⟨_, List.mem_append_right _ List.mem_cons_self, rfl⟩
  · cases leads

/-- A step leads to its part if no key is repeated. -/
theorem below?_of_mem_branches (distinct : tree.KeysDistinct) {one : Branch × Json}
    (member : one ∈ branches tree) : one.1.below? tree = some one.2 := by
  cases distinct with
  | array each =>
    obtain ⟨index, found, isElement⟩ := mem_branches_array_iff.mp member
    rw [isElement]
    exact found
  | object keys each =>
    obtain ⟨key, inEntries, isEntry⟩ := mem_branches_object_iff.mp member
    rw [isEntry]
    exact Json.find?_of_mem keys inEntries
  | _ => cases member

theorem keysDistinct_of_mem_branches (distinct : tree.KeysDistinct) {one : Branch × Json}
    (member : one ∈ branches tree) : one.2.KeysDistinct := by
  cases distinct with
  | array each =>
    obtain ⟨index, found, _⟩ := mem_branches_array_iff.mp member
    exact each one.2 (List.mem_of_getElem? found)
  | object keys each =>
    obtain ⟨key, inEntries, _⟩ := mem_branches_object_iff.mp member
    exact each _ inEntries
  | _ => cases member

/-! ## Nodes -/

theorem elementNodes_eq (elements : List Json) (position : List Branch) (index : Nat) :
    elementNodes elements position index =
      (elements.zipIdx index).flatMap fun one =>
        nodesAt one.1 (position ++ [.element one.2]) := by
  induction elements generalizing index with
  | nil => rfl
  | cons element rest inductionHypothesis =>
    rw [elementNodes, inductionHypothesis, List.zipIdx_cons, List.flatMap_cons]

theorem entryNodes_eq (entries : Json.Entries) (position : List Branch) :
    entryNodes entries position =
      entries.flatMap fun entry => nodesAt entry.2 (position ++ [.entry entry.1]) := by
  induction entries with
  | nil => rfl
  | cons entry rest inductionHypothesis =>
    rw [entryNodes, inductionHypothesis, List.flatMap_cons]

/-- A tree is the first of its nodes; the others are those of its parts. -/
theorem nodesAt_eq (tree : Json) (position : List Branch) :
    nodesAt tree position =
      ⟨position, tree⟩ :: (branches tree).flatMap fun one =>
        nodesAt one.2 (position ++ [one.1]) := by
  cases tree with
  | array elements => rw [nodesAt, elementNodes_eq, branches, List.flatMap_map]
  | object entries => rw [nodesAt, entryNodes_eq, branches, List.flatMap_map]
  | _ => rfl

/-- The nodes of a part are what the positions below its own lead to. -/
theorem mem_nodesAt_iff (distinct : tree.KeysDistinct) (position : List Branch) (node : Node) :
    node ∈ nodesAt tree position ↔
      ∃ rest, node.position = position ++ rest ∧ at? rest tree = some node.part := by
  induction tree using branchInduction generalizing position with
  | step tree inductionHypothesis =>
    rw [nodesAt_eq, List.mem_cons, List.mem_flatMap]
    constructor
    · rintro (rfl | ⟨one, member, below⟩)
      · exact ⟨[], (List.append_nil _).symm, rfl⟩
      · obtain ⟨rest, isPosition, leads⟩ := (inductionHypothesis one member
          (keysDistinct_of_mem_branches distinct member) _).mp below
        refine ⟨one.1 :: rest, by rw [isPosition, List.append_assoc, List.singleton_append], ?_⟩
        rw [at?, below?_of_mem_branches distinct member]
        exact leads
    · rintro ⟨rest, isPosition, leads⟩
      cases rest with
      | nil =>
        left
        rw [List.append_nil] at isPosition
        rw [← isPosition, Option.some.inj leads]
      | cons branch rest =>
        obtain ⟨below, isBelow, leads⟩ := Option.bind_eq_some_iff.mp leads
        have member := mem_branches_of_below? isBelow
        refine .inr ⟨(branch, below), member, (inductionHypothesis _ member
          (keysDistinct_of_mem_branches distinct member) _).mpr ⟨rest, ?_, leads⟩⟩
        rw [isPosition, List.append_assoc, List.singleton_append]

/-- The nodes of a tree are what its positions lead to. -/
theorem mem_nodes_iff (distinct : tree.KeysDistinct) (position : List Branch) :
    ⟨position, part⟩ ∈ nodes tree ↔ at? position tree = some part := by
  rw [nodes, mem_nodesAt_iff distinct]
  constructor
  · rintro ⟨rest, isPosition, leads⟩
    have isPosition : position = rest := isPosition
    rw [isPosition]
    exact leads
  · exact fun leads => ⟨position, rfl, leads⟩

end SecretRefs.Tree

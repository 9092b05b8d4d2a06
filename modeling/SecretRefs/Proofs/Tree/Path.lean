import SecretRefs.Proofs.Tree.Coverage

/-!
# Paths of positions

The path of a position is `dotted` together from the names of its steps while the walk goes down,
and an empty path is taken for that of the whole tree. So empty keys at the start of a position
leave no trace (`pathOf_eq`): a path in a report has all the steps to its reference exactly if the
first of them is not the empty key.
-/

namespace SecretRefs.Tree

/-- The names of the steps of a position. -/
def names (position : List Branch) : List String :=
  position.map Branch.name

/-- Names with dots between them. -/
def dotted (names : List String) : String :=
  ".".intercalate names

/-- The path made of all of some names; the whole tree has none. -/
def fullPath : List String → String
  | [] => rootPath
  | name :: rest => dotted (name :: rest)

/-- What is left of some names without the empty ones at their start. -/
def withoutEmptyStart (names : List String) : List String :=
  names.dropWhile String.isEmpty

variable {given resolved : Json} {position : List Branch} {path name next : String}
  {rest : List String}

theorem dotted_cons_cons : dotted (name :: next :: rest) = name ++ "." ++ dotted (next :: rest) :=
  String.intercalate_cons_cons

theorem dotted_ne_empty (nonempty : name ≠ "") : dotted (name :: rest) ≠ "" := by
  cases rest with
  | nil =>
    rw [dotted, String.intercalate_singleton]
    exact nonempty
  | cons next rest =>
    intro isEmpty
    rw [dotted_cons_cons, String.append_eq_empty_iff, String.append_eq_empty_iff] at isEmpty
    exact nonempty isEmpty.1.1

theorem withoutEmptyStart_empty : withoutEmptyStart ("" :: rest) = withoutEmptyStart rest :=
  List.dropWhile_cons_of_pos rfl

theorem withoutEmptyStart_eq_self (nonempty : name ≠ "") :
    withoutEmptyStart (name :: rest) = name :: rest :=
  List.dropWhile_cons_of_neg (mt String.isEmpty_iff.mp nonempty)

/-! ## The path of a walk -/

/-- Below a path that is not empty every name is added to it. -/
theorem foldl_childPath (nonempty : path ≠ "") :
    rest.foldl childPath path = dotted (path :: rest) := by
  induction rest generalizing path with
  | nil => exact String.intercalate_singleton.symm
  | cons name rest inductionHypothesis =>
    have isChild : childPath path name = path ++ "." ++ name :=
      if_neg (mt String.isEmpty_iff.mp nonempty)
    have childNonempty : path ++ "." ++ name ≠ "" := by
      rw [Ne, String.append_eq_empty_iff, String.append_eq_empty_iff]
      exact fun isEmpty => nonempty isEmpty.1.1
    calc (name :: rest).foldl childPath path
        = rest.foldl childPath (path ++ "." ++ name) := by rw [List.foldl_cons, isChild]
      _ = dotted ((path ++ "." ++ name) :: rest) := inductionHypothesis childNonempty
      _ = path ++ "." ++ dotted (name :: rest) := String.intercalate_cons_append
      _ = dotted (path :: name :: rest) := dotted_cons_cons.symm

/-- An empty path is left behind at the first name that is not empty. -/
theorem foldl_childPath_empty (names : List String) :
    names.foldl childPath "" = dotted (withoutEmptyStart names) := by
  induction names with
  | nil => exact String.intercalate_nil.symm
  | cons name rest inductionHypothesis =>
    rw [List.foldl_cons, show childPath "" name = name from rfl]
    by_cases isEmpty : name = ""
    · subst isEmpty
      rw [withoutEmptyStart_empty]
      exact inductionHypothesis
    · rw [withoutEmptyStart_eq_self isEmpty]
      exact foldl_childPath isEmpty

theorem pathOf_eq (position : List Branch) :
    pathOf position = dotted (withoutEmptyStart (names position)) := by
  rw [← foldl_childPath_empty, names, List.foldl_map]
  rfl

/-- What is shown for a position has the names that are left of it. -/
theorem shownPath_pathOf (position : List Branch) :
    shownPath (pathOf position) = fullPath (withoutEmptyStart (names position)) := by
  rw [pathOf_eq]
  cases left : withoutEmptyStart (names position) with
  | nil => rfl
  | cons name rest =>
    have kept := List.head?_dropWhile_not String.isEmpty (names position)
    rw [← withoutEmptyStart, left] at kept
    have nonempty : name ≠ "" := mt String.isEmpty_iff.mpr (ne_true_of_eq_false kept)
    exact if_neg (mt String.isEmpty_iff.mp (dotted_ne_empty nonempty))

/-! ## Lost names -/

theorem length_dotted_le (names : List String) :
    (dotted (withoutEmptyStart names)).length ≤ (dotted names).length := by
  induction names with
  | nil => exact Nat.le_refl _
  | cons name rest inductionHypothesis =>
    by_cases isEmpty : name = ""
    · subst isEmpty
      rw [withoutEmptyStart_empty]
      refine Nat.le_trans inductionHypothesis ?_
      cases rest with
      | nil => exact Nat.le_refl _
      | cons next rest =>
        rw [dotted_cons_cons, String.length_append]
        exact Nat.le_add_left _ _
    · exact Nat.le_of_eq (congrArg _ (congrArg _ (withoutEmptyStart_eq_self isEmpty)))

/-- A name that is lost takes its dot along, so what is left is another path. -/
theorem fullPath_ne_of_lost (rest : List String) :
    fullPath (withoutEmptyStart rest) ≠ fullPath ("" :: rest) := by
  cases rest with
  | nil => decide +kernel
  | cons next rest =>
    have isFull : fullPath ("" :: next :: rest) = "" ++ "." ++ dotted (next :: rest) :=
      dotted_cons_cons
    rw [isFull]
    cases left : withoutEmptyStart (next :: rest) with
    | nil =>
      intro same
      have sameList := congrArg String.toList same
      simp [fullPath, rootPath] at sameList
    | cons name others =>
      have shorter := length_dotted_le (next :: rest)
      rw [left] at shorter
      intro same
      have sameLength : (dotted (name :: others)).length = 1 + (dotted (next :: rest)).length := by
        rw [show dotted (name :: others) = "" ++ "." ++ dotted (next :: rest) from same,
          String.length_append]
        rfl
      omega

/-- All names are left exactly if the first is not empty. -/
theorem fullPath_withoutEmptyStart_iff {names : List String} :
    fullPath (withoutEmptyStart names) = fullPath names ↔ names.head? ≠ some "" := by
  cases names with
  | nil => exact iff_of_true rfl nofun
  | cons name rest =>
    rw [List.head?_cons, Ne, Option.some_inj]
    by_cases isEmpty : name = ""
    · subst isEmpty
      rw [withoutEmptyStart_empty]
      exact iff_of_false (fullPath_ne_of_lost rest) (not_not_intro rfl)
    · rw [withoutEmptyStart_eq_self isEmpty]
      exact iff_of_true rfl isEmpty

/-- If a tree covers another one, the report has an entry for each reference, in their order. Its
path has the names of the steps to the reference without the empty ones at their start, and so has
all of them exactly if the first is not empty. The references are what positions lead to. -/
theorem reported_path_full_iff (covers : Covers given resolved) (distinct : given.KeysDistinct) :
    ∃ entries, report given resolved = .ok entries ∧
      List.Forall₂ (fun node entry =>
          entry.path = fullPath (withoutEmptyStart (names node.position)) ∧
          (entry.path = fullPath (names node.position) ↔
            (names node.position).head? ≠ some ""))
        ((nodes given).filter fun node => holdsReference node.part) entries ∧
      ∀ position part, ⟨position, part⟩ ∈ (nodes given).filter (fun node =>
          holdsReference node.part) ↔
        at? position given = some part ∧ holdsReference part = true := by
  obtain ⟨entries, isReport⟩ := exists_report_iff_covers.mpr covers
  refine ⟨entries, isReport, ?_, fun position part => ?_⟩
  · refine ((told_report given resolved).of_ok isReport).2.imp fun node entry tells => ?_
    have isPath := tells.path.trans (shownPath_pathOf node.position)
    exact ⟨isPath, isPath ▸ fullPath_withoutEmptyStart_iff⟩
  · rw [List.mem_filter, mem_nodes_iff distinct]

/-- A reference in an array, below a key that is not empty. -/
theorem element_path_full :
    let given : Json := .object [("", .null), ("list", .array [.null, .string "op://v/i/f"])]
    let resolved : Json := .object [("list", .array [.object [], .string "s"]), ("", .null)]
    given.KeysDistinct ∧ Covers given resolved ∧
      ∃ entry, report given resolved = .ok [entry] ∧ entry.path = fullPath ["list", "1"] := by
  intro given resolved
  have distinct : given.KeysDistinct := by
    refine .object (by decide) ?_
    simp only [List.forall_mem_cons]
    refine ⟨.null, .array ?_, by simp⟩
    simp only [List.forall_mem_cons]
    exact ⟨.null, .string _, by simp⟩
  have isReport : report given resolved = .ok [⟨"list.1", "s"⟩] :=
    Failure.eq_ok_iff.mpr (by decide +kernel)
  have covers : Covers given resolved := exists_report_iff_covers.mp ⟨_, isReport⟩
  have isListed : (nodes given).filter (fun node => holdsReference node.part) =
      [⟨[.entry "list", .element 1], .string "op://v/i/f"⟩] := rfl
  obtain ⟨entries, isEntries, paths, _⟩ := reported_path_full_iff covers distinct
  rw [isListed] at paths
  cases paths with
  | cons isPath others =>
    cases others
    exact ⟨distinct, covers, _, isEntries, isPath.2.mpr (by decide)⟩

/-- Below the empty key of a mapping the path lacks its start, and directly at that key it is the
one of the whole tree. -/
theorem empty_key_lost :
    let inner : Json := .object [("a", .string "op://v/i/f")]
    report (.object [("", inner)]) (.object [("", .object [("a", .string "s")])]) =
        .ok [⟨"a", "s"⟩] ∧
      at? [.entry "", .entry "a"] (.object [("", inner)]) = some (.string "op://v/i/f") ∧
      fullPath (names [.entry "", .entry "a"]) = ".a" ∧
    report (.object [("", .string "op://v/i/f")]) (.object [("", .string "s")]) =
        .ok [⟨rootPath, "s"⟩] ∧
      fullPath (names [.entry ""]) = "" := by
  exact ⟨Failure.eq_ok_iff.mpr (by decide +kernel), rfl, by decide +kernel,
    Failure.eq_ok_iff.mpr (by decide +kernel), by decide +kernel⟩

end SecretRefs.Tree

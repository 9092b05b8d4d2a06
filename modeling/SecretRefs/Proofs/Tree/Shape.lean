import SecretRefs.Proofs.Tree.Coverage

/-!
# Differences in shape

Two parts are `Alike` if both are scalars, arrays of one length or mappings with the same keys. A
report on two trees fails exactly if at some position that leads somewhere in both the parts are
neither alike nor differ in a way that is `Overlooked`: a container in the place of a scalar that is
no reference, and further keys in the second mapping. So it compares the containers of the first
tree with what the second has, but not the other way round.
-/

namespace SecretRefs.Tree

/-- The keys of a mapping. -/
def keys (entries : Json.Entries) : List String :=
  entries.map Prod.fst

/-- Parts of one shape, as far as the places below are not looked at. -/
inductive Alike : (given found : Json) → Prop where
  | scalars {given found : Json} (given_scalar : isScalar given = true)
      (found_scalar : isScalar found = true) : Alike given found
  | arrays {elements values : List Json} (sameLength : elements.length = values.length) :
      Alike (.array elements) (.array values)
  | mappings {entries others : Json.Entries}
      (sameKeys : ∀ key, key ∈ keys entries ↔ key ∈ keys others) :
      Alike (.object entries) (.object others)

/-- Parts that a report takes as they are, also where they are not alike. -/
inductive Overlooked : (given found : Json) → Prop where
  | container {given found : Json} (scalar : isScalar given = true)
      (noReference : holdsReference given = false) (container : isScalar found = false) :
      Overlooked given found
  | furtherKeys {entries others : Json.Entries}
      (kept : ∀ key ∈ keys entries, key ∈ keys others) :
      Overlooked (.object entries) (.object others)

variable {given resolved part found : Json}

theorem mem_keys_iff {key : String} {entries : Json.Entries} :
    key ∈ keys entries ↔ ∃ value, Json.find? key entries = some value := by
  rw [Json.find?, ← Option.isSome_iff_exists, List.lookup_isSome_iff, keys, List.mem_map]
  simp only [beq_iff_eq, @eq_comm _ key]

theorem branches_scalar (scalar : isScalar part = true) : branches part = [] := by
  cases part with
  | array elements => cases scalar
  | object entries => cases scalar
  | _ => rfl

/-- What covers a part has, wherever both have something, what covers that. -/
theorem covers_at {position : List Branch} (covers : Covers given resolved)
    (isPart : at? position given = some part) (isFound : at? position resolved = some found) :
    Covers part found := by
  induction position generalizing given resolved with
  | nil =>
    cases isPart
    cases isFound
    exact covers
  | cons branch rest inductionHypothesis =>
    obtain ⟨below, isBelow, isPart⟩ := Option.bind_eq_some_iff.mp isPart
    obtain ⟨other, isOther, isFound⟩ := Option.bind_eq_some_iff.mp isFound
    refine inductionHypothesis ?_ isPart isFound
    have member := mem_branches_of_below? isBelow
    cases covers with
    | reference isReference scalar =>
      rw [branches_scalar (isScalar_of_holdsReference isReference)] at member
      cases member
    | plain scalar noReference =>
      rw [branches_scalar scalar] at member
      cases member
    | array sameLength each =>
      obtain ⟨index, isElement, rfl⟩ := mem_branches_array_iff.mp member
      exact each index below other isElement isOther
    | mapping present each =>
      obtain ⟨key, isEntry, rfl⟩ := mem_branches_object_iff.mp member
      exact each key below other isEntry isOther

/-- What covers a part is alike, or the difference is overlooked. -/
theorem alike_or_overlooked_of_covers (covers : Covers given resolved) :
    Alike given resolved ∨ Overlooked given resolved := by
  cases covers with
  | reference isReference scalar =>
    exact .inl (.scalars (isScalar_of_holdsReference isReference) scalar)
  | plain scalar noReference =>
    cases container : isScalar resolved with
    | true => exact .inl (.scalars scalar container)
    | false => exact .inr (.container scalar noReference container)
  | array sameLength each => exact .inl (.arrays sameLength)
  | mapping present each =>
    refine .inr (.furtherKeys fun key member => ?_)
    obtain ⟨entry, isEntry, rfl⟩ := List.mem_map.mp member
    exact mem_keys_iff.mpr (present entry.1 entry.2 isEntry)

/-- Whether all that two trees have in the same places right below them is covered. -/
def CoversBelow (given resolved : Json) : Prop :=
  ∀ branch part found, (branch, part) ∈ branches given → branch.below? resolved = some found →
    Covers part found

theorem covers_object {entries others : Json.Entries}
    (kept : ∀ key ∈ keys entries, key ∈ keys others)
    (below : CoversBelow (.object entries) (.object others)) :
    Covers (.object entries) (.object others) := by
  refine .mapping (fun key part isEntry => ?_) fun key part value isEntry isValue => ?_
  · exact mem_keys_iff.mp (kept key (List.mem_map_of_mem isEntry))
  · refine below (.entry key) part value ?_ isValue
    exact mem_branches_object_iff.mpr ⟨key, isEntry, rfl⟩

theorem covers_of_below (here : Alike given resolved ∨ Overlooked given resolved)
    (below : CoversBelow given resolved) : Covers given resolved := by
  rcases here with alike | overlooked
  · cases alike with
    | scalars given_scalar found_scalar =>
      cases isReference : holdsReference given with
      | true => exact .reference isReference found_scalar
      | false => exact .plain given_scalar isReference
    | arrays sameLength =>
      refine .array sameLength fun index part value isPart isValue => ?_
      refine below (.element index) part value ?_ isValue
      exact mem_branches_array_iff.mpr ⟨index, isPart, rfl⟩
    | mappings sameKeys => exact covers_object (fun key => (sameKeys key).mp) below
  · cases overlooked with
    | container scalar noReference container => exact .plain scalar noReference
    | furtherKeys kept => exact covers_object kept below

/-- A tree covers another one if at all positions that both have the parts are alike or the
difference is overlooked. -/
theorem covers_of_alike_or_overlooked (distinct : given.KeysDistinct)
    (each : ∀ position part found, at? position given = some part →
      at? position resolved = some found → Alike part found ∨ Overlooked part found) :
    Covers given resolved := by
  induction given using branchInduction generalizing resolved with
  | step given inductionHypothesis =>
    refine covers_of_below (each [] given resolved rfl rfl) ?_
    intro branch part found member isFound
    have distinctBelow := keysDistinct_of_mem_branches distinct member
    refine inductionHypothesis (branch, part) member distinctBelow
      fun position deeper other isDeeper isOther => each (branch :: position) deeper other ?_ ?_
    · rw [at?, below?_of_mem_branches distinct member]
      exact isDeeper
    · rw [at?, isFound]
      exact isOther

/-- A report on any two trees fails for their shapes exactly if at some position that both have the
parts are not alike and the difference is not overlooked. -/
theorem mismatch_reported_iff (distinct : given.KeysDistinct) :
    (∃ path, report given resolved = .error (.shapeMismatch path)) ↔
      ∃ position part found, at? position given = some part ∧ at? position resolved = some found ∧
        ¬ Alike part found ∧ ¬ Overlooked part found := by
  constructor
  · rintro ⟨path, failed⟩
    by_contra noneSuch
    push Not at noneSuch
    have covers : Covers given resolved :=
      covers_of_alike_or_overlooked distinct fun position part found isPart isFound =>
        or_iff_not_imp_left.mpr (noneSuch position part found isPart isFound)
    obtain ⟨entries, isReport⟩ := exists_report_iff_covers.mpr covers
    cases failed.symm.trans isReport
  · rintro ⟨position, part, found, isPart, isFound, unlike, noticed⟩
    cases outcome : report given resolved with
    | ok entries =>
      have covers := exists_report_iff_covers.mp ⟨entries, outcome⟩
      exact absurd (alike_or_overlooked_of_covers (covers_at covers isPart isFound))
        (not_or.mpr ⟨unlike, noticed⟩)
    | error failure =>
      obtain ⟨_, node, _, _, _, _, rfl⟩ := (told_report given resolved).of_error outcome
      exact ⟨_, rfl⟩

/-- An array that is too short, below a key that both mappings have. -/
theorem short_list_reported :
    let given : Json := .object [("plain", .boolean true), ("list", .array [.null, .null])]
    let resolved : Json := .object [("list", .array [.null]), ("plain", .object [])]
    given.KeysDistinct ∧ ∃ path, report given resolved = .error (.shapeMismatch path) := by
  intro given resolved
  have distinct : given.KeysDistinct := by
    refine .object (by decide) ?_
    simp only [List.forall_mem_cons]
    refine ⟨.boolean _, .array ?_, by simp⟩
    simp only [List.forall_mem_cons]
    exact ⟨.null, .null, by simp⟩
  refine ⟨distinct, (mismatch_reported_iff distinct).mpr
    ⟨[.entry "list"], .array [.null, .null], .array [.null], rfl, rfl, ?_, ?_⟩⟩
  · intro alike
    cases alike with
    | scalars given_scalar _ => cases given_scalar
    | arrays sameLength => cases sameLength
  · intro overlooked
    cases overlooked with
    | container scalar _ _ => cases scalar

/-- An array in the place of a number and a key that only the second mapping has are no failure. -/
theorem unlike_parts_unreported :
    let one : Json := .number (.whole 1)
    (¬ Alike one (.array []) ∧ report one (.array []) = .ok []) ∧
    (¬ Alike (.object []) (.object [("a", .null)]) ∧
      report (.object []) (.object [("a", .null)]) = .ok []) := by
  refine ⟨⟨?_, rfl⟩, ?_, rfl⟩
  · intro alike
    cases alike with
    | scalars _ found_scalar => cases found_scalar
  · intro alike
    cases alike with
    | scalars given_scalar _ => cases given_scalar
    | mappings sameKeys => cases (sameKeys "a").mpr List.mem_cons_self

end SecretRefs.Tree

import Mathlib.Data.List.Nodup
import SecretRefs.Settings.Value

/-!
# Tables of settings

What a key has in a table after an entry was put in it, after another table was laid over it,
and in the table that a TOML document is read as. Tables are `Ordered` by their keys, so a key
has at most one entry, and `lookup_coverEntries` says of each key which of two tables decides.
-/

namespace SecretRefs.Settings.Value

theorem mem_of_lookup {α : Type} {entries : List (String × α)} {key : String} {value : α}
    (present : entries.lookup key = some value) : (key, value) ∈ entries := by
  obtain ⟨before, after, rfl, _⟩ := List.lookup_eq_some_iff.mp present
  simp

/-- The first entry of a key is the only one if no key has two. -/
theorem mem_iff_lookup {α : Type} {entries : List (String × α)}
    (distinct : (entries.map Prod.fst).Nodup) {key : String} {value : α} :
    (key, value) ∈ entries ↔ entries.lookup key = some value := by
  refine ⟨fun member => ?_, mem_of_lookup⟩
  obtain ⟨before, after, rfl⟩ := List.append_of_mem member
  refine List.lookup_eq_some_iff.mpr
    ⟨before, after, rfl, fun entry earlier => bne_iff_ne.mpr fun same => ?_⟩
  rw [List.map_append, List.nodup_append] at distinct
  exact distinct.2.2 entry.1 (List.mem_map_of_mem earlier) key (by simp) same.symm

/-- A key without an entry has no value. -/
theorem lookup_eq_none_of_notMem {α : Type} {entries : List (String × α)} {key : String}
    (absent : key ∉ entries.map Prod.fst) : entries.lookup key = none := by
  rw [List.lookup_eq_none_iff]
  intro entry member
  rw [bne_iff_ne]
  exact fun isKey => absent (List.mem_map.mpr ⟨entry, member, isKey.symm⟩)

/-- Entries in the order of their keys, each key once. -/
def Ordered (entries : Entries) : Prop :=
  entries.Pairwise fun one other => one.1 < other.1

theorem Ordered.nodup {entries : Entries} (ordered : Ordered entries) :
    (entries.map Prod.fst).Nodup := by
  refine (List.pairwise_map.mpr ordered).imp fun {one other} less same => ?_
  exact String.lt_irrefl other (same ▸ less)

/-! ## Putting an entry -/

/-- Keys of an entry in front. -/
theorem lookup_cons_eq (key : String) (value : Value) (entries : Entries) (name : String) :
    List.lookup name ((key, value) :: entries) =
      if name = key then some value else entries.lookup name := by
  rw [List.lookup_cons]
  split
  · rename_i same
    rw [if_pos (beq_iff_eq.mp same)]
  · rename_i differ
    rw [if_neg (beq_eq_false_iff_ne.mp differ)]

theorem lookup_put (key : String) (value : Value) (entries : Entries) (name : String) :
    (put key value entries).lookup name =
      if name = key then some value else entries.lookup name := by
  induction entries with
  | nil => rw [put, lookup_cons_eq]
  | cons entry rest inductionHypothesis =>
    obtain ⟨first, current⟩ := entry
    unfold put
    by_cases same : first = key
    · rw [if_pos (beq_iff_eq.mpr same), same, lookup_cons_eq, lookup_cons_eq]
      split
      · rfl
      · rfl
    · rw [if_neg (mt beq_iff_eq.mp same)]
      split
      · rw [lookup_cons_eq]
      · rw [lookup_cons_eq, lookup_cons_eq, inductionHypothesis]
        by_cases isFirst : name = first
        · rw [if_pos isFirst, if_pos isFirst, if_neg (isFirst ▸ same)]
        · rw [if_neg isFirst, if_neg isFirst]

theorem key_of_mem_put {key : String} {value : Value} {entries : Entries} {entry : String × Value}
    (member : entry ∈ put key value entries) : entry.1 = key ∨ entry ∈ entries := by
  induction entries with
  | nil =>
    rw [put, List.mem_singleton] at member
    exact .inl (member ▸ rfl)
  | cons first rest inductionHypothesis =>
    unfold put at member
    split at member
    · rename_i same
      rcases List.mem_cons.mp member with rfl | later
      · exact .inl (beq_iff_eq.mp same)
      · exact .inr (List.mem_cons_of_mem first later)
    · split at member
      · rcases List.mem_cons.mp member with rfl | later
        · exact .inl rfl
        · exact .inr later
      · rcases List.mem_cons.mp member with rfl | later
        · exact .inr List.mem_cons_self
        · exact (inductionHypothesis later).imp_right (List.mem_cons_of_mem first)

theorem Ordered.put {entries : Entries} (ordered : Ordered entries) (key : String)
    (value : Value) : Ordered (Value.put key value entries) := by
  induction entries with
  | nil => exact List.pairwise_singleton ..
  | cons first rest inductionHypothesis =>
    obtain ⟨first, current⟩ := first
    obtain ⟨below, ordered⟩ := List.pairwise_cons.mp ordered
    unfold Value.put
    split
    · exact List.pairwise_cons.mpr ⟨below, ordered⟩
    · rename_i differ
      split
      · rename_i less
        refine List.pairwise_cons.mpr ⟨fun entry member => ?_, List.pairwise_cons.mpr
          ⟨below, ordered⟩⟩
        rcases List.mem_cons.mp member with rfl | later
        · exact less
        · exact String.lt_trans less (below entry later)
      · rename_i notLess
        refine List.pairwise_cons.mpr ⟨fun entry member => ?_, inductionHypothesis ordered⟩
        rcases key_of_mem_put member with same | later
        · by_contra notBelow
          have equal := String.le_antisymm (String.not_lt.mp notLess)
            (String.not_lt.mp (same ▸ notBelow))
          exact differ (beq_iff_eq.mpr equal)
        · exact below entry later

/-! ## Laying one table over another -/

/-- What a key has in one table over another: the upper value over the lower one, as far as
there are such values. -/
def laidOver : (upper lower : Option Value) → Option Value
  | none, lower => lower
  | some value, none => some value
  | some value, some below => some (cover value below)

/-- What becomes of a key is decided by what the two tables have under it. -/
theorem lookup_coverEntries {upper : Entries} (distinct : (upper.map Prod.fst).Nodup)
    (lower : Entries) (name : String) :
    (coverEntries upper lower).lookup name = laidOver (upper.lookup name) (lower.lookup name) := by
  induction upper generalizing lower with
  | nil => simp [coverEntries, laidOver]
  | cons entry rest inductionHypothesis =>
    obtain ⟨key, value⟩ := entry
    rw [List.map_cons, List.nodup_cons] at distinct
    rw [coverEntries, inductionHypothesis distinct.2, lookup_put, lookup_cons_eq]
    by_cases same : name = key
    · have noLater : rest.lookup name = none := lookup_eq_none_of_notMem (same ▸ distinct.1)
      rw [if_pos same, if_pos same, noLater, ← same]
      cases lower.lookup name with
      | none => rfl
      | some below => rfl
    · rw [if_neg same, if_neg same]

theorem Ordered.coverEntries {lower : Entries} (ordered : Ordered lower) (upper : Entries) :
    Ordered (Value.coverEntries upper lower) := by
  induction upper generalizing lower with
  | nil => exact ordered
  | cons entry rest inductionHypothesis =>
    rw [Value.coverEntries]
    exact inductionHypothesis (ordered.put _ _)

/-- Every value holds over a scalar, a table too. -/
theorem cover_eq_of_scalar (upper : Value) (origin : Origin) (below : Scalar) :
    cover upper (.scalar origin below) = upper := by
  cases upper with
  | scalar | sequence | table => simp [cover]

/-! ## Tables of TOML documents -/

theorem ordered_ofTomlEntries (origin : Origin) (entries : Toml.Entries) :
    Ordered (ofTomlEntries origin entries) := by
  induction entries with
  | nil => exact List.Pairwise.nil
  | cons entry rest inductionHypothesis => exact inductionHypothesis.put _ _

/-- A table of a document has under a key what the document has. -/
theorem lookup_ofTomlEntries (origin : Origin) (entries : Toml.Entries) (name : String) :
    (ofTomlEntries origin entries).lookup name = (entries.lookup name).map (ofToml origin) := by
  induction entries with
  | nil => simp [ofTomlEntries]
  | cons entry rest inductionHypothesis =>
    obtain ⟨key, value⟩ := entry
    rw [ofTomlEntries, lookup_put, inductionHypothesis, List.lookup_cons]
    by_cases same : name = key
    · rw [if_pos same, beq_iff_eq.mpr same]
      rfl
    · rw [if_neg same, beq_eq_false_iff_ne.mpr same]

end SecretRefs.Settings.Value

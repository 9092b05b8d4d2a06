import Mathlib.Data.List.Basic
import Mathlib.Data.List.Nodup
import SecretRefs.Proofs.Text.Title
import SecretRefs.Store.Memory

/-!
# Looking up and changing the first match

A store in memory reads by `List.find?` and writes by `updateFirst`. The lemmas here say
how the two go together: what a test finds after the first match of the same or of another
test was changed, and when two tests have the same first match.
-/

namespace SecretRefs.Store.Memory

variable {α β : Type} {test other : α → Bool} {change : α → α} {list before after : List α}
  {element : α}

theorem updateFirst_append_cons (earlier : ∀ one ∈ before, test one = false)
    (matched : test element = true) :
    updateFirst test change (before ++ element :: after) =
      before ++ change element :: after := by
  induction before with
  | nil => simp [updateFirst, matched]
  | cons one rest inductionHypothesis =>
    have later := inductionHypothesis fun two member =>
      earlier two (List.mem_cons_of_mem one member)
    simp [updateFirst, earlier one List.mem_cons_self, later]

theorem updateFirst_of_find?_none (missing : list.find? test = none) :
    updateFirst test change list = list := by
  induction list with
  | nil => rfl
  | cons one rest inductionHypothesis =>
    rw [List.find?_cons] at missing
    cases matched : test one with
    | true => simp [matched] at missing
    | false =>
      simp only [matched] at missing
      simp [updateFirst, matched, inductionHypothesis missing]

/-- The first match with what stands around it. -/
theorem split_of_find? (found : list.find? test = some element) :
    ∃ before after, list = before ++ element :: after ∧
      (∀ one ∈ before, test one = false) ∧ test element = true := by
  obtain ⟨matched, before, after, split, earlier⟩ := List.find?_eq_some_iff_append.mp found
  exact ⟨before, after, split, fun one member => by simpa using earlier one member, matched⟩

/-- Only what becomes of the first match counts. -/
theorem updateFirst_congr {change' : α → α} (found : list.find? test = some element)
    (same : change element = change' element) :
    updateFirst test change list = updateFirst test change' list := by
  obtain ⟨before, after, rfl, earlier, matched⟩ := split_of_find? found
  rw [updateFirst_append_cons earlier matched, updateFirst_append_cons earlier matched, same]

/-- A first match that is as it shall be stays. -/
theorem updateFirst_of_unchanged (found : list.find? test = some element)
    (unchanged : change element = element) : updateFirst test change list = list := by
  obtain ⟨before, after, rfl, earlier, matched⟩ := split_of_find? found
  rw [updateFirst_append_cons earlier matched, unchanged]

/-- A change that a test does not see changes what the test finds. -/
theorem find?_updateFirst_same (unseen : ∀ one, test (change one) = test one) :
    (updateFirst test change list).find? test = (list.find? test).map change := by
  cases found : list.find? test with
  | none =>
    rw [updateFirst_of_find?_none found, found]
    rfl
  | some element =>
    obtain ⟨before, after, rfl, earlier, matched⟩ := split_of_find? found
    rw [updateFirst_append_cons earlier matched]
    have nothing : before.find? test = none := by
      rw [List.find?_eq_none]
      intro one member
      simp [earlier one member]
    simp [List.find?_append, nothing, unseen, matched]

/-- A change of what another test does not match is not seen by that test. -/
theorem find?_updateFirst_other
    (apart : ∀ one, test one = true → other one = false ∧ other (change one) = false) :
    (updateFirst test change list).find? other = list.find? other := by
  induction list with
  | nil => rfl
  | cons one rest inductionHypothesis =>
    unfold updateFirst
    cases matched : test one with
    | true =>
      obtain ⟨unmatched, unmatchedAfter⟩ := apart one matched
      simp [unmatched, unmatchedAfter]
    | false => simp [List.find?_cons, inductionHypothesis]

/-- What stays the same in the changed element stays the same in the list. -/
theorem map_updateFirst {view : α → β}
    (kept : ∀ one, test one = true → view (change one) = view one) :
    (updateFirst test change list).map view = list.map view := by
  induction list with
  | nil => rfl
  | cons one rest inductionHypothesis =>
    unfold updateFirst
    cases matched : test one with
    | true => simp [kept one matched]
    | false => simp [inductionHypothesis]

theorem mem_updateFirst {one : α} (member : one ∈ updateFirst test change list) :
    one ∈ list ∨ ∃ old ∈ list, test old = true ∧ one = change old := by
  induction list with
  | nil => cases member
  | cons first rest inductionHypothesis =>
    unfold updateFirst at member
    cases matched : test first with
    | true =>
      rw [matched, if_pos rfl, List.mem_cons] at member
      rcases member with rfl | member
      · exact .inr ⟨first, List.mem_cons_self, matched, rfl⟩
      · exact .inl (List.mem_cons_of_mem first member)
    | false =>
      rw [matched, if_neg Bool.false_ne_true, List.mem_cons] at member
      rcases member with rfl | member
      · exact .inl List.mem_cons_self
      · rcases inductionHypothesis member with old | ⟨old, oldMember, oldMatched, rfl⟩
        · exact .inl (List.mem_cons_of_mem first old)
        · exact .inr ⟨old, List.mem_cons_of_mem first oldMember, oldMatched, rfl⟩

section Keys

variable (key : α → String)

/-- An element is found by its key if no key occurs twice. -/
theorem find?_key (distinct : (list.map key).Nodup) (member : element ∈ list) :
    list.find? (fun one => key one == key element) = some element := by
  cases found : list.find? (fun one => key one == key element) with
  | none =>
    have unmatched := List.find?_eq_none.mp found element member
    simp at unmatched
  | some one =>
    have same : key one = key element := by simpa using List.find?_some found
    rw [List.inj_on_of_nodup_map distinct (List.mem_of_find?_eq_some found) member same]

/-- To change the first match of a test is to change it by its key. -/
theorem updateFirst_key (change : α → α) (distinct : (list.map key).Nodup)
    (found : list.find? test = some element) :
    updateFirst (fun one => key one == key element) change list =
      updateFirst test change list := by
  obtain ⟨before, after, rfl, earlier, matched⟩ := split_of_find? found
  rw [updateFirst_append_cons earlier matched]
  apply updateFirst_append_cons
  · intro one member
    rw [List.map_append, List.map_cons] at distinct
    have differ : key one ≠ key element := by
      intro same
      have notLater := (List.nodup_append.mp distinct).2.2 (key one) (List.mem_map_of_mem member)
      exact notLater (key element) List.mem_cons_self same
    simpa using differ
  · simp

/-- With distinct keys, the first match of a key is the only one. -/
theorem updateFirst_eq_map (wanted : String) (change : α → α)
    (distinct : (list.map key).Nodup) :
    updateFirst (fun one => key one == wanted) change list =
      list.map fun one => if key one == wanted then change one else one := by
  induction list with
  | nil => rfl
  | cons one rest inductionHypothesis =>
    rw [List.map_cons, List.nodup_cons] at distinct
    unfold updateFirst
    split
    · rename_i matched
      have others : rest.map (fun one => if key one == wanted then change one else one) = rest := by
        refine (List.map_congr_left fun other member => ?_).trans (List.map_id rest)
        have differs : key other ≠ wanted := by
          intro same
          have member := List.mem_map_of_mem (f := key) member
          exact distinct.1 ((beq_iff_eq.mp matched).trans same.symm ▸ member)
        simp [differs]
      rw [List.map_cons, if_pos matched, others]
    · rename_i unmatched
      rw [List.map_cons, if_neg unmatched, inductionHypothesis distinct.2]

end Keys

/-- Changing the first element with one title changes what another title finds only if the
two are equal ignoring case. -/
theorem find?_updateFirst_titled (name : α → String) (change : α → α)
    (kept : ∀ one, name (change one) = name one) (title title' : String) (list : List α) :
    (updateFirst (fun one => Text.sameTitle (name one) title) change list).find?
        (fun one => Text.sameTitle (name one) title') =
      if Text.sameTitle title title' then
        (list.find? fun one => Text.sameTitle (name one) title').map change
      else list.find? fun one => Text.sameTitle (name one) title' := by
  split
  · rename_i same
    simp only [Text.sameTitle_congr same]
    apply find?_updateFirst_same
    intro one
    rw [kept]
  · rename_i differ
    apply find?_updateFirst_other
    intro one matched
    have unmatched := Text.sameTitle_eq_false (Bool.not_eq_true _ ▸ differ) matched
    exact ⟨unmatched, by rw [kept, unmatched]⟩

end SecretRefs.Store.Memory

import Mathlib.Data.List.Basic
import SecretRefs.Reference

/-!
# References and their texts

A text that is a reference is the text of that reference, so a failure that names the
reference names the text it was read from.
-/

namespace SecretRefs.Reference

/-- What stands before the first slash, the slash, and what stands after it are the whole. -/
theorem eq_append_of_cut? {chars before after : List Char}
    (cut : cut? chars = some (before, after)) : chars = before ++ '/' :: after := by
  induction chars generalizing before with
  | nil => simp [cut?] at cut
  | cons c rest inductionHypothesis =>
    unfold cut? at cut
    split at cut
    · rename_i impossible
      cases impossible
    · rename_i slash
      cases slash
      cases cut
      rfl
    · rename_i cons
      cases cons
      obtain ⟨⟨head, tail⟩, found, equal⟩ := Option.map_eq_some_iff.mp cut
      cases equal
      rw [inductionHypothesis found]
      rfl

/-- `ofParts?` keeps the parts as they are. -/
theorem eq_of_ofParts? {vault item field : String} {reference : Reference}
    (built : ofParts? vault item field = some reference) :
    reference = ⟨vault, item, field⟩ := by
  unfold ofParts? at built
  split at built
  · cases built
  · exact (Option.some.inj built).symm

/-- Parts that are not empty make a reference. -/
theorem ofParts?_of_ne {vault item field : String} (vaultNamed : vault ≠ "")
    (itemNamed : item ≠ "") (fieldNamed : field ≠ "") :
    ofParts? vault item field = some ⟨vault, item, field⟩ := by
  simp [ofParts?, vaultNamed, itemNamed, fieldNamed]

/-- The text of the reference that a text is, is that text. -/
theorem render_of_parse? {text : String} {reference : Reference}
    (parsed : parse? text = some reference) : reference.render = text := by
  obtain ⟨rest, stripped, parsed⟩ := Option.bind_eq_some_iff.mp parsed
  obtain ⟨_, _, parsed⟩ := Option.bind_eq_some_iff.mp parsed
  obtain ⟨⟨vault, behind⟩, vaultCut, parsed⟩ := Option.bind_eq_some_iff.mp parsed
  obtain ⟨⟨item, field⟩, itemCut, built⟩ := Option.bind_eq_some_iff.mp parsed
  have start : scheme.toList ++ rest = text.toList :=
    List.append_eq_of_isPrefixOf?_eq_some stripped
  rw [eq_append_of_cut? vaultCut, eq_append_of_cut? itemCut] at start
  rw [eq_of_ofParts? built]
  apply String.toList_injective
  rw [← start]
  simp [render]

end SecretRefs.Reference

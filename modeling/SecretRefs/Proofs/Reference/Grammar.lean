import SecretRefs.Proofs.Reference

/-!
# The grammar of references

A text is a reference exactly if it is `op://<vault>/<item>/<field>` for parts that are
`Grammatical`: not empty, on one line, and with slashes in the field only. There is one way
to divide a text into such parts, and rendering undoes reading.

A reference may also be put together from parts. Its text leads back to it exactly if the parts
are grammatical (`parse?_render_iff`); otherwise that text is no reference or a different one.
-/

namespace SecretRefs.Reference

/-- Parts that can be told apart in a text. -/
structure Grammatical (vault item field : String) : Prop where
  vaultFilled : vault ≠ ""
  itemFilled : item ≠ ""
  fieldFilled : field ≠ ""
  vaultSegment : '/' ∉ vault.toList
  itemSegment : '/' ∉ item.toList
  oneLine : ∀ part ∈ [vault, item, field], '\n' ∉ part.toList ∧ '\r' ∉ part.toList

/-! ## Cutting at slashes -/

/-- Nothing before the first slash is a slash. -/
theorem slash_notMem_of_cut? {chars before after : List Char}
    (cut : cut? chars = some (before, after)) : '/' ∉ before := by
  induction chars generalizing before with
  | nil => simp [cut?] at cut
  | cons c rest inductionHypothesis =>
    unfold cut? at cut
    split at cut
    · rename_i impossible
      cases impossible
    · cases cut
      exact List.not_mem_nil
    · rename_i other isOther cons
      cases cons
      obtain ⟨⟨head, tail⟩, found, equal⟩ := Option.map_eq_some_iff.mp cut
      cases equal
      rw [List.mem_cons, not_or]
      exact ⟨fun slash => isOther slash.symm, inductionHypothesis found⟩

/-- A text is cut at its first slash. -/
theorem cut?_append {before : List Char} (segment : '/' ∉ before) (after : List Char) :
    cut? (before ++ '/' :: after) = some (before, after) := by
  induction before with
  | nil => rfl
  | cons c rest inductionHypothesis =>
    rw [List.mem_cons, not_or] at segment
    have later := inductionHypothesis segment.2
    rw [List.cons_append]
    unfold cut?
    split
    · rename_i impossible
      cases impossible
    · rename_i slash
      cases slash
      exact absurd rfl segment.1
    · rename_i cons
      cases cons
      rw [later]
      rfl

theorem cut?_eq_some_iff {chars before after : List Char} :
    cut? chars = some (before, after) ↔ chars = before ++ '/' :: after ∧ '/' ∉ before := by
  constructor
  · intro cut
    exact ⟨eq_append_of_cut? cut, slash_notMem_of_cut? cut⟩
  · rintro ⟨rfl, segment⟩
    exact cut?_append segment after

/-! ## Line ends -/

theorem any_isLineEnd_eq_false_iff {chars : List Char} :
    chars.any isLineEnd = false ↔ '\n' ∉ chars ∧ '\r' ∉ chars := by
  rw [List.any_eq_false]
  constructor
  · intro none
    exact ⟨fun member => none '\n' member rfl, fun member => none '\r' member rfl⟩
  · rintro ⟨noNewline, noReturn⟩ c member isEnd
    rw [isLineEnd, Bool.or_eq_true, beq_iff_eq, beq_iff_eq] at isEnd
    rcases isEnd with rfl | rfl
    · exact noNewline member
    · exact noReturn member

/-- The slashes between the parts end no line. -/
theorem joined_oneLine_iff (vault item field : String) :
    (vault.toList ++ '/' :: (item.toList ++ '/' :: field.toList)).any isLineEnd = false ↔
      ∀ part ∈ [vault, item, field], '\n' ∉ part.toList ∧ '\r' ∉ part.toList := by
  have slash : isLineEnd '/' = false := rfl
  simp only [List.any_append, List.any_cons, slash, Bool.false_or, Bool.or_eq_false_iff,
    any_isLineEnd_eq_false_iff, List.forall_mem_cons, List.not_mem_nil, false_implies,
    implies_true, and_true]

/-! ## Reading and rendering -/

theorem toList_text (vault item field : String) :
    ("op://" ++ vault ++ "/" ++ item ++ "/" ++ field).toList =
      scheme.toList ++ (vault.toList ++ '/' :: (item.toList ++ '/' :: field.toList)) := by
  simp [scheme]

theorem ofParts?_eq_some_iff {vault item field : String} {reference : Reference} :
    ofParts? vault item field = some reference ↔
      vault ≠ "" ∧ item ≠ "" ∧ field ≠ "" ∧ reference = ⟨vault, item, field⟩ := by
  constructor
  · intro built
    have parts := eq_of_ofParts? built
    unfold ofParts? at built
    split at built
    · cases built
    · rename_i filled
      simp only [Bool.or_eq_true, String.isEmpty_iff, not_or] at filled
      exact ⟨filled.1.1, filled.1.2, filled.2, parts⟩
  · rintro ⟨vaultFilled, itemFilled, fieldFilled, rfl⟩
    exact ofParts?_of_ne vaultFilled itemFilled fieldFilled

/-- The reference that a text is has the parts that make the text. -/
theorem parse?_eq_some_iff {text : String} {reference : Reference} :
    parse? text = some reference ↔
      Grammatical reference.vault reference.item reference.field ∧
        text = "op://" ++ reference.vault ++ "/" ++ reference.item ++ "/" ++ reference.field := by
  constructor
  · intro parsed
    have rendered := render_of_parse? parsed
    obtain ⟨rest, stripped, parsed⟩ := Option.bind_eq_some_iff.mp parsed
    obtain ⟨_, guarded, parsed⟩ := Option.bind_eq_some_iff.mp parsed
    obtain ⟨⟨vault, behind⟩, vaultCut, parsed⟩ := Option.bind_eq_some_iff.mp parsed
    obtain ⟨⟨item, field⟩, itemCut, built⟩ := Option.bind_eq_some_iff.mp parsed
    obtain ⟨vaultFilled, itemFilled, fieldFilled, rfl⟩ := ofParts?_eq_some_iff.mp built
    obtain ⟨rfl, vaultSegment⟩ := cut?_eq_some_iff.mp vaultCut
    obtain ⟨rfl, itemSegment⟩ := cut?_eq_some_iff.mp itemCut
    have oneLine := joined_oneLine_iff (String.ofList vault) (String.ofList item)
      (String.ofList field)
    simp only [String.toList_ofList] at oneLine
    have noLineEnd : (vault ++ '/' :: (item ++ '/' :: field)).any isLineEnd = false := by
      simpa [guard] using guarded
    exact ⟨⟨vaultFilled, itemFilled, fieldFilled, by simpa using vaultSegment,
      by simpa using itemSegment, oneLine.mp noLineEnd⟩, rendered.symm⟩
  · rintro ⟨grammatical, rfl⟩
    obtain ⟨vault, item, field⟩ := reference
    have noLineEnd := (joined_oneLine_iff vault item field).mpr grammatical.oneLine
    have stripped : scheme.toList.isPrefixOf?
        ("op://" ++ vault ++ "/" ++ item ++ "/" ++ field).toList =
          some (vault.toList ++ '/' :: (item.toList ++ '/' :: field.toList)) :=
      List.isPrefixOf?_eq_some_iff_append_eq.mpr (toList_text vault item field).symm
    unfold parse?
    simp only [stripped, Option.bind_eq_bind, Option.bind_some, noLineEnd, Bool.not_false, guard,
      if_true, cut?_append grammatical.vaultSegment, cut?_append grammatical.itemSegment,
      String.ofList_toList]
    exact ofParts?_of_ne grammatical.vaultFilled grammatical.itemFilled grammatical.fieldFilled

/-- A reference is read back from its text exactly if its parts can be told apart there. -/
theorem parse?_render_iff (reference : Reference) :
    parse? reference.render = some reference ↔
      Grammatical reference.vault reference.item reference.field :=
  parse?_eq_some_iff.trans (and_iff_left rfl)

/-- Parts that make one text are the same if they can be told apart. -/
theorem eq_of_text_eq {first second : Reference}
    (isFirst : Grammatical first.vault first.item first.field)
    (isSecond : Grammatical second.vault second.item second.field)
    (same : first.render = second.render) : first = second := by
  have readFirst := (parse?_render_iff first).mpr isFirst
  have readSecond := (parse?_render_iff second).mpr isSecond
  rw [same, readSecond] at readFirst
  exact (Option.some.inj readFirst).symm

/-- The references among the texts are those of the grammar, each with the one choice of parts
that makes the text, which is what it is rendered as. A reference made of any parts is read back
from its text exactly if vault and item have no slash and no part has a line end. -/
theorem parse?_grammar :
    (∀ text reference, parse? text = some reference ↔
      ∃ vault item field, Grammatical vault item field ∧
        text = "op://" ++ vault ++ "/" ++ item ++ "/" ++ field ∧
          reference = ⟨vault, item, field⟩) ∧
    (∀ vault item field vault' item' field',
      Grammatical vault item field → Grammatical vault' item' field' →
      "op://" ++ vault ++ "/" ++ item ++ "/" ++ field =
        "op://" ++ vault' ++ "/" ++ item' ++ "/" ++ field' →
      vault = vault' ∧ item = item' ∧ field = field') ∧
    (∀ text reference, parse? text = some reference → reference.render = text) ∧
    ∀ vault item field reference, ofParts? vault item field = some reference →
      (parse? reference.render = some reference ↔
        '/' ∉ vault.toList ∧ '/' ∉ item.toList ∧
          ∀ part ∈ [vault, item, field], '\n' ∉ part.toList ∧ '\r' ∉ part.toList) := by
  refine ⟨?_, ?_, fun _ _ => render_of_parse?, ?_⟩
  · intro text reference
    rw [parse?_eq_some_iff]
    constructor
    · rintro ⟨grammatical, isText⟩
      exact ⟨_, _, _, grammatical, isText, rfl⟩
    · rintro ⟨vault, item, field, grammatical, isText, rfl⟩
      exact ⟨grammatical, isText⟩
  · intro vault item field vault' item' field' isFirst isSecond same
    have equal : (⟨vault, item, field⟩ : Reference) = ⟨vault', item', field'⟩ :=
      eq_of_text_eq isFirst isSecond same
    exact Reference.mk.inj equal
  · intro vault item field reference built
    obtain ⟨vaultFilled, itemFilled, fieldFilled, rfl⟩ := ofParts?_eq_some_iff.mp built
    rw [parse?_render_iff]
    constructor
    · intro grammatical
      exact ⟨grammatical.vaultSegment, grammatical.itemSegment, grammatical.oneLine⟩
    · rintro ⟨vaultSegment, itemSegment, oneLine⟩
      exact ⟨vaultFilled, itemFilled, fieldFilled, vaultSegment, itemSegment, oneLine⟩

/-- A slash is kept in the field, also a second one after the item, and moves the other parts
if it stands in the vault. -/
theorem slashes_parse?_grammar :
    parse? "op://a/b//c" = some ⟨"a", "b", "/c"⟩ ∧
      ofParts? "a/b" "i" "f" = some ⟨"a/b", "i", "f"⟩ ∧
      parse? (render ⟨"a/b", "i", "f"⟩) ≠ some ⟨"a/b", "i", "f"⟩ := by
  obtain ⟨accepts, _, _, readBack⟩ := parse?_grammar
  have built : ofParts? "a/b" "i" "f" = some ⟨"a/b", "i", "f"⟩ := by decide
  refine ⟨(accepts _ _).mpr ⟨"a", "b", "/c", ?_, by decide, rfl⟩, built, ?_⟩
  · constructor <;> decide
  · rw [Ne, readBack "a/b" "i" "f" _ built]
    decide

end SecretRefs.Reference

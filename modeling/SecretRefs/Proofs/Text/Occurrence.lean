import Mathlib.Data.List.Infix
import SecretRefs.Text.Occurrence

/-!
# Where phrases occur

A text splits around a phrase exactly if the phrase is a stretch of it, and what is in front, the
phrase and what is behind make up the text. Replacing the first occurrence therefore changes
nothing in a text that the phrase does not occur in, and it passes over a beginning of the text in
which no occurrence begins.
-/

namespace SecretRefs.Text

variable {phrase replacement text front before behind : List Char} {c : Char}

/-! ## The first occurrence of a phrase -/

theorem isPrefixOf?_eq_none_iff : phrase.isPrefixOf? text = none ↔ ¬ phrase <+: text := by
  simp only [Option.eq_none_iff_forall_ne_some, ne_eq, List.isPrefixOf?_eq_some_iff_append_eq]
  exact not_exists.symm

theorem eq_of_splitAround? (split : splitAround? phrase text = some (before, behind)) :
    text = before ++ phrase ++ behind := by
  induction text generalizing before with
  | nil =>
    rw [splitAround?] at split
    split at split
    · rename_i empty
      cases split
      simpa using empty
    · cases split
  | cons c rest inductionHypothesis =>
    rw [splitAround?] at split
    split at split
    · rename_i begins
      cases split
      exact (List.isPrefixOf?_eq_some_iff_append_eq.mp begins).symm
    · obtain ⟨⟨earlier, later⟩, found, same⟩ := Option.map_eq_some_iff.mp split
      cases same
      rw [inductionHypothesis found]
      rfl

theorem splitAround?_eq_none_iff : splitAround? phrase text = none ↔ ¬ phrase <:+: text := by
  induction text with
  | nil => simp [splitAround?]
  | cons c rest inductionHypothesis =>
    rw [splitAround?, List.infix_cons_iff, not_or, ← inductionHypothesis]
    cases begins : phrase.isPrefixOf? (c :: rest) with
    | none => simp [isPrefixOf?_eq_none_iff.mp begins]
    | some behind =>
      have isStart : phrase <+: c :: rest :=
        ⟨behind, List.isPrefixOf?_eq_some_iff_append_eq.mp begins⟩
      simp [isStart]

/-- No occurrence begins before the one that a text is split around. -/
theorem length_le_of_splitAround? (split : splitAround? phrase text = some (before, behind))
    {earlier later : List Char} (occurs : text = earlier ++ phrase ++ later) :
    before.length ≤ earlier.length := by
  induction text generalizing before earlier with
  | nil =>
    have isWhole := eq_of_splitAround? split
    rw [List.append_assoc, eq_comm, List.append_eq_nil_iff] at isWhole
    rw [isWhole.1]
    exact Nat.zero_le _
  | cons c rest inductionHypothesis =>
    rw [splitAround?] at split
    split at split
    · cases split
      exact Nat.zero_le _
    · rename_i notHere
      obtain ⟨⟨inner, rear⟩, found, same⟩ := Option.map_eq_some_iff.mp split
      cases same
      cases earlier with
      | nil => exact absurd ⟨later, occurs.symm⟩ (isPrefixOf?_eq_none_iff.mp notHere)
      | cons first earlier =>
        exact Nat.succ_le_succ (inductionHypothesis found (List.cons.inj occurs).2)

/-- A text is split around the first occurrence of a phrase. -/
theorem splitAround?_eq_some_iff :
    splitAround? phrase text = some (before, behind) ↔
      text = before ++ phrase ++ behind ∧ ∀ earlier later,
        text = earlier ++ phrase ++ later → before.length ≤ earlier.length := by
  refine ⟨fun split => ⟨eq_of_splitAround? split, fun _ _ => length_le_of_splitAround? split⟩, ?_⟩
  rintro ⟨isText, isFirst⟩
  cases split : splitAround? phrase text with
  | none => exact absurd ⟨before, behind, isText.symm⟩ (splitAround?_eq_none_iff.mp split)
  | some parts =>
    obtain ⟨front, rear⟩ := parts
    have otherText := eq_of_splitAround? split
    have sameLength : before.length = front.length :=
      Nat.le_antisymm (isFirst front rear otherText) (length_le_of_splitAround? split isText)
    have samePhrase : before ++ (phrase ++ behind) = front ++ (phrase ++ rear) := by
      rw [← List.append_assoc, ← List.append_assoc, ← isText, ← otherText]
    obtain ⟨rfl, sameRest⟩ := List.append_inj samePhrase sameLength
    rw [List.append_cancel_left sameRest]

theorem replaceFirst_eq_self (absent : ¬ phrase <:+: text) :
    replaceFirst phrase replacement text = text := by
  rw [replaceFirst, splitAround?_eq_none_iff.mpr absent]

/-- What stands in a text after a replacement stood there before, or is of what was put in. -/
theorem mem_of_mem_replaceFirst (member : c ∈ replaceFirst phrase replacement text) :
    c ∈ text ∨ c ∈ replacement := by
  unfold replaceFirst at member
  split at member
  · rename_i split
    rw [eq_of_splitAround? split]
    simp only [List.mem_append] at member ⊢
    tauto
  · exact .inl member

/-- What is put in for a phrase that occurs is there afterwards. -/
theorem mem_replaceFirst_of_infix (occurs : phrase <:+: text) (member : c ∈ replacement) :
    c ∈ replaceFirst phrase replacement text := by
  unfold replaceFirst
  split
  · simp [member]
  · rename_i absent
    exact absurd occurs (splitAround?_eq_none_iff.mp absent)

/-- Whether an occurrence of a phrase may begin in a text, which may go on. -/
def mayBegin (phrase text : List Char) : Bool :=
  text.tails.any fun tail =>
    !tail.isEmpty && phrase.take tail.length == tail.take phrase.length

theorem mayBegin_cons_eq_false (barred : mayBegin phrase (c :: front) = false)
    (text : List Char) :
    phrase.isPrefixOf? (c :: (front ++ text)) = none ∧ mayBegin phrase front = false := by
  rw [mayBegin, List.tails_cons, List.any_cons, Bool.or_eq_false_iff] at barred
  obtain ⟨here, later⟩ := barred
  refine ⟨isPrefixOf?_eq_none_iff.mpr fun begins => ?_, later⟩
  have whole := List.prefix_iff_eq_take.mp begins
  have agree : phrase.take (c :: front).length = (c :: front).take phrase.length := by
    conv_lhs => rw [whole, ← List.cons_append, List.take_take, Nat.min_comm, ← List.take_take,
      List.take_left]
  rw [agree] at here
  simp at here

/-- A text in which no occurrence may begin is passed over. -/
theorem splitAround?_append (barred : mayBegin phrase front = false) :
    splitAround? phrase (front ++ text) =
      (splitAround? phrase text).map fun (before, behind) => (front ++ before, behind) := by
  induction front with
  | nil => simp
  | cons c front inductionHypothesis =>
    obtain ⟨notHere, notLater⟩ := mayBegin_cons_eq_false barred text
    rw [List.cons_append, splitAround?, notHere]
    dsimp only
    rw [inductionHypothesis notLater, Option.map_map]
    rfl

theorem replaceFirst_append (barred : mayBegin phrase front = false) :
    replaceFirst phrase replacement (front ++ text) =
      front ++ replaceFirst phrase replacement text := by
  unfold replaceFirst
  rw [splitAround?_append barred]
  cases splitAround? phrase text with
  | none => rfl
  | some parts => simp

/-- A phrase at the beginning is its first occurrence. -/
theorem replaceFirst_begins (nonempty : phrase ≠ []) :
    replaceFirst phrase replacement (phrase ++ text) = replacement ++ text := by
  have begins : phrase.isPrefixOf? (phrase ++ text) = some text :=
    List.isPrefixOf?_eq_some_iff_append_eq.mpr rfl
  cases phrase with
  | nil => exact absurd rfl nonempty
  | cons c rest =>
    rw [List.cons_append] at begins ⊢
    rw [replaceFirst, splitAround?, begins]
    rfl

/-! ## Parts between marks -/

variable {isMark : Char → Bool}

theorem parts_ne_nil (isMark : Char → Bool) (chars : List Char) : parts isMark chars ≠ [] := by
  cases chars with
  | nil => exact List.cons_ne_nil _ _
  | cons c rest =>
    unfold parts
    split
    · exact List.cons_ne_nil _ _
    · split <;> exact List.cons_ne_nil _ _

/-- The first part ends at the first mark. -/
theorem parts_append_cons (unmarked : ∀ c ∈ front, isMark c = false) {mark : Char}
    (isMarked : isMark mark = true) :
    parts isMark (front ++ mark :: text) = front :: parts isMark text := by
  induction front with
  | nil => rw [List.nil_append, parts, if_pos isMarked]
  | cons c rest inductionHypothesis =>
    obtain ⟨here, later⟩ := List.forall_mem_cons.mp unmarked
    rw [List.cons_append, parts, here, if_neg Bool.false_ne_true, inductionHypothesis later]

/-- A text has one part only if it has no mark. -/
theorem parts_eq_singleton_iff {part : List Char} :
    parts isMark text = [part] ↔ part = text ∧ ∀ c ∈ text, isMark c = false := by
  induction text generalizing part with
  | nil =>
    rw [parts, List.cons.injEq, and_iff_left rfl, eq_comm, and_iff_left (List.forall_mem_nil _)]
  | cons c rest inductionHypothesis =>
    rw [parts, List.forall_mem_cons]
    cases marked : isMark c with
    | true => simp [parts_ne_nil]
    | false =>
      cases others : parts isMark rest with
      | nil => exact absurd others (parts_ne_nil isMark rest)
      | cons first more =>
        rw [others] at inductionHypothesis
        cases more with
        | nil =>
          obtain ⟨rfl, unmarked⟩ := inductionHypothesis.mp rfl
          rw [if_neg Bool.false_ne_true, List.cons.injEq, and_iff_left rfl, eq_comm,
            and_iff_left ⟨rfl, unmarked⟩]
        | cons second more =>
          have marks : ¬ ∀ c ∈ rest, isMark c = false := by
            intro unmarked
            have alone : first :: second :: more = [rest] := inductionHypothesis.mpr ⟨rfl, unmarked⟩
            cases alone
          simp [marks]

end SecretRefs.Text

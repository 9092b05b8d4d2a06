import Mathlib.Data.List.DropRight
import Std.Data.String.ToNat
import SecretRefs.Redaction

/-!
# What redaction reveals

A secret of more than twelve characters is shown by its start, the `mark` of how many characters
are hidden, and its end. Start and end have fixed lengths and a mark can be told from every other
one, so the redacted form gives away these three and nothing else (`redact_eq_iff_alike`). Only a
text that has the mark of its own hidden part in the place of that part is shown as it is
(`redact_eq_self_iff`).
-/

namespace SecretRefs.Redaction

/-- What is shown in the place of hidden characters. -/
def mark (count : Nat) : List Char :=
  "...[".toList ++ (toString count).toList ++ " chars]...".toList

variable {secret one other : String}

theorem length_mark (count : Nat) : (mark count).length = 14 + (toString count).length := by
  simp only [mark, List.length_append, String.length_toList]
  rw [show "...[".length = 4 from rfl, show " chars]...".length = 10 from rfl]
  omega

/-- A mark tells how many characters are hidden. -/
theorem mark_injective {count otherCount : Nat} (same : mark count = mark otherCount) :
    count = otherCount := by
  unfold mark at same
  rw [List.append_assoc, List.append_assoc] at same
  have digits := List.append_cancel_right (List.append_cancel_left same)
  exact Nat.repr_injective (String.toList_injective digits)

theorem redact_short (short : secret.length ≤ 12) : redact secret = hidden := by
  rw [redact]
  exact if_pos (by rwa [String.length_toList])

theorem toList_redact (long : 12 < secret.length) :
    (redact secret).toList =
      secret.toList.take 6 ++ mark (secret.length - 10) ++ secret.toList.rtake 4 := by
  have notShort : ¬ secret.toList.length ≤ hiddenLimit := by
    rw [String.length_toList]
    exact Nat.not_le_of_lt long
  have count : secret.length - headLength - tailLength = secret.length - 10 :=
    Nat.sub_sub secret.length headLength tailLength
  rw [redact, if_neg notShort, String.toList_ofList, String.length_toList, count, mark,
    List.rtake, String.length_toList]
  simp only [List.append_assoc]
  rfl

theorem length_start (long : 12 < secret.length) : (secret.toList.take 6).length = 6 := by
  rw [List.length_take, String.length_toList]
  omega

theorem length_end (long : 12 < secret.length) : (secret.toList.rtake 4).length = 4 := by
  rw [List.rtake, List.length_drop, String.length_toList]
  omega

/-- The redacted form of a long secret is longer than what stands for a short one. -/
theorem length_redact (long : 12 < secret.length) :
    (redact secret).length = 24 + (toString (secret.length - 10)).length := by
  rw [← String.length_toList, toList_redact long]
  simp only [List.length_append, length_start long, length_mark, length_end long]
  omega

theorem redact_ne_hidden (long : 12 < secret.length) : redact secret ≠ hidden := by
  intro same
  have tooLong := length_redact long
  rw [same, show hidden.length = 13 from rfl] at tooLong
  omega

/-- Long secrets are redacted alike exactly if all that is shown of them is the same. -/
theorem redact_eq_iff_of_long (long : 12 < one.length) (otherLong : 12 < other.length) :
    redact one = redact other ↔ one.length = other.length ∧
      one.toList.take 6 = other.toList.take 6 ∧ one.toList.rtake 4 = other.toList.rtake 4 := by
  rw [← String.toList_inj, toList_redact long, toList_redact otherLong]
  constructor
  · intro same
    obtain ⟨sameFront, sameEnd⟩ := List.append_inj' same
      ((length_end long).trans (length_end otherLong).symm)
    obtain ⟨sameStart, sameMark⟩ := List.append_inj sameFront
      ((length_start long).trans (length_start otherLong).symm)
    have sameCount := mark_injective sameMark
    exact ⟨by omega, sameStart, sameEnd⟩
  · rintro ⟨sameLength, sameStart, sameEnd⟩
    rw [sameLength, sameStart, sameEnd]

/-- The redacted form of a long secret has a mark in the place of what is hidden. -/
theorem exists_middle (long : 12 < secret.length) : ∃ middle : List Char,
    secret.toList = secret.toList.take 6 ++ middle ++ secret.toList.rtake 4 ∧
    (redact secret).toList =
      secret.toList.take 6 ++ mark middle.length ++ secret.toList.rtake 4 ∧
    middle.length + 10 = secret.length := by
  obtain ⟨start, rest, isText, startLength⟩ :
      ∃ start rest, secret.toList = start ++ rest ∧ start.length = 6 :=
    ⟨_, _, (List.take_append_drop 6 secret.toList).symm, length_start long⟩
  have total : 6 + rest.length = secret.length := by
    rw [← String.length_toList, isText, List.length_append, startLength]
  have count : (rest.rdrop 4).length + 10 = secret.length := by
    rw [List.rdrop, List.length_take]
    omega
  refine ⟨rest.rdrop 4, ?_, ?_, count⟩
  · have isEnd : secret.toList.rtake 4 = rest.drop (rest.length - 4) := by
      rw [List.rtake, isText, List.length_append, startLength,
        show 6 + rest.length - 4 = 6 + (rest.length - 4) by omega, ← startLength,
        List.drop_length_add_append]
    rw [isEnd, isText, List.take_left' startLength, List.append_assoc, List.rdrop,
      List.take_append_drop]
  · rw [toList_redact long, ← count, Nat.add_sub_cancel]

/-- A number has at most one digit more than it has tens. -/
theorem length_repr_le (count : Nat) : count.repr.length ≤ count / 10 + 1 := by
  by_cases small : count < 10
  · rw [Nat.repr_of_lt small, String.length_singleton]
    omega
  · have tens : (count / 10).repr.length ≤ count / 10 :=
      (Nat.length_repr_le_iff (by omega)).mpr (Nat.lt_pow_self (by decide))
    rw [Nat.repr_of_ge (Nat.le_of_not_lt small), String.length_append, String.length_singleton]
    omega

/-- A mark is as long as the part that it stands for only if that part has 16 characters. -/
theorem length_mark_eq_iff {count : Nat} : (mark count).length = count ↔ count = 16 := by
  rw [length_mark, Nat.toString_eq_repr]
  refine ⟨fun same => ?_, fun isSixteen => by rw [isSixteen]; rfl⟩
  have fewDigits := length_repr_le count
  have oneDigit : count.repr.length ≤ 1 ↔ count < 10 ^ 1 := Nat.length_repr_le_iff (by decide)
  omega

/-- Two texts are redacted alike exactly if both have at most twelve characters, or both have the
same number, more than twelve, with the same first six and last four. Of more than twelve
characters at least three are hidden, and their number is shown. -/
theorem redact_eq_iff_alike :
    (∀ one other, redact one = redact other ↔
      one.length ≤ 12 ∧ other.length ≤ 12 ∨
      (12 < one.length ∧ 12 < other.length) ∧ one.length = other.length ∧
        one.toList.take 6 = other.toList.take 6 ∧ one.toList.rtake 4 = other.toList.rtake 4) ∧
    ∀ secret, 12 < secret.length → ∃ middle : List Char,
      secret.toList = secret.toList.take 6 ++ middle ++ secret.toList.rtake 4 ∧
      (redact secret).toList = secret.toList.take 6 ++
        ("...[" ++ toString middle.length ++ " chars]...").toList ++ secret.toList.rtake 4 ∧
      middle.length + 10 = secret.length ∧ 3 ≤ middle.length := by
  refine ⟨fun one other => ?_, fun secret long => ?_⟩
  · by_cases short : one.length ≤ 12
    · by_cases otherShort : other.length ≤ 12
      · rw [redact_short short, redact_short otherShort]
        exact iff_of_true rfl (.inl ⟨short, otherShort⟩)
      · rw [redact_short short]
        exact iff_of_false (redact_ne_hidden (Nat.lt_of_not_le otherShort)).symm (by omega)
    · by_cases otherShort : other.length ≤ 12
      · rw [redact_short otherShort]
        exact iff_of_false (redact_ne_hidden (Nat.lt_of_not_le short)) (by omega)
      · rw [redact_eq_iff_of_long (Nat.lt_of_not_le short) (Nat.lt_of_not_le otherShort)]
        simp [short, Nat.lt_of_not_le short, Nat.lt_of_not_le otherShort]
  · obtain ⟨middle, isText, isShown, count⟩ := exists_middle long
    refine ⟨middle, isText, ?_, count, by omega⟩
    rw [isShown]
    simp only [mark, String.toList_append]

/-- Of thirteen characters three are hidden, so texts that differ in these alone are redacted
alike. -/
theorem three_hidden_alike :
    redact "123456abc0123" = redact "123456xyz0123" ∧
    12 < "123456abc0123".length ∧ ∃ middle : List Char,
      "123456abc0123".toList = "123456".toList ++ middle ++ "0123".toList ∧ middle.length = 3 := by
  have long : 12 < "123456abc0123".length := by decide
  refine ⟨(redact_eq_iff_alike.1 _ _).mpr (.inr (by decide)), long, ?_⟩
  obtain ⟨middle, isText, -, count, -⟩ := redact_eq_iff_alike.2 "123456abc0123" long
  exact ⟨middle, isText, Nat.add_right_cancel count⟩

/-- A text is its own redacted form exactly if it has 26 characters, of which those behind the
first six and before the last four say that 16 characters are hidden. -/
theorem redact_eq_self_iff (secret : String) :
    redact secret = secret ↔
      secret.length = 26 ∧ (secret.toList.drop 6).take 16 = "...[16 chars]...".toList := by
  by_cases short : secret.length ≤ 12
  · rw [redact_short short]
    refine iff_of_false (fun same => ?_) (by omega)
    rw [← same] at short
    exact absurd short (by decide)
  · have long := Nat.lt_of_not_le short
    obtain ⟨middle, isText, isShown, count⟩ := exists_middle long
    have isSelf : redact secret = secret ↔ mark middle.length = middle := by
      rw [← String.toList_inj, isShown]
      conv_lhs => rhs; rw [isText]
      rw [List.append_cancel_right_eq, List.append_cancel_left_eq]
    have isMiddle (isLong : secret.length = 26) : (secret.toList.drop 6).take 16 = middle := by
      rw [isText, List.append_assoc, List.drop_left' (length_start long),
        List.take_left' (by omega)]
    rw [isSelf]
    constructor
    · intro same
      have sixteen := length_mark_eq_iff.mp (congrArg List.length same)
      have isLong : secret.length = 26 := by omega
      rw [isMiddle isLong, ← same, sixteen]
      exact ⟨isLong, rfl⟩
    · rintro ⟨isLong, saysSixteen⟩
      rw [isMiddle isLong] at saysSixteen
      rw [saysSixteen]
      rfl

example : redact "abcdef...[16 chars]...wxyz" = "abcdef...[16 chars]...wxyz" := by decide

end SecretRefs.Redaction

import Mathlib.Algebra.GroupWithZero.Nat

/-!
# Lines

A text is some lines with a line break behind each of them, and what stands behind the last line
break. There is one way only to take it apart so (`ended_append_inj`), and to show something of all
texts it is enough to put lines in front of a text one after the other (`lineInduction`).
-/

namespace SecretRefs.Text

/-- Lines with a line break behind each of them. -/
def ended (lines : List (List Char)) : List Char :=
  lines.flatMap (· ++ ['\n'])

/-- Lines that have no line break in them. -/
def Unbroken (lines : List (List Char)) : Prop :=
  ∀ line ∈ lines, '\n' ∉ line

variable {tail otherTail : List Char} {lines otherLines : List (List Char)}

@[simp]
theorem ended_nil : ended [] = [] := rfl

@[simp]
theorem ended_cons (line : List Char) (lines : List (List Char)) :
    ended (line :: lines) = line ++ '\n' :: ended lines := by
  rw [ended, List.flatMap_cons, List.append_assoc]
  rfl

@[simp]
theorem ended_append (lines otherLines : List (List Char)) :
    ended (lines ++ otherLines) = ended lines ++ ended otherLines :=
  List.flatMap_append

theorem unbroken_cons {line : List Char} :
    Unbroken (line :: lines) ↔ '\n' ∉ line ∧ Unbroken lines :=
  List.forall_mem_cons

theorem unbroken_append : Unbroken (lines ++ otherLines) ↔ Unbroken lines ∧ Unbroken otherLines :=
  List.forall_mem_append

/-- A property of all texts of one line that goes over to a text with a line put in front of it is
a property of all texts. -/
theorem lineInduction {motive : List Char → Prop} (last : ∀ line, '\n' ∉ line → motive line)
    (more : ∀ line rest, '\n' ∉ line → motive rest → motive (line ++ '\n' :: rest))
    (text : List Char) : motive text := by
  by_cases broken : '\n' ∈ text
  · obtain ⟨line, rest, isText, noBreak⟩ := List.eq_append_cons_of_mem broken
    have shorter : rest.length < text.length := by
      rw [isText, List.length_append, List.length_cons]
      omega
    rw [isText]
    exact more line rest noBreak (lineInduction last more rest)
  · exact last text broken
termination_by text.length

/-- A text consists of lines and what stands behind the last line break. -/
theorem exists_ended (text : List Char) :
    ∃ lines tail, text = ended lines ++ tail ∧ Unbroken lines ∧ '\n' ∉ tail := by
  induction text using lineInduction with
  | last line noBreak => exact ⟨[], line, rfl, List.forall_mem_nil _, noBreak⟩
  | more line rest noBreak inductionHypothesis =>
    obtain ⟨lines, tail, rfl, unbroken, tailNoBreak⟩ := inductionHypothesis
    refine ⟨line :: lines, tail, ?_, unbroken_cons.mpr ⟨noBreak, unbroken⟩, tailNoBreak⟩
    rw [ended_cons, List.append_assoc, List.cons_append]

/-- The text is split at its line breaks into the lines and what stands behind them. -/
theorem splitOn_ended_append (unbroken : Unbroken lines) (noBreak : '\n' ∉ tail) :
    (ended lines ++ tail).splitOn '\n' = lines ++ [tail] := by
  induction lines with
  | nil => exact List.splitOn_eq_singleton noBreak
  | cons line lines inductionHypothesis =>
    obtain ⟨here, later⟩ := unbroken_cons.mp unbroken
    rw [ended_cons, List.append_assoc, List.cons_append,
      List.splitOn_append_cons_self_of_not_mem here, inductionHypothesis later, List.cons_append]

/-- Lines and what stands behind them can be told from the text. -/
theorem ended_append_inj (unbroken : Unbroken lines) (otherUnbroken : Unbroken otherLines)
    (noBreak : '\n' ∉ tail) (otherNoBreak : '\n' ∉ otherTail)
    (same : ended lines ++ tail = ended otherLines ++ otherTail) :
    lines = otherLines ∧ tail = otherTail := by
  have sameParts := congrArg (List.splitOn '\n') same
  rw [splitOn_ended_append unbroken noBreak, splitOn_ended_append otherUnbroken otherNoBreak]
    at sameParts
  obtain ⟨sameLines, sameTail⟩ := List.append_inj' sameParts rfl
  exact ⟨sameLines, List.singleton_inj.mp sameTail⟩

/-- Lines that have line breaks in them are more lines that have none. -/
theorem exists_unbroken (lines : List (List Char)) :
    ∃ others, Unbroken others ∧ ended others = ended lines := by
  induction lines with
  | nil => exact ⟨[], List.forall_mem_nil _, rfl⟩
  | cons line lines inductionHypothesis =>
    obtain ⟨others, unbroken, same⟩ := inductionHypothesis
    obtain ⟨parts, last, rfl, unbrokenParts, noBreak⟩ := exists_ended line
    refine ⟨parts ++ last :: others,
      unbroken_append.mpr ⟨unbrokenParts, unbroken_cons.mpr ⟨noBreak, unbroken⟩⟩, ?_⟩
    rw [ended_append, ended_cons, ended_cons, same, List.append_assoc]

/-- Lines give a text one line break each, besides those that are in them. -/
theorem count_ended (lines : List (List Char)) :
    (ended lines).count '\n' = lines.length + (lines.map (List.count '\n')).sum := by
  induction lines with
  | nil => rfl
  | cons line lines inductionHypothesis =>
    rw [ended_cons, List.count_append, List.count_cons_self, inductionHypothesis,
      List.length_cons, List.map_cons, List.sum_cons]
    omega

theorem unbroken_iff_sum : Unbroken lines ↔ (lines.map (List.count '\n')).sum = 0 := by
  rw [List.sum_eq_zero_iff_forall_eq_nat, List.forall_mem_map]
  simp only [List.count_eq_zero]
  rfl

/-- A text has as many lines as it has line breaks. -/
theorem Unbroken.length_eq (unbroken : Unbroken lines) :
    lines.length = (ended lines).count '\n' := by
  rw [count_ended, unbroken_iff_sum.mp unbroken, Nat.add_zero]

/-- Lines are those of their text just if they have no line break in them. -/
theorem Unbroken.eq_iff (unbroken : Unbroken lines) (same : ended lines = ended otherLines) :
    lines = otherLines ↔ Unbroken otherLines := by
  refine ⟨fun isSame => isSame ▸ unbroken, fun otherUnbroken => ?_⟩
  refine (ended_append_inj unbroken otherUnbroken List.not_mem_nil List.not_mem_nil ?_).1
  rw [List.append_nil, List.append_nil, same]

/-- A first line ends at the first line break. -/
theorem line_inj {line other rest otherRest : List Char} (noBreak : '\n' ∉ line)
    (otherNoBreak : '\n' ∉ other)
    (same : line ++ '\n' :: rest = other ++ '\n' :: otherRest) :
    line = other ∧ rest = otherRest := by
  obtain ⟨lines, tail, rfl, unbroken, tailNoBreak⟩ := exists_ended rest
  obtain ⟨otherLines, otherTail, rfl, otherUnbroken, otherTailNoBreak⟩ := exists_ended otherRest
  have sameText : ended (line :: lines) ++ tail = ended (other :: otherLines) ++ otherTail := by
    simpa only [ended_cons, List.append_assoc, List.cons_append] using same
  obtain ⟨sameLines, rfl⟩ := ended_append_inj (unbroken_cons.mpr ⟨noBreak, unbroken⟩)
    (unbroken_cons.mpr ⟨otherNoBreak, otherUnbroken⟩) tailNoBreak otherTailNoBreak sameText
  obtain ⟨rfl, rfl⟩ := List.cons.inj sameLines
  exact ⟨rfl, rfl⟩

end SecretRefs.Text

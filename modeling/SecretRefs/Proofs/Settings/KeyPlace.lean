import SecretRefs.Settings.KeyPlace
import SecretRefs.Proofs.Text.Blank
import SecretRefs.Proofs.Text.Line
import SecretRefs.Proofs.Text.Occurrence

/-!
# Where keys are found

A key is searched for line by line: in all of the text, or behind the first occurrence of the header
of its table. Said without the search, its place is behind the blanks of the first line there that
assigns it, if no header comes before, and `find?_eq_some_iff` says that a key is found exactly at
its place. The line in which the search starts may be a header itself.
-/

namespace SecretRefs.Settings.KeyPlace

open Text (isBlank dropBlanks ended Unbroken)

variable {key line text : List Char} {above : List (List Char)} {start offset : Nat}

/-! ## Lengths in bytes -/

theorem byteLength_cons (c : Char) (chars : List Char) :
    byteLength (c :: chars) = c.utf8Size + byteLength chars := rfl

@[simp]
theorem byteLength_append (front back : List Char) :
    byteLength (front ++ back) = byteLength front + byteLength back := by
  induction front with
  | nil => exact (Nat.zero_add _).symm
  | cons c rest inductionHypothesis =>
    rw [List.cons_append, byteLength_cons, byteLength_cons, inductionHypothesis, Nat.add_assoc]

theorem utf8ByteSize_ofList (chars : List Char) :
    (String.ofList chars).utf8ByteSize = byteLength chars := by
  induction chars with
  | nil => rfl
  | cons c rest inductionHypothesis =>
    rw [String.ofList_cons, String.utf8ByteSize_append, String.utf8ByteSize_singleton,
      inductionHypothesis, byteLength_cons]

theorem byteLength_cons_pos (c : Char) (chars : List Char) : 0 < byteLength (c :: chars) :=
  Nat.add_pos_left c.utf8Size_pos _

/-- Beginnings of one text that have the same length are the same. -/
theorem eq_of_byteLength_eq {front otherFront back otherBack : List Char}
    (same : front ++ back = otherFront ++ otherBack)
    (sameLength : byteLength front = byteLength otherFront) : front = otherFront := by
  induction front generalizing otherFront with
  | nil =>
    cases otherFront with
    | nil => rfl
    | cons c rest => exact absurd sameLength (byteLength_cons_pos c rest).ne
  | cons c rest inductionHypothesis =>
    cases otherFront with
    | nil => exact absurd sameLength (byteLength_cons_pos c rest).ne'
    | cons other otherRest =>
      obtain ⟨rfl, sameRest⟩ := List.cons.inj same
      rw [byteLength_cons, byteLength_cons] at sameLength
      rw [inductionHypothesis sameRest (Nat.add_left_cancel sameLength)]

/-! ## Lines of a text -/

theorem lines_cons_of_ne {c : Char} (noBreak : c ≠ '\n') (rest : List Char) :
    lines (c :: rest) = (c :: (lines rest).headD []) :: (lines rest).tail := by
  rw [lines, if_neg (by simpa using noBreak)]
  cases lines rest with
  | nil => rfl
  | cons first others => rfl

theorem flatten_lines (text : List Char) : (lines text).flatten = text := by
  induction text with
  | nil => rfl
  | cons c rest inductionHypothesis =>
    rw [lines]
    split
    · rw [List.flatten_cons, inductionHypothesis]
      rfl
    · cases isLines : lines rest with
      | nil =>
        rw [isLines] at inductionHypothesis
        rw [← inductionHypothesis]
        rfl
      | cons first others =>
        rw [isLines] at inductionHypothesis
        rw [← inductionHypothesis]
        rfl

/-- The first line of a text goes on from a beginning without line breaks. -/
theorem lines_append (nonempty : line ≠ []) (noBreak : '\n' ∉ line) (rest : List Char) :
    lines (line ++ rest) = (line ++ (lines rest).headD []) :: (lines rest).tail := by
  induction line with
  | nil => exact absurd rfl nonempty
  | cons c more inductionHypothesis =>
    rw [List.mem_cons, not_or] at noBreak
    obtain ⟨here, later⟩ := noBreak
    rw [List.cons_append, lines_cons_of_ne (Ne.symm here)]
    cases more with
    | nil => rfl
    | cons next others =>
      rw [inductionHypothesis (List.cons_ne_nil _ _) later]
      rfl

theorem lines_break (noBreak : '\n' ∉ line) (rest : List Char) :
    lines (line ++ '\n' :: rest) = (line ++ ['\n']) :: lines rest := by
  cases line with
  | nil => rfl
  | cons c more => rw [lines_append (List.cons_ne_nil _ _) noBreak]; rfl

/-- Lines above are lines of the text. -/
theorem lines_ended_append (unbroken : Unbroken above) (rest : List Char) :
    lines (ended above ++ rest) = above.map (· ++ ['\n']) ++ lines rest := by
  induction above with
  | nil => rfl
  | cons line above inductionHypothesis =>
    obtain ⟨here, later⟩ := Text.unbroken_cons.mp unbroken
    rw [Text.ended_cons, List.append_assoc, List.cons_append, lines_break here,
      inductionHypothesis later]
    rfl

/-- The lines in front of one are lines above it. -/
theorem exists_above {before after : List (List Char)}
    (isLines : lines text = before ++ line :: after) :
    ∃ above, before = above.map (· ++ ['\n']) ∧ Unbroken above ∧
      text = ended above ++ (line ++ after.flatten) ∧ '\n' ∉ line.dropLast := by
  induction text using Text.lineInduction generalizing before with
  | last alone noBreak =>
    have nonempty : alone ≠ [] := by
      rintro rfl
      exact absurd isLines.symm (List.append_ne_nil_of_right_ne_nil _ (List.cons_ne_nil _ _))
    have isAlone : lines alone = [alone] := by
      simpa [lines] using lines_append nonempty noBreak []
    rw [isAlone, eq_comm, List.append_eq_singleton_iff] at isLines
    obtain ⟨rfl, isLine⟩ | ⟨-, isEmpty⟩ := isLines
    · obtain ⟨rfl, rfl⟩ := List.cons.inj isLine
      refine ⟨[], rfl, List.forall_mem_nil _, (List.append_nil _).symm, fun member => ?_⟩
      exact noBreak (List.mem_of_mem_dropLast member)
    · cases isEmpty
  | more first rest noBreak inductionHypothesis =>
    rw [lines_break noBreak] at isLines
    cases before with
    | nil =>
      obtain ⟨rfl, rfl⟩ := List.cons.inj isLines
      refine ⟨[], rfl, List.forall_mem_nil _, ?_, ?_⟩
      · rw [flatten_lines, Text.ended_nil, List.nil_append, List.append_assoc]
        rfl
      · rwa [List.dropLast_concat]
    | cons top before =>
      obtain ⟨rfl, isRest⟩ := List.cons.inj isLines
      obtain ⟨above, rfl, unbroken, isText, lineNoBreak⟩ := inductionHypothesis isRest
      refine ⟨first :: above, rfl, Text.unbroken_cons.mpr ⟨noBreak, unbroken⟩, ?_, lineNoBreak⟩
      rw [Text.ended_cons, isText]
      simp only [List.append_assoc, List.cons_append]

/-! ## Lines that assign a key -/

/-- A line assigns a key: it has, behind blanks, the key and, behind blanks again, an equals
sign. -/
def Assigns (key line : List Char) : Prop :=
  ∃ indent gap value, line = indent ++ key ++ gap ++ '=' :: value ∧
    (∀ c ∈ indent, isBlank c = true) ∧ ∀ c ∈ gap, isBlank c = true

/-- The key that a line assigns is behind all blanks at its start. -/
theorem exists_of_assigns (isAssigned : assigns key line = true) :
    ∃ indent gap value, line = indent ++ (key ++ gap ++ '=' :: value) ∧
      (∀ c ∈ indent, isBlank c = true) ∧ (∀ c ∈ gap, isBlank c = true) ∧
      ∀ c ∈ (key ++ gap).head?, isBlank c = false := by
  unfold assigns at isAssigned
  split at isAssigned
  · rename_i behind begins
    have isRest := List.isPrefixOf?_eq_some_iff_append_eq.mp begins
    cases equals : dropBlanks behind with
    | nil =>
      rw [equals] at isAssigned
      cases isAssigned
    | cons sign value =>
      rw [equals, List.head?_cons, beq_iff_eq, Option.some_inj] at isAssigned
      subst isAssigned
      have isBehind : behind = behind.takeWhile isBlank ++ '=' :: value := by
        rw [← equals, dropBlanks, List.takeWhile_append_dropWhile]
      have isDropped : dropBlanks line = key ++ behind.takeWhile isBlank ++ '=' :: value := by
        rw [← isRest, List.append_assoc, ← isBehind]
      refine ⟨line.takeWhile isBlank, behind.takeWhile isBlank, value, ?_,
        fun c => List.mem_takeWhile_imp, fun c => List.mem_takeWhile_imp, fun c first => ?_⟩
      · rw [← isDropped, dropBlanks, List.takeWhile_append_dropWhile]
      · have firstKept : c ∈ (dropBlanks line).head? := by
          rw [isDropped]
          exact Text.mem_head?_of_begins (List.prefix_append _ _) first
        exact Text.notBlank_of_mem_head?_dropBlanks firstKept
  · cases isAssigned

section Found

variable {indent gap value : List Char} (stop : ∀ c ∈ (key ++ gap).head?, isBlank c = false)

include stop

theorem notBlank_of_stop : ∀ c ∈ key.head?, isBlank c = false :=
  fun c first => stop c (Text.mem_head?_of_begins (List.prefix_append _ _) first)

/-- No blank is at the start of a key, or of the equals sign behind an empty one. -/
theorem notBlank_of_mem_head? : ∀ c ∈ (key ++ gap ++ '=' :: value).head?, isBlank c = false := by
  intro c first
  cases isStart : key ++ gap with
  | nil =>
    rw [isStart, List.nil_append, List.head?_cons, Option.mem_some_iff] at first
    subst first
    decide
  | cons start rest =>
    rw [isStart] at first stop
    exact stop c first

theorem assigns_of_stop (blank : ∀ c ∈ indent, isBlank c = true)
    (gapBlank : ∀ c ∈ gap, isBlank c = true) :
    assigns key (indent ++ (key ++ gap ++ '=' :: value)) = true := by
  have begins : key.isPrefixOf? (key ++ gap ++ '=' :: value) = some (gap ++ '=' :: value) := by
    rw [List.isPrefixOf?_eq_some_iff_append_eq, List.append_assoc]
  have equals : dropBlanks (gap ++ '=' :: value) = '=' :: value :=
    Text.dropBlanks_append gapBlank (by simp; decide)
  rw [assigns, Text.dropBlanks_append blank (notBlank_of_mem_head? stop), begins]
  dsimp only
  rw [equals]
  rfl

theorem indentation_of_stop (blank : ∀ c ∈ indent, isBlank c = true) :
    indentation (indent ++ (key ++ gap ++ '=' :: value)) = byteLength indent := by
  rw [indentation, Text.takeWhile_isBlank_append blank (notBlank_of_mem_head? stop)]

theorem isHeader_of_stop (blank : ∀ c ∈ indent, isBlank c = true)
    (gapBlank : ∀ c ∈ gap, isBlank c = true) :
    isHeader (indent ++ (key ++ gap ++ '=' :: value)) = (key.head? == some '[') := by
  rw [isHeader, Text.dropBlanks_append blank (notBlank_of_mem_head? stop)]
  cases key with
  | cons c rest => rfl
  | nil =>
    cases gap with
    | nil => rfl
    | cons c rest =>
      have notBlank := stop c rfl
      rw [gapBlank c List.mem_cons_self] at notBlank
      cases notBlank

end Found

theorem Assigns.of_break (isAssigned : Assigns key (line ++ ['\n'])) : Assigns key line := by
  obtain ⟨indent, gap, value, isLine, blank, gapBlank⟩ := isAssigned
  rcases List.eq_nil_or_concat value with rfl | ⟨rest, last, rfl⟩
  · have sameLast := (List.append_inj' isLine rfl).2
    cases sameLast
  · rw [List.concat_eq_append, ← List.cons_append, ← List.append_assoc] at isLine
    exact ⟨indent, gap, rest, (List.append_inj' isLine rfl).1, blank, gapBlank⟩

/-- A key that does not begin with a blank is assigned wherever it is followed by an equals sign. -/
theorem Assigns.assigns (isAssigned : Assigns key line)
    (notBlank : ∀ c ∈ key.head?, isBlank c = false) (rest : List Char) :
    assigns key (line ++ rest) = true := by
  obtain ⟨indent, gap, value, rfl, blank, gapBlank⟩ := isAssigned
  cases key with
  | nil =>
    have allBlank : ∀ c ∈ indent ++ gap, isBlank c = true :=
      List.forall_mem_append.mpr ⟨blank, gapBlank⟩
    have isFound := @assigns_of_stop [] (indent ++ gap) [] (value ++ rest) nofun allBlank nofun
    simpa using isFound
  | cons c others =>
    have isFound := @assigns_of_stop (c :: others) indent gap (value ++ rest)
      (by simpa using notBlank) blank gapBlank
    simpa using isFound

theorem isHeader_break (line : List Char) : isHeader (line ++ ['\n']) = isHeader line := by
  unfold isHeader dropBlanks
  rw [List.dropWhile_append]
  cases line.dropWhile isBlank with
  | nil => rfl
  | cons c rest => rfl

/-! ## Searching lines -/

/-- The first of some lines that assigns a key, if it comes before the next header. The very first
line may be a header. -/
structure FirstIn (key : List Char) (searched before : List (List Char)) (line : List Char)
    (after : List (List Char)) : Prop where
  whole : searched = before ++ line :: after
  isAssigned : assigns key line = true
  unassigned : ∀ other ∈ before, assigns key other = false
  noHeader : ∀ other ∈ (before ++ [line]).tail, isHeader other = false

variable {first : List Char} {searched rest before after : List (List Char)}

theorem FirstIn.of_assigns (isAssigned : assigns key first = true)
    (isFirst : FirstIn key (first :: rest) before line after) : before = [] ∧ line = first := by
  obtain ⟨whole, -, unassigned, -⟩ := isFirst
  cases before with
  | nil => exact ⟨rfl, (List.cons.inj whole).1.symm⟩
  | cons top before =>
    obtain ⟨rfl, -⟩ := List.cons.inj whole
    rw [unassigned first List.mem_cons_self] at isAssigned
    cases isAssigned

theorem forall_mem_iff_head?_tail {property : List Char → Bool} :
    (∀ line ∈ searched, property line = false) ↔
      searched.head?.any property = false ∧ ∀ line ∈ searched.tail, property line = false := by
  cases searched with
  | nil => simp
  | cons line rest => simp

/-- A line that does not assign the key is passed over, unless the next one is a header. -/
theorem firstIn_cons_iff (unassigned : assigns key first = false) :
    FirstIn key (first :: rest) before line after ↔
      ∃ others, before = first :: others ∧ rest.head?.any isHeader = false ∧
        FirstIn key rest others line after := by
  have sameHead (others : List (List Char)) :
      (others ++ line :: after).head? = (others ++ [line]).head? := by
    simp only [List.head?_append, List.head?_cons]
  constructor
  · rintro ⟨whole, isAssigned, others, noHeader⟩
    cases before with
    | nil =>
      obtain ⟨rfl, -⟩ := List.cons.inj whole
      rw [unassigned] at isAssigned
      cases isAssigned
    | cons top before =>
      obtain ⟨rfl, rfl⟩ := List.cons.inj whole
      rw [List.cons_append, List.tail_cons, forall_mem_iff_head?_tail] at noHeader
      exact ⟨before, rfl, sameHead before ▸ noHeader.1, rfl, isAssigned,
        (List.forall_mem_cons.mp others).2, noHeader.2⟩
  · rintro ⟨others, rfl, inTable, rfl, isAssigned, unassignedOthers, noHeader⟩
    refine ⟨rfl, isAssigned, List.forall_mem_cons.mpr ⟨unassigned, unassignedOthers⟩, ?_⟩
    rw [List.cons_append, List.tail_cons, forall_mem_iff_head?_tail]
    exact ⟨sameHead others ▸ inTable, noHeader⟩

theorem inLines?_of_assigns (isAssigned : assigns key first = true) :
    inLines? key start (first :: rest) = some (start + indentation first) := by
  unfold inLines?
  exact if_pos isAssigned

theorem inLines?_of_unassigned (unassigned : assigns key first = false) :
    inLines? key start (first :: rest) =
      if rest.head?.any isHeader then none
      else inLines? key (start + byteLength first) rest := by
  conv_lhs => unfold inLines?
  rw [unassigned]
  cases rest with
  | nil => rfl
  | cons next others => rfl

/-- The offset found is that of the key in the first line that assigns it. -/
theorem inLines?_eq_some_iff :
    inLines? key start searched = some offset ↔
      ∃ before line after, FirstIn key searched before line after ∧
        offset = start + byteLength before.flatten + indentation line := by
  induction searched generalizing start with
  | nil =>
    refine iff_of_false nofun ?_
    rintro ⟨before, line, after, isFirst, -⟩
    exact List.append_ne_nil_of_right_ne_nil _ (List.cons_ne_nil _ _) isFirst.whole.symm
  | cons first rest inductionHypothesis =>
    cases isAssigned : assigns key first with
    | true =>
      rw [inLines?_of_assigns isAssigned, Option.some_inj]
      constructor
      · rintro rfl
        exact ⟨[], first, rest, ⟨rfl, isAssigned, List.forall_mem_nil _, List.forall_mem_nil _⟩,
          rfl⟩
      · rintro ⟨before, line, after, isFirst, rfl⟩
        obtain ⟨rfl, rfl⟩ := isFirst.of_assigns isAssigned
        rfl
    | false =>
      simp only [inLines?_of_unassigned isAssigned, firstIn_cons_iff isAssigned]
      cases closed : rest.head?.any isHeader with
      | true => simp
      | false =>
        rw [if_neg Bool.false_ne_true, inductionHypothesis]
        constructor
        · rintro ⟨before, line, after, isFirst, rfl⟩
          refine ⟨first :: before, line, after, ⟨before, rfl, rfl, isFirst⟩, ?_⟩
          rw [List.flatten_cons, byteLength_append]
          omega
        · rintro ⟨_, line, after, ⟨before, rfl, -, isFirst⟩, rfl⟩
          refine ⟨before, line, after, isFirst, ?_⟩
          rw [List.flatten_cons, byteLength_append]
          omega

/-! ## Places in a text -/

/-- Blanks within a line. -/
def Gap (chars : List Char) : Prop :=
  (∀ c ∈ chars, isBlank c = true) ∧ '\n' ∉ chars

/-- Where a text assigns a key first: behind lines above and behind blanks in its own line. -/
structure Placed (key text : List Char) (above : List (List Char)) (indent : List Char) : Prop where
  /-- The key is followed by an equals sign, or by blanks and an equals sign. All blanks in front of
  it belong to the indent, also if the key is empty. -/
  isText : ∃ gap value, text = ended above ++ (indent ++ (key ++ gap ++ '=' :: value)) ∧
    Gap gap ∧ ∀ c ∈ (key ++ gap).head?, isBlank c = false
  unbroken : Unbroken above
  oneLine : '\n' ∉ key
  isIndent : Gap indent
  /-- No line above assigns the key. -/
  isFirst : ∀ line ∈ above, ¬ Assigns key line
  /-- Behind the first line none is a header, -/
  noHeader : ∀ line ∈ above.tail, isHeader line = false
  /-- and neither is the line of the key, unless it is the first one. -/
  notHeader : above ≠ [] → key.head? ≠ some '['

theorem assigns_break_eq_false_iff (notBlank : ∀ c ∈ key.head?, isBlank c = false) :
    assigns key (line ++ ['\n']) = false ↔ ¬ Assigns key line := by
  constructor
  · intro unassigned isAssigned
    rw [isAssigned.assigns notBlank] at unassigned
    cases unassigned
  · intro unassigned
    rw [Bool.eq_false_iff]
    intro isAssigned
    obtain ⟨indent, gap, value, isLine, blank, gapBlank, -⟩ := exists_of_assigns isAssigned
    refine unassigned (Assigns.of_break ⟨indent, gap, value, ?_, blank, gapBlank⟩)
    simpa only [List.append_assoc] using isLine

/-- The lines behind the first one are no headers. -/
theorem noHeader_lines_iff :
    (∀ other ∈ (above.map (· ++ ['\n']) ++ [line]).tail, isHeader other = false) ↔
      (∀ other ∈ above.tail, isHeader other = false) ∧ (above ≠ [] → isHeader line = false) := by
  cases above with
  | nil => simp
  | cons top others =>
    rw [List.map_cons, List.cons_append, List.tail_cons, List.tail_cons, List.forall_mem_append,
      List.forall_mem_map, List.forall_mem_singleton]
    simp only [isHeader_break, ne_eq, List.cons_ne_nil, not_false_iff, forall_const]

theorem flatten_map_break (above : List (List Char)) :
    (above.map (· ++ ['\n'])).flatten = ended above := rfl

theorem exists_placed_of_firstIn (isFirst : FirstIn key (lines text) before line after) :
    ∃ above indent, Placed key text above indent ∧
      byteLength before.flatten + indentation line = byteLength (ended above ++ indent) := by
  obtain ⟨whole, isAssigned, unassigned, noHeader⟩ := isFirst
  obtain ⟨above, rfl, unbroken, isText, lineNoBreak⟩ := exists_above whole
  obtain ⟨indent, gap, value, rfl, blank, gapBlank, stop⟩ := exists_of_assigns isAssigned
  -- Only the last character of a line is a line break, and an equals sign is behind these parts.
  rw [← List.append_assoc, List.dropLast_append_of_ne_nil (List.cons_ne_nil _ _)] at lineNoBreak
  simp only [List.mem_append, not_or] at lineNoBreak
  obtain ⟨⟨indentNoBreak, keyNoBreak, gapNoBreak⟩, -⟩ := lineNoBreak
  rw [noHeader_lines_iff, isHeader_of_stop stop blank gapBlank, beq_eq_false_iff_ne] at noHeader
  refine ⟨above, indent, ⟨⟨gap, value ++ after.flatten, ?_, ⟨gapBlank, gapNoBreak⟩, stop⟩,
    unbroken, keyNoBreak, ⟨blank, indentNoBreak⟩, fun other member => ?_, noHeader.1,
    noHeader.2⟩, ?_⟩
  · simpa only [List.append_assoc, List.cons_append] using isText
  · exact (assigns_break_eq_false_iff (notBlank_of_stop stop)).mp
      (unassigned _ (List.mem_map_of_mem member))
  · rw [flatten_map_break, indentation_of_stop stop blank, byteLength_append]

theorem Placed.firstIn {indent : List Char} (placed : Placed key text above indent) :
    ∃ line after, FirstIn key (lines text) (above.map (· ++ ['\n'])) line after ∧
      indentation line = byteLength indent := by
  obtain ⟨⟨gap, value, rfl, ⟨gapBlank, gapNoBreak⟩, stop⟩, unbroken, keyNoBreak,
    ⟨blank, indentNoBreak⟩, isFirst, noHeader, notHeader⟩ := placed
  have noBreak : '\n' ∉ indent ++ (key ++ (gap ++ ['='])) := by
    simp [indentNoBreak, keyNoBreak, gapNoBreak]
  have isLine := lines_append (List.append_ne_nil_of_right_ne_nil _ (by simp)) noBreak value
  simp only [List.append_assoc, List.singleton_append] at isLine
  refine ⟨indent ++ (key ++ gap ++ '=' :: (lines value).headD []), (lines value).tail,
    ⟨?_, assigns_of_stop stop blank gapBlank, ?_, ?_⟩, indentation_of_stop stop blank⟩
  · rw [lines_ended_append unbroken, List.append_assoc key, isLine, List.append_assoc key]
  · rw [List.forall_mem_map]
    intro other member
    exact (assigns_break_eq_false_iff (notBlank_of_stop stop)).mpr (isFirst other member)
  · rw [noHeader_lines_iff, isHeader_of_stop stop blank gapBlank, beq_eq_false_iff_ne]
    exact ⟨noHeader, notHeader⟩

/-- In the lines of a text, the offset found is that of the place of the key. -/
theorem inLines?_lines_eq_some_iff :
    inLines? key start (lines text) = some offset ↔
      ∃ above indent, Placed key text above indent ∧
        offset = start + byteLength (ended above ++ indent) := by
  rw [inLines?_eq_some_iff]
  constructor
  · rintro ⟨before, line, after, isFirst, rfl⟩
    obtain ⟨above, indent, placed, sameLength⟩ := exists_placed_of_firstIn isFirst
    exact ⟨above, indent, placed, by rw [← sameLength, Nat.add_assoc]⟩
  · rintro ⟨above, indent, placed, rfl⟩
    obtain ⟨line, after, isFirst, sameLength⟩ := placed.firstIn
    refine ⟨_, line, after, isFirst, ?_⟩
    rw [flatten_map_break, sameLength, byteLength_append, Nat.add_assoc]

/-! ## Places of keys of tables -/

/-- What is searched for a key of a table, with what is in front of it: the text behind the first
occurrence of the table's header, or all of the text for the table without a path. -/
inductive Searched (content : List Char) :
    (path : List String) → (front searched : List Char) → Prop where
  | top : Searched content [] [] content
  | table {path : List String} {before behind : List Char} (hasPath : path ≠ [])
    (isContent : content = before ++ header path ++ behind)
    (isFirst : ∀ earlier later, content = earlier ++ header path ++ later →
      before.length ≤ earlier.length) :
    Searched content path (before ++ header path) behind

/-- An offset is that of the first place in a table where a key is assigned. -/
def IsPlace (content : String) (path : List String) (key : String) (offset : Nat) : Prop :=
  ∃ front searched above indent, Searched content.toList path front searched ∧
    Placed key.toList searched above indent ∧ offset = byteLength (front ++ ended above ++ indent)

variable {content name : String} {path : List String}

theorem Searched.content_eq {chars front searched : List Char}
    (isSearched : Searched chars path front searched) : chars = front ++ searched := by
  cases isSearched with
  | top => rfl
  | table hasPath isContent isFirst => exact isContent

/-- A key is found exactly at its place. -/
theorem find?_eq_some_iff :
    find? content path name = some offset ↔ IsPlace content path name offset := by
  unfold find? IsPlace
  cases path with
  | nil =>
    rw [List.isEmpty_nil, if_pos rfl, inLines?_lines_eq_some_iff]
    constructor
    · rintro ⟨above, indent, placed, rfl⟩
      exact ⟨[], content.toList, above, indent, .top, placed, Nat.zero_add _⟩
    · rintro ⟨front, searched, above, indent, isSearched, placed, rfl⟩
      cases isSearched with
      | top => exact ⟨above, indent, placed, (Nat.zero_add _).symm⟩
      | table hasPath => exact absurd rfl hasPath
  | cons first rest =>
    rw [List.isEmpty_cons, if_neg Bool.false_ne_true]
    cases split : Text.splitAround? (header (first :: rest)) content.toList with
    | none =>
      refine iff_of_false nofun ?_
      rintro ⟨front, searched, above, indent, isSearched, -⟩
      cases isSearched with
      | table hasPath isContent isFirst =>
        exact Text.splitAround?_eq_none_iff.mp split ⟨_, _, isContent.symm⟩
    | some parts =>
      obtain ⟨before, behind⟩ := parts
      dsimp only
      rw [inLines?_lines_eq_some_iff]
      constructor
      · rintro ⟨above, indent, placed, rfl⟩
        obtain ⟨isContent, isFirst⟩ := Text.splitAround?_eq_some_iff.mp split
        have isSearched := Searched.table (List.cons_ne_nil first rest) isContent isFirst
        refine ⟨_, behind, above, indent, isSearched, placed, ?_⟩
        simp only [byteLength_append, Nat.add_assoc]
      · rintro ⟨front, searched, above, indent, isSearched, placed, rfl⟩
        cases isSearched with
        | table hasPath isContent isFirst =>
          have again := Text.splitAround?_eq_some_iff.mpr ⟨isContent, isFirst⟩
          obtain ⟨rfl, rfl⟩ := Prod.mk.inj (Option.some.inj (split.symm.trans again))
          refine ⟨above, indent, placed, ?_⟩
          simp only [byteLength_append, Nat.add_assoc]

/-- The key stands in the text at its place. -/
theorem IsPlace.exists_append (isPlace : IsPlace content path name offset) :
    ∃ front behind, content = front ++ name ++ behind ∧ front.utf8ByteSize = offset := by
  obtain ⟨front, searched, above, indent, isSearched, placed, rfl⟩ := isPlace
  obtain ⟨gap, value, rfl, -⟩ := placed.isText
  refine ⟨String.ofList (front ++ ended above ++ indent), String.ofList (gap ++ '=' :: value), ?_,
    utf8ByteSize_ofList _⟩
  rw [← String.toList_inj, isSearched.content_eq]
  simp only [String.toList_append, String.toList_ofList, List.append_assoc]

end SecretRefs.Settings.KeyPlace

import SecretRefs.Proofs.Settings.KeyPlace

/-!
# The table that a key is found in

A text is in a table from the header of the table up to the next header. A key that is searched for
in a table is found there if the search starts at a line that is the table's header. It starts
behind the first occurrence of the header's text wherever that is, and it passes over the first line
without looking whether that is a header. `inTable_iff_anchored` says when a key that is found is in
its table.
-/

namespace SecretRefs.Settings.KeyPlace

open Text (isBlank dropBlanks ended Unbroken)

/-- The lines of a text above the one that an offset lies in. -/
def LinesAbove (content : List Char) (offset : Nat) (above : List (List Char)) : Prop :=
  ∃ front behind, content = ended above ++ front ++ behind ∧ Unbroken above ∧ '\n' ∉ front ∧
    byteLength (ended above ++ front) = offset

/-- A line that opens a table begins, behind blanks, with the header of the table. -/
def OpensTable (path : List String) (line : List Char) : Prop :=
  header path <+: dropBlanks line

/-- Below some lines a text is in a table if the last header among them opens the table. It is in
the table without a path if none of them is a header. -/
def OpenBelow (path : List String) (above : List (List Char)) : Prop :=
  match path with
  | [] => (above.filter isHeader).getLast? = none
  | _ => ∃ line, (above.filter isHeader).getLast? = some line ∧ OpensTable path line

/-- An offset lies in a table if the lines above its line leave the text there. -/
def InTable (content : String) (path : List String) (offset : Nat) : Prop :=
  ∃ above, LinesAbove content.toList offset above ∧ OpenBelow path above

/-- The first occurrence of the header of a table, with the lines above it and with what is in front
of it in its own line and behind it. -/
structure HeaderAt (content : List Char) (path : List String) (above : List (List Char))
    (front behind : List Char) : Prop where
  isContent : content = ended above ++ front ++ header path ++ behind
  unbroken : Unbroken above
  noBreak : '\n' ∉ front ++ header path
  isFirst : ∀ earlier later, content = earlier ++ header path ++ later →
    (ended above ++ front).length ≤ earlier.length

/-- A search that finds an offset starts where the table does. -/
inductive Anchored (content : List Char) : (path : List String) → (offset : Nat) → Prop where
  /-- If the first line is a header, the offset is in it. -/
  | top {offset : Nat}
    (notBelow : ∀ line rest, content = line ++ '\n' :: rest → '\n' ∉ line →
      isHeader line = true → offset ≤ byteLength line) :
    Anchored content [] offset
  /-- The first occurrence of the header is at the start of a line, behind blanks at most, and the
  offset is below this line. -/
  | table {path : List String} {offset : Nat} {above : List (List Char)}
    {indent more behind : List Char} (hasPath : path ≠ [])
    (headerAt : HeaderAt content path above indent (more ++ '\n' :: behind))
    (blank : ∀ c ∈ indent, isBlank c = true) (noBreak : '\n' ∉ more)
    (isBelow : byteLength (ended above ++ indent ++ header path ++ more) < offset) :
    Anchored content path offset

variable {chars line : List Char} {above others : List (List Char)} {offset : Nat}
  {path : List String} {content name : String}

theorem linesAbove_unique (one : LinesAbove chars offset above)
    (other : LinesAbove chars offset others) : above = others := by
  obtain ⟨front, behind, rfl, unbroken, noBreak, rfl⟩ := one
  obtain ⟨otherFront, otherBehind, same, otherUnbroken, otherNoBreak, sameLength⟩ := other
  exact (Text.ended_append_inj unbroken otherUnbroken noBreak otherNoBreak
    (eq_of_byteLength_eq same sameLength.symm)).1

theorem inTable_iff_openBelow (isAbove : LinesAbove content.toList offset above) :
    InTable content path offset ↔ OpenBelow path above := by
  constructor
  · rintro ⟨others, areAbove, isOpen⟩
    rwa [linesAbove_unique isAbove areAbove]
  · exact fun isOpen => ⟨above, isAbove, isOpen⟩

theorem isHeader_of_opensTable (opens : OpensTable path line) : isHeader line = true := by
  have first : '[' ∈ (header path).head? := rfl
  have firstKept := Text.mem_head?_of_begins opens first
  rw [isHeader, Option.mem_def.mp firstKept]
  rfl

/-! ## The table without a path -/

theorem openBelow_nil_iff : OpenBelow [] above ↔ ∀ line ∈ above, isHeader line = false := by
  simp only [OpenBelow, List.getLast?_eq_none_iff, List.filter_eq_nil_iff, Bool.not_eq_true]

/-- What stands above a place in a text. -/
theorem Placed.linesAbove {key text indent : List Char} (placed : Placed key text above indent) :
    LinesAbove text (byteLength (ended above ++ indent)) above := by
  obtain ⟨gap, value, isText, -⟩ := placed.isText
  exact ⟨indent, key ++ gap ++ '=' :: value, by rw [isText, List.append_assoc (ended above)],
    placed.unbroken, placed.isIndent.2, rfl⟩

/-- A beginning without line breaks is a beginning of the first line. -/
theorem byteLength_le_of_line {front behind rest : List Char} (noBreak : '\n' ∉ front)
    (same : front ++ behind = line ++ '\n' :: rest) : byteLength front ≤ byteLength line := by
  rcases List.append_eq_append_iff.mp same with ⟨more, rfl, -⟩ | ⟨more, rfl, isMore⟩
  · rw [byteLength_append]
    exact Nat.le_add_right _ _
  · cases more with
    | nil => rw [List.append_nil]
    | cons c others =>
      obtain ⟨rfl, -⟩ := List.cons.inj isMore
      simp at noBreak

theorem inTable_nil_iff_anchored {indent : List Char}
    (placed : Placed name.toList content.toList above indent) :
    InTable content [] (byteLength (ended above ++ indent)) ↔
      Anchored content.toList [] (byteLength (ended above ++ indent)) := by
  rw [inTable_iff_openBelow placed.linesAbove, openBelow_nil_iff]
  obtain ⟨gap, value, isText, -⟩ := placed.isText
  cases above with
  | nil =>
    refine iff_of_true (List.forall_mem_nil _) (.top fun line rest isContent noBreak _ => ?_)
    exact byteLength_le_of_line placed.isIndent.2 (isText.symm.trans isContent)
  | cons first others =>
    rw [Text.ended_cons, List.append_assoc, List.cons_append] at isText
    obtain ⟨firstNoBreak, -⟩ := Text.unbroken_cons.mp placed.unbroken
    constructor
    · intro noHeader
      refine .top fun line rest isContent noBreak isHead => ?_
      obtain ⟨rfl, -⟩ := Text.line_inj firstNoBreak noBreak (isText.symm.trans isContent)
      rw [noHeader first List.mem_cons_self] at isHead
      cases isHead
    · intro anchored
      cases anchored with
      | table hasPath => exact absurd rfl hasPath
      | top notBelow =>
        refine List.forall_mem_cons.mpr ⟨?_, placed.noHeader⟩
        rw [Bool.eq_false_iff]
        intro isHead
        have inFirst := notBelow first _ isText firstNoBreak isHead
        simp only [Text.ended_cons, byteLength_append, byteLength_cons] at inFirst
        have positive := '\n'.utf8Size_pos
        omega

/-! ## Tables with a path -/

theorem openBelow_iff (hasPath : path ≠ []) :
    OpenBelow path above ↔
      ∃ line, (above.filter isHeader).getLast? = some line ∧ OpensTable path line := by
  cases path with
  | nil => exact absurd rfl hasPath
  | cons first rest => exact Iff.rfl

/-- A line above opens the table. -/
theorem OpenBelow.exists_opensTable (hasPath : path ≠ []) (isOpen : OpenBelow path above) :
    ∃ line ∈ above, OpensTable path line := by
  obtain ⟨line, isLast, opens⟩ := (openBelow_iff hasPath).mp isOpen
  exact ⟨line, (List.mem_filter.mp (List.mem_of_getLast? isLast)).1, opens⟩

/-- The last header among lines of which those behind one are known to be none. -/
theorem getLast?_filter_isHeader {early late : List (List Char)}
    (noHeader : ∀ other ∈ late, isHeader other = false) :
    ((early ++ line :: late).filter isHeader).getLast? =
      if isHeader line then some line else (early.filter isHeader).getLast? := by
  have noneLate : late.filter isHeader = [] := by
    simpa only [List.filter_eq_nil_iff, Bool.not_eq_true] using noHeader
  rw [List.filter_append, List.filter_cons, noneLate]
  split
  · rw [List.getLast?_append, List.getLast?_singleton, Option.some_or]
  · rw [List.append_nil]

theorem exists_of_opensTable (opens : OpensTable path line) :
    ∃ indent rest, line = indent ++ header path ++ rest ∧ ∀ c ∈ indent, isBlank c = true := by
  obtain ⟨rest, isRest⟩ := opens
  refine ⟨line.takeWhile isBlank, rest, ?_, fun c => List.mem_takeWhile_imp⟩
  rw [List.append_assoc, isRest, dropBlanks, List.takeWhile_append_dropWhile]

theorem notBlank_of_mem_head?_header {rest : List Char} :
    ∀ c ∈ (header path ++ rest).head?, isBlank c = false := by
  intro c first
  obtain rfl : '[' = c := Option.some.inj first
  decide

/-- A header with a line break in it opens no line, so nothing is in its table. -/
theorem oneLine_of_inTable (hasPath : path ≠ []) (inTable : InTable content path offset) :
    '\n' ∉ header path := by
  obtain ⟨above, ⟨-, -, -, unbroken, -⟩, isOpen⟩ := inTable
  obtain ⟨line, member, opens⟩ := isOpen.exists_opensTable hasPath
  obtain ⟨indent, rest, rfl, -⟩ := exists_of_opensTable opens
  intro breaks
  exact unbroken _ member (by simp [breaks])

namespace HeaderAt

variable {front behind indent : List Char} {first : List Char}

/-- Above the first occurrence of the header no line opens the table. -/
theorem not_opensTable_of_mem (headerAt : HeaderAt chars path above front behind)
    (member : line ∈ above) : ¬ OpensTable path line := by
  intro opens
  obtain ⟨indent, rest, rfl, -⟩ := exists_of_opensTable opens
  obtain ⟨early, late, rfl⟩ := List.append_of_mem member
  have notEarlier := headerAt.isFirst (ended early ++ indent)
    (rest ++ '\n' :: (ended late ++ front ++ header path ++ behind))
    (by simpa only [Text.ended_append, Text.ended_cons, List.append_assoc, List.cons_append]
      using headerAt.isContent)
  simp only [Text.ended_append, Text.ended_cons, List.length_append, List.length_cons]
    at notEarlier
  omega

/-- If the line of the first occurrence opens the table, nothing but blanks is in front of it. -/
theorem blank_of_opensTable {more : List Char}
    (headerAt : HeaderAt chars path above front (more ++ behind))
    (opens : OpensTable path (front ++ header path ++ more)) : ∀ c ∈ front, isBlank c = true := by
  obtain ⟨indent, rest, isLine, blank⟩ := exists_of_opensTable opens
  have notEarlier := headerAt.isFirst (ended above ++ indent) (rest ++ behind) (by
    rw [headerAt.isContent, List.append_assoc (ended above), List.append_assoc (ended above),
      ← List.append_assoc _ more, isLine]
    simp only [List.append_assoc])
  simp only [List.length_append, Nat.add_le_add_iff_left] at notEarlier
  have frontBegins : front <+: front ++ header path ++ more :=
    ⟨header path ++ more, (List.append_assoc _ _ _).symm⟩
  have indentBegins : indent <+: front ++ header path ++ more :=
    ⟨header path ++ rest, by rw [isLine, List.append_assoc]⟩
  have isStart := List.prefix_of_prefix_length_le frontBegins indentBegins notEarlier
  exact fun c member => blank c (isStart.subset member)

/-- A key in the line of the header has the lines above it that the header has. -/
theorem linesAbove_of_beside (headerAt : HeaderAt chars path above front behind)
    (placed : Placed name.toList behind [] indent) :
    LinesAbove chars (byteLength (ended above ++ front ++ header path ++ indent)) above := by
  obtain ⟨gap, value, isText, -⟩ := placed.isText
  refine ⟨front ++ header path ++ indent, name.toList ++ gap ++ '=' :: value, ?_,
    headerAt.unbroken, ?_, by simp only [List.append_assoc]⟩
  · rw [headerAt.isContent, isText, Text.ended_nil]
    simp only [List.append_assoc, List.nil_append]
  · rw [List.mem_append, not_or]
    exact ⟨headerAt.noBreak, placed.isIndent.2⟩

/-- A key below the line of the header has this line above it. -/
theorem linesAbove_of_below (headerAt : HeaderAt chars path above front behind)
    (placed : Placed name.toList behind (first :: others) indent) :
    LinesAbove chars
      (byteLength (ended above ++ front ++ header path ++ ended (first :: others) ++ indent))
      (above ++ (front ++ header path ++ first) :: others) := by
  obtain ⟨gap, value, isText, -⟩ := placed.isText
  obtain ⟨firstNoBreak, othersUnbroken⟩ := Text.unbroken_cons.mp placed.unbroken
  refine ⟨indent, name.toList ++ gap ++ '=' :: value, ?_, ?_, placed.isIndent.2, ?_⟩
  · rw [headerAt.isContent, isText]
    simp only [Text.ended_append, Text.ended_cons, List.append_assoc, List.cons_append]
  · refine Text.unbroken_append.mpr ⟨headerAt.unbroken, Text.unbroken_cons.mpr ⟨?_,
      othersUnbroken⟩⟩
    rw [List.mem_append, not_or]
    exact ⟨headerAt.noBreak, firstNoBreak⟩
  · simp only [Text.ended_append, Text.ended_cons, List.append_assoc, List.cons_append]

/-- A key below the line of the header is in the table if this line begins with the header. -/
theorem inTable_of_below_iff (headerAt : HeaderAt content.toList path above front behind)
    (hasPath : path ≠ []) (placed : Placed name.toList behind (first :: others) indent) :
    InTable content path
        (byteLength (ended above ++ front ++ header path ++ ended (first :: others) ++ indent)) ↔
      ∀ c ∈ front, isBlank c = true := by
  have noHeader : ∀ other ∈ others, isHeader other = false := placed.noHeader
  rw [inTable_iff_openBelow (headerAt.linesAbove_of_below placed), openBelow_iff hasPath,
    getLast?_filter_isHeader noHeader]
  obtain ⟨gap, value, isText, -⟩ := placed.isText
  constructor
  · rintro ⟨line, isLast, opens⟩
    split at isLast
    · obtain rfl := Option.some.inj isLast
      rw [isText, Text.ended_cons, List.append_assoc] at headerAt
      exact headerAt.blank_of_opensTable opens
    · have member := (List.mem_filter.mp (List.mem_of_getLast? isLast)).1
      exact absurd opens (headerAt.not_opensTable_of_mem member)
  · intro blank
    have opens : OpensTable path (front ++ header path ++ first) := by
      rw [OpensTable, List.append_assoc, Text.dropBlanks_append blank notBlank_of_mem_head?_header]
      exact List.prefix_append _ _
    exact ⟨_, if_pos (isHeader_of_opensTable opens), opens⟩

/-- A key in the line of the header is not in the table. -/
theorem not_inTable_of_beside (headerAt : HeaderAt content.toList path above front behind)
    (hasPath : path ≠ []) (placed : Placed name.toList behind [] indent) :
    ¬ InTable content path (byteLength (ended above ++ front ++ header path ++ indent)) := by
  rw [inTable_iff_openBelow (headerAt.linesAbove_of_beside placed)]
  intro isOpen
  obtain ⟨line, member, opens⟩ := isOpen.exists_opensTable hasPath
  exact headerAt.not_opensTable_of_mem member opens

theorem unique {otherFront otherBehind : List Char}
    (one : HeaderAt chars path above front behind)
    (other : HeaderAt chars path others otherFront otherBehind) :
    above = others ∧ front = otherFront ∧ behind = otherBehind := by
  have sameLength := Nat.le_antisymm
    (one.isFirst _ _ other.isContent) (other.isFirst _ _ one.isContent)
  have sameText := one.isContent.symm.trans other.isContent
  rw [List.append_assoc _ (header path), List.append_assoc _ (header path)] at sameText
  obtain ⟨sameFront, sameRest⟩ := List.append_inj sameText sameLength
  have oneNoBreak := one.noBreak
  have otherNoBreak := other.noBreak
  rw [List.mem_append, not_or] at oneNoBreak otherNoBreak
  obtain ⟨rfl, rfl⟩ := Text.ended_append_inj one.unbroken other.unbroken oneNoBreak.1
    otherNoBreak.1 sameFront
  exact ⟨rfl, rfl, List.append_cancel_left sameRest⟩

/-- For a key below the line of the header the search starts where the table does if this line
begins with the header. -/
theorem anchored_of_below_iff (headerAt : HeaderAt chars path above front behind)
    (hasPath : path ≠ []) (placed : Placed name.toList behind (first :: others) indent) :
    Anchored chars path
        (byteLength (ended above ++ front ++ header path ++ ended (first :: others) ++ indent)) ↔
      ∀ c ∈ front, isBlank c = true := by
  constructor
  · intro anchored
    cases anchored with
    | top => exact absurd rfl hasPath
    | table _ otherAt blank =>
      obtain ⟨rfl, rfl, -⟩ := headerAt.unique otherAt
      exact blank
  · intro blank
    obtain ⟨gap, value, isText, -⟩ := placed.isText
    rw [isText, Text.ended_cons, List.append_assoc, List.cons_append] at headerAt
    refine .table hasPath headerAt blank (Text.unbroken_cons.mp placed.unbroken).1 ?_
    simp only [byteLength_append, Text.ended_cons, byteLength_cons]
    have positive := '\n'.utf8Size_pos
    omega

/-- For a key in the line of the header the search does not start where the table does. -/
theorem not_anchored_of_beside (headerAt : HeaderAt chars path above front behind)
    (hasPath : path ≠ []) (placed : Placed name.toList behind [] indent) :
    ¬ Anchored chars path (byteLength (ended above ++ front ++ header path ++ indent)) := by
  intro anchored
  cases anchored with
  | top => exact hasPath rfl
  | table _ otherAt _ noBreak isBelow =>
    obtain ⟨rfl, rfl, rfl⟩ := headerAt.unique otherAt
    obtain ⟨gap, value, isText, -⟩ := placed.isText
    have inFirst := byteLength_le_of_line placed.isIndent.2 isText.symm
    simp only [byteLength_append] at isBelow
    omega

end HeaderAt

/-- The header that a search starts behind is in one line. -/
theorem Searched.exists_headerAt {front searched : List Char}
    (isSearched : Searched chars path front searched) (hasPath : path ≠ [])
    (oneLine : '\n' ∉ header path) :
    ∃ above start, HeaderAt chars path above start searched ∧
      front = ended above ++ start ++ header path := by
  cases isSearched with
  | top => exact absurd rfl hasPath
  | table isPath isContent isFirst =>
    rename_i before
    obtain ⟨above, start, rfl, unbroken, noBreak⟩ := Text.exists_ended before
    refine ⟨above, start, ⟨isContent, unbroken, ?_, isFirst⟩, rfl⟩
    rw [List.mem_append, not_or]
    exact ⟨noBreak, oneLine⟩

theorem inTable_table_iff_anchored {front searched indent : List Char}
    (hasPath : path ≠ []) (isSearched : Searched content.toList path front searched)
    (placed : Placed name.toList searched above indent) :
    InTable content path (byteLength (front ++ ended above ++ indent)) ↔
      Anchored content.toList path (byteLength (front ++ ended above ++ indent)) := by
  by_cases oneLine : '\n' ∈ header path
  · refine iff_of_false (fun inTable => oneLine_of_inTable hasPath inTable oneLine) ?_
    intro anchored
    cases anchored with
    | top => exact hasPath rfl
    | table _ headerAt => exact headerAt.noBreak (List.mem_append_right _ oneLine)
  · obtain ⟨linesAbove, start, headerAt, rfl⟩ := isSearched.exists_headerAt hasPath oneLine
    cases above with
    | nil =>
      rw [Text.ended_nil, List.append_nil]
      exact iff_of_false (headerAt.not_inTable_of_beside hasPath placed)
        (headerAt.not_anchored_of_beside hasPath placed)
    | cons first others =>
      rw [headerAt.inTable_of_below_iff hasPath placed, headerAt.anchored_of_below_iff hasPath placed]

/-- A key that is found is in its table exactly if its search starts at the first line of the
table. Without a path the search starts at the first line of the text, so this must not be a header,
unless the key is in it. With a path it starts at the first occurrence of the header, so this must
be at the start of a line, behind blanks at most, and the key must be below this line. -/
theorem inTable_iff_anchored {key : String} (isFound : find? content path key = some offset) :
    InTable content path offset ↔ Anchored content.toList path offset := by
  obtain ⟨front, searched, above, indent, isSearched, placed, rfl⟩ := find?_eq_some_iff.mp isFound
  by_cases hasPath : path = []
  · subst hasPath
    cases isSearched with
    | top => exact inTable_nil_iff_anchored placed
    | table isPath => exact absurd rfl isPath
  · exact inTable_table_iff_anchored hasPath isSearched placed

/-- Two tables with the same key. The header of the second is behind blanks and before a comment. -/
def sampleTables : String :=
  "[defaults]\nvaultt = 1\n  [store] # ours\n\tvaultt=2\n"

/-- The key is found in the second table. -/
theorem second_table_key_inTable :
    find? sampleTables ["store"] "vaultt" = some 40 ∧ InTable sampleTables ["store"] 40 := by
  have isFound : find? sampleTables ["store"] "vaultt" = some 40 := by decide
  have split : Text.splitAround? (header ["store"]) sampleTables.toList =
      some ("[defaults]\nvaultt = 1\n  ".toList, " # ours\n\tvaultt=2\n".toList) := by decide
  obtain ⟨isContent, isFirst⟩ := Text.splitAround?_eq_some_iff.mp split
  have headerAt : HeaderAt sampleTables.toList ["store"] ["[defaults]".toList, "vaultt = 1".toList]
      "  ".toList (" # ours".toList ++ '\n' :: "\tvaultt=2\n".toList) :=
    ⟨isContent, by unfold Unbroken; decide, by decide, isFirst⟩
  have blank : ∀ c ∈ "  ".toList, isBlank c = true := List.all_eq_true.mp (by decide)
  have anchored : Anchored sampleTables.toList ["store"] 40 :=
    .table (by decide) headerAt blank (by decide) (by decide)
  exact ⟨isFound, (inTable_iff_anchored isFound).mpr anchored⟩

/-- Without a path a key is found behind a header, if this is the first line; and with a path it is
found behind a comment that has the text of the header. -/
theorem found_outside_table :
    (find? "[a]\nk = 1\n" [] "k" = some 4 ∧ ¬ InTable "[a]\nk = 1\n" [] 4) ∧
    find? "# [store]\nk = 1\n" ["store"] "k" = some 10 ∧
      ¬ InTable "# [store]\nk = 1\n" ["store"] 10 := by
  have belowHeader : LinesAbove "[a]\nk = 1\n".toList 4 ["[a]".toList] :=
    ⟨[], "k = 1\n".toList, rfl, by unfold Unbroken; decide, by decide, by decide⟩
  have belowComment : LinesAbove "# [store]\nk = 1\n".toList 10 ["# [store]".toList] :=
    ⟨[], "k = 1\n".toList, rfl, by unfold Unbroken; decide, by decide, by decide⟩
  have noHeader : (["# [store]".toList].filter isHeader).getLast? = none := by decide
  rw [inTable_iff_openBelow belowHeader, inTable_iff_openBelow belowComment]
  refine ⟨⟨by decide, by unfold OpenBelow; decide⟩, by decide, fun isOpen => ?_⟩
  obtain ⟨line, isLast, -⟩ := (openBelow_iff (by decide)).mp isOpen
  rw [noHeader] at isLast
  cases isLast

end SecretRefs.Settings.KeyPlace

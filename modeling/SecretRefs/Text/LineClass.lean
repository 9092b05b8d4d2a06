import SecretRefs.Text.LineClassData

/-!
# Line classes

The classes of characters by which the Unicode line breaking algorithm decides
where a line may end. Characters of unknown or ambiguous class are letters, and so
are the characters of scripts that need a dictionary, their marks apart.
-/

namespace SecretRefs.Text

/-- What a character is to the end of a line. -/
inductive LineClass where
  | letter
  | hebrew
  | digit
  | ideograph
  | mark
  | zeroWidthJoiner
  | wordJoiner
  | glue
  | lineEnd
  | carriageReturn
  | lineFeed
  | nextLine
  | space
  | zeroWidthSpace
  | breakAfter
  | breakBefore
  | breakAround
  | hyphen
  | object
  | opening
  | closing
  | parenthesis
  | quotation
  | exclamation
  | separator
  | slash
  | leader
  | nonstarter
  | unitBefore
  | unitAfter
  | emojiBase
  | emojiModifier
  | regionalIndicator
  | leadingJamo
  | vowelJamo
  | trailingJamo
  | openSyllable
  | closedSyllable
deriving Repr, DecidableEq

namespace LineClass

open LineClassData

/-- The classes of more than a few characters. -/
def table : List (LineClass × Array CodeRange) := [
  (.mark, markRanges),
  (.breakAfter, breakAfterRanges),
  (.breakBefore, breakBeforeRanges),
  (.breakAround, breakAroundRanges),
  (.opening, openingRanges),
  (.closing, closingRanges),
  (.parenthesis, parenthesisRanges),
  (.quotation, quotationRanges),
  (.exclamation, exclamationRanges),
  (.separator, separatorRanges),
  (.leader, leaderRanges),
  (.nonstarter, nonstarterRanges),
  (.glue, glueRanges),
  (.wordJoiner, wordJoinerRanges),
  (.digit, digitRanges),
  (.unitBefore, unitBeforeRanges),
  (.unitAfter, unitAfterRanges),
  (.hebrew, hebrewRanges),
  (.ideograph, ideographRanges),
  (.emojiBase, emojiBaseRanges),
  (.leadingJamo, leadingJamoRanges),
  (.vowelJamo, vowelJamoRanges),
  (.trailingJamo, trailingJamoRanges)]

/-- The class of a Hangul syllable by its code point: every 28th of them ends with
its vowel. -/
def ofSyllable (code : Nat) : LineClass :=
  if (code - 0xAC00) % 28 == 0 then .openSyllable else .closedSyllable

/-- The class of a character. -/
def ofChar (c : Char) : LineClass :=
  if c.isAlpha then .letter
  else
    match c.toNat with
    | 0x0A => .lineFeed
    | 0x0B => .lineEnd
    | 0x0C => .lineEnd
    | 0x0D => .carriageReturn
    | 0x20 => .space
    | 0x2D => .hyphen
    | 0x2F => .slash
    | 0x85 => .nextLine
    | 0x200B => .zeroWidthSpace
    | 0x200D => .zeroWidthJoiner
    | 0x2028 => .lineEnd
    | 0x2029 => .lineEnd
    | 0xFFFC => .object
    | code =>
      if 0xAC00 ≤ code && code ≤ 0xD7A3 then ofSyllable code
      else if 0x1F1E6 ≤ code && code ≤ 0x1F1FF then .regionalIndicator
      else if 0x1F3FB ≤ code && code ≤ 0x1F3FF then .emojiModifier
      else ((table.find? fun (_, ranges) => inRanges ranges c).map Prod.fst).getD .letter

end LineClass

end SecretRefs.Text

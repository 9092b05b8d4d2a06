import SecretRefs.Text.LineClass
import SecretRefs.Text.EscapeSequence

/-!
# Words of a line

Where a line may end, by the Unicode line breaking algorithm, and the words between
these places. A place depends on the class of the character behind it and on a few
facts about the text in front of it (`LeftContext`). Escape sequences are passed
over; they stand with the character behind them.

No line ends behind a hyphen or a soft hyphen on this account: hyphenated words
have a rule of their own, which `Text.Wrap` states.
-/

namespace SecretRefs.Text

namespace LineClass

/-- Whether a class is one of some classes. -/
def isOneOf (kind : LineClass) (kinds : List LineClass) : Bool :=
  kinds.contains kind

/-- Whether a line always ends behind a character of this class. -/
def endsLine (kind : LineClass) : Bool :=
  kind.isOneOf [.lineEnd, .carriageReturn, .lineFeed, .nextLine]

/-- Whether a character of this class belongs to the character that it follows. -/
def attaches (kind : LineClass) : Bool :=
  kind.isOneOf [.mark, .zeroWidthJoiner]

/-- Whether a character of this class takes marks. -/
def takesMarks (kind : LineClass) : Bool :=
  !(kind.endsLine || kind.isOneOf [.space, .zeroWidthSpace])

/-- The class of a character without anything to attach to: a mark stands for a
letter. -/
def alone (kind : LineClass) : LineClass :=
  if kind.attaches then .letter else kind

/-- The classes that do not come apart from the class behind them, with spaces
between them or not. -/
def spacedTies : List (List LineClass × List LineClass) := [
  ([.quotation], [.opening]),
  ([.closing, .parenthesis], [.nonstarter]),
  ([.breakAround], [.breakAround])]

/-- The classes that do not come apart as neighbours. -/
def ties : List (List LineClass × List LineClass) := [
  ([.slash], [.hebrew]),
  ([.letter, .hebrew], [.digit]),
  ([.digit], [.letter, .hebrew]),
  ([.unitBefore], [.ideograph, .emojiBase, .emojiModifier]),
  ([.ideograph, .emojiBase, .emojiModifier], [.unitAfter]),
  ([.unitBefore, .unitAfter], [.letter, .hebrew]),
  ([.letter, .hebrew], [.unitBefore, .unitAfter]),
  ([.closing, .parenthesis, .digit], [.unitBefore, .unitAfter]),
  ([.unitBefore, .unitAfter], [.opening]),
  ([.unitBefore, .unitAfter, .hyphen, .separator, .digit, .slash], [.digit]),
  ([.leadingJamo], [.leadingJamo, .vowelJamo, .openSyllable, .closedSyllable]),
  ([.vowelJamo, .openSyllable], [.vowelJamo, .trailingJamo]),
  ([.trailingJamo, .closedSyllable], [.trailingJamo]),
  ([.leadingJamo, .vowelJamo, .trailingJamo, .openSyllable, .closedSyllable], [.unitAfter]),
  ([.unitBefore], [.leadingJamo, .vowelJamo, .trailingJamo, .openSyllable, .closedSyllable]),
  ([.letter, .hebrew], [.letter, .hebrew]),
  ([.separator], [.letter, .hebrew]),
  ([.letter, .hebrew, .digit], [.opening]),
  ([.parenthesis], [.letter, .hebrew, .digit]),
  ([.emojiBase], [.emojiModifier])]

/-- Whether a list of ties holds two classes together. -/
def tiedBy (pairs : List (List LineClass × List LineClass)) (left right : LineClass) : Bool :=
  pairs.any fun (lefts, rights) => left.isOneOf lefts && right.isOneOf rights

end LineClass

/-- What the end of a line depends on in the text in front of it. -/
structure LeftContext where
  /-- The class of the last character. Marks count as the character they attach to. -/
  last : LineClass
  /-- The class of the character before that one. -/
  previous : Option LineClass
  /-- The class of the last character that is no space. -/
  solid : Option LineClass
  /-- Whether the text ends with a zero-width joiner. -/
  joined : Bool
  /-- Whether the text ends with an odd number of regional indicators. -/
  oddIndicators : Bool
deriving Repr, DecidableEq

namespace LeftContext

/-- The context behind the first character of a text. -/
def start (kind : LineClass) : LeftContext where
  last := kind.alone
  previous := none
  solid := if kind == .space then none else some kind.alone
  joined := kind == .zeroWidthJoiner
  oddIndicators := kind == .regionalIndicator

/-- Whether a character attaches to the text. -/
def takes (left : LeftContext) (kind : LineClass) : Bool :=
  kind.attaches && left.last.takesMarks

/-- The context behind another character. -/
def push (left : LeftContext) (kind : LineClass) : LeftContext :=
  if left.takes kind then
    { left with joined := kind == .zeroWidthJoiner }
  else
    { last := kind.alone
      previous := some left.last
      solid := if kind == .space then left.solid else some kind.alone
      joined := kind == .zeroWidthJoiner
      oddIndicators := kind == .regionalIndicator && !left.oddIndicators }

/-- Whether a line may end between a text and a character of a class that takes no
marks from it. -/
def separates (left : LeftContext) (right : LineClass) : Bool :=
  if left.last == .wordJoiner || right == .wordJoiner || left.last == .glue then false
  else if right == .glue && !left.last.isOneOf [.space, .breakAfter, .hyphen] then false
  else if right.isOneOf [.closing, .parenthesis, .exclamation, .separator, .slash] then false
  else if left.solid.any fun solid =>
    solid == .opening || LineClass.tiedBy LineClass.spacedTies solid right then false
  else if left.last == .space then true
  else if left.last == .quotation || right == .quotation then false
  else if left.last == .object || right == .object then true
  else if left.last.isOneOf [.breakAfter, .hyphen] && left.previous == some .hebrew then false
  else if right.isOneOf [.breakAfter, .hyphen, .nonstarter, .leader] then false
  else if left.last == .breakBefore then false
  else if left.last == .regionalIndicator && right == .regionalIndicator then
    !left.oddIndicators
  else
    !LineClass.tiedBy LineClass.ties left.last right

/-- Whether a line may end between a text and a character of a class. -/
def mayEnd (left : LeftContext) (right : LineClass) : Bool :=
  if left.last.endsLine then !(left.last == .carriageReturn && right == .lineFeed)
  else if right.endsLine || right == .space || right == .zeroWidthSpace then false
  else if left.solid == some .zeroWidthSpace then true
  else if left.joined || left.takes right then false
  else left.separates right.alone

end LeftContext

/-- Whether a character is a hyphen, behind which a line does not end by these rules. -/
def isHyphen (c : Char) : Bool :=
  c == '-' || c.toNat == 0xAD

/-- Puts characters in front of the first word. -/
def joinFirst (front : List Char) : List (List Char) → List (List Char)
  | [] => [front]
  | word :: others => (front ++ word) :: others

/-- The words of glyphs behind a last character and its context. No line may end inside
a word, and one may end between two of them; the first word goes on with what is in
front of it if a line may not end there. -/
def wordsAfter (last : Char) (left : LeftContext) : List Glyph → List (List Char)
  | [] => [[]]
  | ⟨sequences, none⟩ :: rest => joinFirst sequences (wordsAfter last left rest)
  | ⟨sequences, some c⟩ :: rest =>
    let kind := LineClass.ofChar c
    let words := joinFirst (sequences ++ [c]) (wordsAfter c (left.push kind) rest)
    if left.mayEnd kind && !isHyphen last then [] :: words else words

/-- The last two words as one. -/
def mergeLast : List (List Char) → List (List Char)
  | [] => []
  | [word] => [word]
  | [word, last] => [word ++ last]
  | word :: rest => word :: mergeLast rest

/-- The words of a line. A hyphen at the end of the line ties the last two of them. -/
def words (line : List Char) : List (List Char) :=
  let glyphs := Glyph.ofText line
  let found :=
    match glyphs with
    | [] => []
    | ⟨sequences, none⟩ :: rest => [sequences ++ rest.flatMap Glyph.text]
    | ⟨sequences, some c⟩ :: rest =>
      joinFirst (sequences ++ [c]) (wordsAfter c (.start (LineClass.ofChar c)) rest)
  if (glyphs.filterMap Glyph.char?).getLast?.any isHyphen then mergeLast found else found

end SecretRefs.Text

import SecretRefs.Text.Width

/-!
# Escape sequences

A text for a terminal may hold sequences that are not shown: an escape character
with the character behind it, which may open a control sequence that ends with a
letter or sign, or a command that ends with a bell or with an escape character and
a backslash. A sequence that does not end hides the rest of the text.
-/

namespace SecretRefs.Text

/-- The character that starts an escape sequence. -/
def escape : Char := Char.ofNat 0x1B

/-- The character that ends a command. -/
def bell : Char := Char.ofNat 0x07

/-- Where a reader of a text is. -/
inductive Visibility where
  /-- Outside all sequences. -/
  | shown
  /-- Behind an escape character. -/
  | escaped
  /-- Inside a control sequence. -/
  | control
  /-- Inside a command, behind an escape character or not. -/
  | command (behindEscape : Bool)
deriving Repr, DecidableEq

namespace Visibility

/-- Whether a character read here is shown. -/
def shows (place : Visibility) (c : Char) : Bool :=
  place == .shown && c != escape

/-- Where the reader is behind a character. -/
def after (place : Visibility) (c : Char) : Visibility :=
  match place with
  | .shown => if c == escape then .escaped else .shown
  | .escaped => if c == '[' then .control else if c == ']' then .command false else .shown
  | .control => if '@' ≤ c && c ≤ '~' then .shown else .control
  | .command behindEscape =>
    if c == bell || (c == '\\' && behindEscape) then .shown else .command (c == escape)

end Visibility

/-- A character that is shown, with the sequences in front of it. Behind the last
character of a text there may be sequences without one. -/
structure Glyph where
  sequences : List Char
  char? : Option Char
deriving Repr, DecidableEq

namespace Glyph

/-- The text of a glyph. -/
def text (glyph : Glyph) : List Char :=
  glyph.sequences ++ glyph.char?.toList

/-- The number of columns of a glyph. -/
def width (glyph : Glyph) : Nat :=
  charsWidth glyph.char?.toList

/-- The glyphs of a text that is read from a place on, behind the reversed text of
sequences. -/
def readFrom (place : Visibility) (sequences : List Char) : List Char → List Glyph
  | [] => if sequences.isEmpty then [] else [⟨sequences.reverse, none⟩]
  | c :: rest =>
    if place.shows c then
      ⟨sequences.reverse, some c⟩ :: readFrom .shown [] rest
    else
      readFrom (place.after c) (c :: sequences) rest

/-- The glyphs of a text. -/
def ofText (text : List Char) : List Glyph :=
  readFrom .shown [] text

/-- Nothing of a text is lost in its glyphs. -/
theorem flatMap_text_readFrom (place : Visibility) (sequences text : List Char) :
    (readFrom place sequences text).flatMap Glyph.text = sequences.reverse ++ text := by
  induction text generalizing place sequences with
  | nil =>
    cases sequences <;> simp [readFrom, Glyph.text]
  | cons c rest ih =>
    by_cases shown : place.shows c = true <;> simp [readFrom, shown, ih, Glyph.text]

/-- The glyphs of a text are that text. -/
@[simp] theorem flatMap_text_ofText (text : List Char) :
    (ofText text).flatMap Glyph.text = text := by
  simp [ofText, flatMap_text_readFrom]

end Glyph

/-- The number of columns of what is shown of a text. -/
def displayWidth (text : List Char) : Nat :=
  (Glyph.ofText text).foldr (fun glyph width => glyph.width + width) 0

end SecretRefs.Text

import SecretRefs.Text.Alphanumeric
import SecretRefs.Text.LineBreak
import SecretRefs.Text.Occurrence

/-!
# Wrapped text

A text is filled into lines of a limited width. A line takes words as long as they
fit; the spaces behind the last word of a line are dropped. A hyphen between
letters or digits ends a fragment of a word, and a fragment that is wider than a line
is cut into pieces that are not.
-/

namespace SecretRefs.Text

/-- A part of a word that stands on one line, and the number of spaces behind it. -/
structure Fragment where
  text : List Char
  spaces : Nat
deriving Repr, DecidableEq

namespace Fragment

/-- The text of a fragment with its spaces. -/
def spaced (fragment : Fragment) : List Char :=
  fragment.text ++ List.replicate fragment.spaces ' '

/-- The number of columns of a fragment without its spaces. -/
def width (fragment : Fragment) : Nat :=
  displayWidth fragment.text

/-- Texts of which the last one has spaces behind it. -/
def ofParts (spaces : Nat) : List (List Char) → List Fragment
  | [] => []
  | [text] => [⟨text, spaces⟩]
  | text :: rest => ⟨text, 0⟩ :: ofParts spaces rest

/-- The parts of a text behind the hyphens between letters or digits. -/
def hyphenParts : List Char → List (List Char)
  | [] => [[]]
  | before :: '-' :: after :: rest =>
    if isAlphanumeric before && isAlphanumeric after then
      [before, '-'] :: hyphenParts (after :: rest)
    else
      joinFirst [before] (hyphenParts ('-' :: after :: rest))
  | c :: rest => joinFirst [c] (hyphenParts rest)

/-- The fragments of a word with the spaces behind it. -/
def ofWord (word : List Char) : List Fragment :=
  let text := (word.reverse.dropWhile (· == ' ')).reverse
  ofParts (word.length - text.length) (hyphenParts text)

/-- The pieces of glyphs that are not wider than `limit`, apart from single glyphs
that are, behind the text of a piece and its width. -/
def cutAfter (limit : Nat) (piece : List Char) (width : Nat) : List Glyph → List (List Char)
  | [] => [piece]
  | ⟨sequences, none⟩ :: rest => cutAfter limit (piece ++ sequences) width rest
  | ⟨sequences, some c⟩ :: rest =>
    if width == 0 || width + charWidth c ≤ limit then
      cutAfter limit (piece ++ sequences ++ [c]) (width + charWidth c) rest
    else
      (piece ++ sequences) :: cutAfter limit [c] (charWidth c) rest

/-- A fragment, cut into pieces if it is wider than `limit`. -/
def cut (limit : Nat) (fragment : Fragment) : List Fragment :=
  if fragment.width ≤ limit then
    [fragment]
  else
    ofParts fragment.spaces (cutAfter limit [] 0 (Glyph.ofText fragment.text))

/-- The text of fragments on one line. -/
def lineText : List Fragment → List Char
  | [] => []
  | [fragment] => fragment.text
  | fragment :: rest => fragment.spaced ++ lineText rest

/-- Fills lines of at most `limit` columns with fragments, after those that the
current line has and the columns that they take. A fragment that does not fit goes to
the next line. -/
def fill (limit : Nat) (current : List Fragment) (width : Nat) :
    List Fragment → List (List Fragment)
  | [] => [current]
  | fragment :: rest =>
    if width + fragment.width ≤ limit then
      fill limit (current ++ [fragment]) (width + fragment.width + fragment.spaces) rest
    else
      current :: fill limit [fragment] (fragment.width + fragment.spaces) rest

end Fragment

/-- A line of a text as lines of at most `limit` columns. The first of them stays
empty if a fragment is too wide for it. -/
def wrapLine (limit : Nat) (line : List Char) : List (List Char) :=
  let fragments := (words line).flatMap Fragment.ofWord
  (Fragment.fill limit [] 0 (fragments.flatMap (Fragment.cut limit))).map Fragment.lineText

/-- The lines of a text of at most `limit` columns. -/
def wrap (limit : Nat) (text : List Char) : List (List Char) :=
  (parts (· == '\n') text).flatMap (wrapLine limit)

end SecretRefs.Text

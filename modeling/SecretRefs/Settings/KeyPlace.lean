import SecretRefs.Text.Blank
import SecretRefs.Text.Occurrence

/-!
# Places of keys

Where a key stands in the text of a settings file, for messages that point at
it. The text is searched line by line, as a reader would: the key is at the start
of a line behind the header of its table, before the next header.
-/

namespace SecretRefs.Settings.KeyPlace

/-- The length of characters in UTF-8. -/
def byteLength (chars : List Char) : Nat :=
  chars.foldr (fun c length => c.utf8Size + length) 0

/-- The lines of a text, each with its line break. -/
def lines : List Char → List (List Char)
  | [] => []
  | c :: rest =>
    if c == '\n' then
      [c] :: lines rest
    else
      match lines rest with
      | [] => [[c]]
      | line :: others => (c :: line) :: others

/-- Whether a line starts, after blanks, with the bracket of a header. -/
def isHeader (line : List Char) : Bool :=
  (Text.dropBlanks line).head? == some '['

/-- Whether a line starts, after blanks, with a key and an equals sign. -/
def assigns (key line : List Char) : Bool :=
  match key.isPrefixOf? (Text.dropBlanks line) with
  | some behind => (Text.dropBlanks behind).head? == some '='
  | none => false

/-- The length of the blanks at the start of a line. -/
def indentation (line : List Char) : Nat :=
  byteLength (line.takeWhile Text.isBlank)

/-- The offset of a key in lines of which the first starts at `offset`. -/
def inLines? (key : List Char) (offset : Nat) : List (List Char) → Option Nat
  | [] => none
  | line :: rest =>
    if assigns key line then
      some (offset + indentation line)
    else
      match rest with
      | [] => none
      | next :: _ =>
        if isHeader next then none else inLines? key (offset + byteLength line) rest

/-- The header of a table, given by its path. -/
def header (path : List String) : List Char :=
  '[' :: (".".intercalate path).toList ++ [']']

/-- The offset of a key of a table in bytes. The lines that belong to a table are
those behind its header, or all of them for the table without a path; the first
of them is searched even if it starts with a bracket. -/
def find? (content : String) (path : List String) (key : String) : Option Nat :=
  if path.isEmpty then
    inLines? key.toList 0 (lines content.toList)
  else
    match Text.splitAround? (header path) content.toList with
    | none => none
    | some (before, behind) =>
      inLines? key.toList (byteLength before + byteLength (header path)) (lines behind)

end SecretRefs.Settings.KeyPlace

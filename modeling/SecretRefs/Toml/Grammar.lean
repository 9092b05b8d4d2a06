import SecretRefs.Toml.Scalar
import SecretRefs.Toml.Table

/-!
# The grammar of TOML documents

A document is a sequence of statements on lines of their own: headers of tables
and assignments of values to keys. Every function takes the characters that are
left and gives those behind what it read.
-/

namespace SecretRefs.Toml

/-- How deep arrays and inline tables may nest, and how many parts a dotted key
may have. -/
def nestingLimit : Nat := 79

/-- One statement of a document. -/
inductive Statement where
  /-- The header of a table. -/
  | table (key : Key)
  /-- The header of one table of an array. -/
  | element (key : Key)
  | assignment (key : Key) (value : Value)

namespace Grammar

/-- Whether a character may stand in a key without quotes. -/
def isBare (c : Char) : Bool :=
  c.isAlphanum || c == '_' || c == '-'

/-- One part of a key. -/
def name? (chars : List Char) : Option (String × List Char) :=
  match chars with
  | '"' :: rest => Quote.line? .basic rest
  | '\'' :: rest => Quote.line? .literal rest
  | _ =>
    let bare := chars.takeWhile isBare
    if bare.isEmpty then none else some (String.ofList bare, chars.dropWhile isBare)

/-- The parts of a key, with the blanks around them. -/
def names? : Nat → List Char → Option (List String × List Char)
  | 0, _ => none
  | fuel + 1, chars =>
    match name? (skipSpace chars) with
    | none => none
    | some (name, rest) =>
      match skipSpace rest with
      | '.' :: rest => (names? fuel rest).map fun (names, rest) => (name :: names, rest)
      | rest => some ([name], rest)

/-- A key, with the blanks around it. -/
def key? (chars : List Char) : Option (Key × List Char) :=
  match names? nestingLimit chars with
  | some (names, rest) => names.getLast?.map fun last => (⟨names.dropLast, last⟩, rest)
  | none => none

/-- The characters behind a comment, if there is one. -/
def afterComment (chars : List Char) : List Char :=
  match chars with
  | '#' :: rest => rest.dropWhile isPlain
  | _ => chars

/-- The characters behind the blanks, line breaks and comments between the
elements of an array. -/
def skipLayout : Nat → List Char → List Char
  | 0, chars => chars
  | fuel + 1, chars =>
    match chars with
    | '#' :: rest => skipLayout fuel (rest.dropWhile isPlain)
    | _ =>
      let rest := Quote.skipLines chars
      if rest.length < chars.length then skipLayout fuel rest else chars

/-- The characters behind the layout between elements. -/
def afterLayout (chars : List Char) : List Char :=
  skipLayout (chars.length + 1) chars

mutual

/-- A value with at most `room` containers inside each other. -/
def value? : (fuel room : Nat) → List Char → Option (Value × List Char)
  | 0, _, _ => none
  | fuel + 1, room, chars =>
    match chars with
    | '"' :: rest => (Quote.read? .basic rest).map fun (text, rest) => (.text text, rest)
    | '\'' :: rest => (Quote.read? .literal rest).map fun (text, rest) => (.text text, rest)
    | '[' :: rest =>
      match room with
      | 0 => none
      | room + 1 =>
        (elements? fuel room (afterLayout rest)).map fun (elements, rest) => (.array elements, rest)
    | '\x7b' :: rest =>
      match room with
      | 0 => none
      | room + 1 =>
        match skipSpace rest with
        | '\x7d' :: rest => some (.table [], rest)
        | rest => (entries? fuel room [] rest).map fun (entries, rest) =>
          (.table (Node.toEntries entries), rest)
    | _ => Scalar.read? chars

/-- The elements of an array up to its closing bracket. A comma may follow the
last one. -/
def elements? : (fuel room : Nat) → List Char → Option (List Value × List Char)
  | 0, _, _ => none
  | fuel + 1, room, chars =>
    match chars with
    | ']' :: rest => some ([], rest)
    | _ =>
      match value? fuel room chars with
      | none => none
      | some (element, rest) =>
        match afterLayout rest with
        | ']' :: rest => some ([element], rest)
        | ',' :: rest =>
          (elements? fuel room (afterLayout rest)).map fun (elements, rest) =>
            (element :: elements, rest)
        | _ => none

/-- The entries of an inline table up to its closing brace, added to those that are
there. No comma follows the last one. -/
def entries? : (fuel room : Nat) → Node.Entries → List Char → Option (Node.Entries × List Char)
  | 0, _, _, _ => none
  | fuel + 1, room, entries, chars =>
    match key? chars with
    | none => none
    | some (key, '=' :: rest) =>
      match value? fuel room (skipSpace rest) with
      | none => none
      | some (value, rest) =>
        match Node.assign key value entries with
        | none => none
        | some entries =>
          match skipSpace rest with
          | '\x7d' :: rest => some (entries, rest)
          | ',' :: rest => entries? fuel room entries rest
          | _ => none
    | some _ => none

end

/-- The characters behind the end of a line, which may hold blanks and a comment. -/
def afterLine? (chars : List Char) : Option (List Char) :=
  match afterComment (skipSpace chars) with
  | [] => some []
  | rest => afterBreak? rest

/-- A statement behind the blanks of its line. -/
def statement? (chars : List Char) : Option (Statement × List Char) :=
  match chars with
  | '[' :: '[' :: rest =>
    match key? rest with
    | some (key, ']' :: ']' :: rest) => some (.element key, rest)
    | _ => none
  | '[' :: rest =>
    match key? rest with
    | some (key, ']' :: rest) => some (.table key, rest)
    | _ => none
  | _ =>
    match key? chars with
    | some (key, '=' :: rest) =>
      (value? (2 * rest.length + 2) nestingLimit (skipSpace rest)).map fun (value, rest) =>
        (.assignment key value, rest)
    | _ => none

end Grammar

end SecretRefs.Toml

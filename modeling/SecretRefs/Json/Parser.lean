import SecretRefs.Json.Document
import SecretRefs.Json.Number
import SecretRefs.Text.Hexadecimal
import SecretRefs.Text.Sign

/-!
# Reading JSON texts

The grammar of RFC 8259 without extensions: no byte-order mark, no comments, no
trailing commas, no control characters inside strings. Every function takes the
signs that are left and gives those after what it read.

A byte that is part of no character may stand inside a string only. That string is
unreadable, as one with half a surrogate pair is, and does no harm where it is skipped.
-/

namespace SecretRefs.Json.Parser

open Text (Sign)

/-- The characters allowed between tokens. -/
def isSpace (c : Char) : Bool :=
  c == ' ' || c == '\t' || c == '\n' || c == '\r'

/-- The signs from the next token on. -/
def skipSpace (signs : List Sign) : List Sign :=
  signs.dropWhile (·.any isSpace)

/-- The signs after `word`, if they start with it. -/
def afterWord? (word : String) (signs : List Sign) : Option (List Sign) :=
  (Text.signs word).isPrefixOf? signs

/-- The code point that a one-letter escape stands for. -/
def simpleEscape? (c : Char) : Option Nat :=
  match c with
  | '"' => some 0x22
  | '\\' => some 0x5C
  | '/' => some 0x2F
  | 'b' => some 0x08
  | 'f' => some 0x0C
  | 'n' => some 0x0A
  | 'r' => some 0x0D
  | 't' => some 0x09
  | _ => none

/-- The code unit that the first four signs write, and those behind them. -/
def hexUnit? : List Sign → Option (Nat × List Sign)
  | some first :: some second :: some third :: some fourth :: rest =>
    (Text.hexNumber? 4 0 [first, second, third, fourth]).map fun (unit, _) => (unit, rest)
  | _ => none

/-- The code units of a string after its opening quote, where a byte that is part of no
character has none. The units of escapes are kept apart, so surrogates are not joined yet. -/
def stringUnits : Nat → List Sign → Option (List (Option Nat) × List Sign)
  | 0, _ => none
  | fuel + 1, signs =>
    match signs with
    | [] => none
    | some '"' :: rest => some ([], rest)
    | some '\\' :: some 'u' :: rest => do
      let (unit, rest) ← hexUnit? rest
      let (units, rest) ← stringUnits fuel rest
      some (some unit :: units, rest)
    | some '\\' :: some c :: rest => do
      let unit ← simpleEscape? c
      let (units, rest) ← stringUnits fuel rest
      some (some unit :: units, rest)
    | some c :: rest =>
      if c == '\\' || c.toNat < 0x20 then
        none
      else do
        let (units, rest) ← stringUnits fuel rest
        some (some c.toNat :: units, rest)
    | none :: rest => do
      let (units, rest) ← stringUnits fuel rest
      some (none :: units, rest)

/-- Whether a unit is the first half of a surrogate pair. -/
def isLeading (unit : Nat) : Bool :=
  0xD800 ≤ unit && unit ≤ 0xDBFF

/-- Whether a unit is the second half of a surrogate pair. -/
def isTrailing (unit : Nat) : Bool :=
  0xDC00 ≤ unit && unit ≤ 0xDFFF

/-- The characters of code units, unless one is missing or a half of a surrogate pair stands
alone. -/
def joinUnits? : List (Option Nat) → Option (List Char)
  | [] => some []
  | none :: _ => none
  | some unit :: rest =>
    if isLeading unit then
      match rest with
      | some next :: rest' =>
        if isTrailing next then
          (joinUnits? rest').map
            (Char.ofNat (0x10000 + (unit - 0xD800) * 0x400 + (next - 0xDC00)) :: ·)
        else
          none
      | _ => none
    else if isTrailing unit then
      none
    else
      (joinUnits? rest).map (Char.ofNat unit :: ·)

/-- A string after its opening quote. -/
def string? (signs : List Sign) : Option (Option String × List Sign) :=
  (stringUnits (signs.length + 1) signs).map fun (units, rest) =>
    ((joinUnits? units).map String.ofList, rest)

/-- The values of the digits at the start, and what follows them. -/
def digits : List Sign → List Nat × List Sign
  | some c :: rest =>
    if c.isDigit then
      let (values, rest) := digits rest
      ((c.toNat - '0'.toNat) :: values, rest)
    else
      ([], some c :: rest)
  | signs => ([], signs)

/-- The digits of the whole part: a zero, or digits that start with another one. -/
def wholeDigits? (signs : List Sign) : Option (List Nat × List Sign) :=
  match signs with
  | some '0' :: rest => some ([0], rest)
  | _ =>
    match digits signs with
    | ([], _) => none
    | read => some read

/-- The digits after a point, which must be there if the point is. -/
def fractionDigits? (signs : List Sign) : Option (Option (List Nat) × List Sign) :=
  match signs with
  | some '.' :: rest =>
    match digits rest with
    | ([], _) => none
    | (read, rest) => some (some read, rest)
  | _ => some (none, signs)

/-- The sign and digits of an exponent, which must have digits if it is there. -/
def exponentDigits? (signs : List Sign) : Option (Option (Bool × List Nat) × List Sign) :=
  match signs with
  | some c :: rest =>
    if c == 'e' || c == 'E' then
      let (negative, rest) :=
        match rest with
        | some '+' :: rest => (false, rest)
        | some '-' :: rest => (true, rest)
        | _ => (false, rest)
      match digits rest with
      | ([], _) => none
      | (read, rest) => some (some (negative, read), rest)
    else
      some (none, signs)
  | _ => some (none, signs)

/-- A number. -/
def literal? (signs : List Sign) : Option (Literal × List Sign) := do
  let (negative, signs) :=
    match signs with
    | some '-' :: rest => (true, rest)
    | _ => (false, signs)
  let (whole, signs) ← wholeDigits? signs
  let (fraction, signs) ← fractionDigits? signs
  let (exponent, signs) ← exponentDigits? signs
  some (⟨negative, whole, fraction, exponent⟩, signs)

mutual

/-- A value and what follows it. -/
def value? : Nat → List Sign → Option (Document × List Sign)
  | 0, _ => none
  | fuel + 1, signs =>
    match skipSpace signs with
    | [] => none
    | some '"' :: rest => (string? rest).map fun (text, rest) => (.string text, rest)
    | some '[' :: rest =>
      match skipSpace rest with
      | some ']' :: rest => some (.array [], rest)
      | _ => (elements? fuel rest).map fun (elements, rest) => (.array elements, rest)
    | some '\x7b' :: rest =>
      match skipSpace rest with
      | some '\x7d' :: rest => some (.object [], rest)
      | _ => (entries? fuel rest).map fun (entries, rest) => (.object entries, rest)
    | some 'n' :: rest => (afterWord? "ull" rest).map fun rest => (.null, rest)
    | some 't' :: rest => (afterWord? "rue" rest).map fun rest => (.boolean true, rest)
    | some 'f' :: rest => (afterWord? "alse" rest).map fun rest => (.boolean false, rest)
    | token => (literal? token).map fun (literal, rest) => (.number literal.value?, rest)

/-- The elements of an array that is not empty, up to its closing bracket. -/
def elements? : Nat → List Sign → Option (List Document × List Sign)
  | 0, _ => none
  | fuel + 1, signs =>
    match value? fuel signs with
    | none => none
    | some (element, rest) =>
      match skipSpace rest with
      | some ']' :: rest => some ([element], rest)
      | some ',' :: rest =>
        (elements? fuel rest).map fun (elements, rest) => (element :: elements, rest)
      | _ => none

/-- The entries of an object that is not empty, up to its closing brace. -/
def entries? : Nat → List Sign → Option (List (Option String × Document) × List Sign)
  | 0, _ => none
  | fuel + 1, signs =>
    match skipSpace signs with
    | some '"' :: rest =>
      match string? rest with
      | none => none
      | some (key, rest) =>
        match skipSpace rest with
        | some ':' :: rest =>
          match value? fuel rest with
          | none => none
          | some (value, rest) =>
            match skipSpace rest with
            | some '\x7d' :: rest => some ([(key, value)], rest)
            | some ',' :: rest =>
              (entries? fuel rest).map fun (entries, rest) => ((key, value) :: entries, rest)
            | _ => none
        | _ => none
    | _ => none

end

end Parser

/-- The document that signs write, if they write one. -/
def Document.ofSigns? (signs : List Text.Sign) : Option Document :=
  match Parser.value? (2 * signs.length + 2) signs with
  | some (document, rest) => if (Parser.skipSpace rest).isEmpty then some document else none
  | none => none

/-- The document that a text is, if it is one. -/
def Document.parse? (text : String) : Option Document :=
  ofSigns? (Text.signs text)

/-- The document that bytes are, if they are one. -/
def Document.ofBytes? (bytes : ByteArray) : Option Document :=
  ofSigns? (Text.signsOf 0 bytes.data.toList)

/-- The data tree that a text is, if it is one. -/
def parse? (text : String) : Option Json :=
  (Document.parse? text).bind fun document => document.value? Document.depthLimit

end SecretRefs.Json

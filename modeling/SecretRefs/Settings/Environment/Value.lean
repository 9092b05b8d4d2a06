import SecretRefs.Decimal.Nearest
import SecretRefs.Settings.Value
import SecretRefs.Text.Blank
import SecretRefs.Text.Hexadecimal

/-!
# Values of environment variables

The text of a variable can be a truth value, a number, a quoted text, a list in
brackets or a table in braces. A text that is none of these in full stands for
itself.
-/

namespace SecretRefs.Settings.Environment

/-- A blank of ASCII. -/
def isSpace (c : Char) : Bool :=
  c == ' ' || c == '\t' || c == '\n' || c == '\r' || c == '\x0c'

/-- The characters from the first one that is not a blank of ASCII. -/
def skipSpace (chars : List Char) : List Char :=
  chars.dropWhile isSpace

/-- Whether a character ends a value without quotes. -/
def isSeparator (c : Char) : Bool :=
  c == ',' || c == '\x7b' || c == '\x7d' || c == '[' || c == ']'

/-- Whether a character may stand in a key without quotes. -/
def isBare (c : Char) : Bool :=
  c.isAlphanum || c == '_' || c == '-'

/-- The characters without a leading sign, and whether it is a minus sign. -/
def unsigned : List Char → Bool × List Char
  | '-' :: rest => (true, rest)
  | '+' :: rest => (false, rest)
  | chars => (false, chars)

/-- The whole number that signed digits write, unless it has a minus sign or does
not fit 64 bits. -/
def natural? (chars : List Char) : Option Nat :=
  let (negative, digits) := unsigned chars
  if negative || digits.isEmpty || !digits.all Char.isDigit then none
  else
    let value := Decimal.natural digits
    if value < 0x10000000000000000 then some value else none

/-- The whole number that signed digits write, unless it does not fit 64 bits with a
sign. -/
def integer? (chars : List Char) : Option Int :=
  let (negative, digits) := unsigned chars
  if digits.isEmpty || !digits.all Char.isDigit then none
  else
    let magnitude : Int := Decimal.natural digits
    let value := if negative then -magnitude else magnitude
    if -0x8000000000000000 ≤ value && value < 0x8000000000000000 then some value else none

/-- The exponent behind the digits of a decimal. Nothing stands for zero. -/
def exponent? : List Char → Option Int
  | [] => some 0
  | mark :: rest =>
    let (negative, digits) := unsigned rest
    if (mark == 'e' || mark == 'E') && !digits.isEmpty && digits.all Char.isDigit then
      let value : Int := Decimal.natural digits
      some (if negative then -value else value)
    else
      none

/-- The decimal that a text with a point writes. There is a digit before or behind
the point. -/
def decimal? (chars : List Char) : Option Float :=
  let (negative, chars) := unsigned chars
  let whole := chars.takeWhile Char.isDigit
  match chars.dropWhile Char.isDigit with
  | '.' :: rest =>
    let fraction := rest.takeWhile Char.isDigit
    if whole.isEmpty && fraction.isEmpty then none
    else
      (exponent? (rest.dropWhile Char.isDigit)).map fun exponent =>
        Decimal.nearest negative (whole ++ fraction) (exponent - fraction.length)
  | _ => none

/-- A value without quotes. -/
def bare (chars : List Char) : Scalar :=
  let chars := Text.trimChars chars
  match decimal? chars, natural? chars, integer? chars with
  | some value, _, _ => .decimal value
  | none, some value, _ => .natural value
  | none, none, some value => .integer value
  | none, none, none => .text (String.ofList chars)

/-- The character that an escape stands for, behind its backslash. -/
def escape? : List Char → Option (Char × List Char)
  | '"' :: rest => some ('"', rest)
  | '\\' :: rest => some ('\\', rest)
  | 'b' :: rest => some ('\x08', rest)
  | 'f' :: rest => some ('\x0c', rest)
  | 'n' :: rest => some ('\n', rest)
  | 'r' :: rest => some ('\r', rest)
  | 't' :: rest => some ('\t', rest)
  | 'u' :: rest => Text.hexChar? 4 rest
  | 'U' :: rest => Text.hexChar? 8 rest
  | _ => none

/-- Whether a character may stand in a quoted text as it is. Of the control
characters of ASCII only the tab may. -/
def isPlain (c : Char) : Bool :=
  c == '\t' || (' ' ≤ c && c.toNat != 0x7F)

/-- The characters of a quoted text behind its opening quote. -/
def quotedChars? : Nat → List Char → Option (List Char × List Char)
  | 0, _ => none
  | fuel + 1, chars =>
    match chars with
    | [] => none
    | '"' :: rest => some ([], rest)
    | '\\' :: rest =>
      match escape? rest with
      | none => none
      | some (c, rest) => (quotedChars? fuel rest).map fun (read, rest) => (c :: read, rest)
    | c :: rest =>
      if isPlain c then (quotedChars? fuel rest).map fun (read, rest) => (c :: read, rest)
      else none

/-- A quoted text behind its opening quote. -/
def quoted? (chars : List Char) : Option (String × List Char) :=
  (quotedChars? (chars.length + 1) chars).map fun (read, rest) => (String.ofList read, rest)

/-- A key of a table. -/
def key? (chars : List Char) : Option (String × List Char) :=
  match chars with
  | '"' :: rest => quoted? rest
  | _ =>
    let name := chars.takeWhile isBare
    if name.isEmpty then none else some (String.ofList name, chars.dropWhile isBare)

/-- A scalar of the environment. -/
def scalar (value : Scalar) : Value := .scalar .environment value

mutual

/-- A value with the blanks around it, and what is behind it. -/
def value? : Nat → List Char → Option (Value × List Char)
  | 0, _ => none
  | fuel + 1, chars =>
    (valueAt? fuel (skipSpace chars)).map fun (value, rest) => (value, skipSpace rest)

/-- A value at the start of characters. -/
def valueAt? : Nat → List Char → Option (Value × List Char)
  | 0, _ => none
  | fuel + 1, chars =>
    match chars with
    | 't' :: 'r' :: 'u' :: 'e' :: rest => some (scalar (.boolean true), rest)
    | 'f' :: 'a' :: 'l' :: 's' :: 'e' :: rest => some (scalar (.boolean false), rest)
    | '\x7b' :: rest =>
      (entries? fuel [] rest).map fun (entries, rest) => (.table .environment entries, rest)
    | '[' :: rest =>
      (elements? fuel rest).map fun (elements, rest) => (.sequence .environment elements, rest)
    | '"' :: rest => (quoted? rest).map fun (text, rest) => (scalar (.text text), rest)
    | '\'' :: c :: '\'' :: rest => some (scalar (.text (String.ofList [c])), rest)
    | '\'' :: _ => none
    | _ =>
      some (scalar (bare (chars.takeWhile fun c => !isSeparator c)),
        chars.dropWhile fun c => !isSeparator c)

/-- The elements of a list up to its closing bracket. A comma may follow the last
one. -/
def elements? : Nat → List Char → Option (List Value × List Char)
  | 0, _ => none
  | fuel + 1, chars =>
    match chars with
    | ']' :: rest => some ([], rest)
    | _ =>
      match value? fuel chars with
      | some (element, ',' :: rest) =>
        (elements? fuel rest).map fun (elements, rest) => (element :: elements, rest)
      | some (element, ']' :: rest) => some ([element], rest)
      | _ => none

/-- The entries of a table up to its closing brace, added to those that are there. A
comma may follow the last one. -/
def entries? : Nat → Value.Entries → List Char → Option (Value.Entries × List Char)
  | 0, _, _ => none
  | fuel + 1, entries, chars =>
    match chars with
    | '\x7d' :: rest => some (entries, rest)
    | _ =>
      match (key? (skipSpace chars)).map fun (key, rest) => (key, skipSpace rest) with
      | some (key, '=' :: rest) =>
        match value? fuel rest with
        | some (value, ',' :: rest) => entries? fuel (Value.put key value entries) rest
        | some (value, '\x7d' :: rest) => some (Value.put key value entries, rest)
        | _ => none
      | _ => none

end

/-- The value of the text of a variable. -/
def valueOfText (text : String) : Value :=
  let chars := text.toList
  match value? (3 * chars.length + 3) chars with
  | some (value, []) => value
  | _ => scalar (.text text)

end SecretRefs.Settings.Environment

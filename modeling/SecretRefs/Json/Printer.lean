import SecretRefs.Json.Value
import SecretRefs.Decimal.Layout

/-!
# Writing JSON texts

The compact form: no blanks, entries in their order, non-ASCII characters as
they are. Inside strings the quote, the backslash and the control characters
below U+0020 are escaped and nothing else is.
-/

namespace SecretRefs.Json

namespace Printer

/-- The form of one character inside a string. -/
def stringChar (c : Char) : List Char :=
  match c with
  | '"' => ['\\', '"']
  | '\\' => ['\\', '\\']
  | '\n' => ['\\', 'n']
  | '\r' => ['\\', 'r']
  | '\t' => ['\\', 't']
  | _ =>
    if c.toNat == 0x08 then ['\\', 'b']
    else if c.toNat == 0x0C then ['\\', 'f']
    else if c.toNat < 0x20 then
      ['\\', 'u', '0', '0', Nat.digitChar (c.toNat / 16), Nat.digitChar (c.toNat % 16)]
    else [c]

/-- A string between its quotes. -/
def stringChars (text : String) : List Char :=
  '"' :: text.toList.flatMap stringChar ++ ['"']

/-- A number. -/
def numberChars : Number → List Char
  | .whole value => (toString value).toList
  | .decimal value => (Decimal.Layout.data.write value).toList

mutual

/-- A value. -/
def valueChars : Json → List Char
  | .null => "null".toList
  | .boolean true => "true".toList
  | .boolean false => "false".toList
  | .number value => numberChars value
  | .string text => stringChars text
  | .array [] => ['[', ']']
  | .array (first :: rest) => '[' :: (valueChars first ++ restElements rest)
  | .object [] => ['\x7b', '\x7d']
  | .object ((key, value) :: rest) =>
    '\x7b' :: (stringChars key ++ ':' :: (valueChars value ++ restEntries rest))

/-- The elements after the first, with the closing bracket. -/
def restElements : List Json → List Char
  | [] => [']']
  | value :: rest => ',' :: (valueChars value ++ restElements rest)

/-- The entries after the first, with the closing brace. -/
def restEntries : Entries → List Char
  | [] => ['\x7d']
  | (key, value) :: rest =>
    ',' :: (stringChars key ++ ':' :: (valueChars value ++ restEntries rest))

end

end Printer

/-- The compact text of a data tree. -/
def render (value : Json) : String :=
  String.ofList (Printer.valueChars value)

end SecretRefs.Json

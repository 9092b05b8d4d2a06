import SecretRefs.Text.HiddenData

/-!
# Quoted text

Diagnostic output shows a text between double quotes, with escapes for the
quote, the backslash and everything that has no glyph of its own.
-/

namespace SecretRefs.Text

open HiddenData

/-- Whether a character stands for itself inside quotes. -/
def isShown (c : Char) : Bool :=
  if c.toNat < 0x7F then 0x20 ≤ c.toNat else !inRanges hiddenRanges c

/-- The form of one character inside quotes. -/
def quoteChar (c : Char) : List Char :=
  match c with
  | '"' => ['\\', '"']
  | '\\' => ['\\', '\\']
  | '\n' => ['\\', 'n']
  | '\r' => ['\\', 'r']
  | '\t' => ['\\', 't']
  | _ =>
    if c.toNat == 0 then
      ['\\', '0']
    else if isShown c then
      [c]
    else
      "\\u\x7b".toList ++ Nat.toDigits 16 c.toNat ++ ['}']

/-- The text between double quotes. -/
def quoted (text : String) : String :=
  String.ofList ('"' :: text.toList.flatMap quoteChar ++ ['"'])

end SecretRefs.Text

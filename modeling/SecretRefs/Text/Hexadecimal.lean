/-!
# Hexadecimal numbers

Digits and fixed-length numbers, as escapes in quoted texts write them.
-/

namespace SecretRefs.Text

/-- The value of a hexadecimal digit. -/
def hexValue? (c : Char) : Option Nat :=
  if '0' ≤ c && c ≤ '9' then some (c.toNat - '0'.toNat)
  else if 'a' ≤ c && c ≤ 'f' then some (c.toNat - 'a'.toNat + 10)
  else if 'A' ≤ c && c ≤ 'F' then some (c.toNat - 'A'.toNat + 10)
  else none

/-- The number written by the first `count` characters, and those behind them. -/
def hexNumber? : (count : Nat) → (start : Nat) → List Char → Option (Nat × List Char)
  | 0, value, chars => some (value, chars)
  | _ + 1, _, [] => none
  | count + 1, value, c :: rest =>
    match hexValue? c with
    | some digit => hexNumber? count (value * 16 + digit) rest
    | none => none

/-- The character whose code point is written by the first `count` characters,
and what is behind them. -/
def hexChar? (count : Nat) (chars : List Char) : Option (Char × List Char) :=
  match hexNumber? count 0 chars with
  | some (code, rest) => if code.isValidChar then some (Char.ofNat code, rest) else none
  | none => none

end SecretRefs.Text

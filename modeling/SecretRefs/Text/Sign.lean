/-!
# Signs

Bytes need not be those of a text. Read from the left they are signs: the characters
that are there, and the bytes that are part of none.
-/

namespace SecretRefs.Text

/-- A character, or a byte that is part of none. -/
abbrev Sign : Type :=
  Option Char

/-- The signs of a text. -/
def signs (text : String) : List Sign :=
  text.toList.map some

/-- The character that some bytes start with. -/
def firstChar? (bytes : List UInt8) : Option Char :=
  (bytes.take 4).toByteArray.utf8DecodeChar? 0

/-- The signs of bytes behind the first `skipped` ones. -/
def signsOf : (skipped : Nat) → List UInt8 → List Sign
  | _, [] => []
  | skipped + 1, _ :: rest => signsOf skipped rest
  | 0, byte :: rest =>
    match firstChar? (byte :: rest) with
    | some c => some c :: signsOf (c.utf8Size - 1) rest
    | none => none :: signsOf 0 rest

end SecretRefs.Text

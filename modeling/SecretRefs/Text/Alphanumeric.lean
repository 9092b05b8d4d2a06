import SecretRefs.Text.AlphanumericData

/-!
# Letters and digits

Which characters make up words and numbers.
-/

namespace SecretRefs.Text

open AlphanumericData

/-- Whether a character is a letter, a digit or another numeral. -/
def isAlphanumeric (c : Char) : Bool :=
  if c.toNat < 0x80 then c.isAlphanum else inRanges alphanumericRanges c

end SecretRefs.Text

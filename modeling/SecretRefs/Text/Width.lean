import SecretRefs.Text.WidthData

/-!
# Width on a terminal

The columns that a character takes on a terminal: two for wide characters, none
for marks and everything else that is not seen on its own, one for the rest.
-/

namespace SecretRefs.Text

open WidthData

/-- The number of columns of a character. One Khmer sign is as wide as the word
that it abbreviates. -/
def charWidth (c : Char) : Nat :=
  if 0x20 ≤ c.toNat && c.toNat < 0x7F then 1
  else if c.toNat == 0x17D8 then 3
  else if inRanges zeroRanges c then 0
  else if inRanges wideRanges c then 2
  else 1

/-- The number of columns of characters side by side. -/
def charsWidth (chars : List Char) : Nat :=
  chars.foldr (fun c width => charWidth c + width) 0

end SecretRefs.Text

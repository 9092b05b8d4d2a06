/-!
# Blanks

A blank is a character with the Unicode property `White_Space`. The characters
of width zero (U+200B, U+FEFF) are not blanks.
-/

namespace SecretRefs.Text

/-- Whether a character is a blank. -/
def isBlank (c : Char) : Bool :=
  let code := c.toNat
  (9 ≤ code && code ≤ 13) || code == 0x20 || code == 0x85 || code == 0xA0 || code == 0x1680 ||
    (0x2000 ≤ code && code ≤ 0x200A) || code == 0x2028 || code == 0x2029 || code == 0x202F ||
    code == 0x205F || code == 0x3000

/-- The characters from the first one that is not a blank. -/
def dropBlanks (chars : List Char) : List Char :=
  chars.dropWhile isBlank

/-- The characters without the blanks at either end. -/
def trimChars (chars : List Char) : List Char :=
  (dropBlanks (dropBlanks chars).reverse).reverse

/-- The text without the blanks at either end. -/
def trim (text : String) : String :=
  String.ofList (trimChars text.toList)

/-- The text without the blanks at its end. -/
def trimEnd (text : String) : String :=
  String.ofList (dropBlanks text.toList.reverse).reverse

/-- Whether a text holds nothing but blanks. -/
def isBlankText (text : String) : Bool :=
  text.toList.all isBlank

end SecretRefs.Text

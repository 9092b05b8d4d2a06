import SecretRefs.Text.CaseData

/-!
# Letter case

Lower and upper case of texts by the full Unicode mappings. One letter needs
its neighbours: a capital sigma becomes the final form when a cased letter
comes before it and none comes after it, with case-ignorable characters skipped
on both sides.

Titles are compared by `sameTitle`, which is equality of lower-case forms.
-/

namespace SecretRefs.Text

open CaseData

/-- Whether the first character that is not case-ignorable has case. -/
def meetsCased (chars : List Char) : Bool :=
  match chars.dropWhile (inRanges ignorableRanges) with
  | [] => false
  | c :: _ => inRanges casedRanges c

/-- Whether a sigma between these neighbours ends a word. The text before it is
given from right to left. -/
def endsWord (before after : List Char) : Bool :=
  meetsCased before && !meetsCased after

/-- The lower-case form of a character other than a capital sigma. -/
def lowerChar (c : Char) : List Char :=
  if c.toNat < 0x80 then
    [c.toLower]
  else if c == 'İ' then
    ['i', Char.ofNat 0x307]
  else
    [(imageIn? lowerRuns c).getD c]

/-- Lower case of `chars`, which follow the reversed text `before`. -/
def lowerAfter (before : List Char) : List Char → List Char
  | [] => []
  | c :: rest =>
    let lowered :=
      if c == 'Σ' then [if endsWord before rest then 'ς' else 'σ'] else lowerChar c
    lowered ++ lowerAfter (c :: before) rest

/-- The lower-case form of a text. -/
def lower (text : String) : String :=
  String.ofList (lowerAfter [] text.toList)

/-- The upper-case form of a character. -/
def upperChar (c : Char) : List Char :=
  if c.toNat < 0x80 then
    [c.toUpper]
  else
    match upperExpansions.lookup c.toNat with
    | some codes => codes.map Char.ofNat
    | none => [(imageIn? upperRuns c).getD c]

/-- The upper-case form of a text. -/
def upper (text : String) : String :=
  String.ofList (text.toList.flatMap upperChar)

/-- Whether two titles are equal ignoring case. -/
def sameTitle (left right : String) : Bool :=
  lower left == lower right

end SecretRefs.Text

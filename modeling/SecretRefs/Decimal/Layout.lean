import SecretRefs.Decimal.Shortest

/-!
# Number layouts

How the shortest decimal of a floating-point number is written. Data files use
`Layout.data`, sentences use `Layout.sentence`.
-/

namespace SecretRefs.Decimal

/-- The decisions of a written form. -/
structure Layout where
  /-- Whether a number whose leading digit has this exponent is written without
  an exponent. -/
  positional : Int → Bool
  /-- Whether a whole number ends in `.0`. -/
  markWhole : Bool
  /-- Which of two equally near decimals is written. -/
  tie : Tie

namespace Layout

/-- Data files write exponents from -5 to 15 in place and mark whole numbers; a tie
goes to the even digit. -/
def data : Layout where
  positional exponent := -5 ≤ exponent && exponent ≤ 15
  markWhole := true
  tie := .toEven

/-- Sentences write every number in place and leave whole numbers unmarked; a tie goes
to the greater absolute value. -/
def sentence : Layout where
  positional _ := true
  markWhole := false
  tie := .away

/-- The digits with the point at its place. -/
def placed (layout : Layout) (decimal : Digits) : List Char :=
  let chars := decimal.chars
  if 0 ≤ decimal.scale then
    chars ++ List.replicate decimal.scale.toNat '0' ++ (if layout.markWhole then ['.', '0'] else [])
  else
    let places := (-decimal.scale).toNat
    if places < chars.length then
      chars.take (chars.length - places) ++ '.' :: chars.drop (chars.length - places)
    else
      '0' :: '.' :: List.replicate (places - chars.length) '0' ++ chars

/-- The digits after the first as a fraction, with a signed exponent. -/
def scientific (decimal : Digits) : List Char :=
  let exponent := decimal.exponent
  let leading :=
    match decimal.chars with
    | first :: second :: rest => first :: '.' :: second :: rest
    | short => short
  leading ++ 'e' :: (if exponent < 0 then '-' else '+') :: Nat.toDigits 10 exponent.natAbs

/-- The written form of a finite number. -/
def write (layout : Layout) (value : Float) : String :=
  let sign := if isNegative value then ['-'] else []
  let body :=
    if value == 0.0 then
      if layout.markWhole then ['0', '.', '0'] else ['0']
    else
      let decimal := shortest layout.tie value
      if layout.positional decimal.exponent then layout.placed decimal else scientific decimal
  String.ofList (sign ++ body)

end Layout

/-- A number inside a sentence, with words for the values that are not finite. -/
def inSentence (value : Float) : String :=
  if value.isNaN then "NaN"
  else if value.isInf then if isNegative value then "-inf" else "inf"
  else Layout.sentence.write value

end SecretRefs.Decimal

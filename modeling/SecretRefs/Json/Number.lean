import SecretRefs.Json.Value

/-!
# Number literals

A literal is read into a 64-bit significand and a decimal exponent. Whole
numbers that fit 64 bits stay whole. Otherwise the significand is made of as
many leading digits as fit, and it is scaled by one floating-point
multiplication or division per factor of ten to the power 308; a literal that
scales to infinity has no value.
-/

namespace SecretRefs.Json

/-- The parts of a number literal, with digits from left to right. -/
structure Literal where
  negative : Bool
  whole : List Nat
  fraction : Option (List Nat)
  /-- Whether the exponent is negative, and its digits. -/
  exponent : Option (Bool × List Nat)
deriving Repr, DecidableEq

namespace Literal

/-- The number of values of a significand. -/
def significandBound : Nat := 0x10000000000000000

/-- Appends digits to a significand while it stays in bounds. The result has the
digits that were left out. -/
def appendDigits (significand : Nat) : List Nat → Nat × List Nat
  | [] => (significand, [])
  | digit :: rest =>
    if significand * 10 + digit < significandBound then
      appendDigits (significand * 10 + digit) rest
    else
      (significand, digit :: rest)

/-- The natural number with these digits. -/
def natural (digits : List Nat) : Nat :=
  digits.foldl (fun value digit => value * 10 + digit) 0

/-- The floating-point number nearest to a significand. -/
def significandFloat (significand : Nat) : Float :=
  (UInt64.ofNat significand).toFloat

/-- The floating-point number nearest to ten to the power `power`. -/
def powerOfTen (power : Nat) : Float :=
  Float.ofScientific 1 false power

/-- The largest power of ten that scales in one step. -/
def stepLimit : Nat := 308

/-- Divides by ten to the power `power` in steps, stopping at zero. -/
def shrink : Nat → Float → Nat → Float
  | 0, value, power => value / powerOfTen power
  | steps + 1, value, power =>
    if power ≤ stepLimit then
      value / powerOfTen power
    else if value == 0.0 then
      value
    else
      shrink steps (value / powerOfTen stepLimit) (power - stepLimit)

/-- A significand times ten to the power `power`, unless that is out of range. -/
def scaled? (significand : Nat) (power : Int) : Option Float :=
  let value := significandFloat significand
  if 0 ≤ power then
    if power.toNat ≤ stepLimit then
      let result := value * powerOfTen power.toNat
      if result.isInf then none else some result
    else if significand == 0 then
      some value
    else
      none
  else
    some (shrink (power.natAbs / stepLimit + 1) value power.natAbs)

/-- The largest exponent that is taken literally. -/
def exponentBound : Nat := 0x7FFFFFFF

/-- The floating-point number without its sign. -/
def magnitude? (literal : Literal) : Option Float :=
  let (whole, wholeLeft) := appendDigits 0 literal.whole
  let fraction := literal.fraction.getD []
  let (significand, fractionLeft) := appendDigits whole fraction
  let power : Int := wholeLeft.length - (fraction.length - fractionLeft.length)
  match literal.exponent with
  | none => scaled? significand power
  | some (negative, digits) =>
    let exponent := natural digits
    if exponentBound < exponent then
      if significand != 0 && !negative then none else some 0.0
    else
      scaled? significand (if negative then power - exponent else power + exponent)

/-- The whole number of a literal that is one and fits 64 bits. Negative zero is
not whole. -/
def whole? (literal : Literal) : Option Int :=
  match literal.fraction, literal.exponent with
  | none, none =>
    let value := natural literal.whole
    if literal.negative then
      if value != 0 && value ≤ 0x8000000000000000 then some (-(value : Int)) else none
    else if value < significandBound then
      some (value : Int)
    else
      none
  | _, _ => none

/-- The value of a literal, unless it is out of range. -/
def value? (literal : Literal) : Option Number :=
  match literal.whole? with
  | some value => some (.whole value)
  | none =>
    literal.magnitude?.map fun magnitude =>
      .decimal (if literal.negative then -magnitude else magnitude)

end Literal

end SecretRefs.Json

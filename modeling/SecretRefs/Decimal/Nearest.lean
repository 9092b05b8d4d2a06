/-!
# Nearest floating-point numbers

The floating-point number nearest to a decimal of any length and scale.
-/

namespace SecretRefs.Decimal

/-- The natural number with these decimal digits. -/
def natural (digits : List Char) : Nat :=
  digits.foldl (fun value c => value * 10 + (c.toNat - '0'.toNat)) 0

/-- The exponents of ten beyond which every decimal is out of range or vanishes. -/
def scaleBound : Int := 400

/-- The floating-point number nearest to digits times ten to the power `scale`.
It is infinite if that is out of range. -/
def nearest (negative : Bool) (digits : List Char) (scale : Int) : Float :=
  let significand := natural digits
  let leading : Int := (digits.dropWhile (· == '0')).length + scale
  let magnitude :=
    if significand == 0 || leading < -scaleBound then 0.0
    else if scaleBound < leading then 1.0 / 0.0
    else if scale < 0 then Float.ofScientific significand true scale.natAbs
    else Float.ofScientific significand false scale.natAbs
  if negative then -magnitude else magnitude

end SecretRefs.Decimal

/-!
# Shortest decimals

The shortest decimal that reads back as a given binary floating-point number,
by exact arithmetic on natural numbers: of the decimal grids from coarse to
fine, the first with a point inside the rounding interval decides the number of
digits, and the nearest such point decides the digits. Where two points are equally
near, the written form decides (`Tie`).
-/

namespace SecretRefs.Decimal

/-- A positive decimal: `digits` times ten to the power `scale`. -/
structure Digits where
  digits : Nat
  scale : Int
deriving Repr, DecidableEq

namespace Digits

/-- The decimal digits from left to right. -/
def chars (decimal : Digits) : List Char :=
  Nat.toDigits 10 decimal.digits

/-- The exponent of the leading digit. -/
def exponent (decimal : Digits) : Int :=
  decimal.scale + decimal.chars.length - 1

/-- Removes zeros from the right of `digits`, at most `fuel` of them. -/
def stripZeros : Nat → Nat → Int → Digits
  | 0, digits, scale => ⟨digits, scale⟩
  | fuel + 1, digits, scale =>
    if digits != 0 && digits % 10 == 0 then
      stripZeros fuel (digits / 10) (scale + 1)
    else
      ⟨digits, scale⟩

end Digits

/-- A positive rational with natural numerator and denominator. -/
structure Ratio where
  num : Nat
  den : Nat
deriving Repr, DecidableEq

namespace Ratio

/-- `factor` times two to the power `power`. -/
def binary (factor : Nat) (power : Int) : Ratio :=
  if 0 ≤ power then ⟨factor * Nat.pow 2 power.toNat, 1⟩ else ⟨factor, Nat.pow 2 (-power).toNat⟩

/-- `factor` times ten to the power `power`. -/
def decimal (factor : Nat) (power : Int) : Ratio :=
  if 0 ≤ power then ⟨factor * Nat.pow 10 power.toNat, 1⟩ else ⟨factor, Nat.pow 10 (-power).toNat⟩

/-- Whether `left` is less than `right`. -/
def lt (left right : Ratio) : Bool :=
  left.num * right.den < right.num * left.den

/-- Whether `left` is at most `right`. -/
def le (left right : Ratio) : Bool :=
  left.num * right.den ≤ right.num * left.den

/-- The greatest natural number `n` with `n` times ten to the power `power` at
most `value`. -/
def floorOnGrid (value : Ratio) (power : Int) : Nat :=
  if 0 ≤ power then
    value.num / (value.den * Nat.pow 10 power.toNat)
  else
    value.num * Nat.pow 10 (-power).toNat / value.den

/-- The exponent of the leading decimal digit of a value not below ten to the
power -400. -/
def leadingExponent (value : Ratio) : Int :=
  ((Nat.toDigits 10 (value.num * Nat.pow 10 400 / value.den)).length : Int) - 401

end Ratio

/-- Which of two equally near points of a grid is taken. -/
inductive Tie where
  /-- The one whose last digit is even. -/
  | toEven
  /-- The greater one. -/
  | away
deriving Repr, DecidableEq

/-- The reals that round to a binary number, and the number itself. -/
structure Interval where
  low : Ratio
  value : Ratio
  high : Ratio
  closed : Bool
deriving Repr, DecidableEq

namespace Interval

/-- Whether a value lies in the interval. -/
def contains (interval : Interval) (value : Ratio) : Bool :=
  if interval.closed then
    interval.low.le value && value.le interval.high
  else
    interval.low.lt value && value.lt interval.high

/-- The rounding interval of `significand` times two to the power `power`; at a
power of two the lower neighbour is only half as far away. -/
def ofBinary (significand : Nat) (power : Int) : Interval :=
  let lowGap := if significand == 0x10000000000000 && -1074 < power then 1 else 2
  { low := Ratio.binary (4 * significand - lowGap) (power - 2)
    value := Ratio.binary (4 * significand) (power - 2)
    high := Ratio.binary (4 * significand + 2) (power - 2)
    closed := significand % 2 == 0 }

/-- Whether `lower` on the grid of `power` is nearer to the value than its
successor, or as near and taken by the rule for ties. -/
def prefersLower (interval : Interval) (tie : Tie) (lower : Nat) (power : Int) : Bool :=
  let middle := Ratio.decimal (10 * lower + 5) (power - 1)
  interval.value.lt middle ||
    (interval.value.le middle && tie == .toEven && lower % 2 == 0)

/-- The point of the grid of `power` that lies in the interval and is nearest
to the value. -/
def onGrid? (interval : Interval) (tie : Tie) (power : Int) : Option Nat :=
  let lower := interval.value.floorOnGrid power
  let lowerIn := lower != 0 && interval.contains (Ratio.decimal lower power)
  let upperIn := interval.contains (Ratio.decimal (lower + 1) power)
  if lowerIn && (!upperIn || interval.prefersLower tie lower power) then
    some lower
  else if upperIn then
    some (lower + 1)
  else
    none

/-- The first point found on the grids of `power`, `power - 1` and so on. -/
def firstOnGrids (interval : Interval) (tie : Tie) : Nat → Int → Digits
  | 0, power => ⟨interval.value.floorOnGrid power, power⟩
  | grids + 1, power =>
    match interval.onGrid? tie power with
    | some digits => Digits.stripZeros 20 digits power
    | none => firstOnGrids interval tie grids (power - 1)

end Interval

/-- The significand and the binary exponent of a finite number other than zero. -/
def binaryParts (value : Float) : Nat × Int :=
  let bits := value.toBits.toNat
  let fraction : Nat := bits % 0x10000000000000
  let exponent : Nat := bits / 0x10000000000000 % 0x800
  if exponent == 0 then (fraction, -1074)
  else (fraction + 0x10000000000000, (exponent : Int) - 1075)

/-- Whether the sign bit is set. -/
def isNegative (value : Float) : Bool :=
  value.toBits.toNat / 0x8000000000000000 == 1

/-- The shortest decimal that reads back as the absolute value of a finite
number other than zero. -/
def shortest (tie : Tie) (value : Float) : Digits :=
  let (significand, power) := binaryParts value
  let interval := Interval.ofBinary significand power
  interval.firstOnGrids tie 17 interval.value.leadingExponent

end SecretRefs.Decimal

/-!
# Code point ranges

Character properties are finite unions of code point ranges, and one-to-one
case mappings are finite unions of evenly spaced runs. The tables themselves
live beside the rules that read them.
-/

namespace SecretRefs.Text

/-- The code points from `first` to `last`, both included. -/
structure CodeRange where
  first : Nat
  last : Nat
deriving Repr, DecidableEq

/-- Whether a code point lies in the range. -/
def CodeRange.contains (range : CodeRange) (code : Nat) : Bool :=
  range.first ≤ code && code ≤ range.last

/-- Whether a character lies in one of the ranges. -/
def inRanges (ranges : Array CodeRange) (c : Char) : Bool :=
  ranges.any fun range => range.contains c.toNat

/-- Every `stride`-th code point from `first` to `last`, mapped to the code
point at the same distance from `target`. -/
structure MappingRun where
  first : Nat
  last : Nat
  stride : Nat
  target : Nat
deriving Repr, DecidableEq

/-- The image of a code point under the run, if the run lists it. -/
def MappingRun.image? (run : MappingRun) (code : Nat) : Option Nat :=
  if run.first ≤ code && code ≤ run.last && (code - run.first) % run.stride == 0 then
    some (run.target + (code - run.first))
  else
    none

/-- The image of a character under the first run that lists it. -/
def imageIn? (runs : Array MappingRun) (c : Char) : Option Char :=
  (runs.findSome? fun run => run.image? c.toNat).map Char.ofNat

end SecretRefs.Text

import DocumentSchema.Numeric.Power

/-!
Double precision numbers as their 64 bits.

Every finite number of this format is a whole multiple of `2 ^ -1074`, so `Binary64.units` reads
a number as an integer and every comparison is a comparison of integers. The same decoding sends
the two infinities to `± 2 ^ 2098`, which lies above every finite number, so they need no case of
their own. Rounding goes the other way: `Binary64.roundUnits` takes an exact quotient to the
nearest number, a tie going to the even one, and all conversions and products here are exact
arithmetic followed by that one rounding.
-/

namespace DocumentSchema

/-- A double precision number, given by its sign, exponent and fraction bits. -/
structure Binary64 where
  bits : UInt64
  deriving DecidableEq, Repr

namespace Binary64

/-! ## Parts of a number -/

/-- The sign bit: set for negative numbers, for `-0.0` and for some NaNs. -/
def negative (x : Binary64) : Bool :=
  2 ^ 63 ≤ x.bits.toNat

/-- The exponent and fraction bits as one natural number. -/
def magnitudeBits (x : Binary64) : Nat :=
  x.bits.toNat % 2 ^ 63

/-- The exponent and fraction bits of an infinity. -/
def infinityBits : Nat :=
  2047 * 2 ^ 52

/-- A NaN has the exponent of an infinity and a non-zero fraction. -/
def isNaN (x : Binary64) : Bool :=
  infinityBits < x.magnitudeBits

/-- Neither an infinity nor a NaN. -/
def isFinite (x : Binary64) : Bool :=
  x.magnitudeBits < infinityBits

/-- The number of `2 ^ -1074` that magnitude bits `b` stand for: the fraction itself in the lowest
binade, and otherwise the fraction with its hidden bit, doubled once for each exponent above one. -/
def unitsOfBits (b : Nat) : Nat :=
  let exponent := b / 2 ^ 52
  let fraction := b % 2 ^ 52
  if exponent = 0 then fraction else (2 ^ 52 + fraction) * 2 ^ (exponent - 1)

/-- The number of `2 ^ -1074` in `x`, with its sign. -/
def units (x : Binary64) : Int :=
  if x.negative then -(unitsOfBits x.magnitudeBits : Int) else unitsOfBits x.magnitudeBits

/-! ## Rounding -/

/-- The integer nearest `num / den`, a tie going to the even neighbour. -/
def roundDiv (num den : Nat) : Nat :=
  let quotient := num / den
  let twice := 2 * (num % den)
  if twice < den ∨ (twice = den ∧ quotient % 2 = 0) then quotient else quotient + 1

/-- The magnitude bits of the number nearest `num / den` units. Above the lowest binade the
quotient is first cut to 53 bits; a carry out of them runs into the exponent, which is again the
right number. What lies past the largest finite number is an infinity. -/
def roundUnits (num den : Nat) : Nat :=
  let shift := (num / den).log2 - 52
  min (shift * 2 ^ 52 + roundDiv num (den * 2 ^ shift)) infinityBits

/-- The number with the given sign and magnitude bits. -/
def ofParts (negative : Bool) (magnitude : Nat) : Binary64 :=
  ⟨UInt64.ofNat ((if negative then 2 ^ 63 else 0) + magnitude)⟩

/-- The number nearest `± num / den`. -/
def ofRatio (negative : Bool) (num den : Nat) : Binary64 :=
  ofParts negative (roundUnits (num * 2 ^ 1074) den)

/-- The number nearest the integer `n`. -/
def ofInt (n : Int) : Binary64 :=
  ofRatio (n < 0) n.natAbs 1

/-- Positive zero. -/
def zero : Binary64 := ofParts false 0

/-- Positive infinity. -/
def infinity : Binary64 := ofParts false infinityBits

/-- Negative infinity. -/
def negInfinity : Binary64 := ofParts true infinityBits

instance : Inhabited Binary64 := ⟨zero⟩

/-- The number with its sign turned. -/
def neg (x : Binary64) : Binary64 :=
  ofParts (!x.negative) x.magnitudeBits

/-! ## Order and arithmetic -/

/-- The order of the numbers themselves; a NaN is below nothing. -/
def lt (x y : Binary64) : Bool :=
  !x.isNaN && !y.isNaN && decide (x.units < y.units)

/-- The order of the numbers themselves; a NaN is comparable with nothing. -/
def le (x y : Binary64) : Bool :=
  !x.isNaN && !y.isNaN && decide (x.units ≤ y.units)

/-- Equality of the numbers themselves: both zeros are equal and a NaN equals nothing. -/
def eqNumber (x y : Binary64) : Bool :=
  !x.isNaN && !y.isNaN && decide (x.units = y.units)

/-- The product of two finite numbers, rounded once. -/
def mul (x y : Binary64) : Binary64 :=
  ofParts (x.negative != y.negative) (roundUnits (x.units.natAbs * y.units.natAbs) (2 ^ 1074))

/-- The quotient of two finite numbers, the second not zero, rounded once. -/
def div (x y : Binary64) : Binary64 :=
  ofParts (x.negative != y.negative) (roundUnits (x.units.natAbs * 2 ^ 1074) y.units.natAbs)

end Binary64

end DocumentSchema

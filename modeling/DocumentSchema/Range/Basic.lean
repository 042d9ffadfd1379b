import DocumentSchema.Schema.Error

/-!
Ranges of numbers and of lengths.

A range holds its lower bound and not its upper one. `NumericRange.make` and `LengthRange.make`
refuse bounds that make no sense.
-/

namespace DocumentSchema

/-- A range of numbers; either bound may be infinite. -/
structure NumericRange where
  lo : Binary64
  hi : Binary64
  deriving DecidableEq

namespace NumericRange

/-- The range of two bounds, which are no NaN and do not cross. -/
def make (lo hi : Binary64) : Except SchemaError NumericRange :=
  if lo.isNaN || hi.isNaN then .error (malformed .numericRange .boundIsNaN)
  else if hi.lt lo then .error (malformed .numericRange (.crossedBounds lo hi))
  else .ok ⟨lo, hi⟩

/-- Whether a number lies in the range. -/
def contains (range : NumericRange) (x : Binary64) : Bool :=
  range.lo.le x && x.lt range.hi

/-- Equality of ranges, their bounds compared as numbers. -/
def equal (a b : NumericRange) : Bool :=
  a.lo.eqNumber b.lo && a.hi.eqNumber b.hi

end NumericRange

/-- A range of lengths; without `most` it has no upper bound. -/
structure LengthRange where
  least : Nat
  most : Option Nat
  deriving DecidableEq

namespace LengthRange

/-- The range of two bounds, which admit some length. -/
def make (least : Nat) (most : Option Nat) : Except SchemaError LengthRange :=
  match most with
  | some limit =>
    if limit ≤ least then .error (malformed .lengthRange (.noLength least limit))
    else .ok ⟨least, some limit⟩
  | none => .ok ⟨least, none⟩

/-- The range of all lengths from a least one on. -/
def atLeast (least : Nat) : LengthRange :=
  ⟨least, none⟩

/-- Whether a length lies in the range. -/
def contains (range : LengthRange) (length : Nat) : Bool :=
  range.least ≤ length && range.most.all (length < ·)

end LengthRange

end DocumentSchema

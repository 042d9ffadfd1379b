import DocumentSchema.Numeric.Power

/-!
Arithmetic on 64 signed bits that gives nothing where a result leaves them.
-/

namespace DocumentSchema.Checked

/-- The product of two numbers, if 64 signed bits hold it. -/
def product? (a b : Int64) : Option Int64 :=
  let product := a.toInt * b.toInt
  if -(2 ^ 63 : Int) ≤ product ∧ product < 2 ^ 63 then some (Int64.ofInt product) else none

/-- A number without its sign. There is none for the least number. -/
def magnitude? (a : Int64) : Option Int64 :=
  if a = .minValue then none else some (if a < 0 then -a else a)

end DocumentSchema.Checked

/-!
Runs of ASCII digits.

Numbers inside texts are written with the ten ASCII digits only, whatever other digits Unicode
knows. `decimalValue` reads such a run, most significant digit first.
-/

namespace DocumentSchema.Text

/-- One of the ten ASCII digits. -/
def isDigit (c : Char) : Bool :=
  '0' ≤ c && c ≤ '9'

/-- A run of digits that is not empty. -/
def isDigits (cs : List Char) : Bool :=
  !cs.isEmpty && cs.all isDigit

/-- The number that one digit stands for. -/
def digitValue (c : Char) : Nat :=
  c.toNat - '0'.toNat

/-- The number that a run of digits writes in base ten. -/
def decimalValue (cs : List Char) : Nat :=
  cs.foldl (fun n c => 10 * n + digitValue c) 0

/-- Exactly `n` digits. -/
def isDigitsOfLength (n : Nat) (cs : List Char) : Bool :=
  cs.length == n && cs.all isDigit

/-- `n` in base ten, filled with zeros on the left to at least `width` digits. -/
def paddedDecimal (width n : Nat) : List Char :=
  let digits := Nat.toDigits 10 n
  List.replicate (width - digits.length) '0' ++ digits

end DocumentSchema.Text

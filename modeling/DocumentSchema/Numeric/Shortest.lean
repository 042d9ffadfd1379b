import DocumentSchema.Numeric.Binary64

/-!
The shortest decimal that reads back.

`Binary64.shortest` gives, for a finite positive number, the fewest digits whose decimal value
rounds to that number, and of those the nearest. The reals that round to the number form an
interval between the midpoints to its two neighbours; its ends belong to it when the fraction is
even. On each decimal grid, coarse to fine, the only points that need a test are the two
neighbours of the number itself.

The two layouts of this library are beside it: `jsonText` writes very small and very large numbers
with an exponent, `plainText` never does.
-/

namespace DocumentSchema

/-- A decimal `0.d₁d₂… * 10 ^ point`, its digits without leading or trailing zeros. -/
structure ShortDecimal where
  digits : List Char
  point : Int
  deriving DecidableEq, Repr

/-- The decimal digits of a natural number. -/
def natDigits (n : Nat) : List Char :=
  Nat.toDigits 10 n

namespace Binary64

/-- A whole number of grid steps against a number of half units: the value of `steps` steps of
`10 ^ grid`, times `2 ^ 1075`, and the number of half units, both over one denominator. -/
def onGrid (grid : Int) (steps halfUnits : Nat) : Nat × Nat :=
  if grid < 0 then
    (steps * 2 ^ 1075, halfUnits * 10 ^ grid.natAbs)
  else
    (steps * 10 ^ grid.natAbs * 2 ^ 1075, halfUnits)

/-- Whether the decimal `steps * 10 ^ grid` rounds to the number with magnitude bits `b`. -/
def readsBack (b : Nat) (grid : Int) (steps : Nat) : Bool :=
  let low := unitsOfBits (b - 1) + unitsOfBits b
  let high := unitsOfBits b + unitsOfBits (b + 1)
  let (l₁, l₂) := onGrid grid steps low
  let (h₁, h₂) := onGrid grid steps high
  if b % 2 = 0 then l₂ ≤ l₁ && h₁ ≤ h₂ else l₂ < l₁ && h₁ < h₂

/-- The nearer of the two grid neighbours of the number, or the one of them that reads back. A tie
goes to the even one. -/
def bestOnGrid (b : Nat) (grid : Int) : Option Nat :=
  let value := 2 * unitsOfBits b
  let (one, target) := onGrid grid 1 value
  let below := target / one
  let lower := readsBack b grid below && below != 0
  let upper := readsBack b grid (below + 1)
  let twice := 2 * (target % one)
  if lower && upper then
    if twice < one ∨ (twice = one ∧ below % 2 = 0) then some below else some (below + 1)
  else if lower then some below
  else if upper then some (below + 1)
  else none

/-- The decimal point position of the number with magnitude bits `b`, which is not zero: the number
lies between `10 ^ (point - 1)` and `10 ^ point`. -/
def decimalPoint (b : Nat) : Int :=
  (natDigits (unitsOfBits b * 10 ^ 324 / 2 ^ 1074)).length - (324 : Int)

/-- The digits of `steps` grid steps, without trailing zeros, and where their point stands. -/
def trimmed (grid : Int) (steps : Nat) : ShortDecimal :=
  let digits := natDigits steps
  let kept := (digits.reverse.dropWhile (· == '0')).reverse
  ⟨kept, grid + digits.length⟩

/-- The first grid, of `n` digits and more, that has a point reading back; seventeen digits always
do. -/
def shortestFrom (b : Nat) (point : Int) : Nat → Nat → ShortDecimal
  | 0, n => trimmed (point - n) ((bestOnGrid b (point - n)).getD 0)
  | fuel + 1, n =>
    match bestOnGrid b (point - n) with
    | some steps => trimmed (point - n) steps
    | none => shortestFrom b point fuel (n + 1)

/-- The fewest digits that read back to the number with magnitude bits `b`, nearest first; zero has
the single digit `0`. -/
def shortest (b : Nat) : ShortDecimal :=
  if b = 0 then ⟨['0'], 1⟩ else shortestFrom b (decimalPoint b) 16 1

/-! ## Layouts -/

/-- Digits with a decimal point after the first `point` of them, filled up with zeros on either
side; a whole number ends where its digits end. -/
def positional (d : ShortDecimal) : List Char × List Char :=
  if d.point ≤ 0 then
    (['0'], List.replicate d.point.natAbs '0' ++ d.digits)
  else
    let whole := d.digits.take d.point.natAbs
    (whole ++ List.replicate (d.point.natAbs - whole.length) '0', d.digits.drop d.point.natAbs)

/-- The text of a finite number in JSON output: positional with at least one digit after the point
when the scientific exponent is from -5 to 15, and otherwise with a signed exponent. -/
def jsonText (x : Binary64) : String :=
  let sign := if x.negative then ['-'] else []
  let d := shortest x.magnitudeBits
  let exponent := d.point - 1
  if x.magnitudeBits = 0 ∨ (-5 ≤ exponent ∧ exponent ≤ 15) then
    let (whole, fraction) := positional d
    String.ofList (sign ++ whole ++ ['.'] ++
      if fraction.isEmpty then ['0'] else fraction)
  else
    let mantissa :=
      match d.digits with
      | [] => []
      | [c] => [c]
      | c :: rest => c :: '.' :: rest
    let mark := if exponent < 0 then ['e', '-'] else ['e', '+']
    String.ofList (sign ++ mantissa ++ mark ++ natDigits exponent.natAbs)

/-- The text of any number in messages: shortest digits, never an exponent, no point in a whole
number. -/
def plainText (x : Binary64) : String :=
  if x.isNaN then "NaN"
  else
    let sign := if x.negative then ['-'] else []
    if x.isFinite then
      let (whole, fraction) := positional (shortest x.magnitudeBits)
      String.ofList (sign ++ whole ++ if fraction.isEmpty then [] else '.' :: fraction)
    else String.ofList (sign ++ ['i', 'n', 'f'])

end Binary64

end DocumentSchema

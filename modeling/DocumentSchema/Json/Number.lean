import DocumentSchema.Json.Basic
import DocumentSchema.Text.Digits

/-!
Numbers in JSON text.

A number without fraction and exponent is an integer as long as 64 bits hold it. Any other number
is a float, found in two roundings: its leading digits, as many as 64 unsigned bits hold, are
rounded to a float, and that float is scaled by a power of ten. The result is therefore not always
the float nearest the decimal, and this library's answers depend on which one it is. A number too
large for a float is no number.
-/

namespace DocumentSchema.Json

/-- The parts of a number's text: its sign, the digits before and after the point, and the exponent
with its sign. -/
structure NumberParts where
  negative : Bool
  whole : List Char
  fraction : Option (List Char)
  exponent : Option (Bool × List Char)

namespace NumberParts

/-- Splits off the digits at the front. -/
def spanDigits (cs : List Char) : List Char × List Char :=
  (cs.takeWhile Text.isDigit, cs.dropWhile Text.isDigit)

/-- The part after the mark of an exponent: an optional sign and digits to the end. -/
def exponent? (cs : List Char) : Option (Bool × List Char) :=
  let (negative, digits) :=
    match cs with
    | '-' :: rest => (true, rest)
    | '+' :: rest => (false, rest)
    | _ => (false, cs)
  if Text.isDigits digits then some (negative, digits) else none

/-- What may follow the digits after the point, or those before it when there is no point: nothing
or an exponent. -/
def tail? (cs : List Char) : Option (Option (Bool × List Char)) :=
  match cs with
  | [] => some none
  | c :: rest => if c = 'e' ∨ c = 'E' then (exponent? rest).map some else none

/-- Reads the text of a number: no leading zero but a single one, a digit on either side of the
point, and a digit in the exponent. -/
def ofChars? (cs : List Char) : Option NumberParts := do
  let (negative, unsigned) :=
    match cs with
    | '-' :: rest => (true, rest)
    | _ => (false, cs)
  let (whole, rest) := spanDigits unsigned
  guard (!whole.isEmpty && (whole.length == 1 || whole.head? != some '0'))
  match rest with
  | '.' :: afterPoint =>
    let (fraction, rest) := spanDigits afterPoint
    guard !fraction.isEmpty
    return ⟨negative, whole, some fraction, ← tail? rest⟩
  | _ => return ⟨negative, whole, none, ← tail? rest⟩

end NumberParts

/-- The largest number of 64 unsigned bits. -/
def maxSignificand : Nat := 2 ^ 64 - 1

/-- Reads digits behind those of `n` while 64 bits hold the number; also the number of digits left
unread. -/
def readSignificand (n : Nat) : List Char → Nat × Nat
  | [] => (n, 0)
  | c :: rest =>
    let next := 10 * n + Text.digitValue c
    if next ≤ maxSignificand then readSignificand next rest else (n, rest.length + 1)

/-- The float nearest a power of ten. -/
def powerOfTen (n : Nat) : Binary64 :=
  Binary64.ofRatio false (10 ^ n) 1

/-- Scales a float by a power of ten, at most `10 ^ 308` at a time; nothing when the result is too
large. -/
def scale (x : Binary64) (exponent : Int) : Option Binary64 :=
  if exponent.natAbs ≤ 308 then
    if 0 ≤ exponent then
      let product := x.mul (powerOfTen exponent.natAbs)
      if product.isFinite then some product else none
    else some (x.div (powerOfTen exponent.natAbs))
  else if x.magnitudeBits = 0 then some x
  else if large : 0 ≤ exponent then none
  else scale (x.div (powerOfTen 308)) (exponent + 308)
termination_by exponent.natAbs
decreasing_by omega

/-- The float of a significand and a decimal exponent. -/
def floatOfParts (negative : Bool) (significand : Nat) (exponent : Int) : Option Binary64 :=
  (scale (Binary64.ofInt significand) exponent).map fun x => if negative then x.neg else x

/-- The largest exponent whose digits are taken at their value. -/
def maxExponent : Nat := 2 ^ 31 - 1

namespace NumberParts

/-- The number that the parts denote. -/
def value? (parts : NumberParts) : Option Json :=
  let (leading, unread) := readSignificand 0 parts.whole
  match parts.fraction, parts.exponent with
  | none, none =>
    if unread ≠ 0 then (floatOfParts parts.negative leading unread).map .float
    else if !parts.negative then some (.int leading)
    else if leading = 0 ∨ 2 ^ 63 < leading then
      some (.float (Binary64.ofInt leading).neg)
    else some (.int (-leading))
  | fraction, exponent =>
    let fraction := fraction.getD []
    let (significand, unreadFraction) := readSignificand leading fraction
    let point : Int := unread - (fraction.length - unreadFraction : Int)
    match exponent with
    | none => (floatOfParts parts.negative significand point).map .float
    | some (negative, digits) =>
      let size := Text.decimalValue digits
      if maxExponent < size then
        if significand ≠ 0 ∧ !negative then none
        else some (.float (if parts.negative then Binary64.zero.neg else Binary64.zero))
      else
        let exponent := if negative then point - size else point + size
        (floatOfParts parts.negative significand exponent).map .float

end NumberParts

end DocumentSchema.Json

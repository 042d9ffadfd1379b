import DocumentSchema.Calendar.Instant
import DocumentSchema.Numeric.Checked
import DocumentSchema.Schema.Error
import DocumentSchema.Text.Format

/-!
Ranges of dates and times.

A bound is either a text in the format of its kind or an offset, such as `+3d`, from the instant at
which a validation takes place. Bounds are compared with values as texts. An offset that leaves the
representable calendar resolves to nothing, and a range with such a bound holds no value.
-/

namespace DocumentSchema

/-- The kinds of date and time. -/
inductive TemporalKind where
  | date
  | time
  | dateTime
  deriving DecidableEq, Repr

/-- The unit of an offset. -/
inductive OffsetUnit where
  | seconds
  | minutes
  | hours
  | days
  | weeks
  deriving DecidableEq, Repr

namespace OffsetUnit

/-- The letter that stands for a unit. -/
def letter : OffsetUnit → Char
  | seconds => 's'
  | minutes => 'm'
  | hours => 'h'
  | days => 'd'
  | weeks => 'w'

/-- The unit of a letter. -/
def ofLetter? (c : Char) : Option OffsetUnit :=
  [seconds, minutes, hours, days, weeks].find? fun unit => unit.letter == c

/-- The seconds of a unit. -/
def length : OffsetUnit → Int
  | seconds => 1
  | minutes => 60
  | hours => 3600
  | days => 86400
  | weeks => 604800

/-- The longest offset, in seconds: its milliseconds fit 64 signed bits. -/
def maxOffset : Int64 := .maxValue / 1000

/-- The seconds of an offset, counted in 64 signed bits, if these hold them and it is not too
long. -/
def offset? (unit : OffsetUnit) (amount : Int64) : Option Int := do
  let seconds ← Checked.product? amount (.ofInt unit.length)
  let magnitude ← Checked.magnitude? seconds
  if magnitude ≤ maxOffset then some seconds.toInt else none

end OffsetUnit

namespace TemporalKind

/-- The kind of attribute that a temporal kind is. -/
def kind : TemporalKind → Kind
  | date => .date
  | time => .time
  | dateTime => .dateTime

/-- Whether a text is in the format of a kind. -/
def isFormat : TemporalKind → String → Bool
  | date => Text.Format.isDate
  | time => Text.Format.isTime
  | dateTime => Text.Format.isDateTime

/-- Dates move by days and weeks, times by anything shorter, and both together by any unit. -/
def permits : TemporalKind → OffsetUnit → Bool
  | date, .days => true
  | date, .weeks => true
  | date, _ => false
  | time, .seconds => true
  | time, .minutes => true
  | time, .hours => true
  | time, _ => false
  | dateTime, _ => true

/-- The text of an instant in the format of a kind. -/
def instantText : TemporalKind → Instant → String
  | date => Instant.dateText
  | time => Instant.timeText
  | dateTime => Instant.dateTimeText

end TemporalKind

/-- One end of a range: a text, or an offset from the instant of validation. -/
inductive Bound where
  | absolute (text : String)
  | relative (amount : Int64) (unit : OffsetUnit)
  deriving DecidableEq

namespace Bound

/-- The number with a sign that digits write, if 64 signed bits hold it. -/
def signedNumber? (negative : Bool) (digits : List Char) : Option Int64 :=
  let magnitude := Text.decimalValue digits
  let number : Int := if negative then -magnitude else magnitude
  if -(2 ^ 63 : Int) ≤ number ∧ number < 2 ^ 63 then some (Int64.ofInt number) else none

/-- Reads a bound: a text that starts with a sign is an offset. -/
def parse (kind : TemporalKind) (text : String) : Except SchemaError Bound :=
  let refuse (flaw : Flaw) : Except SchemaError Bound := .error (malformed (.kind kind.kind) flaw)
  if text.startsWith "+" || text.startsWith "-" then
    match Text.Format.offsetParts? text with
    | none => refuse (.malformedOffset text)
    | some (negative, digits, letter) =>
      match signedNumber? negative digits with
      | none => refuse (.offsetOverflow text)
      | some amount =>
        match OffsetUnit.ofLetter? letter with
        | none => refuse (.malformedOffset text)
        | some unit =>
          if kind.permits unit then .ok (.relative amount unit)
          else refuse (.unitNotPermitted unit.letter text)
  else if kind.isFormat text then .ok (.absolute text)
  else refuse (.wrongBoundFormat text kind.kind)

/-- The text of a bound at an instant. -/
def resolve? (bound : Bound) (kind : TemporalKind) (now : Instant) : Option String :=
  match bound with
  | .absolute text => some text
  | .relative amount unit => do
    let seconds ← unit.offset? amount
    let instant ← now.addSeconds? seconds
    return kind.instantText instant

/-- The written form of a bound; an offset always has a sign. -/
def text : Bound → String
  | .absolute text => text
  | .relative amount unit =>
    let number := amount.toInt
    let sign := if number < 0 then '-' else '+'
    String.ofList (sign :: Nat.toDigits 10 number.natAbs ++ [unit.letter])

end Bound

/-- A range of dates or times. -/
structure TemporalRange where
  lo : Bound
  hi : Bound
  deriving DecidableEq

namespace TemporalRange

/-- Reads both bounds. -/
def parse (kind : TemporalKind) (lo hi : String) : Except SchemaError TemporalRange := do
  let lo ← Bound.parse kind lo
  let hi ← Bound.parse kind hi
  return ⟨lo, hi⟩

/-- Whether a text lies in the range at an instant. -/
def contains (range : TemporalRange) (kind : TemporalKind) (text : String) (now : Instant) : Bool :=
  match range.lo.resolve? kind now, range.hi.resolve? kind now with
  | some lo, some hi => decide (lo ≤ text) && decide (text < hi)
  | _, _ => false

end TemporalRange

end DocumentSchema

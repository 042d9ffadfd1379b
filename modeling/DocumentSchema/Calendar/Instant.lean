import DocumentSchema.Numeric.Power
import DocumentSchema.Text.Digits

/-!
Instants and their calendar form.

An instant is a number of seconds since the start of 1970 in universal time, and a part of a second
in nanoseconds, which reaches beyond a full second within a leap second. `CivilDate.ofDays` finds
the date of a day in the Gregorian calendar, carried on before its introduction and with a year
zero; it counts in cycles of 400 years that start on the first of March, so that leap days stand
last. Instants are representable in the years -262143 to 262142.
-/

namespace DocumentSchema

/-- A date of the Gregorian calendar. -/
structure CivilDate where
  year : Int
  month : Nat
  day : Nat
  deriving DecidableEq, Repr

namespace CivilDate

/-- The date of the day that lies `days` days after 1970-01-01. -/
def ofDays (days : Int) : CivilDate :=
  let shifted := days + 719468
  let cycle := shifted / 146097
  let dayOfCycle := (shifted % 146097).toNat
  let yearOfCycle :=
    (dayOfCycle - dayOfCycle / 1460 + dayOfCycle / 36524 - dayOfCycle / 146096) / 365
  let dayOfYear := dayOfCycle - (365 * yearOfCycle + yearOfCycle / 4 - yearOfCycle / 100)
  let monthFromMarch := (5 * dayOfYear + 2) / 153
  let month := if monthFromMarch < 10 then monthFromMarch + 3 else monthFromMarch - 9
  { year := yearOfCycle + cycle * 400 + if month ≤ 2 then 1 else 0
    month
    day := dayOfYear - (153 * monthFromMarch + 2) / 5 + 1 }

/-- A year: four digits or more, behind a plus sign from the year 10000 on and behind a minus sign
before the year zero. -/
def yearText (year : Int) : List Char :=
  if year < 0 then '-' :: Text.paddedDecimal 4 year.natAbs
  else if 9999 < year then '+' :: Text.paddedDecimal 4 year.natAbs
  else Text.paddedDecimal 4 year.natAbs

/-- Year, month and day with hyphens between them. -/
def chars (date : CivilDate) : List Char :=
  yearText date.year ++ '-' :: Text.paddedDecimal 2 date.month ++
    '-' :: Text.paddedDecimal 2 date.day

end CivilDate

/-- An instant: whole seconds since the start of 1970, and nanoseconds. -/
structure Instant where
  seconds : Int
  nanos : Nat
  deriving DecidableEq, Repr

namespace Instant

/-- The seconds of a day. -/
def daySeconds : Int := 86400

/-- The date of an instant. -/
def date (instant : Instant) : CivilDate :=
  .ofDays (instant.seconds / daySeconds)

/-- The seconds passed since the start of the instant's day. -/
def secondOfDay (instant : Instant) : Nat :=
  (instant.seconds % daySeconds).toNat

/-- Whether an instant lies in the representable years. -/
def isRepresentable (instant : Instant) : Bool :=
  -262143 ≤ instant.date.year && instant.date.year ≤ 262142

/-- The seconds and nanoseconds from which an instant is moved. Within a leap second, which is the
nanoseconds beyond a full one, an instant moves on from the end of its minute and back from the
start of the next. -/
def origin (instant : Instant) (seconds : Int) : Instant :=
  if instant.nanos < 10 ^ 9 ∨ seconds = 0 then instant
  else ⟨if 0 < seconds then instant.seconds else instant.seconds + 1, instant.nanos - 10 ^ 9⟩

/-- The instant some seconds later, if it is representable. -/
def addSeconds? (instant : Instant) (seconds : Int) : Option Instant :=
  let start := instant.origin seconds
  let moved : Instant := ⟨start.seconds + seconds, start.nanos⟩
  if moved.isRepresentable then some moved else none

/-- Hour, minute, second and six digits of its fraction; finer parts are cut off. A part of a second
beyond one is a second of its own, the sixty-first of its minute. -/
def timeChars (instant : Instant) : List Char :=
  let second := instant.secondOfDay
  Text.paddedDecimal 2 (second / 3600) ++ ':' :: Text.paddedDecimal 2 (second / 60 % 60) ++
    ':' :: Text.paddedDecimal 2 (second % 60 + instant.nanos / 10 ^ 9) ++
    '.' :: Text.paddedDecimal 6 (instant.nanos % 10 ^ 9 / 1000)

/-- The date of an instant as text. -/
def dateText (instant : Instant) : String :=
  String.ofList instant.date.chars

/-- The time of an instant as text. -/
def timeText (instant : Instant) : String :=
  String.ofList instant.timeChars

/-- Date and time of an instant as text. -/
def dateTimeText (instant : Instant) : String :=
  String.ofList (instant.date.chars ++ 'T' :: instant.timeChars)

end Instant

end DocumentSchema

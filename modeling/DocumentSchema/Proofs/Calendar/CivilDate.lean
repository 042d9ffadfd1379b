import DocumentSchema.Calendar.Instant
import Mathlib.Algebra.Order.Group.Int
import Mathlib.Order.Monotone.Basic
import Mathlib.Order.SuccPred.Basic

/-!
Dates in the order of days.

`CivilDate.ofDays_spec` says where the date of a day stands: in a year that starts in March, a month
of that year and a day of that month. Later days have later dates, whatever days, months and years
end between them (`CivilDate.ofDays_before`).
-/

namespace DocumentSchema.CivilDate

/-- The days before a year, where years start in March and every fourth one is a day longer, but for
three of them in four hundred years. -/
def yearStart (year : Int) : Int :=
  365 * year + year / 4 - year / 100 + year / 400

/-- The days of a year before a month, where months are counted from March. -/
def monthStart (month : Nat) : Nat :=
  (153 * month + 2) / 5

/-- The date of a day in a year that starts in March, where months and days are counted from
zero. -/
def fromMarch (year : Int) (month day : Nat) : CivilDate where
  year := year + if month < 10 then 0 else 1
  month := if month < 10 then month + 3 else month - 9
  day := day + 1

theorem yearStart_mono {a b : Int} (notLater : a ≤ b) : yearStart a ≤ yearStart b := by
  refine monotone_int_of_le_succ (fun year => ?_) notLater
  unfold yearStart
  omega

theorem monthStart_mono {a b : Nat} (notLater : a ≤ b) : monthStart a ≤ monthStart b := by
  unfold monthStart
  omega

/-! ## The year of a day -/

section Cycle

variable {n century quad year day : Nat}

/-- The year of a cycle in which a day lies. -/
def yearOfCycle (n : Nat) : Nat :=
  (n - n / 1460 + n / 36524 - n / 146096) / 365

/-- A place in a cycle: a century, four years of that, a year of these, and a day. The last day of
four years is in the fourth of them, and the last day of four centuries is in the fourth of them. -/
structure IsPlace (century quad year day : Nat) : Prop where
  centuries : century ≤ 3
  quads : quad ≤ 24
  years : year ≤ 3
  days : day ≤ 365
  leap : day = 365 → year = 3 ∧ (quad = 24 → century = 3)

theorem exists_place (inCycle : n < 146097) :
    ∃ century quad year day, IsPlace century quad year day ∧
      n = 36524 * century + (1461 * quad + (365 * year + day)) := by
  let century := min (n / 36524) 3
  let ofQuad := (n - 36524 * century) % 1461
  let year := min (ofQuad / 365) 3
  refine ⟨century, (n - 36524 * century) / 1461, year, ofQuad - 365 * year, ⟨?_, ?_, ?_, ?_, ?_⟩,
    ?_⟩ <;> omega

theorem yearOfCycle_place (place : IsPlace century quad year day) :
    yearOfCycle (36524 * century + (1461 * quad + (365 * year + day))) =
      100 * century + 4 * quad + year := by
  obtain ⟨centuries, quads, years, days, last⟩ := place
  obtain ⟨ofQuad, isDay⟩ : ∃ ofQuad, ofQuad = 365 * year + day := ⟨_, rfl⟩
  have bound : ofQuad ≤ 1460 := by omega
  have leap : quad = 24 → ofQuad = 1460 → century = 3 := by omega
  have isYear : year = if ofQuad = 1460 then 3 else ofQuad / 365 := by split <;> omega
  rw [← isDay, isYear]
  clear isDay isYear years days last
  by_cases final : quad = 24 ∧ ofQuad = 1460
  · -- The cycle ends with this day, the only one in which a fifth century would start.
    obtain ⟨rfl, rfl⟩ := final
    obtain rfl := leap rfl rfl
    rfl
  obtain ⟨ofCentury, isDay⟩ : ∃ ofCentury, ofCentury = 1461 * quad + ofQuad := ⟨_, rfl⟩
  have below : ofCentury < 36524 := by omega
  rw [yearOfCycle, ← isDay]
  have isCentury : (36524 * century + ofCentury) / 36524 = century := by omega
  have isCycle : (36524 * century + ofCentury) / 146096 = 0 := by omega
  rw [isCentury, isCycle, Nat.sub_zero]
  -- A leap day is taken off each time that 1460 days have passed, the last one up to 96 days early,
  -- which does not move the day out of its year.
  by_cases early : 1460 ≤ 24 * century + quad + ofQuad
  · have leapDays : (36524 * century + ofCentury) / 1460 = 25 * century + quad + 1 := by omega
    have rest : 36524 * century + ofCentury - (25 * century + quad + 1) + century =
        365 * (100 * century + 4 * quad) + (ofQuad - 1) := by omega
    rw [leapDays, rest]
    split <;> omega
  · have leapDays : (36524 * century + ofCentury) / 1460 = 25 * century + quad := by omega
    have rest : 36524 * century + ofCentury - (25 * century + quad) + century =
        365 * (100 * century + 4 * quad) + ofQuad := by omega
    rw [leapDays, rest, if_neg (by omega)]
    omega

theorem dayOfYear_place (place : IsPlace century quad year day) :
    36524 * century + (1461 * quad + (365 * year + day)) -
      (365 * (100 * century + 4 * quad + year) + (100 * century + 4 * quad + year) / 4 -
        (100 * century + 4 * quad + year) / 100) = day := by
  have fourths : (100 * century + 4 * quad + year) / 4 = 25 * century + quad := by
    have years := place.years
    omega
  have hundredths : (100 * century + 4 * quad + year) / 100 = century := by
    have quads := place.quads
    have years := place.years
    omega
  rw [fourths, hundredths]
  omega

/-- A day stands that many days behind the start of its year, and before the next year. -/
theorem yearStart_place (cycle : Int) (place : IsPlace century quad year day) :
    146097 * cycle + (36524 * century + (1461 * quad + (365 * year + day)) : Nat) =
        yearStart ((100 * century + 4 * quad + year : Nat) + cycle * 400) + day ∧
      146097 * cycle + (36524 * century + (1461 * quad + (365 * year + day)) : Nat) <
        yearStart ((100 * century + 4 * quad + year : Nat) + cycle * 400 + 1) := by
  obtain ⟨centuries, quads, years, days, last⟩ := place
  unfold yearStart
  omega

end Cycle

/-! ## The date of a day -/

/-- The month of a day of a year. -/
def monthOfYear (day : Nat) : Nat :=
  (5 * day + 2) / 153

theorem monthOfYear_spec {day : Nat} (short : day ≤ 365) :
    monthStart (monthOfYear day) ≤ day ∧ day < monthStart (monthOfYear day + 1) ∧
      monthOfYear day < 12 := by
  unfold monthStart monthOfYear
  omega

theorem ofDays_of_cycle {days cycle : Int} {n year day : Nat} (inCycle : n < 146097)
    (short : day ≤ 365) (whole : days + 719468 = 146097 * cycle + n) (isYear : yearOfCycle n = year)
    (isDay : n - (365 * year + year / 4 - year / 100) = day) :
    ofDays days =
      fromMarch (year + cycle * 400) (monthOfYear day) (day - monthStart (monthOfYear day)) := by
  have isCycle : (days + 719468) / 146097 = cycle := by omega
  have rest : ((days + 719468) % 146097).toNat = n := by omega
  rw [yearOfCycle] at isYear
  unfold ofDays fromMarch
  dsimp only
  rw [isCycle, rest, isYear, isDay]
  by_cases spring : (5 * day + 2) / 153 < 10
  · simp [spring, monthOfYear, monthStart]
  · have winter : (5 * day + 2) / 153 ≤ 11 := by omega
    simp [spring, winter, monthOfYear, monthStart]

/-- The date of a day stands in a year that starts in March, in a month of it, and on a day of that
month. -/
theorem ofDays_spec (days : Int) :
    ∃ (year : Int) (month day : Nat), ofDays days = fromMarch year month day ∧
      days + 719468 = yearStart year + (monthStart month + day : Nat) ∧
      days + 719468 < yearStart (year + 1) ∧
      monthStart month + day < monthStart (month + 1) ∧ month < 12 := by
  obtain ⟨cycle, n, inCycle, whole⟩ :
      ∃ (cycle : Int) (n : Nat), n < 146097 ∧ days + 719468 = 146097 * cycle + n :=
    ⟨(days + 719468) / 146097, ((days + 719468) % 146097).toNat, by omega, by omega⟩
  obtain ⟨century, quad, year, day, place, rfl⟩ := exists_place inCycle
  obtain ⟨starts, ends⟩ := yearStart_place cycle place
  obtain ⟨monthStarts, monthEnds, months⟩ := monthOfYear_spec place.days
  refine ⟨_, _, _, ofDays_of_cycle inCycle place.days whole (yearOfCycle_place place)
    (dayOfYear_place place), ?_, ?_, ?_, months⟩
  · rw [Nat.add_sub_cancel' monthStarts, whole, starts]
  · rwa [whole]
  · rwa [Nat.add_sub_cancel' monthStarts]

/-- A date comes before another one. -/
def Before (a b : CivilDate) : Prop :=
  a.year < b.year ∨ a.year = b.year ∧ (a.month < b.month ∨ a.month = b.month ∧ a.day < b.day)

theorem before_fromMarch {year year' : Int} {month month' day day' : Nat} (months : month < 12)
    (months' : month' < 12)
    (later : year < year' ∨ year = year' ∧ (month < month' ∨ month = month' ∧ day < day')) :
    (fromMarch year month day).Before (fromMarch year' month' day') := by
  unfold Before fromMarch
  dsimp only
  split <;> split <;> omega

/-- Later days have later dates. -/
theorem ofDays_before {a b : Int} (later : a < b) : (ofDays a).Before (ofDays b) := by
  obtain ⟨year, month, day, dateA, daysA, -, inMonth, months⟩ := ofDays_spec a
  obtain ⟨year', month', day', dateB, daysB, inYear', inMonth', months'⟩ := ofDays_spec b
  rw [dateA, dateB]
  refine before_fromMarch months months' ?_
  rcases lt_trichotomy year year' with less | rfl | greater
  · exact .inl less
  · refine .inr ⟨rfl, ?_⟩
    rcases lt_trichotomy month month' with less | rfl | greater
    · exact .inl less
    · exact .inr ⟨rfl, by omega⟩
    · have next : monthStart (month' + 1) ≤ monthStart month := monthStart_mono greater
      omega
  · have next : yearStart (year' + 1) ≤ yearStart year := yearStart_mono greater
    omega

theorem month_ofDays (days : Int) : 1 ≤ (ofDays days).month ∧ (ofDays days).month ≤ 12 := by
  obtain ⟨year, month, day, date, -, -, -, months⟩ := ofDays_spec days
  rw [date, fromMarch]
  dsimp only
  split <;> omega

theorem day_ofDays (days : Int) : 1 ≤ (ofDays days).day ∧ (ofDays days).day ≤ 31 := by
  obtain ⟨year, month, day, date, -, -, inMonth, -⟩ := ofDays_spec days
  rw [date, fromMarch]
  unfold monthStart at inMonth
  dsimp only
  omega

theorem year_ofDays_mono {a b : Int} (later : a ≤ b) : (ofDays a).year ≤ (ofDays b).year := by
  rcases later.lt_or_eq with less | rfl
  · rcases ofDays_before less with year | ⟨year, -⟩
    · exact year.le
    · exact year.le
  · exact le_refl _

end DocumentSchema.CivilDate

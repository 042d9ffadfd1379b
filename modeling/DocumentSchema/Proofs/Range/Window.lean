import DocumentSchema.Proofs.Range.Bound
import DocumentSchema.Proofs.Range.Duration
import DocumentSchema.Proofs.Range.Instants
import Mathlib.Algebra.Order.Ring.Int

/-!
Windows around the instant of validation.

A range from an offset back to an offset ahead is meant as a window around the instant of
validation. `TemporalRange.contains_now_iff` says when it holds the text of that instant. Its date
is always held. So are its date and time, except in a leap second that does not end a minute, which
is shown as the second after it. Its time is held if the window stays within a day: of the ends of a
window only the time is compared, and a window across midnight ends before it starts.
-/

namespace DocumentSchema

theorem OffsetUnit.length_pos (unit : OffsetUnit) : 0 < unit.length := by
  cases unit <;> decide

/-- Dates move by whole days. -/
theorem OffsetUnit.day_le_length {unit : OffsetUnit}
    (permitted : TemporalKind.date.permits unit = true) : Instant.daySeconds ≤ unit.length := by
  cases unit <;> first | decide | cases permitted

/-! ## Offsets from an instant -/

namespace Instant

variable {now : Instant} {seconds : Int}

theorem origin_of_pos (ahead : 0 < seconds) (leap : now.nanos < 2 * 10 ^ 9) :
    now.origin seconds = ⟨now.seconds, now.nanos % 10 ^ 9⟩ := by
  unfold origin
  split
  · have whole : now.nanos % 10 ^ 9 = now.nanos := by omega
    rw [whole]
  · have rest : now.nanos - 10 ^ 9 = now.nanos % 10 ^ 9 := by omega
    rw [rest]

theorem origin_of_neg (back : seconds < 0) (leap : now.nanos < 2 * 10 ^ 9) :
    now.origin seconds = ⟨now.seconds + (now.nanos / 10 ^ 9 : Nat), now.nanos % 10 ^ 9⟩ := by
  unfold origin
  split
  · have whole : now.nanos % 10 ^ 9 = now.nanos := by omega
    have none : now.nanos / 10 ^ 9 = 0 := by omega
    rw [whole, none, Int.natCast_zero, Int.add_zero]
  · have rest : now.nanos - 10 ^ 9 = now.nanos % 10 ^ 9 := by omega
    have one : now.nanos / 10 ^ 9 = 1 := by omega
    rw [if_neg back.not_gt, rest, one, Int.natCast_one]

theorem mod_le_nanos_shown (leap : now.nanos < 2 * 10 ^ 9) :
    now.nanos % 10 ^ 9 ≤ now.shown.nanos := by
  unfold shown
  split
  · exact Nat.mod_le _ _
  · dsimp only
    omega

end Instant

namespace Bound

variable {amount : Int64} {unit : OffsetUnit} {now instant : Instant} {kind : TemporalKind}

/-- The instant that an offset reaches. -/
def instant? (bound : Bound) (now : Instant) : Option Instant :=
  match bound with
  | .absolute _ => none
  | .relative amount unit => unit.offset? amount >>= now.addSeconds?

theorem resolve?_relative (reached : (relative amount unit).instant? now = some instant) :
    (relative amount unit).resolve? kind now = some (kind.instantText instant) := by
  obtain ⟨seconds, offset, moved⟩ := Option.bind_eq_some_iff.1 reached
  simp [resolve?, offset, moved]

theorem instant?_relative (reached : (relative amount unit).instant? now = some instant) :
    ∃ seconds, seconds = amount.toInt * unit.length ∧
      instant = ⟨(now.origin seconds).seconds + seconds, (now.origin seconds).nanos⟩ := by
  obtain ⟨seconds, offset, moved⟩ := Option.bind_eq_some_iff.1 reached
  obtain ⟨exact, -⟩ := OffsetUnit.offset?_eq_some_iff.1 offset
  unfold Instant.addSeconds? at moved
  dsimp only at moved
  split at moved
  · cases moved
    exact ⟨_, exact, rfl⟩
  · cases moved

/-- An offset back reaches an instant that is not later. -/
theorem instant?_back (reached : (relative amount unit).instant? now = some instant)
    (back : amount.toInt ≤ 0) (leap : now.nanos < 2 * 10 ^ 9) :
    instant.seconds ≤ now.seconds ∧
      (instant = now ∨ instant.nanos < 10 ^ 9 ∧ instant.nanos ≤ now.shown.nanos) := by
  obtain ⟨seconds, length, rfl⟩ := instant?_relative reached
  have notAhead : seconds ≤ 0 :=
    length ▸ Int.mul_nonpos_of_nonpos_of_nonneg back unit.length_pos.le
  rcases notAhead.lt_or_eq with less | rfl
  · rw [Instant.origin_of_neg less leap]
    refine ⟨?_, .inr ⟨Nat.mod_lt _ (by decide), Instant.mod_le_nanos_shown leap⟩⟩
    dsimp only
    omega
  · have origin : now.origin 0 = now := if_pos (.inr rfl)
    rw [origin, Int.add_zero]
    exact ⟨le_refl _, .inl rfl⟩

/-- An offset ahead reaches an instant that is later by one unit at least. -/
theorem instant?_ahead (reached : (relative amount unit).instant? now = some instant)
    (ahead : 1 ≤ amount.toInt) (leap : now.nanos < 2 * 10 ^ 9) :
    now.seconds + unit.length ≤ instant.seconds ∧ instant.nanos < 10 ^ 9 ∧
      instant.nanos ≤ now.shown.nanos := by
  obtain ⟨seconds, length, rfl⟩ := instant?_relative reached
  have unitAhead : unit.length ≤ seconds := by
    rw [length]
    exact le_mul_of_one_le_left unit.length_pos.le ahead
  rw [Instant.origin_of_pos (unit.length_pos.trans_le unitAhead) leap]
  exact ⟨Int.add_le_add_left unitAhead _, Nat.mod_lt _ (by decide),
    Instant.mod_le_nanos_shown leap⟩

end Bound

/-! ## Windows -/

namespace TemporalKind

variable {kind : TemporalKind} {now lower upper : Instant}

theorem position_le_shown : kind.position now ≤ kind.position now.shown := by
  unfold Instant.shown
  split
  · exact le_refl _
  · cases kind <;> simp only [position, Instant.secondOfDay, Instant.daySeconds] <;> omega

/-- The end of a window that lies back is compared by its position. -/
theorem instantText_le_now_iff (lowerWritable : lower.IsWritable) (writable : now.IsWritable)
    (back : lower = now ∨ lower.nanos < 10 ^ 9 ∧ lower.nanos ≤ now.shown.nanos) :
    kind.instantText lower ≤ kind.instantText now ↔
      kind.position lower ≤ kind.position now.shown := by
  rcases back with rfl | ⟨whole, nanos⟩
  · exact iff_of_true (le_refl _) position_le_shown
  · rw [← instantText_shown writable.nanos]
    exact instantText_le_iff lowerWritable writable.shown (.inl whole)
      (Instant.isRegular_shown writable.nanos) nanos

/-- The end of a window that lies ahead is compared by its position. -/
theorem now_lt_instantText_iff (upperWritable : upper.IsWritable) (writable : now.IsWritable)
    (whole : upper.nanos < 10 ^ 9) (nanos : upper.nanos ≤ now.shown.nanos) :
    kind.instantText now < kind.instantText upper ↔
      kind.position now.shown < kind.position upper := by
  rw [← not_le, ← not_le, ← instantText_shown writable.nanos]
  exact not_congr (instantText_le_iff upperWritable writable.shown (.inl whole)
    (Instant.isRegular_shown writable.nanos) nanos)

end TemporalKind

namespace TemporalRange

variable {kind : TemporalKind} {lo hi : String} {before after : Int64}
  {beforeUnit afterUnit : OffsetUnit} {now lower upper : Instant}

/-- A window around an instant holds it exactly if the ends of the window lie around it as far as
the kind shows. With dates they always do. Except in a leap second that does not end a minute, they
also do with dates and times, and with times if both ends are on the same day. -/
theorem contains_now_iff
    (parsed : parse kind lo hi = .ok ⟨.relative before beforeUnit, .relative after afterUnit⟩)
    (back : before.toInt ≤ 0) (ahead : 1 ≤ after.toInt) (leap : now.nanos < 2 * 10 ^ 9)
    (reachedLower : (Bound.relative before beforeUnit).instant? now = some lower)
    (reachedUpper : (Bound.relative after afterUnit).instant? now = some upper)
    (firstYear : 0 ≤ lower.date.year) (lastYear : upper.date.year ≤ 9999) :
    (contains ⟨.relative before beforeUnit, .relative after afterUnit⟩ kind
        (kind.instantText now) now = true ↔
      kind.position lower ≤ kind.position now.shown ∧
        kind.position now.shown < kind.position upper) ∧
    (kind = .date ∨ now.shown = now ∧
        (kind = .time → lower.seconds / Instant.daySeconds = upper.seconds / Instant.daySeconds) →
      contains ⟨.relative before beforeUnit, .relative after afterUnit⟩ kind
        (kind.instantText now) now = true) := by
  obtain ⟨notLater, nanosLower⟩ := Bound.instant?_back reachedLower back leap
  obtain ⟨later, wholeUpper, nanosUpper⟩ := Bound.instant?_ahead reachedUpper ahead leap
  have positive := afterUnit.length_pos
  have yearLower : lower.date.year ≤ now.date.year :=
    CivilDate.year_ofDays_mono (Int.ediv_le_ediv (by decide) notLater)
  have yearUpper : now.date.year ≤ upper.date.year :=
    CivilDate.year_ofDays_mono (Int.ediv_le_ediv (by decide) (by omega))
  have writable : now.IsWritable :=
    ⟨leap, firstYear.trans yearLower, yearUpper.trans lastYear⟩
  have lowerWritable : lower.IsWritable := by
    refine ⟨?_, firstYear, (yearLower.trans yearUpper).trans lastYear⟩
    rcases nanosLower with rfl | ⟨whole, -⟩
    · exact leap
    · omega
  have upperWritable : upper.IsWritable :=
    ⟨by omega, (firstYear.trans yearLower).trans yearUpper, lastYear⟩
  have held : contains ⟨.relative before beforeUnit, .relative after afterUnit⟩ kind
        (kind.instantText now) now = true ↔
      kind.position lower ≤ kind.position now.shown ∧
        kind.position now.shown < kind.position upper := by
    unfold contains
    rw [Bound.resolve?_relative reachedLower, Bound.resolve?_relative reachedUpper]
    simp only [Bool.and_eq_true, decide_eq_true_eq]
    exact and_congr (TemporalKind.instantText_le_now_iff lowerWritable writable nanosLower)
      (TemporalKind.now_lt_instantText_iff upperWritable writable wholeUpper nanosUpper)
  refine ⟨held, fun around => held.2 ?_⟩
  unfold Instant.daySeconds at around
  cases kind with
  | date =>
    have wholeDays :=
      OffsetUnit.day_le_length (Bound.permits_of_parse (parse_eq_ok_iff.1 parsed).2)
    simp only [TemporalKind.position, Instant.day_shown]
    unfold Instant.daySeconds at wholeDays ⊢
    omega
  | time =>
    obtain ⟨isShown, sameDay⟩ := around.resolve_left (by decide)
    have sameDay := sameDay rfl
    rw [isShown]
    simp only [TemporalKind.position, Instant.secondOfDay, Instant.daySeconds]
    omega
  | dateTime =>
    obtain ⟨isShown, -⟩ := around.resolve_left (by decide)
    rw [isShown]
    simp only [TemporalKind.position]
    omega

/-- Half a second before a year ends, a window from an hour before to a day after holds the date
and time. -/
theorem contains_now_iff_new_year :
    parse .dateTime "-1h" "+1d" = .ok ⟨.relative (-1) .hours, .relative 1 .days⟩ ∧
      contains ⟨.relative (-1) .hours, .relative 1 .days⟩ .dateTime "2023-12-31T23:59:59.500000"
        ⟨1704067199, 500000000⟩ = true := by
  have parsed : parse .dateTime "-1h" "+1d" = .ok ⟨.relative (-1) .hours, .relative 1 .days⟩ := by
    have first : (Bound.relative (-1) .hours).text = "-1h" := by decide
    have second : (Bound.relative 1 .days).text = "+1d" := by decide
    rw [parse_eq_ok_iff, ← first, ← second]
    exact ⟨Bound.parse_text_relative _ rfl, Bound.parse_text_relative _ rfl⟩
  have lower : (Bound.relative (-1) .hours).instant? ⟨1704067199, 500000000⟩ =
      some ⟨1704063599, 500000000⟩ := by decide
  have upper : (Bound.relative 1 .days).instant? ⟨1704067199, 500000000⟩ =
      some ⟨1704153599, 500000000⟩ := by decide
  have text : TemporalKind.dateTime.instantText ⟨1704067199, 500000000⟩ =
      "2023-12-31T23:59:59.500000" := by decide
  have held := (contains_now_iff parsed (by decide) (by decide) (by decide) lower upper (by decide)
    (by decide)).2 (.inr ⟨by decide, by decide⟩)
  rw [text] at held
  exact ⟨parsed, held⟩

/-- Half an hour before midnight, a window of an hour before and after ends, as times go, before it
starts. -/
theorem not_contains_now_midnight :
    parse .time "-1h" "+1h" = .ok ⟨.relative (-1) .hours, .relative 1 .hours⟩ ∧
      (Bound.relative (-1) .hours).instant? ⟨84600, 0⟩ = some ⟨81000, 0⟩ ∧
      (Bound.relative 1 .hours).instant? ⟨84600, 0⟩ = some ⟨88200, 0⟩ ∧
      TemporalKind.time.instantText ⟨81000, 0⟩ = "22:30:00.000000" ∧
      TemporalKind.time.instantText ⟨84600, 0⟩ = "23:30:00.000000" ∧
      TemporalKind.time.instantText ⟨88200, 0⟩ = "00:30:00.000000" ∧
      (Instant.date ⟨81000, 0⟩).year = 1970 ∧ (Instant.date ⟨88200, 0⟩).year = 1970 ∧
      contains ⟨.relative (-1) .hours, .relative 1 .hours⟩ .time
        (TemporalKind.time.instantText ⟨84600, 0⟩) ⟨84600, 0⟩ = false := by
  refine ⟨?_, ?_, ?_, ?_, ?_, ?_, ?_, ?_, ?_⟩
  · have first : (Bound.relative (-1) .hours).text = "-1h" := by decide
    have second : (Bound.relative 1 .hours).text = "+1h" := by decide
    rw [parse_eq_ok_iff, ← first, ← second]
    exact ⟨Bound.parse_text_relative _ rfl, Bound.parse_text_relative _ rfl⟩
  all_goals decide

end TemporalRange

end DocumentSchema

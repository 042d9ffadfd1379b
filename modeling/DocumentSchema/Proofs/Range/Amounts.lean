import DocumentSchema.Proofs.Range.Offsets

/-!
Offsets without loss.

A text that writes an offset (`Bound.Writes`) is read as exactly the number that it writes, or
refused if 64 signed bits do not hold that number. The offset is as long as its number and unit say,
or has no length if it would be too long for a duration, and the instant that it reaches is the
exact one, or lies outside the calendar. `Bound.relative_exact` puts these together.
-/

namespace DocumentSchema

/-! ## The calendar -/

namespace Instant

variable {now instant : Instant} {seconds : Int}

/-- The first second of the calendar, with which the year -262143 starts. -/
def firstSecond : Int := -8334601228800

/-- The last second of the calendar, with which the year 262142 ends. -/
def lastSecond : Int := 8210266876799

theorem isRepresentable_iff :
    instant.isRepresentable = true ↔
      firstSecond ≤ instant.seconds ∧ instant.seconds ≤ lastSecond := by
  -- the years on both sides of the first and of the last day
  have beforeFirst : (CivilDate.ofDays (-96465293)).year = -262144 := by decide
  have first : (CivilDate.ofDays (-96465292)).year = -262143 := by decide
  have last : (CivilDate.ofDays 95026236).year = 262142 := by decide
  have afterLast : (CivilDate.ofDays 95026237).year = 262143 := by decide
  have year : instant.date.year = (CivilDate.ofDays (instant.seconds / 86400)).year := rfl
  unfold isRepresentable firstSecond lastSecond
  rw [Bool.and_eq_true, decide_eq_true_eq, decide_eq_true_eq, year]
  constructor
  · rintro ⟨notBefore, notAfter⟩
    refine ⟨?_, ?_⟩
    · by_contra early
      have mono := CivilDate.year_ofDays_mono
        (show instant.seconds / 86400 ≤ -96465293 by omega)
      omega
    · by_contra late
      have mono := CivilDate.year_ofDays_mono
        (show 95026237 ≤ instant.seconds / 86400 by omega)
      omega
  · rintro ⟨notBefore, notAfter⟩
    have lower := CivilDate.year_ofDays_mono
      (show -96465292 ≤ instant.seconds / 86400 by omega)
    have upper := CivilDate.year_ofDays_mono
      (show instant.seconds / 86400 ≤ 95026236 by omega)
    omega

theorem addSeconds?_eq_some_iff :
    now.addSeconds? seconds = some instant ↔
      instant = now.moved seconds ∧ firstSecond ≤ instant.seconds ∧
        instant.seconds ≤ lastSecond := by
  have unfolded : now.addSeconds? seconds =
      if (now.moved seconds).isRepresentable then some (now.moved seconds) else none := rfl
  rw [unfolded, ← isRepresentable_iff]
  constructor
  · intro moved
    split at moved
    · next inside =>
      cases moved
      exact ⟨rfl, inside⟩
    · cases moved
  · rintro ⟨rfl, inside⟩
    exact if_pos inside

theorem moved_of_whole (whole : now.nanos < 10 ^ 9) :
    now.moved seconds = ⟨now.seconds + seconds, now.nanos⟩ := by
  rw [moved, origin, if_pos (.inl whole)]

end Instant

/-! ## Texts of offsets -/

namespace Bound

variable {kind : TemporalKind} {input : String} {number : Int} {amount : Int64}
  {unit : OffsetUnit}

/-- A text writes an offset: a sign, digits, and the letter of a unit. -/
def Writes (input : String) (number : Int) (unit : OffsetUnit) : Prop :=
  ∃ sign digits, input.toList = sign :: (digits ++ [unit.letter]) ∧ digits ≠ [] ∧
    (∀ c ∈ digits, Text.isDigit c = true) ∧
    (sign = '+' ∧ number = Text.decimalValue digits ∨
      sign = '-' ∧ number = -Text.decimalValue digits)

theorem signedNumber?_eq_some_iff {negative : Bool} {digits : List Char} :
    signedNumber? negative digits = some amount ↔
      amount.toInt = if negative = true then -(Text.decimalValue digits : Int)
        else Text.decimalValue digits := by
  refine ⟨toInt_of_signedNumber?, fun exact => ?_⟩
  have least := amount.le_toInt
  have greatest := amount.toInt_lt
  unfold signedNumber?
  dsimp only
  rw [← exact, if_pos ⟨least, greatest⟩, Int64.ofInt_toInt]

/-- What the parts of a text that writes an offset are. -/
theorem Writes.offsetParts (writes : Writes input number unit) :
    isSigned input = true ∧ ∃ negative digits,
      Text.Format.offsetParts? input = some (negative, digits, unit.letter) ∧
        number = if negative = true then -(Text.decimalValue digits : Int)
          else Text.decimalValue digits := by
  obtain ⟨sign, digits, list, filled, isDigit, value⟩ := writes
  have plusOrMinus : sign = '+' ∨ sign = '-' := value.imp And.left And.left
  have stops : Text.isDigit unit.letter = false := by cases unit <;> decide
  have known : unit.letter ∈ ['s', 'm', 'h', 'd', 'w'] := by cases unit <;> decide
  refine ⟨isSigned_of_toList list plusOrMinus, sign == '-', digits, ?_, ?_⟩
  · unfold Text.Format.offsetParts?
    rw [list]
    simp only [List.takeWhile_append_of_pos isDigit, List.dropWhile_append_of_pos isDigit,
      List.takeWhile_cons, List.dropWhile_cons, stops]
    simp [-List.mem_cons, plusOrMinus, filled, known]
  · rcases value with ⟨rfl, value⟩ | ⟨rfl, value⟩ <;> simpa using value

/-- Exactly the texts that write an offset in a unit of the kind are read as one, with the number
that they write. -/
theorem parse_eq_relative_iff :
    parse kind input = .ok (relative amount unit) ↔
      Writes input amount.toInt unit ∧ kind.permits unit = true := by
  constructor
  · intro parsed
    rcases parse_cases parsed with ⟨-, -, absolute⟩ |
      ⟨_, _, permitted, same, negative, digits, parts, number⟩
    · cases absolute
    · cases same
      obtain ⟨sign, list, plusOrMinus, rfl, filled, isDigit, -⟩ := toList_of_offsetParts? parts
      have value := toInt_of_signedNumber? number
      refine ⟨⟨sign, digits, list, filled, isDigit, ?_⟩, permitted⟩
      rcases plusOrMinus with rfl | rfl
      · exact .inl ⟨rfl, by simpa using value⟩
      · exact .inr ⟨rfl, by simpa using value⟩
  · rintro ⟨writes, permitted⟩
    obtain ⟨signed, negative, digits, parts, value⟩ := writes.offsetParts
    exact parse_of_signed signed parts (signedNumber?_eq_some_iff.2 value) permitted

/-- A text that writes more than 64 signed bits hold is refused. -/
theorem parse_of_overflow (writes : Writes input number unit)
    (beyond : number < -(2 ^ 63) ∨ 2 ^ 63 ≤ number) :
    parse kind input = .error (malformed (.kind kind.kind) (.offsetOverflow input)) := by
  obtain ⟨signed, negative, digits, parts, value⟩ := writes.offsetParts
  have none : signedNumber? negative digits = none := by
    unfold signedNumber?
    dsimp only
    rw [← value, if_neg (by omega)]
  unfold isSigned at signed
  unfold parse
  simp only [signed, if_true, parts, none]

/-! ## Instants -/

/-- An offset resolves to the text of the exact instant, if there is one. -/
theorem resolve?_eq_some_iff {now : Instant} {resolved : String} :
    (relative amount unit).resolve? kind now = some resolved ↔
      ∃ seconds, unit.offset? amount = some seconds ∧
        (Instant.firstSecond ≤ (now.moved seconds).seconds ∧
          (now.moved seconds).seconds ≤ Instant.lastSecond) ∧
        resolved = kind.instantText (now.moved seconds) := by
  rw [resolve?_relative_eq_some_iff]
  constructor
  · rintro ⟨instant, reached, rfl⟩
    obtain ⟨seconds, offset, moved⟩ := Option.bind_eq_some_iff.1 reached
    obtain ⟨rfl, inside⟩ := Instant.addSeconds?_eq_some_iff.1 moved
    exact ⟨seconds, offset, inside, rfl⟩
  · rintro ⟨seconds, offset, inside, rfl⟩
    exact ⟨_, Option.bind_eq_some_iff.2 ⟨seconds, offset,
      Instant.addSeconds?_eq_some_iff.2 ⟨rfl, inside⟩⟩, rfl⟩

/-- A text is read as an offset exactly if it writes one in a unit of the kind, with the number that
it writes; numbers beyond 64 signed bits are refused as malformed, and every bound that is read has
a text that is read as it. An offset is exactly as long as its number and unit say, if that is the
length of a duration, and has no length otherwise. It resolves exactly if it has a length and the
instant at that distance is one of the calendar, and then to the text of that instant. -/
theorem relative_exact (kind : TemporalKind) (input : String) :
    (∀ amount unit, parse kind input = .ok (relative amount unit) ↔
      Writes input amount.toInt unit ∧ kind.permits unit = true) ∧
    (∀ number unit, Writes input number unit → number < -(2 ^ 63) ∨ 2 ^ 63 ≤ number →
      ∃ error, parse kind input = .error error ∧ error.code = "ATTR_SCHEMA_MALFORMED") ∧
    (∀ bound, parse kind input = .ok bound → parse kind bound.text = .ok bound) ∧
    ∀ (amount : Int64) (unit : OffsetUnit),
      (∀ seconds, unit.offset? amount = some seconds ↔
        seconds = amount.toInt * unit.length ∧ OffsetUnit.IsDuration seconds) ∧
      ∀ now : Instant,
        (now.nanos < 10 ^ 9 →
          ∀ seconds, now.moved seconds = ⟨now.seconds + seconds, now.nanos⟩) ∧
        ∀ resolved, (relative amount unit).resolve? kind now = some resolved ↔
          ∃ seconds, unit.offset? amount = some seconds ∧
            (Instant.firstSecond ≤ (now.moved seconds).seconds ∧
              (now.moved seconds).seconds ≤ Instant.lastSecond) ∧
            resolved = kind.instantText (now.moved seconds) := by
  refine ⟨fun _ _ => parse_eq_relative_iff, fun _ _ writes beyond => ?_, fun _ => parse_text,
    fun _ _ => ⟨fun _ => OffsetUnit.offset?_eq_some_iff, fun _ => ⟨fun whole _ => ?_, fun _ => ?_⟩⟩⟩
  · exact ⟨_, parse_of_overflow writes beyond, rfl⟩
  · exact Instant.moved_of_whole whole
  · exact resolve?_eq_some_iff

/-- The least number of 64 signed bits is read, and written again, but is too long for a duration.
The number after the greatest one is refused. -/
theorem relative_exact_extremes :
    parse .dateTime "-9223372036854775808s" = .ok (relative .minValue .seconds) ∧
      parse .dateTime (relative .minValue .seconds).text = .ok (relative .minValue .seconds) ∧
      OffsetUnit.seconds.offset? .minValue = none ∧
      ∃ error, parse .dateTime "+9223372036854775808s" = .error error ∧
        error.code = "ATTR_SCHEMA_MALFORMED" := by
  have least : Writes "-9223372036854775808s" (-9223372036854775808) .seconds :=
    ⟨'-', "9223372036854775808".toList, by decide, by decide, List.all_eq_true.1 (by decide),
      .inr ⟨rfl, by decide⟩⟩
  have beyond : Writes "+9223372036854775808s" 9223372036854775808 .seconds :=
    ⟨'+', "9223372036854775808".toList, by decide, by decide, List.all_eq_true.1 (by decide),
      .inl ⟨rfl, by decide⟩⟩
  obtain ⟨reads, -, reread, exact⟩ := relative_exact .dateTime "-9223372036854775808s"
  have read := (reads .minValue .seconds).2 ⟨least, rfl⟩
  have none : OffsetUnit.seconds.offset? .minValue = none := by
    rw [Option.eq_none_iff_forall_ne_some]
    intro seconds offset
    obtain ⟨rfl, duration⟩ := ((exact .minValue .seconds).1 seconds).1 offset
    exact absurd duration (by unfold OffsetUnit.IsDuration; decide)
  exact ⟨read, reread _ read, none,
    (relative_exact .dateTime "+9223372036854775808s").2.1 _ _ beyond (by decide)⟩

end Bound

end DocumentSchema

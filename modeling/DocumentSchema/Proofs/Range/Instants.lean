import DocumentSchema.Proofs.Calendar.CivilDate
import DocumentSchema.Proofs.Range.Chronology

/-!
The texts of instants, in the order of time.

`TemporalKind.position` is as much of an instant as the text of a kind shows: its day, its second
within the day, or both. `TemporalKind.instantText_le_iff` says that the texts of instants are in
the order of their positions. A leap second is written as one second more than the second that it
follows: at the end of a minute as the sixty-first one, and anywhere else as the next second is
(`Instant.shown`).
-/

namespace DocumentSchema

/-! ## Dates -/

namespace CivilDate

/-- The numbers of a date. -/
def fields (date : CivilDate) : List Nat :=
  [date.year.toNat, date.month, date.day]

/-- Dates that come before others have lesser fields. -/
theorem fields_lt_of_before {a b : CivilDate} (notNegative : 0 ≤ a.year) (before : a.Before b) :
    a.fields < b.fields := by
  unfold Before at before
  simp only [fields, List.cons_lt_cons_iff, List.not_lt_nil, and_false, or_false]
  omega

/-- A date of four digits is written in the format of dates, and read back by its fields. -/
theorem chars_spec {date : CivilDate} (notNegative : 0 ≤ date.year) (fourDigits : date.year ≤ 9999)
    (month : date.month < 100) (day : date.day < 100) :
    Text.Format.isDateChars date.chars = true ∧ Text.dateFields date.chars = date.fields := by
  have year : yearText date.year = Text.paddedDecimal 4 date.year.toNat := by
    unfold yearText
    rw [if_neg (by omega), if_neg (by omega)]
    congr 1
    omega
  have four : (Text.paddedDecimal 4 date.year.toNat).length = 4 :=
    Text.length_paddedDecimal (by decide) (by omega)
  have two : (Text.paddedDecimal 2 date.month).length = 2 :=
    Text.length_paddedDecimal (by decide) (by omega)
  have two' : (Text.paddedDecimal 2 date.day).length = 2 :=
    Text.length_paddedDecimal (by decide) (by omega)
  have written : date.chars = Text.paddedDecimal 4 date.year.toNat ++
      '-' :: (Text.paddedDecimal 2 date.month ++ '-' :: Text.paddedDecimal 2 date.day) := by
    simp [chars, year]
  constructor
  · exact Text.isDateChars_iff.2 ⟨_, _, _, written, four, two, two',
      fun _ => Text.isDigit_of_mem_paddedDecimal, fun _ => Text.isDigit_of_mem_paddedDecimal,
      fun _ => Text.isDigit_of_mem_paddedDecimal⟩
  · rw [written, Text.dateFields_written four two two']
    simp only [Text.decimalValue_paddedDecimal, fields]

end CivilDate

/-! ## Times -/

namespace Instant

variable {a b instant : Instant}

/-- The numbers of the time of an instant. -/
def clock (instant : Instant) : List Nat :=
  [instant.secondOfDay / 3600, instant.secondOfDay / 60 % 60,
    instant.secondOfDay % 60 + instant.nanos / 10 ^ 9, instant.nanos % 10 ^ 9 / 1000]

/-- A part of a second beyond a full one is only passed at the end of a minute. -/
def IsRegular (instant : Instant) : Prop :=
  instant.nanos < 10 ^ 9 ∨ instant.nanos < 2 * 10 ^ 9 ∧ instant.seconds % 60 = 59

/-- The instant that the text of an instant shows: a leap second that does not end a minute is
written as the second after it. -/
def shown (instant : Instant) : Instant :=
  if instant.nanos < 10 ^ 9 ∨ instant.seconds % 60 = 59 then instant
  else ⟨instant.seconds + 1, instant.nanos - 10 ^ 9⟩

/-- A day has 86400 seconds. -/
theorem secondOfDay_lt (instant : Instant) : instant.secondOfDay < 86400 := by
  unfold secondOfDay daySeconds
  omega

/-- A time of day is written in the format of times, and read back by its clock. -/
theorem timeChars_spec (leap : instant.nanos < 2 * 10 ^ 9) :
    Text.Format.isTimeChars instant.timeChars = true ∧
      Text.timeFields instant.timeChars = instant.clock ∧ instant.timeChars.length = 15 := by
  have inDay := instant.secondOfDay_lt
  obtain ⟨hour, isHour⟩ : ∃ hour, hour = instant.secondOfDay / 3600 := ⟨_, rfl⟩
  obtain ⟨minute, isMinute⟩ : ∃ minute, minute = instant.secondOfDay / 60 % 60 := ⟨_, rfl⟩
  obtain ⟨second, isSecond⟩ :
    ∃ second, second = instant.secondOfDay % 60 + instant.nanos / 10 ^ 9 := ⟨_, rfl⟩
  obtain ⟨micro, isMicro⟩ : ∃ micro, micro = instant.nanos % 10 ^ 9 / 1000 := ⟨_, rfl⟩
  have hours : (Text.paddedDecimal 2 hour).length = 2 :=
    Text.length_paddedDecimal (by decide) (by omega)
  have minutes : (Text.paddedDecimal 2 minute).length = 2 :=
    Text.length_paddedDecimal (by decide) (by omega)
  have seconds : (Text.paddedDecimal 2 second).length = 2 :=
    Text.length_paddedDecimal (by decide) (by omega)
  have micros : (Text.paddedDecimal 6 micro).length = 6 :=
    Text.length_paddedDecimal (by decide) (by omega)
  have written : instant.timeChars = Text.paddedDecimal 2 hour ++ ':' ::
      (Text.paddedDecimal 2 minute ++ ':' ::
        (Text.paddedDecimal 2 second ++ '.' :: Text.paddedDecimal 6 micro)) := by
    simp [timeChars, isHour, isMinute, isSecond, isMicro]
  have digits {width n : Nat} (c : Char) : c ∈ Text.paddedDecimal width n → Text.isDigit c = true :=
    Text.isDigit_of_mem_paddedDecimal
  have tail : Text.Format.isSecondsTail (':' ::
      (Text.paddedDecimal 2 second ++ '.' :: Text.paddedDecimal 6 micro)) = true :=
    Text.isSecondsTail_iff.2
      (.inr ⟨_, _, rfl, seconds, digits, .inr ⟨_, rfl, micros, digits⟩⟩)
  refine ⟨Text.isTimeChars_iff.2 ⟨_, _, _, written, hours, minutes, digits, digits, tail⟩, ?_, ?_⟩
  · rw [written, Text.timeFields_written hours minutes, Text.secondsFields_written seconds,
      List.drop_succ_cons, List.drop_zero, List.take_of_length_le micros.le]
    simp only [Text.decimalValue_paddedDecimal, clock, isHour, isMinute, isSecond, isMicro]
  · simp [written, hours, minutes, seconds, micros]

/-- A later second has a greater clock. -/
theorem clock_lt (regular : a.IsRegular) (later : a.secondOfDay < b.secondOfDay) :
    a.clock < b.clock := by
  have minute : a.secondOfDay % 60 = (a.seconds % 60).toNat := by
    unfold secondOfDay daySeconds
    omega
  unfold IsRegular at regular
  simp only [clock, List.cons_lt_cons_iff, List.not_lt_nil, and_false, or_false]
  omega

/-- Within a second, the clock follows the nanoseconds. -/
theorem clock_le (same : a.secondOfDay = b.secondOfDay) (nanos : a.nanos ≤ b.nanos) :
    a.clock ≤ b.clock := by
  refine not_lt.1 ?_
  simp only [clock, same, List.cons_lt_cons_iff, List.not_lt_nil, and_false, or_false]
  omega

/-! ## Characters -/

@[simp]
theorem toList_dateText : instant.dateText.toList = instant.date.chars :=
  String.toList_ofList

@[simp]
theorem toList_timeText : instant.timeText.toList = instant.timeChars :=
  String.toList_ofList

@[simp]
theorem toList_dateTimeText :
    instant.dateTimeText.toList = instant.date.chars ++ 'T' :: instant.timeChars :=
  String.toList_ofList

/-! ## The instant that is shown -/

/-- What is shown of an instant passes a full second only at the end of a minute. -/
theorem isRegular_shown (leap : instant.nanos < 2 * 10 ^ 9) : instant.shown.IsRegular := by
  unfold shown IsRegular
  split
  · omega
  · exact .inl (by dsimp only; omega)

/-- What is shown of an instant is on the same day. -/
theorem day_shown : instant.shown.seconds / daySeconds = instant.seconds / daySeconds := by
  unfold shown
  split
  · rfl
  · unfold daySeconds
    dsimp only
    omega

/-- What is shown of an instant has the same date. -/
theorem date_shown : instant.shown.date = instant.date := by
  rw [date, date, day_shown]

/-- What is shown of an instant has the same time of day. -/
theorem timeChars_shown (leap : instant.nanos < 2 * 10 ^ 9) :
    instant.shown.timeChars = instant.timeChars := by
  unfold shown
  split
  · rfl
  · next inMinute =>
    have second : secondOfDay ⟨instant.seconds + 1, instant.nanos - 10 ^ 9⟩ =
        instant.secondOfDay + 1 := by
      unfold secondOfDay daySeconds
      dsimp only
      omega
    have minute : instant.secondOfDay % 60 = (instant.seconds % 60).toNat := by
      unfold secondOfDay daySeconds
      omega
    have hours : (instant.secondOfDay + 1) / 3600 = instant.secondOfDay / 3600 := by omega
    have minutes : (instant.secondOfDay + 1) / 60 % 60 = instant.secondOfDay / 60 % 60 := by omega
    have seconds : (instant.secondOfDay + 1) % 60 + (instant.nanos - 10 ^ 9) / 10 ^ 9 =
        instant.secondOfDay % 60 + instant.nanos / 10 ^ 9 := by omega
    have fraction : (instant.nanos - 10 ^ 9) % 10 ^ 9 = instant.nanos % 10 ^ 9 := by omega
    unfold timeChars
    dsimp only
    rw [second, hours, minutes, seconds, fraction]

end Instant

/-! ## Texts of a kind -/

/-- An instant in a year of four digits, with less than two seconds in its nanoseconds. -/
structure Instant.IsWritable (instant : Instant) : Prop where
  nanos : instant.nanos < 2 * 10 ^ 9
  yearNonneg : 0 ≤ instant.date.year
  yearFourDigits : instant.date.year ≤ 9999

/-- What is shown of a writable instant is writable. -/
theorem Instant.IsWritable.shown {instant : Instant} (writable : instant.IsWritable) :
    instant.shown.IsWritable where
  nanos := by
    have regular := Instant.isRegular_shown writable.nanos
    unfold Instant.IsRegular at regular
    omega
  yearNonneg := by
    rw [Instant.date_shown]
    exact writable.yearNonneg
  yearFourDigits := by
    rw [Instant.date_shown]
    exact writable.yearFourDigits

/-- The date of a writable instant is read back by its fields. -/
theorem Instant.IsWritable.date_spec {instant : Instant} (writable : instant.IsWritable) :
    Text.Format.isDateChars instant.date.chars = true ∧
      Text.dateFields instant.date.chars = instant.date.fields := by
  obtain ⟨-, year, years⟩ := writable
  unfold Instant.date at year years ⊢
  have month := (CivilDate.month_ofDays (instant.seconds / Instant.daySeconds)).2
  have day := (CivilDate.day_ofDays (instant.seconds / Instant.daySeconds)).2
  exact CivilDate.chars_spec year years (by omega) (by omega)

namespace TemporalKind

variable {kind : TemporalKind} {a b instant : Instant}

/-- The numbers that the text of an instant writes. -/
def instantFields : TemporalKind → Instant → List Nat
  | date, instant => instant.date.fields
  | time, instant => instant.clock
  | dateTime, instant => instant.date.fields ++ instant.clock

/-- As much of an instant as its text shows, up to parts of a second: the day, the second within the
day, or both. -/
def position : TemporalKind → Instant → Int
  | date, instant => instant.seconds / Instant.daySeconds
  | time, instant => instant.secondOfDay
  | dateTime, instant => instant.seconds

/-- What is shown of an instant has the same text. -/
theorem instantText_shown (leap : instant.nanos < 2 * 10 ^ 9) :
    kind.instantText instant.shown = kind.instantText instant := by
  cases kind <;>
    simp only [instantText, Instant.dateText, Instant.timeText, Instant.dateTimeText,
      Instant.date_shown, Instant.timeChars_shown leap]

/-- The text of an instant is in the format of its kind. -/
theorem isFormat_instantText (writable : instant.IsWritable) :
    kind.isFormat (kind.instantText instant) = true := by
  obtain ⟨dateFormat, -⟩ := writable.date_spec
  obtain ⟨timeFormat, -, -⟩ := Instant.timeChars_spec writable.nanos
  cases kind with
  | date =>
    rw [isFormat, instantText, Text.Format.isDate, Instant.toList_dateText]
    exact dateFormat
  | time =>
    rw [isFormat, instantText, Text.Format.isTime, Instant.toList_timeText]
    exact timeFormat
  | dateTime =>
    rw [isFormat, instantText, Text.isDateTime_iff]
    exact ⟨_, _, Instant.toList_dateTimeText, dateFormat, timeFormat⟩

/-- The text of a writable instant has the fields of the instant. -/
theorem fields_instantText (writable : instant.IsWritable) :
    kind.fields (kind.instantText instant) = kind.instantFields instant := by
  obtain ⟨dateFormat, dateFields⟩ := writable.date_spec
  obtain ⟨-, timeFields, -⟩ := Instant.timeChars_spec writable.nanos
  cases kind with
  | date =>
    rw [fields, instantText, Instant.toList_dateText]
    exact dateFields
  | time =>
    rw [fields, instantText, Instant.toList_timeText]
    exact timeFields
  | dateTime =>
    rw [instantText, fields_dateTime Instant.toList_dateTimeText dateFormat, dateFields,
      timeFields, instantFields]

/-- The texts of instants are equally long. -/
theorem length_instantText (left : a.IsWritable) (right : b.IsWritable) :
    (kind.instantText a).length = (kind.instantText b).length := by
  have dateLeft := Text.length_of_isDateChars left.date_spec.1
  have dateRight := Text.length_of_isDateChars right.date_spec.1
  have timeLeft := (Instant.timeChars_spec left.nanos).2.2
  have timeRight := (Instant.timeChars_spec right.nanos).2.2
  cases kind <;>
    simp [instantText, Instant.dateText, Instant.timeText, Instant.dateTimeText, dateLeft,
      dateRight, timeLeft, timeRight]

/-- A regular instant has lesser fields than any that comes later. -/
theorem instantFields_lt (left : a.IsWritable) (regular : a.IsRegular)
    (earlier : kind.position a < kind.position b) :
    kind.instantFields a < kind.instantFields b := by
  have date_lt (day : a.seconds / Instant.daySeconds < b.seconds / Instant.daySeconds) :
      a.date.fields < b.date.fields :=
    CivilDate.fields_lt_of_before left.yearNonneg (CivilDate.ofDays_before day)
  have sameLength : a.date.fields.length = b.date.fields.length := rfl
  cases kind with
  | date => exact date_lt earlier
  | time => exact Instant.clock_lt regular (Int.ofNat_lt.1 earlier)
  | dateTime =>
    rw [instantFields, instantFields, Text.append_lt_append_iff sameLength]
    have earlier : a.seconds < b.seconds := earlier
    rcases (Int.ediv_le_ediv (by decide) earlier.le :
      a.seconds / Instant.daySeconds ≤ b.seconds / Instant.daySeconds).lt_or_eq with day | day
    · exact .inl (date_lt day)
    · refine .inr ⟨by rw [Instant.date, Instant.date, day], Instant.clock_lt regular ?_⟩
      unfold Instant.secondOfDay
      unfold Instant.daySeconds at day ⊢
      omega

/-- Within a second, the fields follow the nanoseconds. -/
theorem instantFields_le (same : kind.position a = kind.position b) (nanos : a.nanos ≤ b.nanos) :
    kind.instantFields a ≤ kind.instantFields b := by
  cases kind with
  | date =>
    have day : a.seconds / Instant.daySeconds = b.seconds / Instant.daySeconds := same
    rw [instantFields, instantFields, Instant.date, Instant.date, day]
  | time => exact Instant.clock_le (Int.ofNat_inj.1 same) nanos
  | dateTime =>
    have second : a.seconds = b.seconds := same
    have clock : a.clock ≤ b.clock :=
      Instant.clock_le (by rw [Instant.secondOfDay, second, Instant.secondOfDay]) nanos
    rw [instantFields, instantFields, Instant.date, Instant.date, second, ← not_lt,
      Text.append_lt_append_iff rfl]
    rintro (less | ⟨-, less⟩)
    · exact lt_irrefl _ less
    · exact absurd less (not_lt_of_ge clock)

/-- The texts of two instants are in the order of their positions, where the part of a second of the
first one is not greater. -/
theorem instantText_le_iff (left : a.IsWritable) (right : b.IsWritable) (leftRegular : a.IsRegular)
    (rightRegular : b.IsRegular) (nanos : a.nanos ≤ b.nanos) :
    kind.instantText a ≤ kind.instantText b ↔ kind.position a ≤ kind.position b := by
  have notCoarser : ¬kind.IsCoarser (kind.instantText b) (kind.instantText a) :=
    fun coarser => absurd coarser.2 (length_instantText left right).not_gt
  rw [le_iff (isFormat_instantText left) (isFormat_instantText right),
    and_iff_left notCoarser, fields_instantText left, fields_instantText right]
  constructor
  · intro notAfter
    refine le_of_not_gt fun later => ?_
    exact absurd (instantFields_lt right rightRegular later) (not_lt_of_ge notAfter)
  · intro notAfter
    rcases notAfter.lt_or_eq with earlier | same
    · exact (instantFields_lt left leftRegular earlier).le
    · exact instantFields_le same nanos

end TemporalKind

end DocumentSchema

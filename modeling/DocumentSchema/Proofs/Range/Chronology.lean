import DocumentSchema.Proofs.Text.Digits
import DocumentSchema.Range.Temporal
import Mathlib.Data.List.Lex
import Mathlib.Data.String.Basic

/-!
The order of dates and times as texts.

A date or time writes a list of numbers, in which seconds and fractions that are omitted are zeros.
Texts of one kind compare as these numbers do, and where the numbers are the same, as the lengths of
the texts do (`TemporalKind.lt_iff`): the order of texts is that of time but for the precision in
which the same time is written. `TemporalRange.contains_absolute_iff` says what this makes of a
range between two texts.
-/

namespace DocumentSchema

/-! ## The numbers of a text -/

namespace Text

/-- Year, month and day of a date. -/
def dateFields (cs : List Char) : List Nat :=
  [decimalValue (cs.take 4), decimalValue ((cs.drop 5).take 2), decimalValue ((cs.drop 8).take 2)]

/-- Seconds and millionths of a second in what follows the minutes of a time, zero where they are
omitted. -/
def secondsFields (cs : List Char) : List Nat :=
  [decimalValue ((cs.drop 1).take 2), decimalValue ((cs.drop 4).take 6)]

/-- Hours and minutes of a time, seconds and millionths of a second. -/
def timeFields (cs : List Char) : List Nat :=
  decimalValue (cs.take 2) :: decimalValue ((cs.drop 3).take 2) :: secondsFields (cs.drop 5)

end Text

/-- The numbers that a date or time writes. -/
def TemporalKind.fields (kind : TemporalKind) (text : String) : List Nat :=
  match kind with
  | date => Text.dateFields text.toList
  | time => Text.timeFields text.toList
  | dateTime => Text.dateFields (text.toList.take 10) ++ Text.timeFields (text.toList.drop 11)

/-! ## Texts in the order of numbers -/

namespace Text

variable {s t a b : List Char} {x y : List Nat}

/-- Two texts compare as two lists of numbers do, and where these are the same, as their lengths
do. -/
def OrderedAs (s t : List Char) (x y : List Nat) : Prop :=
  s < t ↔ x < y ∨ x = y ∧ s.length < t.length

theorem orderedAs_nil : OrderedAs [] [] [] [] := by
  simp [OrderedAs]

theorem OrderedAs.cons (rest : OrderedAs s t x y) (c : Char) :
    OrderedAs (c :: s) (c :: t) x y := by
  have order : s < t ↔ x < y ∨ x = y ∧ s.length < t.length := rest
  rw [OrderedAs, List.cons_lt_cons_iff, order]
  simp

theorem OrderedAs.digits (rest : OrderedAs s t x y) (length : a.length = b.length)
    (left : ∀ c ∈ a, isDigit c = true) (right : ∀ c ∈ b, isDigit c = true) :
    OrderedAs (a ++ s) (b ++ t) (decimalValue a :: x) (decimalValue b :: y) := by
  obtain ⟨less, same⟩ := compare_digits length left right
  have shorter : (a ++ s).length < (b ++ t).length ↔ s.length < t.length := by
    rw [List.length_append, List.length_append, length, Nat.add_lt_add_iff_left]
  have order : s < t ↔ x < y ∨ x = y ∧ s.length < t.length := rest
  rw [OrderedAs, append_lt_append_iff length, order, less, same, List.cons_lt_cons_iff,
    List.cons.injEq, shorter, and_or_left, or_assoc, and_assoc]

/-- No list of numbers comes before the zeros. -/
theorem zeros_le (x : List Nat) : List.replicate x.length 0 ≤ x := by
  induction x with
  | nil => exact le_refl _
  | cons n x ih =>
    refine not_lt.1 fun less => ?_
    rcases List.cons_lt_cons_iff.1 less with below | ⟨-, rest⟩
    · exact Nat.not_lt_zero n below
    · exact absurd rest (not_lt_of_ge ih)

/-- A part that is omitted comes before one that writes as much or more. -/
theorem orderedAs_omitted_left (c : Char) (atMost : x ≤ y) : OrderedAs [] (c :: t) x y := by
  refine iff_of_true (List.nil_lt_cons c t) ?_
  rcases atMost.lt_or_eq with less | same
  · exact .inl less
  · exact .inr ⟨same, by simp⟩

theorem orderedAs_omitted_right (c : Char) (atMost : y ≤ x) : OrderedAs (c :: s) [] x y := by
  refine iff_of_false (List.not_lt_nil _) ?_
  rintro (less | ⟨-, shorter⟩)
  · exact absurd less (not_lt_of_ge atMost)
  · cases shorter

/-! ## Times -/

/-- What may follow the seconds of a time. -/
def IsFraction (cs : List Char) : Prop :=
  cs = [] ∨ ∃ ds, cs = '.' :: ds ∧ ds.length = 6 ∧ ∀ c ∈ ds, isDigit c = true

/-- What may follow the minutes of a time. -/
theorem isSecondsTail_iff :
    Format.isSecondsTail s = true ↔
      s = [] ∨ ∃ ds rest, s = ':' :: (ds ++ rest) ∧ ds.length = 2 ∧
        (∀ c ∈ ds, isDigit c = true) ∧ IsFraction rest := by
  constructor
  · intro tail
    unfold Format.isSecondsTail at tail
    split at tail
    · exact .inl rfl
    · next a b rest =>
      simp only [Bool.and_eq_true] at tail
      obtain ⟨⟨first, second⟩, after⟩ := tail
      refine .inr ⟨[a, b], rest, rfl, rfl, by simp [first, second], ?_⟩
      split at after
      · exact .inl rfl
      · next ds =>
        simp only [isDigitsOfLength, Bool.and_eq_true, beq_iff_eq, List.all_eq_true] at after
        exact .inr ⟨ds, rfl, after⟩
      · cases after
    · cases tail
  · rintro (rfl | ⟨ds, rest, rfl, two, digits, fraction⟩)
    · rfl
    · obtain ⟨a, b, rfl⟩ := List.length_eq_two.1 two
      rcases fraction with rfl | ⟨fraction, rfl, six, fractionDigits⟩
      · simp [Format.isSecondsTail, digits a, digits b]
      · simpa [Format.isSecondsTail, isDigitsOfLength, digits a, digits b, six]
          using fractionDigits

theorem orderedAs_fraction (left : IsFraction s) (right : IsFraction t) :
    OrderedAs s t [decimalValue ((s.drop 1).take 6)] [decimalValue ((t.drop 1).take 6)] := by
  rcases left with rfl | ⟨a, rfl, lengthA, digitsA⟩ <;>
    rcases right with rfl | ⟨b, rfl, lengthB, digitsB⟩
  · simp [OrderedAs]
  · exact orderedAs_omitted_left _ (zeros_le [_])
  · exact orderedAs_omitted_right _ (zeros_le [_])
  · have wholeA : (('.' :: a).drop 1).take 6 = a := List.take_of_length_le (by simp [lengthA])
    have wholeB : (('.' :: b).drop 1).take 6 = b := List.take_of_length_le (by simp [lengthB])
    have digits := orderedAs_nil.digits (lengthA.trans lengthB.symm) digitsA digitsB
    rw [List.append_nil, List.append_nil] at digits
    rw [wholeA, wholeB]
    exact digits.cons '.'

/-- The numbers of seconds that are written. -/
theorem secondsFields_written {ds rest : List Char} (length : ds.length = 2) :
    secondsFields (':' :: (ds ++ rest)) =
      [decimalValue ds, decimalValue ((rest.drop 1).take 6)] := by
  obtain ⟨a, b, rfl⟩ := List.length_eq_two.1 length
  cases rest <;> rfl

theorem orderedAs_secondsTail (left : Format.isSecondsTail s = true)
    (right : Format.isSecondsTail t = true) :
    OrderedAs s t (secondsFields s) (secondsFields t) := by
  rcases isSecondsTail_iff.1 left with rfl | ⟨a, restA, rfl, lengthA, digitsA, fractionA⟩ <;>
    rcases isSecondsTail_iff.1 right with rfl | ⟨b, restB, rfl, lengthB, digitsB, fractionB⟩
  · simp [OrderedAs]
  · exact orderedAs_omitted_left _ (zeros_le [_, _])
  · exact orderedAs_omitted_right _ (zeros_le [_, _])
  · rw [secondsFields_written lengthA, secondsFields_written lengthB]
    exact ((orderedAs_fraction fractionA fractionB).digits (lengthA.trans lengthB.symm) digitsA
      digitsB).cons ':'

/-- The parts of a time. -/
theorem isTimeChars_iff :
    Format.isTimeChars s = true ↔
      ∃ hours minutes rest, s = hours ++ ':' :: (minutes ++ rest) ∧ hours.length = 2 ∧
        minutes.length = 2 ∧ (∀ c ∈ hours, isDigit c = true) ∧
        (∀ c ∈ minutes, isDigit c = true) ∧ Format.isSecondsTail rest = true := by
  constructor
  · intro time
    unfold Format.isTimeChars at time
    split at time
    · next a b c d rest =>
      simp only [List.all_cons, List.all_nil, Bool.and_true, Bool.and_eq_true] at time
      obtain ⟨⟨first, second, third, fourth⟩, tail⟩ := time
      exact ⟨[a, b], [c, d], rest, rfl, rfl, rfl, by simp [first, second],
        by simp [third, fourth], tail⟩
    · cases time
  · rintro ⟨hours, minutes, rest, rfl, two, two', hourDigits, minuteDigits, tail⟩
    obtain ⟨a, b, rfl⟩ := List.length_eq_two.1 two
    obtain ⟨c, d, rfl⟩ := List.length_eq_two.1 two'
    simp [Format.isTimeChars, hourDigits a, hourDigits b, minuteDigits c, minuteDigits d, tail]

theorem timeFields_written {hours minutes rest : List Char} (two : hours.length = 2)
    (two' : minutes.length = 2) :
    timeFields (hours ++ ':' :: (minutes ++ rest)) =
      decimalValue hours :: decimalValue minutes :: secondsFields rest := by
  obtain ⟨a, b, rfl⟩ := List.length_eq_two.1 two
  obtain ⟨c, d, rfl⟩ := List.length_eq_two.1 two'
  rfl

theorem orderedAs_time (left : Format.isTimeChars s = true) (right : Format.isTimeChars t = true) :
    OrderedAs s t (timeFields s) (timeFields t) := by
  obtain ⟨a, b, restA, rfl, lengthA, lengthB, digitsA, digitsB, tailA⟩ := isTimeChars_iff.1 left
  obtain ⟨c, d, restB, rfl, lengthC, lengthD, digitsC, digitsD, tailB⟩ := isTimeChars_iff.1 right
  rw [timeFields_written lengthA lengthB, timeFields_written lengthC lengthD]
  exact (((orderedAs_secondsTail tailA tailB).digits (lengthB.trans lengthD.symm) digitsB
    digitsD).cons ':').digits (lengthA.trans lengthC.symm) digitsA digitsC

/-! ## Dates -/

/-- The parts of a date. -/
theorem isDateChars_iff :
    Format.isDateChars s = true ↔
      ∃ year month day, s = year ++ '-' :: (month ++ '-' :: day) ∧ year.length = 4 ∧
        month.length = 2 ∧ day.length = 2 ∧ (∀ c ∈ year, isDigit c = true) ∧
        (∀ c ∈ month, isDigit c = true) ∧ ∀ c ∈ day, isDigit c = true := by
  constructor
  · intro date
    unfold Format.isDateChars at date
    split at date
    · next a b c d e f g h =>
      simp only [List.all_cons, List.all_nil, Bool.and_true, Bool.and_eq_true] at date
      obtain ⟨y₁, y₂, y₃, y₄, m₁, m₂, d₁, d₂⟩ := date
      exact ⟨[a, b, c, d], [e, f], [g, h], rfl, rfl, rfl, rfl, by simp [y₁, y₂, y₃, y₄],
        by simp [m₁, m₂], by simp [d₁, d₂]⟩
    · cases date
  · rintro ⟨year, month, day, rfl, four, two, two', yearDigits, monthDigits, dayDigits⟩
    obtain ⟨e, f, rfl⟩ := List.length_eq_two.1 two
    obtain ⟨g, h, rfl⟩ := List.length_eq_two.1 two'
    match year, four with
    | [a, b, c, d], rfl =>
      simp [Format.isDateChars, yearDigits a, yearDigits b, yearDigits c, yearDigits d,
        monthDigits e, monthDigits f, dayDigits g, dayDigits h]

theorem dateFields_written {year month day : List Char} (four : year.length = 4)
    (two : month.length = 2) (two' : day.length = 2) :
    dateFields (year ++ '-' :: (month ++ '-' :: day)) =
      [decimalValue year, decimalValue month, decimalValue day] := by
  obtain ⟨e, f, rfl⟩ := List.length_eq_two.1 two
  obtain ⟨g, h, rfl⟩ := List.length_eq_two.1 two'
  match year, four with
  | [a, b, c, d], rfl => rfl

/-- Two dates compare as their numbers do, and then by what follows them. -/
theorem OrderedAs.date (rest : OrderedAs s t x y) (left : Format.isDateChars a = true)
    (right : Format.isDateChars b = true) :
    OrderedAs (a ++ s) (b ++ t) (dateFields a ++ x) (dateFields b ++ y) := by
  obtain ⟨year, month, day, rfl, four, two, two', yearDigits, monthDigits, dayDigits⟩ :=
    isDateChars_iff.1 left
  obtain ⟨year', month', day', rfl, four', twoB, twoB', yearDigits', monthDigits', dayDigits'⟩ :=
    isDateChars_iff.1 right
  have days := rest.digits (two'.trans twoB'.symm) dayDigits dayDigits'
  have months := (days.cons '-').digits (two.trans twoB.symm) monthDigits monthDigits'
  have years := (months.cons '-').digits (four.trans four'.symm) yearDigits yearDigits'
  rw [dateFields_written four two two', dateFields_written four' twoB twoB']
  simpa using years

theorem length_of_isDateChars (date : Format.isDateChars s = true) : s.length = 10 := by
  obtain ⟨year, month, day, rfl, four, two, two', -⟩ := isDateChars_iff.1 date
  simp [four, two, two']

/-- The parts of a date and time. -/
theorem isDateTime_iff {text : String} :
    Format.isDateTime text = true ↔
      ∃ date time, text.toList = date ++ 'T' :: time ∧ Format.isDateChars date = true ∧
        Format.isTimeChars time = true := by
  constructor
  · intro format
    simp only [Format.isDateTime, Bool.and_eq_true] at format
    obtain ⟨date, after⟩ := format
    split at after
    · next time found =>
      refine ⟨text.toList.take 10, time, ?_, date, after⟩
      rw [← found, List.take_append_drop]
    · cases after
  · rintro ⟨date, time, list, isDate, isTime⟩
    have ten := length_of_isDateChars isDate
    simp [Format.isDateTime, list, ten, isDate, isTime]

end Text

namespace TemporalKind

theorem fields_dateTime {text : String} {date time : List Char}
    (list : text.toList = date ++ 'T' :: time) (format : Text.Format.isDateChars date = true) :
    dateTime.fields text = Text.dateFields date ++ Text.timeFields time := by
  have ten := Text.length_of_isDateChars format
  have first : (date ++ 'T' :: time).take 10 = date := by rw [← ten, List.take_left]
  have second : (date ++ 'T' :: time).drop 11 = time := by
    have split : (date ++ 'T' :: time).drop (date.length + 1) = time := by simp
    rwa [ten] at split
  rw [fields, list, first, second]

variable {kind : TemporalKind} {a b : String}

/-- Whether two texts write the same time, of which the first one omits more. -/
def IsCoarser (kind : TemporalKind) (a b : String) : Prop :=
  kind.fields a = kind.fields b ∧ a.length < b.length

instance : Decidable (kind.IsCoarser a b) :=
  inferInstanceAs (Decidable (_ ∧ _))

/-- Texts of one kind compare as their numbers do, and where these are the same, the coarser text
comes first. -/
theorem lt_iff (left : kind.isFormat a = true) (right : kind.isFormat b = true) :
    a < b ↔ kind.fields a < kind.fields b ∨ kind.IsCoarser a b := by
  rw [IsCoarser, String.lt_iff_toList_lt, ← String.length_toList, ← String.length_toList]
  cases kind with
  | date =>
    have order := Text.orderedAs_nil.date left right
    simp only [List.append_nil] at order
    exact order
  | time => exact Text.orderedAs_time left right
  | dateTime =>
    obtain ⟨date, time, listA, dateA, timeA⟩ := Text.isDateTime_iff.1 left
    obtain ⟨date', time', listB, dateB, timeB⟩ := Text.isDateTime_iff.1 right
    rw [fields_dateTime listA dateA, fields_dateTime listB dateB, listA, listB]
    exact ((Text.orderedAs_time timeA timeB).cons 'T').date dateA dateB

theorem le_iff (left : kind.isFormat a = true) (right : kind.isFormat b = true) :
    a ≤ b ↔ kind.fields a ≤ kind.fields b ∧ ¬kind.IsCoarser b a := by
  rw [← not_lt, lt_iff right left, not_or, not_lt, IsCoarser]

end TemporalKind

namespace TemporalRange

/-- A range between two texts holds what lies between them in time, its end excluded, exactly but
for the texts that are coarser than a bound: one that writes the time of the lower bound is left
out, and one that writes the time of the upper bound is held. -/
theorem contains_absolute_iff {kind : TemporalKind} {lo hi text : String} (now : Instant)
    (lower : kind.isFormat lo = true) (upper : kind.isFormat hi = true)
    (format : kind.isFormat text = true) :
    ((⟨.absolute lo, .absolute hi⟩ : TemporalRange).contains kind text now = true ↔
      (kind.fields lo ≤ kind.fields text ∧ ¬kind.IsCoarser text lo) ∧
        (kind.fields text < kind.fields hi ∨ kind.IsCoarser text hi)) ∧
    (((⟨.absolute lo, .absolute hi⟩ : TemporalRange).contains kind text now = true ↔
      kind.fields lo ≤ kind.fields text ∧ kind.fields text < kind.fields hi) ↔
        ¬(kind.IsCoarser text lo ∧ kind.fields text < kind.fields hi) ∧
          ¬(kind.IsCoarser text hi ∧ kind.fields lo ≤ kind.fields text ∧
            ¬kind.IsCoarser text lo)) := by
  have held : (⟨.absolute lo, .absolute hi⟩ : TemporalRange).contains kind text now = true ↔
      (kind.fields lo ≤ kind.fields text ∧ ¬kind.IsCoarser text lo) ∧
        (kind.fields text < kind.fields hi ∨ kind.IsCoarser text hi) := by
    simp only [contains, Bound.resolve?, Bool.and_eq_true, decide_eq_true_eq]
    exact and_congr (TemporalKind.le_iff lower format) (TemporalKind.lt_iff format upper)
  refine ⟨held, ?_⟩
  rw [held]
  constructor
  · intro halfOpen
    constructor
    · rintro ⟨coarser, before⟩
      exact (halfOpen.2 ⟨coarser.1.ge, before⟩).1.2 coarser
    · rintro ⟨coarser, notBefore⟩
      exact not_lt_of_ge coarser.1.ge (halfOpen.1 ⟨notBefore, .inr coarser⟩).2
  · rintro ⟨noneBelow, noneAbove⟩
    constructor
    · rintro ⟨after, before | coarser⟩
      · exact ⟨after.1, before⟩
      · exact absurd ⟨coarser, after⟩ noneAbove
    · rintro ⟨after, before⟩
      exact ⟨⟨after, fun coarser => noneBelow ⟨coarser, before⟩⟩, .inl before⟩

/-- A text that is finer than the lower bound is held at the same time. -/
theorem contains_absolute_iff_finer :
    TemporalKind.time.fields "10:00:00.000000" = TemporalKind.time.fields "10:00" ∧
      ∀ now, (⟨.absolute "10:00", .absolute "10:30:00"⟩ : TemporalRange).contains .time
        "10:00:00.000000" now = true := by
  refine ⟨by decide, fun now => (contains_absolute_iff now ?_ ?_ ?_).1.2 ⟨?_, ?_⟩⟩ <;> decide

/-- At ten o'clock, a text without seconds is left out of a range that starts then and held by one
that ends then. -/
theorem not_contains_coarser :
    (∀ text ∈ ["09:00", "10:00", "10:00:00", "11:00"], TemporalKind.time.isFormat text = true) ∧
      TemporalKind.time.fields "10:00" = [10, 0, 0, 0] ∧
      TemporalKind.time.fields "10:00:00" = [10, 0, 0, 0] ∧
      TemporalKind.time.fields "10:00" < TemporalKind.time.fields "11:00" ∧
      ∀ now,
        (⟨.absolute "10:00:00", .absolute "11:00"⟩ : TemporalRange).contains .time "10:00" now =
          false ∧
        (⟨.absolute "09:00", .absolute "10:00:00"⟩ : TemporalRange).contains .time "10:00" now =
          true := by
  refine ⟨by decide, by decide, by decide, by decide, fun now => ?_⟩
  simp only [contains, Bound.resolve?]
  decide

end TemporalRange

end DocumentSchema

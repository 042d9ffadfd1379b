import DocumentSchema.Proofs.Range.Window

/-!
Offsets as texts.

Of two offsets from one instant, the lesser one reaches the instant that is not later. The texts of
these instants compare as the texts of their years do (`TemporalKind.instantText_le_iff_year`). In
the years 0 to 9999 that is the order of time, and all years before come first. Later years come
before these, as a plus sign comes before a minus sign and before all digits, and behind the same
sign digits are compared from the left (`CivilDate.yearText_le_iff`). `Bound.relative_le_iff` says
what this makes of the bounds of a range.
-/

namespace DocumentSchema

/-! ## Digits in front of other text -/

namespace Text

variable {a b s t : List Char} {c d : Char}

theorem hyphen_lt_of_isDigit (digit : isDigit c = true) : '-' < c := by
  simp only [isDigit, Bool.and_eq_true, decide_eq_true_eq] at digit
  exact lt_of_lt_of_le (by decide) digit.1

/-- Runs of digits in front of hyphens compare by themselves: a hyphen comes before all digits, so
that it ends a run as the end of a text does. -/
theorem append_hyphen_lt_iff (left : ∀ c ∈ a, isDigit c = true)
    (right : ∀ c ∈ b, isDigit c = true) :
    a ++ '-' :: s < b ++ '-' :: t ↔ a < b ∨ a = b ∧ s < t := by
  induction a generalizing b with
  | nil =>
    cases b with
    | nil => simp
    | cons d b =>
      have below := hyphen_lt_of_isDigit (right d List.mem_cons_self)
      simp [List.cons_lt_cons_iff, below]
  | cons c a ih =>
    cases b with
    | nil =>
      have above := hyphen_lt_of_isDigit (left c List.mem_cons_self)
      simp [List.cons_lt_cons_iff, above.not_gt, above.ne']
    | cons d b =>
      rw [List.cons_append, List.cons_append, List.cons_lt_cons_iff, List.cons_lt_cons_iff,
        ih (fun c member => left c (List.mem_cons_of_mem _ member))
          (fun c member => right c (List.mem_cons_of_mem _ member)),
        List.cons.injEq, and_or_left, or_assoc, and_assoc]

/-- Two digits each compare as the numbers that they write, and then by what follows them. -/
theorem padded_append_lt_iff {m n : Nat} (left : m < 100) (right : n < 100) :
    paddedDecimal 2 m ++ s < paddedDecimal 2 n ++ t ↔ m < n ∨ m = n ∧ s < t := by
  have two {n : Nat} (small : n < 100) : (paddedDecimal 2 n).length = 2 :=
    length_paddedDecimal (by decide) small
  have length := (two left).trans (two right).symm
  obtain ⟨less, same⟩ := compare_digits length (fun c => isDigit_of_mem_paddedDecimal)
    fun c => isDigit_of_mem_paddedDecimal
  rw [append_lt_append_iff length, less, same, decimalValue_paddedDecimal,
    decimalValue_paddedDecimal]

end Text

/-! ## Years -/

namespace CivilDate

variable {a b : Int} {s t : List Char}

/-- The digits of a year, its sign aside. -/
def yearDigits (year : Int) : List Char :=
  Text.paddedDecimal 4 year.natAbs

theorem isDigit_of_mem_yearDigits {year : Int} {c : Char} (member : c ∈ yearDigits year) :
    Text.isDigit c = true :=
  Text.isDigit_of_mem_paddedDecimal member

/-- The digits of a year start with a digit. -/
theorem exists_yearDigits (year : Int) :
    ∃ c ds, yearDigits year = c :: ds ∧ '-' < c ∧ ∀ d ∈ ds, Text.isDigit d = true := by
  have filled : yearDigits year ≠ [] := by
    simp [yearDigits, Text.paddedDecimal]
  obtain ⟨c, ds, written⟩ := List.exists_cons_of_ne_nil filled
  have digits : ∀ d ∈ c :: ds, Text.isDigit d = true := by
    rw [← written]
    exact fun d => isDigit_of_mem_yearDigits
  exact ⟨c, ds, written, Text.hyphen_lt_of_isDigit (digits c List.mem_cons_self),
    fun d member => digits d (List.mem_cons_of_mem c member)⟩

/-- The three ways in which a year is written. -/
theorem yearText_cases (year : Int) :
    (year < 0 ∧ yearText year = '-' :: yearDigits year) ∨
    (9999 < year ∧ yearText year = '+' :: yearDigits year) ∨
    (0 ≤ year ∧ year ≤ 9999) ∧ yearText year = yearDigits year := by
  unfold yearText
  split
  · exact .inl ⟨‹_›, rfl⟩
  · split
    · exact .inr (.inl ⟨‹_›, rfl⟩)
    · exact .inr (.inr ⟨by omega, rfl⟩)

/-- Behind its first character the text of a year has digits only. -/
theorem exists_yearText (year : Int) :
    ∃ c ds, yearText year = c :: ds ∧ ∀ d ∈ ds, Text.isDigit d = true := by
  rcases yearText_cases year with ⟨-, text⟩ | ⟨-, text⟩ | ⟨-, text⟩
  · exact ⟨_, _, text, fun d => isDigit_of_mem_yearDigits⟩
  · exact ⟨_, _, text, fun d => isDigit_of_mem_yearDigits⟩
  · obtain ⟨c, ds, written, -, digits⟩ := exists_yearDigits year
    exact ⟨c, ds, text.trans written, digits⟩

/-- The text of a year writes its distance from the year zero. -/
theorem decimalValue_yearText (year : Int) : Text.decimalValue (yearText year) = year.natAbs := by
  have value := Text.decimalValue_paddedDecimal 4 year.natAbs
  rcases yearText_cases year with ⟨-, text⟩ | ⟨-, text⟩ | ⟨-, text⟩ <;> rw [text] <;> exact value

theorem head?_yearText (year : Int) : (yearText year).head? = some '-' ↔ year < 0 := by
  obtain ⟨c, ds, written, above, -⟩ := exists_yearDigits year
  rcases yearText_cases year with ⟨negative, text⟩ | ⟨large, text⟩ | ⟨plain, text⟩
  · simp [text, negative]
  · simp only [text, List.head?_cons, Option.some.injEq]
    exact iff_of_false (by decide) (by omega)
  · simp [text, written, above.ne', plain.1]

theorem yearText_injective : Function.Injective yearText := by
  intro a b same
  have distance : a.natAbs = b.natAbs := by
    rw [← decimalValue_yearText, ← decimalValue_yearText, same]
  have sign : a < 0 ↔ b < 0 := by
    rw [← head?_yearText, ← head?_yearText, same]
  omega

/-- Years in front of hyphens compare by themselves, and then by what follows. -/
theorem yearText_append_lt_iff :
    yearText a ++ '-' :: s < yearText b ++ '-' :: t ↔
      yearText a < yearText b ∨ a = b ∧ s < t := by
  obtain ⟨c, cs, textA, digitsA⟩ := exists_yearText a
  obtain ⟨d, ds, textB, digitsB⟩ := exists_yearText b
  rw [← yearText_injective.eq_iff, textA, textB, List.cons_append, List.cons_append,
    List.cons_lt_cons_iff, List.cons_lt_cons_iff, Text.append_hyphen_lt_iff digitsA digitsB,
    List.cons.injEq, and_or_left, or_assoc, and_assoc]

/-- Two years, of which the first is not later, are in the order of their texts exactly if the later
one has no sign, or if both have the same sign and the digits are in order. -/
theorem yearText_le_iff (notLater : a ≤ b) :
    yearText a ≤ yearText b ↔
      (0 ≤ b ∧ b ≤ 9999) ∨ (9999 < a ∨ b < 0) ∧ yearDigits a ≤ yearDigits b := by
  obtain ⟨c, cs, writtenA, aboveA, -⟩ := exists_yearDigits a
  obtain ⟨d, ds, writtenB, aboveB, -⟩ := exists_yearDigits b
  have plus : ('+' : Char) < '-' := by decide
  have first_lt {c d : Char} (s t : List Char) (less : c < d) : c :: s < d :: t :=
    List.cons_lt_cons_iff.2 (.inl less)
  have sameSign (sign : Char) :
      sign :: yearDigits a ≤ sign :: yearDigits b ↔ yearDigits a ≤ yearDigits b := by
    rw [← not_lt, ← not_lt, List.cons_lt_cons_iff]
    simp
  -- by the sign of the later year, minus, plus or none, and then by that of the earlier one
  rcases yearText_cases b with ⟨signB, textB⟩ | ⟨signB, textB⟩ | ⟨signB, textB⟩ <;>
    rcases yearText_cases a with ⟨signA, textA⟩ | ⟨signA, textA⟩ | ⟨signA, textA⟩ <;>
    rw [textA, textB]
  · have signed : ¬(0 ≤ b ∧ b ≤ 9999) := by omega
    rw [sameSign, or_iff_right signed, and_iff_right (.inr signB)]
  · omega
  · omega
  · exact iff_of_false (first_lt _ _ plus).not_ge (by omega)
  · have signed : ¬(0 ≤ b ∧ b ≤ 9999) := by omega
    rw [sameSign, or_iff_right signed, and_iff_right (.inl signA)]
  · rw [writtenA]
    exact iff_of_false (first_lt _ _ (plus.trans aboveA)).not_ge (by omega)
  · rw [writtenB]
    exact iff_of_true (first_lt _ _ aboveB).le (.inl signB)
  · omega
  · have four (year : Int) (plain : 0 ≤ year ∧ year ≤ 9999) : (yearDigits year).length = 4 :=
      Text.length_paddedDecimal (by decide) (by omega)
    have order := (Text.compare_digits ((four b signB).trans (four a signA).symm)
      (fun c => isDigit_of_mem_yearDigits) fun c => isDigit_of_mem_yearDigits).1
    refine iff_of_true ?_ (.inl signB)
    rw [← not_lt, order, ← textA, ← textB, decimalValue_yearText, decimalValue_yearText]
    omega

/-! ## Dates -/

/-- A date and a later one, whatever follows them, compare as the texts of their years do. -/
theorem Before.append_le_iff {a b : CivilDate} (before : a.Before b)
    (months : a.month < 100 ∧ b.month < 100) (days : a.day < 100 ∧ b.day < 100) :
    a.chars ++ s ≤ b.chars ++ t ↔ yearText a.year ≤ yearText b.year := by
  have written (date : CivilDate) (s : List Char) : date.chars ++ s =
      yearText date.year ++ '-' :: (Text.paddedDecimal 2 date.month ++
        '-' :: (Text.paddedDecimal 2 date.day ++ s)) := by
    simp [chars]
  rw [← not_lt, written, written, yearText_append_lt_iff, not_or, not_lt]
  rcases before with year | ⟨year, inYear⟩
  · exact and_iff_left fun same => year.ne' same.1
  · rw [year]
    refine iff_of_true ⟨le_refl _, fun later => ?_⟩ (le_refl _)
    rw [Text.padded_append_lt_iff months.2 months.1, List.cons_lt_cons_iff,
      Text.padded_append_lt_iff days.2 days.1] at later
    rcases later with ⟨-, less | ⟨sameMonth, hyphen | ⟨-, less | ⟨sameDay, -⟩⟩⟩⟩
    · omega
    · exact lt_irrefl _ hyphen
    · omega
    · omega

end CivilDate

/-! ## Instants -/

namespace Instant

variable {a b now : Instant} {s t : List Char} {seconds seconds' : Int}

/-- An instant is not after another one: the part of a second decides within a second. -/
def NotAfter (a b : Instant) : Prop :=
  a.seconds < b.seconds ∨ a.seconds = b.seconds ∧ a.nanos ≤ b.nanos

theorem IsRegular.nanos_lt (regular : a.IsRegular) : a.nanos < 2 * 10 ^ 9 := by
  unfold IsRegular at regular
  omega

/-- The instant some seconds later, in a calendar without end. -/
def moved (instant : Instant) (seconds : Int) : Instant :=
  ⟨(instant.origin seconds).seconds + seconds, (instant.origin seconds).nanos⟩

theorem moved_zero : now.moved 0 = now := by
  have origin : now.origin 0 = now := if_pos (.inr rfl)
  rw [moved, origin, Int.add_zero]

theorem shown_moved_of_pos (ahead : 0 < seconds) (leap : now.nanos < 2 * 10 ^ 9) :
    (now.moved seconds).shown = ⟨now.seconds + seconds, now.nanos % 10 ^ 9⟩ := by
  rw [moved, origin_of_pos ahead leap]
  exact if_pos (.inl (Nat.mod_lt _ (by decide)))

theorem shown_moved_of_neg (back : seconds < 0) (leap : now.nanos < 2 * 10 ^ 9) :
    (now.moved seconds).shown =
      ⟨now.seconds + (now.nanos / 10 ^ 9 : Nat) + seconds, now.nanos % 10 ^ 9⟩ := by
  rw [moved, origin_of_neg back leap]
  exact if_pos (.inl (Nat.mod_lt _ (by decide)))

theorem nanos_moved_lt (leap : now.nanos < 2 * 10 ^ 9) :
    (now.moved seconds).nanos < 2 * 10 ^ 9 := by
  unfold moved origin
  split <;> dsimp only <;> omega

/-- Moved by fewer seconds, an instant does not get further. -/
theorem shown_moved_notAfter (leap : now.nanos < 2 * 10 ^ 9) (ordered : seconds < seconds') :
    (now.moved seconds).shown.NotAfter (now.moved seconds').shown := by
  rcases lt_trichotomy seconds 0 with back | rfl | ahead
  · rw [shown_moved_of_neg back leap]
    rcases lt_trichotomy seconds' 0 with back' | rfl | ahead
    · rw [shown_moved_of_neg back' leap]
      exact .inl (Int.add_lt_add_left ordered _)
    -- an instant within a leap second moves back from its end, so that a second back may be shown
    -- in the same second as the instant itself
    · rw [moved_zero]
      unfold NotAfter shown
      split <;> dsimp only <;> omega
    · rw [shown_moved_of_pos ahead leap]
      refine .inl ?_
      dsimp only
      omega
  · rw [moved_zero, shown_moved_of_pos ordered leap]
    unfold NotAfter shown
    split <;> dsimp only <;> omega
  · rw [shown_moved_of_pos ahead leap, shown_moved_of_pos (ahead.trans ordered) leap]
    exact .inl (Int.add_lt_add_left ordered _)

theorem NotAfter.seconds_le (notAfter : a.NotAfter b) : a.seconds ≤ b.seconds := by
  unfold NotAfter at notAfter
  omega

theorem year_moved_mono (leap : now.nanos < 2 * 10 ^ 9) (ordered : seconds ≤ seconds') :
    (now.moved seconds).date.year ≤ (now.moved seconds').date.year := by
  rcases ordered.lt_or_eq with less | rfl
  · have seconds_le := (shown_moved_notAfter leap less).seconds_le
    have years : (now.moved seconds).shown.date.year ≤ (now.moved seconds').shown.date.year :=
      CivilDate.year_ofDays_mono (Int.ediv_le_ediv (by decide) seconds_le)
    rwa [date_shown, date_shown] at years
  · exact le_refl _

theorem date_append_le_iff (earlier : a.seconds / daySeconds < b.seconds / daySeconds) :
    a.date.chars ++ s ≤ b.date.chars ++ t ↔
      CivilDate.yearText a.date.year ≤ CivilDate.yearText b.date.year := by
  have month (days : Int) : (CivilDate.ofDays days).month < 100 :=
    (CivilDate.month_ofDays days).2.trans_lt (by decide)
  have day (days : Int) : (CivilDate.ofDays days).day < 100 :=
    (CivilDate.day_ofDays days).2.trans_lt (by decide)
  exact (CivilDate.ofDays_before earlier).append_le_iff ⟨month _, month _⟩ ⟨day _, day _⟩

/-- Within a day, times are in the order of their texts. -/
theorem timeChars_le (regularA : a.IsRegular) (regularB : b.IsRegular)
    (sameDay : a.seconds / daySeconds = b.seconds / daySeconds) (notAfter : a.NotAfter b) :
    a.timeChars ≤ b.timeChars := by
  obtain ⟨formatA, fieldsA, lengthA⟩ := timeChars_spec regularA.nanos_lt
  obtain ⟨formatB, fieldsB, lengthB⟩ := timeChars_spec regularB.nanos_lt
  have order : b.timeChars < a.timeChars ↔ _ := Text.orderedAs_time formatB formatA
  have ordered : a.clock ≤ b.clock := by
    unfold daySeconds at sameDay
    rcases notAfter with earlier | ⟨same, nanos⟩
    · refine (clock_lt regularA ?_).le
      unfold secondOfDay daySeconds
      omega
    · exact clock_le (by rw [secondOfDay, same, secondOfDay]) nanos
  rw [← not_lt, order, fieldsA, fieldsB, lengthA, lengthB]
  rintro (less | ⟨-, less⟩)
  · exact not_lt_of_ge ordered less
  · exact lt_irrefl _ less

end Instant

/-! ## Bounds -/

namespace TemporalKind

variable {kind : TemporalKind} {a b now : Instant} {seconds seconds' : Int}

/-- Dates, with times or without, are in the order of their texts exactly if their years are. -/
theorem instantText_le_iff_year (hasDate : kind ≠ .time) (regularA : a.IsRegular)
    (regularB : b.IsRegular) (notAfter : a.NotAfter b) :
    kind.instantText a ≤ kind.instantText b ↔
      CivilDate.yearText a.date.year ≤ CivilDate.yearText b.date.year := by
  have chars_le : kind.instantText a ≤ kind.instantText b ↔
      (kind.instantText a).toList ≤ (kind.instantText b).toList := by
    rw [← not_lt, String.lt_iff_toList_lt, not_lt]
  rw [chars_le]
  rcases (Int.ediv_le_ediv (by decide) notAfter.seconds_le :
    a.seconds / Instant.daySeconds ≤ b.seconds / Instant.daySeconds).lt_or_eq with day | day
  · cases kind with
    | date => simpa [instantText] using Instant.date_append_le_iff (s := []) (t := []) day
    | time => exact absurd rfl hasDate
    | dateTime =>
      simp only [instantText, Instant.toList_dateTimeText]
      exact Instant.date_append_le_iff day
  · have date : a.date = b.date := by rw [Instant.date, day, Instant.date]
    refine iff_of_true ?_ (by rw [date])
    cases kind with
    | date => simp [instantText, date]
    | time => exact absurd rfl hasDate
    | dateTime =>
      simp only [instantText, Instant.toList_dateTimeText, date]
      rw [← not_lt, Text.append_lt_append_iff rfl, List.cons_lt_cons_iff]
      rintro (less | ⟨-, less | ⟨-, less⟩⟩)
      · exact lt_irrefl _ less
      · exact lt_irrefl _ less
      · exact absurd less (not_lt_of_ge (Instant.timeChars_le regularA regularB day notAfter))

/-- Of an instant moved by two offsets, the texts are in the order of the offsets exactly if the
texts of the years are. -/
theorem instantText_moved_le_iff (hasDate : kind ≠ .time) (leap : now.nanos < 2 * 10 ^ 9)
    (ordered : seconds ≤ seconds') :
    kind.instantText (now.moved seconds) ≤ kind.instantText (now.moved seconds') ↔
      CivilDate.yearText (now.moved seconds).date.year ≤
        CivilDate.yearText (now.moved seconds').date.year := by
  rcases ordered.lt_or_eq with less | rfl
  · have nanos : (now.moved seconds).nanos < 2 * 10 ^ 9 := Instant.nanos_moved_lt leap
    have nanos' : (now.moved seconds').nanos < 2 * 10 ^ 9 := Instant.nanos_moved_lt leap
    rw [← instantText_shown nanos, ← instantText_shown nanos',
      instantText_le_iff_year hasDate (Instant.isRegular_shown nanos)
        (Instant.isRegular_shown nanos') (Instant.shown_moved_notAfter leap less),
      Instant.date_shown, Instant.date_shown]
  · exact iff_of_true (le_refl _) (le_refl _)

end TemporalKind

namespace Bound

variable {amount amount' : Int64} {unit unit' : OffsetUnit} {now : Instant} {kind : TemporalKind}
  {text lower upper : String}

/-- A bound that is an offset resolves to the text of the instant that it reaches. -/
theorem resolve?_relative_eq_some_iff :
    (relative amount unit).resolve? kind now = some text ↔
      ∃ instant, (relative amount unit).instant? now = some instant ∧
        text = kind.instantText instant := by
  constructor
  · intro resolved
    obtain ⟨seconds, offset, resolved⟩ := Option.bind_eq_some_iff.1 resolved
    obtain ⟨instant, moved, resolved⟩ := Option.bind_eq_some_iff.1 resolved
    exact ⟨instant, Option.bind_eq_some_iff.2 ⟨seconds, offset, moved⟩,
      (Option.some.inj resolved).symm⟩
  · rintro ⟨instant, reached, rfl⟩
    exact resolve?_relative reached

/-- Two bounds that are offsets, the first one not greater than the second, resolve to texts in the
same order exactly if the year that the second one reaches has no sign, or if both years have the
same sign and their digits are in order. -/
theorem relative_le_iff (hasDate : kind ≠ .time) (leap : now.nanos < 2 * 10 ^ 9)
    (ordered : amount.toInt * unit.length ≤ amount'.toInt * unit'.length)
    (first : (relative amount unit).resolve? kind now = some lower)
    (second : (relative amount' unit').resolve? kind now = some upper) :
    ∃ before after, (relative amount unit).instant? now = some before ∧
      (relative amount' unit').instant? now = some after ∧
      (lower ≤ upper ↔
        (0 ≤ after.date.year ∧ after.date.year ≤ 9999) ∨
        (9999 < before.date.year ∨ after.date.year < 0) ∧
          CivilDate.yearDigits before.date.year ≤ CivilDate.yearDigits after.date.year) := by
  obtain ⟨before, reached, rfl⟩ := resolve?_relative_eq_some_iff.1 first
  obtain ⟨after, reached', rfl⟩ := resolve?_relative_eq_some_iff.1 second
  refine ⟨before, after, reached, reached', ?_⟩
  obtain ⟨seconds, length, isMoved⟩ := instant?_relative reached
  obtain ⟨seconds', length', isMoved'⟩ := instant?_relative reached'
  rw [← length, ← length'] at ordered
  have isMoved : before = now.moved seconds := isMoved
  have isMoved' : after = now.moved seconds' := isMoved'
  rw [isMoved, isMoved', TemporalKind.instantText_moved_le_iff hasDate leap ordered]
  exact CivilDate.yearText_le_iff (Instant.year_moved_mono leap ordered)

/-- Around a new year, the date of the day comes before that of the next week. -/
theorem relative_le_iff_new_year :
    (relative 0 .days).resolve? .date ⟨946684799, 0⟩ = some "1999-12-31" ∧
      (relative 1 .weeks).resolve? .date ⟨946684799, 0⟩ = some "2000-01-07" ∧
      "1999-12-31" ≤ "2000-01-07" := by
  have first : (relative 0 .days).resolve? .date ⟨946684799, 0⟩ = some "1999-12-31" := by decide
  have second : (relative 1 .weeks).resolve? .date ⟨946684799, 0⟩ = some "2000-01-07" := by decide
  have reached : (relative 1 .weeks).instant? ⟨946684799, 0⟩ = some ⟨947289599, 0⟩ := by decide
  obtain ⟨_, after, -, reached', order⟩ :=
    relative_le_iff (by decide) (by decide) (by decide) first second
  cases Option.some.inj (reached.symm.trans reached')
  exact ⟨first, second, order.2 (.inl (by decide))⟩

/-- On the last day of the year 9999, the date of the next day comes before that of the day, and a
range between them holds nothing. -/
theorem relative_unordered :
    TemporalRange.parse .date "+0d" "+1d" = .ok ⟨relative 0 .days, relative 1 .days⟩ ∧
      (relative 0 .days).resolve? .date ⟨253402214400, 0⟩ = some "9999-12-31" ∧
      (relative 1 .days).resolve? .date ⟨253402214400, 0⟩ = some "+10000-01-01" ∧
      ¬"9999-12-31" ≤ "+10000-01-01" ∧
      ∀ text, (⟨relative 0 .days, relative 1 .days⟩ : TemporalRange).contains .date text
        ⟨253402214400, 0⟩ = false := by
  have first : (relative 0 .days).resolve? .date ⟨253402214400, 0⟩ = some "9999-12-31" := by decide
  have second : (relative 1 .days).resolve? .date ⟨253402214400, 0⟩ = some "+10000-01-01" := by
    decide
  have unordered : ¬"9999-12-31" ≤ "+10000-01-01" := by decide
  refine ⟨?_, first, second, unordered, fun text => ?_⟩
  · have lower : (Bound.relative 0 .days).text = "+0d" := by decide
    have upper : (Bound.relative 1 .days).text = "+1d" := by decide
    rw [TemporalRange.parse_eq_ok_iff, ← lower, ← upper]
    exact ⟨parse_text_relative _ rfl, parse_text_relative _ rfl⟩
  · unfold TemporalRange.contains
    rw [first, second, Bool.and_eq_false_iff, decide_eq_false_iff_not, decide_eq_false_iff_not]
    by_cases held : "9999-12-31" ≤ text
    · exact .inr fun below => unordered (held.trans below.le)
    · exact .inl held

end Bound

end DocumentSchema

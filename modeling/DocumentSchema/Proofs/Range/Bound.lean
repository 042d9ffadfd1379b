import DocumentSchema.Proofs.Text.Digits
import DocumentSchema.Range.Temporal
import Mathlib.Data.List.Basic

/-!
The written form of bounds.

`Bound.parse_cases` says what a bound that was read can be: a text in the format of its kind, or an
offset in a unit that its kind permits. `Bound.parse_text` reads the written form of such a bound
back. An offset is written with a sign, and every amount of 64 signed bits is read back from its
digits, the least one too, whose magnitude is no such number. `Bound.text_of_parse` goes the other
way: what is written of a bound that was read is `Bound.normalText` of the text that it was read
from, in which only the zeros in front of an amount, and the sign of a zero amount, are changed.
-/

namespace DocumentSchema

/-! ## Offsets -/

theorem OffsetUnit.ofLetter?_letter (unit : OffsetUnit) : ofLetter? unit.letter = some unit := by
  cases unit <;> rfl

theorem OffsetUnit.letter_of_ofLetter? {c : Char} {unit : OffsetUnit}
    (read : ofLetter? c = some unit) : unit.letter = c := by
  simpa using List.find?_some read

namespace Bound

/-- A text that starts with a sign, which is read as an offset. -/
def isSigned (text : String) : Bool :=
  text.startsWith "+" || text.startsWith "-"

theorem isSigned_of_toList {text : String} {sign : Char} {rest : List Char}
    (list : text.toList = sign :: rest) (plusOrMinus : sign = '+' ∨ sign = '-') :
    isSigned text = true := by
  simp only [isSigned, Bool.or_eq_true, String.startsWith_string_iff, list]
  rcases plusOrMinus with rfl | rfl
  · exact .inl ⟨rest, rfl⟩
  · exact .inr ⟨rest, rfl⟩

/-- The sign of an amount. -/
def sign (amount : Int64) : Char :=
  if amount.toInt < 0 then '-' else '+'

theorem toList_text_relative (amount : Int64) (unit : OffsetUnit) :
    (relative amount unit).text.toList =
      sign amount :: (Nat.toDigits 10 amount.toInt.natAbs ++ [unit.letter]) := by
  simp [text, sign]

theorem offsetParts?_text (amount : Int64) (unit : OffsetUnit) :
    Text.Format.offsetParts? (relative amount unit).text =
      some (decide (amount.toInt < 0), Nat.toDigits 10 amount.toInt.natAbs, unit.letter) := by
  have digits : ∀ c ∈ Nat.toDigits 10 amount.toInt.natAbs, Text.isDigit c = true :=
    fun c => Text.isDigit_of_mem_toDigits
  have stops : Text.isDigit unit.letter = false := by cases unit <;> decide
  have known : unit.letter ∈ ['s', 'm', 'h', 'd', 'w'] := by cases unit <;> decide
  have signed : sign amount = '+' ∨ sign amount = '-' := by
    unfold sign
    split <;> simp
  have negative : (sign amount == '-') = decide (amount.toInt < 0) := by
    unfold sign
    split <;> simp [*]
  unfold Text.Format.offsetParts?
  rw [toList_text_relative]
  simp only [List.takeWhile_append_of_pos digits, List.dropWhile_append_of_pos digits,
    List.takeWhile_cons, List.dropWhile_cons, stops]
  simp [-List.mem_cons, signed, negative, known, Nat.toDigits_ne_nil]

/-- The characters of an offset: a sign, digits, and the letter of a unit. -/
theorem toList_of_offsetParts? {input : String} {negative : Bool} {digits : List Char}
    {letter : Char} (parts : Text.Format.offsetParts? input = some (negative, digits, letter)) :
    ∃ sign, input.toList = sign :: (digits ++ [letter]) ∧ (sign = '+' ∨ sign = '-') ∧
      negative = (sign == '-') ∧ digits ≠ [] ∧ (∀ c ∈ digits, Text.isDigit c = true) ∧
      Text.isDigit letter = false := by
  unfold Text.Format.offsetParts? at parts
  split at parts
  · next sign rest list =>
    dsimp only at parts
    split at parts
    · next unit after =>
      split at parts
      · next valid =>
        obtain ⟨plusOrMinus, filled, known⟩ := valid
        cases parts
        refine ⟨sign, ?_, plusOrMinus, rfl, by simpa using filled, ?_, ?_⟩
        · rw [list, ← after, List.takeWhile_append_dropWhile]
        · exact fun c member => List.all_eq_true.1 List.all_takeWhile c member
        · simpa [after] using List.head_dropWhile_not Text.isDigit (l := rest) (by simp [after])
      · cases parts
    · cases parts
  · cases parts

/-- Every amount is read back from its sign and the digits of its magnitude. -/
theorem signedNumber?_toDigits (amount : Int64) :
    signedNumber? (decide (amount.toInt < 0)) (Nat.toDigits 10 amount.toInt.natAbs) =
      some amount := by
  have number : (if amount.toInt < 0 then -(amount.toInt.natAbs : Int)
      else (amount.toInt.natAbs : Int)) = amount.toInt := by
    split <;> omega
  have least := amount.le_toInt
  have greatest := amount.toInt_lt
  simp only [signedNumber?, Text.decimalValue_toDigits, decide_eq_true_eq, number]
  rw [if_pos ⟨least, greatest⟩, Int64.ofInt_toInt]

/-! ## Reading -/

variable {kind : TemporalKind} {input : String} {bound : Bound}

theorem parse_of_signed (signed : isSigned input = true) {negative : Bool} {digits : List Char}
    {amount : Int64} {unit : OffsetUnit}
    (parts : Text.Format.offsetParts? input = some (negative, digits, unit.letter))
    (number : signedNumber? negative digits = some amount) (permitted : kind.permits unit = true) :
    parse kind input = .ok (.relative amount unit) := by
  unfold isSigned at signed
  unfold parse
  simp only [signed, if_true, parts, number, OffsetUnit.ofLetter?_letter, permitted]

theorem parse_of_format (plain : isSigned input = false) (format : kind.isFormat input = true) :
    parse kind input = .ok (.absolute input) := by
  unfold isSigned at plain
  unfold parse
  simp [plain, format]

/-- What reading a bound can give. -/
theorem parse_cases (parsed : parse kind input = .ok bound) :
    (isSigned input = false ∧ kind.isFormat input = true ∧ bound = .absolute input) ∨
      ∃ amount unit, kind.permits unit = true ∧ bound = .relative amount unit ∧
        ∃ negative digits,
          Text.Format.offsetParts? input = some (negative, digits, unit.letter) ∧
            signedNumber? negative digits = some amount := by
  unfold parse at parsed
  dsimp only at parsed
  split at parsed
  · right
    split at parsed
    · cases parsed
    · next negative digits letter parts =>
      split at parsed
      · cases parsed
      · next amount number =>
        split at parsed
        · cases parsed
        · next unit known =>
          split at parsed
          · next permitted =>
            cases parsed
            rw [← OffsetUnit.letter_of_ofLetter? known] at parts
            exact ⟨amount, unit, permitted, rfl, negative, digits, parts, number⟩
          · cases parsed
  · next unsigned =>
    left
    split at parsed
    · next format =>
      cases parsed
      exact ⟨by simpa [isSigned] using unsigned, format, rfl⟩
    · cases parsed

/-- The written form of an offset gives the offset again. -/
theorem parse_text_relative {unit : OffsetUnit} (amount : Int64)
    (permitted : kind.permits unit = true) :
    parse kind (relative amount unit).text = .ok (relative amount unit) := by
  have signed : isSigned (relative amount unit).text = true := by
    refine isSigned_of_toList (toList_text_relative amount unit) ?_
    unfold sign
    split <;> simp
  exact parse_of_signed signed (offsetParts?_text amount unit) (signedNumber?_toDigits amount)
    permitted

theorem permits_of_parse {amount : Int64} {unit : OffsetUnit}
    (parsed : parse kind input = .ok (relative amount unit)) : kind.permits unit = true := by
  rcases parse_cases parsed with ⟨-, -, absolute⟩ | ⟨_, _, permitted, same, -⟩
  · cases absolute
  · cases same
    exact permitted

/-- The written form of a bound that was read gives the bound again. -/
theorem parse_text (parsed : parse kind input = .ok bound) : parse kind bound.text = .ok bound := by
  rcases parse_cases parsed with ⟨plain, format, rfl⟩ | ⟨amount, unit, permitted, rfl, -⟩
  · exact parse_of_format plain format
  · exact parse_text_relative amount permitted

/-! ## The normal form of a bound -/

/-- A text that starts with a sign loses the zeros in front of its digits, and its sign becomes a
plus where no digit is left, so that one zero is. Any other text stays as it is. -/
def normalText (text : String) : String :=
  match text.toList with
  | [] => text
  | sign :: rest =>
    if sign = '+' ∨ sign = '-' then
      let significant := rest.dropWhile (· = '0')
      if significant.any Text.isDigit then String.ofList (sign :: significant)
      else String.ofList ('+' :: '0' :: significant)
    else text

theorem normalText_of_unsigned (plain : isSigned input = false) : normalText input = input := by
  unfold normalText
  split
  · rfl
  · next sign rest list =>
    refine if_neg fun plusOrMinus => ?_
    rw [isSigned_of_toList list plusOrMinus] at plain
    cases plain

theorem toInt_of_signedNumber? {negative : Bool} {digits : List Char} {amount : Int64}
    (number : signedNumber? negative digits = some amount) :
    amount.toInt = if negative = true then -(Text.decimalValue digits : Int)
      else Text.decimalValue digits := by
  unfold signedNumber? at number
  dsimp only at number
  generalize (if negative = true then -(Text.decimalValue digits : Int)
    else Text.decimalValue digits) = n at number ⊢
  split at number
  · next fits =>
    rw [← Option.some.inj number]
    exact Int64.toInt_ofInt_of_le (by omega) (by omega)
  · cases number

/-- The written form of a bound is the normal form of the text that it was read from. -/
theorem text_of_parse (parsed : parse kind input = .ok bound) : bound.text = normalText input := by
  rcases parse_cases parsed with ⟨plain, -, rfl⟩ |
    ⟨amount, unit, -, rfl, negative, digits, parts, number⟩
  · exact (normalText_of_unsigned plain).symm
  · obtain ⟨mark, list, plusOrMinus, same, -, isDigit, stops⟩ := toList_of_offsetParts? parts
    have value := toInt_of_signedNumber? number
    have magnitude : amount.toInt.natAbs = Text.decimalValue digits := by
      rw [value]
      split <;> omega
    have letterKept : ¬unit.letter = '0' := by cases unit <;> decide
    have dropped : (digits ++ [unit.letter]).dropWhile (· = '0') =
        digits.dropWhile (· = '0') ++ [unit.letter] := by
      rw [List.dropWhile_append]
      split
      · next none =>
        rw [List.isEmpty_iff.1 none, List.nil_append]
        exact List.dropWhile_cons_of_neg (by simpa using letterKept)
      · rfl
    have significant := Text.decimalValue_dropWhile digits
    have remain : ∀ c ∈ digits.dropWhile (· = '0'), Text.isDigit c = true :=
      fun c member => isDigit c ((List.dropWhile_sublist _).subset member)
    apply String.toList_injective
    rw [toList_text_relative, magnitude, ← significant, normalText, list]
    dsimp only
    rw [if_pos plusOrMinus, dropped]
    rcases h : digits.dropWhile (· = '0') with - | ⟨first, others⟩
    · -- Only zeros were written, so the amount has neither digits nor a sign left.
      have zero : amount.toInt = 0 := by
        rw [h] at significant
        have none : Text.decimalValue [] = 0 := rfl
        omega
      simp [sign, zero, stops, Text.decimalValue]
    · have leading : (first :: others).head? ≠ some '0' := by
        have kept := List.head_dropWhile_not (· = '0') (l := digits) (by simp [h])
        simpa [h] using kept
      rw [h] at remain
      have written := Text.toDigits_decimalValue remain (List.cons_ne_nil _ _) leading
      have positive := Text.decimalValue_pos written leading
      have signed : sign amount = mark := by
        rw [h] at significant
        rcases plusOrMinus with rfl | rfl
        · have above : ¬amount.toInt < 0 := by simp_all
          exact if_neg above
        · have below : amount.toInt < 0 := by simp_all
          exact if_pos below
      rw [written, signed, if_pos]
      · simp
      · simp [remain first List.mem_cons_self]

end Bound

/-! ## Ranges -/

namespace TemporalRange

variable {kind : TemporalKind} {range : TemporalRange}

theorem parse_eq_ok_iff {lo hi : String} :
    parse kind lo hi = .ok range ↔
      Bound.parse kind lo = .ok range.lo ∧ Bound.parse kind hi = .ok range.hi := by
  obtain ⟨lower, upper⟩ := range
  unfold parse
  cases Bound.parse kind lo <;> cases Bound.parse kind hi <;>
    simp [bind, Except.bind, pure, Except.pure]

/-- The written forms of both bounds of a range that was read give the range again. -/
theorem parse_text {lo hi : String} (parsed : parse kind lo hi = .ok range) :
    parse kind range.lo.text range.hi.text = .ok range := by
  obtain ⟨lower, upper⟩ := parse_eq_ok_iff.1 parsed
  exact parse_eq_ok_iff.2 ⟨Bound.parse_text lower, Bound.parse_text upper⟩

end TemporalRange

end DocumentSchema

import DocumentSchema.Numeric.Power
import DocumentSchema.Text.Digits
import Mathlib.Data.List.Basic
import Mathlib.Data.List.Induction

/-!
Runs of digits as numbers.

The digits of a number write that number, and digits that do not start with a zero are those of the
number that they write (`Text.toDigits_decimalValue`). Runs of the same length compare as texts just
as the numbers do that they write (`Text.compare_digits`).
-/

namespace DocumentSchema.Text

/-! ## Reading and writing -/

theorem isDigit_of_mem_toDigits {n : Nat} {c : Char} (member : c ∈ Nat.toDigits 10 n) :
    isDigit c = true := by
  have digit := Nat.isDigit_of_mem_toDigits (by decide) (by decide) member
  simp only [Char.isDigit, Bool.and_eq_true, decide_eq_true_eq] at digit
  simp only [isDigit, Bool.and_eq_true, decide_eq_true_eq]
  exact digit

/-- The digits of a number in base ten write that number. -/
theorem decimalValue_toDigits (n : Nat) : decimalValue (Nat.toDigits 10 n) = n := by
  have read : Nat.ofDigitChars 10 (Nat.toDigits 10 n) 0 = n := Nat.ofDigitChars_ten_toDigits
  rwa [Nat.ofDigitChars_eq_foldl] at read

theorem decimalValue_concat (ds : List Char) (c : Char) :
    decimalValue (ds ++ [c]) = 10 * decimalValue ds + digitValue c := by
  simp [decimalValue]

theorem decimalValue_append (as bs : List Char) :
    decimalValue (as ++ bs) = decimalValue as * 10 ^ bs.length + decimalValue bs := by
  induction bs using List.reverseRecOn with
  | nil => simp [decimalValue]
  | append_singleton bs c ih =>
    rw [← List.append_assoc, decimalValue_concat, decimalValue_concat, ih, List.length_append,
      List.length_singleton, Nat.pow_succ, Nat.mul_add, Nat.mul_left_comm, Nat.mul_comm 10,
      Nat.add_assoc]

theorem digitChar_eq : ∀ n : Fin 10, Nat.digitChar n = Char.ofNat (48 + n) := by
  decide

theorem digitChar_digitValue {c : Char} (digit : isDigit c = true) :
    digitValue c < 10 ∧ Nat.digitChar (digitValue c) = c := by
  simp only [isDigit, Bool.and_eq_true, decide_eq_true_eq] at digit
  obtain ⟨low, high⟩ := digit
  have lower : 48 ≤ c.toNat := low
  have upper : c.toNat ≤ 57 := high
  have value : digitValue c = c.toNat - 48 := rfl
  have small : digitValue c < 10 := by omega
  have char : Nat.digitChar (digitValue c) = Char.ofNat (48 + digitValue c) :=
    digitChar_eq ⟨digitValue c, small⟩
  rw [char, value, Nat.add_sub_cancel' lower, Char.ofNat_toNat]
  exact ⟨value ▸ small, rfl⟩

theorem decimalValue_lt {ds : List Char} (digits : ∀ c ∈ ds, isDigit c = true) :
    decimalValue ds < 10 ^ ds.length := by
  induction ds using List.reverseRecOn with
  | nil => exact Nat.one_pos
  | append_singleton ds c ih =>
    have rest := ih fun other member => digits other (by simp [member])
    have last := (digitChar_digitValue (digits c (by simp))).1
    rw [decimalValue_concat, List.length_append, List.length_singleton, Nat.pow_succ]
    omega

theorem decimalValue_pos {ds : List Char} (written : Nat.toDigits 10 (decimalValue ds) = ds)
    (leading : ds.head? ≠ some '0') : 0 < decimalValue ds := by
  rcases Nat.eq_zero_or_pos (decimalValue ds) with zero | positive
  · rw [zero] at written
    rw [← written] at leading
    exact absurd rfl leading
  · exact positive

/-- Digits that do not start with a zero are the digits of the number that they write. -/
theorem toDigits_decimalValue {ds : List Char} (digits : ∀ c ∈ ds, isDigit c = true)
    (filled : ds ≠ []) (leading : ds.head? ≠ some '0') :
    Nat.toDigits 10 (decimalValue ds) = ds := by
  induction ds using List.reverseRecOn with
  | nil => exact absurd rfl filled
  | append_singleton ds c ih =>
    obtain ⟨small, char⟩ := digitChar_digitValue (digits c (by simp))
    have last : Nat.toDigits 10 (digitValue c) = [c] := by
      rw [Nat.toDigits_of_lt_base small, char]
    rw [decimalValue_concat]
    by_cases first : ds = []
    · subst first
      simpa [decimalValue] using last
    · have lead : ds.head? ≠ some '0' := by
        rwa [List.head?_append_of_ne_nil _ first] at leading
      have whole := ih (fun c member => digits c (by simp [member])) first lead
      have positive := decimalValue_pos whole lead
      rw [← Nat.toDigits_append_toDigits (by decide) positive small, whole, last]

/-- Leading zeros do not count. -/
theorem decimalValue_dropWhile (ds : List Char) :
    decimalValue (ds.dropWhile (· = '0')) = decimalValue ds := by
  induction ds with
  | nil => rfl
  | cons c ds ih =>
    by_cases zero : c = '0'
    · subst zero
      simpa [decimalValue, digitValue] using ih
    · simp [zero]

/-! ## Fixed width -/

section Padded

variable {width n : Nat}

theorem isDigit_of_mem_paddedDecimal {c : Char} (member : c ∈ paddedDecimal width n) :
    isDigit c = true := by
  rcases List.mem_append.1 member with zero | digit
  · rw [List.eq_of_mem_replicate zero]
    rfl
  · exact isDigit_of_mem_toDigits digit

theorem length_paddedDecimal (positive : 0 < width) (fits : n < 10 ^ width) :
    (paddedDecimal width n).length = width := by
  have short := (Nat.length_toDigits_le_iff (by decide) positive).2 fits
  simp only [paddedDecimal, List.length_append, List.length_replicate]
  omega

theorem decimalValue_paddedDecimal (width n : Nat) : decimalValue (paddedDecimal width n) = n := by
  have zeros (count : Nat) (ds : List Char) :
      decimalValue (List.replicate count '0' ++ ds) = decimalValue ds := by
    induction count with
    | zero => rfl
    | succ count ih => simpa [List.replicate_succ, decimalValue, digitValue] using ih
  rw [paddedDecimal, zeros, decimalValue_toDigits]

end Padded

/-! ## Order -/

section Order

variable {a b : List Char} {c d : Char}

/-- Lists that start with runs of the same length compare by these, and then by what follows. -/
theorem append_lt_append_iff {α : Type} [LT α] {a b s t : List α} (length : a.length = b.length) :
    a ++ s < b ++ t ↔ a < b ∨ a = b ∧ s < t := by
  induction a generalizing b with
  | nil =>
    rw [List.length_nil, eq_comm, List.length_eq_zero_iff] at length
    subst length
    simp
  | cons c a ih =>
    obtain ⟨d, b, rfl⟩ := List.exists_of_length_succ b length.symm
    rw [List.cons_append, List.cons_append, List.cons_lt_cons_iff, List.cons_lt_cons_iff,
      ih (Nat.succ_inj.1 length), List.cons.injEq, and_or_left, or_assoc, and_assoc]

theorem lt_iff_digitValue_lt (left : isDigit c = true) (right : isDigit d = true) :
    c < d ↔ digitValue c < digitValue d := by
  simp only [isDigit, Bool.and_eq_true, decide_eq_true_eq] at left right
  have lower : 48 ≤ c.toNat := left.1
  have lower' : 48 ≤ d.toNat := right.1
  have order : c < d ↔ c.toNat < d.toNat := Iff.rfl
  have value : digitValue c = c.toNat - 48 := rfl
  have value' : digitValue d = d.toNat - 48 := rfl
  rw [order, value, value']
  omega

theorem eq_iff_digitValue_eq (left : isDigit c = true) (right : isDigit d = true) :
    c = d ↔ digitValue c = digitValue d := by
  refine ⟨congrArg digitValue, fun same => ?_⟩
  rw [← (digitChar_digitValue left).2, same, (digitChar_digitValue right).2]

/-- Runs of the same length compare as the numbers that they write. -/
theorem compare_digits (length : a.length = b.length) (left : ∀ c ∈ a, isDigit c = true)
    (right : ∀ c ∈ b, isDigit c = true) :
    (a < b ↔ decimalValue a < decimalValue b) ∧ (a = b ↔ decimalValue a = decimalValue b) := by
  induction a using List.reverseRecOn generalizing b with
  | nil =>
    rw [List.length_nil, eq_comm, List.length_eq_zero_iff] at length
    subst length
    simp
  | append_singleton a c ih =>
    obtain ⟨b, d, rfl⟩ := (List.eq_nil_or_concat' b).resolve_left fun empty => by
      simp [empty] at length
    simp only [List.length_append, List.length_singleton, Nat.add_right_cancel_iff] at length
    obtain ⟨less, same⟩ := ih length (fun other member => left other (by simp [member]))
      fun other member => right other (by simp [member])
    have lastLess := lt_iff_digitValue_lt (left c (by simp)) (right d (by simp))
    have lastSame := eq_iff_digitValue_eq (left c (by simp)) (right d (by simp))
    have small := (digitChar_digitValue (left c (by simp))).1
    have small' := (digitChar_digitValue (right d (by simp))).1
    have nothing : ¬([] : List Char) < [] := List.lt_irrefl _
    have whole : a ++ [c] = b ++ [d] ↔ a = b ∧ c = d :=
      ⟨fun equal => ⟨(List.append_inj equal length).1,
        (List.cons.inj (List.append_inj equal length).2).1⟩,
        fun ⟨first, last⟩ => by rw [first, last]⟩
    rw [append_lt_append_iff length, List.cons_lt_cons_iff, whole, less, same, lastLess, lastSame,
      decimalValue_concat, decimalValue_concat, iff_false_intro nothing, and_false, or_false]
    constructor <;> omega

end Order

end DocumentSchema.Text

import DocumentSchema.Proofs.Numeric.Rounding
import DocumentSchema.Proofs.Text.Digits
import DocumentSchema.Proofs.Validation.Scalars
import Mathlib.Tactic.Linarith

/-!
Integers in ranges of floats.

The bounds of a range of integers are floats, and an integer is compared with them as the float
nearest to it. `Scalar.acceptInt_by_rounding` says what that accepts: the integers in some range,
save that an integer which is rounded up to a bound counts as that bound. Only integers of more than
53 bits are rounded (`Binary64.RoundsUpTo.large`), to a float that no other is nearer than.
-/

namespace DocumentSchema

/-! ## Integers that are rounded up -/

namespace Binary64.RoundsUpTo

variable {x y : Binary64}

theorem large {n : Int} (rounded : RoundsUpTo n x) : 2 ^ 53 < n.natAbs := by
  obtain ⟨above, rfl⟩ := roundsUpTo_iff.1 rounded
  refine Nat.not_le.1 fun small => ?_
  have exact := units_ofInt_scaled small (e := 0) (by decide)
  rw [Nat.pow_zero, Nat.cast_one, Int.mul_one] at exact
  omega

theorem nearest {n : Int64} (rounded : RoundsUpTo n.toInt x) (y : Binary64) :
    x.toRat - n.toInt ≤ |y.toRat - n.toInt| := by
  obtain ⟨-, rfl⟩ := rounded
  have nearer := nearest_ofInt (isFinite_ofInt n) y
  have positive : (0 : ℚ) < unitsOfOne := by exact_mod_cast unitsOfOne_pos
  refine le_trans (le_abs_self _) ?_
  rw [toRat_sub_intCast, toRat_sub_intCast, abs_div, abs_div, abs_of_pos positive]
  refine div_le_div_of_nonneg_right ?_ positive.le
  rw [← Int.cast_abs, ← Int.cast_abs, Int.abs_eq_natAbs, Int.abs_eq_natAbs]
  exact_mod_cast nearer

/-- Up to 63 bits, every multiple of 1024 is a float. -/
theorem near {n : Int64} (rounded : RoundsUpTo n.toInt x) : x.toRat - n.toInt ≤ 512 := by
  have least := n.le_toInt
  have greatest := n.toInt_lt
  have multiple (k : Int) (small : k.natAbs ≤ 2 ^ 53) :
      (ofInt (k * (2 ^ 10 : Nat))).toRat = ((k * 1024 : Int) : ℚ) :=
    toRat_eq_iff.2 (units_ofInt_scaled small (by decide))
  have below := rounded.nearest (ofInt (n.toInt / 1024 * (2 ^ 10 : Nat)))
  have above := rounded.nearest (ofInt ((n.toInt / 1024 + 1) * (2 ^ 10 : Nat)))
  rw [multiple _ (by omega)] at below above
  have lower : n.toInt / 1024 * 1024 ≤ n.toInt := by omega
  have upper : n.toInt ≤ (n.toInt / 1024 + 1) * 1024 := by omega
  have lower' : ((n.toInt / 1024 * 1024 : Int) : ℚ) ≤ n.toInt := by exact_mod_cast lower
  have upper' : (n.toInt : ℚ) ≤ ((n.toInt / 1024 + 1) * 1024 : Int) := by exact_mod_cast upper
  have apart : (((n.toInt / 1024 + 1) * 1024 : Int) : ℚ) =
      (n.toInt / 1024 * 1024 : Int) + 1024 := by
    push_cast
    ring
  rw [abs_of_nonpos (by linarith)] at below
  rw [abs_of_nonneg (by linarith)] at above
  linarith

end Binary64.RoundsUpTo

/-! ## Ranges -/

namespace NumericRange

open Binary64

variable {range : NumericRange} {n : Int64}

/-- An integer lies in a range: its lower bound is not above the integer, and its upper one is. -/
def Holds (range : NumericRange) (n : Int) : Prop :=
  range.lo.AtMost n ∧ range.hi.Above n

theorem contains_ofInt_iff :
    range.contains (ofInt n.toInt) = true ↔
      (range.lo.AtMost n.toInt ∨ RoundsUpTo n.toInt range.lo) ∧
        range.hi.Above n.toInt ∧ ¬RoundsUpTo n.toInt range.hi := by
  rw [contains, Bool.and_eq_true, le_ofInt_iff, ofInt_lt_iff]

theorem bounds_of_make (made : make range.lo range.hi = .ok range) :
    range.lo.isNaN = false ∧ range.hi.isNaN = false ∧ range.lo.units ≤ range.hi.units := by
  unfold make at made
  split at made
  · cases made
  · next numbers =>
    split at made
    · cases made
    · next ordered =>
      simp only [Bool.or_eq_true, not_or, Bool.not_eq_true] at numbers
      refine ⟨numbers.1, numbers.2, ?_⟩
      simpa [Binary64.lt, numbers] using ordered

/-- A range holds the float of an integer exactly if it holds the integer, unless the integer is
rounded up to one of its bounds alone. -/
theorem contains_iff_holds (made : make range.lo range.hi = .ok range) :
    (range.contains (ofInt n.toInt) = true ↔ range.Holds n.toInt) ↔
      (RoundsUpTo n.toInt range.lo ↔ RoundsUpTo n.toInt range.hi) := by
  obtain ⟨lower, upper, ordered⟩ := bounds_of_make made
  have atMost := atMost_iff lower (isFinite_ofInt n)
  have above := above_iff upper (isFinite_ofInt n)
  have less := units_ofInt_lt_iff lower (isFinite_ofInt n)
  rw [above_iff lower (isFinite_ofInt n)] at less
  -- an integer below the lower bound that is rounded to the upper one is rounded to both
  have both : RoundsUpTo n.toInt range.hi → ¬range.lo.AtMost n.toInt →
      RoundsUpTo n.toInt range.lo := by
    intro rounded notAtMost
    rw [atMost, Int.not_le] at notAtMost
    refine not_not.1 fun kept => ?_
    have below := less.2 ⟨notAtMost, kept⟩
    rw [rounded.2] at below
    omega
  have low : RoundsUpTo n.toInt range.lo → ¬range.lo.AtMost n.toInt ∧ range.hi.Above n.toInt := by
    intro rounded
    have beneath := (roundsUpTo_iff.1 rounded).1
    rw [atMost, above]
    omega
  have high : RoundsUpTo n.toInt range.hi → range.hi.Above n.toInt :=
    fun rounded => above.2 (roundsUpTo_iff.1 rounded).1
  rw [contains_ofInt_iff, Holds]
  by_cases lowRounded : RoundsUpTo n.toInt range.lo
  · simp only [lowRounded, low lowRounded, or_true, true_and, true_iff, false_and, iff_false]
    exact not_not
  · by_cases highRounded : RoundsUpTo n.toInt range.hi
    · have reached := not_not.1 (mt (both highRounded) lowRounded)
      simp only [lowRounded, highRounded, reached, high highRounded, not_true, and_false, and_self]
    · simp only [lowRounded, highRounded, or_false, not_false_eq_true, and_true]

end NumericRange

namespace Scalar

open Binary64

variable {v c : Value} {n : Int64}

theorem intOfText?_eq_some_iff {text : String} :
    intOfText? text = some n ↔
      Text.Format.isInteger text = true ∧ Text.decimalValue text.toList = n.toInt := by
  have least := n.le_toInt
  have greatest := n.toInt_lt
  unfold intOfText?
  dsimp only
  constructor
  · intro read
    split at read
    · next written =>
      cases read
      exact ⟨written.1, (Int64.toInt_ofInt_of_le (by omega) (by omega)).symm⟩
    · cases read
  · rintro ⟨digits, value⟩
    rw [if_pos ⟨digits, by omega⟩, value, Int64.ofInt_toInt]

/-- A value that stands for an integer: the integer itself, or digits that write it. -/
def Writes (v : Value) (n : Int64) : Prop :=
  v = .int n ∨ ∃ text, v = .str text ∧ Text.Format.isInteger text = true ∧
    Text.decimalValue text.toList = n.toInt

/-- The decimal digits of an integer write it. -/
theorem writes_toDigits (positive : 0 ≤ n.toInt) :
    Writes (.str (String.ofList (Nat.toDigits 10 n.toInt.toNat))) n := by
  have digits : ∀ c ∈ Nat.toDigits 10 n.toInt.toNat, Text.isDigit c = true :=
    fun c => Text.isDigit_of_mem_toDigits
  refine .inr ⟨_, rfl, ?_, ?_⟩
  · rw [Text.Format.isInteger, Text.isDigits, String.toList_ofList, Bool.and_eq_true,
      List.all_eq_true, Bool.not_eq_true', List.isEmpty_eq_false_iff]
    exact ⟨Nat.toDigits_ne_nil, digits⟩
  · rw [String.toList_ofList, Text.decimalValue_toDigits, Int.toNat_of_nonneg positive]

/-- An integer is accepted exactly if it lies in some range, where there are any, save that an
integer which is rounded up to a bound is taken for the bound. A range is then wrong about an
integer exactly if it is rounded up to one of the two bounds alone, which happens beyond 53 bits
only. -/
theorem acceptInt_by_rounding {ranges : List NumericRange}
    (made : ∀ range ∈ ranges, NumericRange.make range.lo range.hi = .ok range) :
    (∀ v c, acceptInt ranges v = some c ↔ ∃ n : Int64, Writes v n ∧ c = .int n ∧
        (ranges = [] ∨ ∃ range ∈ ranges,
          (range.lo.AtMost n.toInt ∨ RoundsUpTo n.toInt range.lo) ∧
            range.hi.Above n.toInt ∧ ¬RoundsUpTo n.toInt range.hi)) ∧
      (∀ n : Int64, ∀ range ∈ ranges,
        (range.contains (ofInt n.toInt) = true ↔ range.Holds n.toInt) ↔
          (RoundsUpTo n.toInt range.lo ↔ RoundsUpTo n.toInt range.hi)) ∧
      (∀ (n : Int64) x, RoundsUpTo n.toInt x → 2 ^ 53 < n.toInt.natAbs ∧
        x.toRat - n.toInt ≤ 512 ∧ ∀ y : Binary64, x.toRat - n.toInt ≤ |y.toRat - n.toInt|) ∧
      ∀ n : Int64, 0 ≤ n.toInt →
        Writes (.str (String.ofList (Nat.toDigits 10 n.toInt.toNat))) n := by
  refine ⟨fun v c => ?_, fun n range member => range.contains_iff_holds (made range member),
    fun n x rounded => ⟨rounded.large, rounded.near, rounded.nearest⟩, fun n => writes_toDigits⟩
  rw [acceptInt_eq_some_iff]
  simp only [Writes, intOfText?_eq_some_iff, inRanges, Bool.or_eq_true, List.isEmpty_iff,
    List.any_eq_true, NumericRange.contains_ofInt_iff]
  exact exists_congr fun n => and_congr_right fun _ => and_comm

/-- Digits in a range from zero on. -/
theorem acceptInt_by_rounding_digits :
    NumericRange.make .zero (.ofInt 100) = .ok ⟨.zero, .ofInt 100⟩ ∧
      acceptInt [⟨.zero, .ofInt 100⟩] (.str "042") = some (.int 42) := by
  have made : NumericRange.make .zero (.ofInt 100) = .ok ⟨.zero, .ofInt 100⟩ := by
    decide +kernel
  have exact (x : Binary64) : ¬RoundsUpTo (42 : Int64).toInt x :=
    fun rounded => absurd rounded.large (by decide)
  have each : ∀ range ∈ [(⟨.zero, .ofInt 100⟩ : NumericRange)],
      NumericRange.make range.lo range.hi = .ok range :=
    List.forall_mem_singleton.2 made
  have accepted := (acceptInt_by_rounding each).1
  refine ⟨made, (accepted _ _).2 ⟨42, .inr ⟨"042", rfl, by decide, by decide⟩, rfl, .inr ?_⟩⟩
  refine ⟨_, List.mem_singleton_self _, .inl (.inr ⟨by decide, ?_⟩), .inr ⟨by decide +kernel, ?_⟩,
    exact _⟩
  · exact toRat_le_iff.2 (by decide +kernel)
  · exact lt_toRat_iff.2 (by decide +kernel)

/-- One below a bound that is a multiple of four, beyond 53 bits, an integer is taken for the bound:
it is left out where the bound is the upper one, and let in where it is the lower one. -/
theorem acceptInt_near_bound :
    let bound : Binary64 := .ofInt 9007199254740996
    (NumericRange.make .zero bound = .ok ⟨.zero, bound⟩ ∧
      NumericRange.Holds ⟨.zero, bound⟩ 9007199254740995 ∧
      acceptInt [⟨.zero, bound⟩] (.int 9007199254740995) = none) ∧
    (NumericRange.make bound .infinity = .ok ⟨bound, .infinity⟩ ∧
      ¬NumericRange.Holds ⟨bound, .infinity⟩ 9007199254740995 ∧
      acceptInt [⟨bound, .infinity⟩] (.int 9007199254740995) =
        some (.int 9007199254740995)) := by
  dsimp only
  have above : (Binary64.ofInt 9007199254740996).Above 9007199254740995 :=
    .inr ⟨by decide +kernel, lt_toRat_iff.2 (by decide +kernel)⟩
  refine ⟨⟨by decide +kernel, ⟨.inr ⟨by decide, toRat_le_iff.2 (by decide +kernel)⟩, above⟩,
    by decide +kernel⟩, by decide +kernel, fun held => ?_,
    acceptInt_eq_some_iff.2 ⟨_, .inl rfl, by decide +kernel, rfl⟩⟩
  rcases held.1 with same | ⟨-, atMost⟩
  · exact absurd same (by decide +kernel)
  · exact absurd (toRat_le_iff.1 atMost) (by decide +kernel)

end Scalar

end DocumentSchema

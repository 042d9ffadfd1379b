import DocumentSchema.Proofs.Numeric.Order
import Mathlib.Algebra.Order.Field.Rat
import Mathlib.Tactic.Positivity
import Mathlib.Tactic.Ring

/-!
Rounding to double precision.

A quotient is rounded past some magnitude exactly if it lies beyond the middle between that
magnitude and the next, or on it where the magnitude is odd (`Binary64.lt_roundUnits_iff`). All else
about rounding follows: it keeps to the side of every float on which the quotient lies, it leaves
floats as they are, and no float is nearer (`Binary64.nearest_ofInt`).
-/

namespace DocumentSchema.Binary64

/-! ## Magnitudes -/

/-- Greater magnitudes are not fewer units. -/
theorem unitsOfBits_le {a b : Nat} (less : a ≤ b) : unitsOfBits a ≤ unitsOfBits b := by
  rcases Nat.lt_or_eq_of_le less with less | rfl
  · exact Nat.le_of_lt (unitsOfBits_lt less)
  · exact Nat.le_refl _

/-- The magnitudes that share a step of `2 ^ shift`, the end of their binade included. -/
theorem unitsOfBits_shift {shift r : Nat} (small : r ≤ 2 ^ 53)
    (normal : shift = 0 ∨ 2 ^ 52 ≤ r) : unitsOfBits (shift * 2 ^ 52 + r) = r * 2 ^ shift := by
  unfold unitsOfBits
  dsimp only
  by_cases low : r < 2 ^ 52
  · have first : shift = 0 := normal.resolve_right (Nat.not_le.2 low)
    subst first
    have exponent : (0 * 2 ^ 52 + r) / 2 ^ 52 = 0 := by omega
    have fraction : (0 * 2 ^ 52 + r) % 2 ^ 52 = r := by omega
    rw [if_pos exponent, fraction, Nat.pow_zero, Nat.mul_one]
  by_cases high : r < 2 ^ 53
  · have exponent : (shift * 2 ^ 52 + r) / 2 ^ 52 = shift + 1 := by omega
    have fraction : 2 ^ 52 + (shift * 2 ^ 52 + r) % 2 ^ 52 = r := by omega
    rw [exponent, if_neg (Nat.succ_ne_zero _), fraction, Nat.add_sub_cancel]
  · -- the carry out of 53 bits is the next exponent without a fraction
    have top : r = 2 ^ 53 := by omega
    have exponent : (shift * 2 ^ 52 + r) / 2 ^ 52 = shift + 2 := by omega
    have fraction : (shift * 2 ^ 52 + r) % 2 ^ 52 = 0 := by omega
    have next : shift + 2 - 1 = 1 + shift := by omega
    rw [exponent, if_neg (Nat.succ_ne_zero _), fraction, next, Nat.pow_add, top, ← Nat.mul_assoc]
    rfl

/-- Small magnitudes count units. -/
theorem unitsOfBits_of_le {r : Nat} (small : r ≤ 2 ^ 53) : unitsOfBits r = r := by
  have same : unitsOfBits (0 * 2 ^ 52 + r) = r * 2 ^ 0 := unitsOfBits_shift small (.inl rfl)
  rwa [Nat.zero_mul, Nat.zero_add, Nat.pow_zero, Nat.mul_one] at same

/-- Beyond an exponent, all magnitudes are multiples of its step. -/
theorem two_pow_dvd_unitsOfBits {b e : Nat} (above : e < b / 2 ^ 52) :
    2 ^ e ∣ unitsOfBits b := by
  unfold unitsOfBits
  dsimp only
  rw [if_neg (by omega)]
  exact Nat.dvd_mul_left_of_dvd (Nat.pow_dvd_pow 2 (by omega)) _

/-- Twice a magnitude is a magnitude. -/
theorem exists_unitsOfBits_double (b : Nat) : ∃ c, unitsOfBits c = 2 * unitsOfBits b := by
  by_cases low : b / 2 ^ 52 = 0
  · exact ⟨2 * b, by rw [unitsOfBits_of_le (by omega), unitsOfBits_of_le (by omega)]⟩
  · refine ⟨b + 2 ^ 52, ?_⟩
    have exponent : (b + 2 ^ 52) / 2 ^ 52 = b / 2 ^ 52 + 1 := by omega
    have fraction : (b + 2 ^ 52) % 2 ^ 52 = b % 2 ^ 52 := by omega
    have next : b / 2 ^ 52 + 1 - 1 = b / 2 ^ 52 - 1 + 1 := by omega
    unfold unitsOfBits
    dsimp only
    rw [exponent, fraction, if_neg (Nat.succ_ne_zero _), if_neg low, next, Nat.pow_succ,
      Nat.mul_left_comm, Nat.mul_comm]
    ring

/-- Whatever 53 bits hold is a magnitude, at every scale. -/
theorem exists_unitsOfBits {m : Nat} (small : m ≤ 2 ^ 53) (e : Nat) :
    ∃ b, unitsOfBits b = m * 2 ^ e := by
  induction e with
  | zero => exact ⟨m, by rw [unitsOfBits_of_le small, Nat.pow_zero, Nat.mul_one]⟩
  | succ e ih =>
    obtain ⟨b, same⟩ := ih
    obtain ⟨c, double⟩ := exists_unitsOfBits_double b
    exact ⟨c, by rw [double, same, Nat.pow_succ]; ring⟩

/-! ## Quotients -/

section Quotients

variable {num den b : Nat}

/-- The quotient cut to 53 bits, which are all in use unless nothing is cut off. -/
theorem cut_bounds (num den : Nat) :
    let shift := (num / den).log2 - 52
    num / (den * 2 ^ shift) < 2 ^ 53 ∧ (shift = 0 ∨ 2 ^ 52 ≤ num / (den * 2 ^ shift)) := by
  dsimp only
  rw [← Nat.div_div_eq_div_mul]
  generalize num / den = whole
  constructor
  · rw [Nat.div_lt_iff_lt_mul (Nat.two_pow_pos _), ← Nat.pow_add]
    calc whole < 2 ^ (whole.log2 + 1) := Nat.lt_log2_self
      _ ≤ 2 ^ (53 + (whole.log2 - 52)) := Nat.pow_le_pow_right (by decide) (by omega)
  · by_cases short : whole.log2 ≤ 52
    · exact .inl (by omega)
    · have filled : whole ≠ 0 := by
        rintro rfl
        exact short (by decide)
      refine .inr ?_
      rw [Nat.le_div_iff_mul_le (Nat.two_pow_pos _), ← Nat.pow_add]
      calc 2 ^ (52 + (whole.log2 - 52)) = 2 ^ whole.log2 := by congr 1; omega
        _ ≤ whole := Nat.log2_self_le filled

/-- A quotient is rounded down or up. -/
theorem roundDiv_cases (num den : Nat) :
    roundDiv num den = num / den ∨ roundDiv num den = num / den + 1 := by
  unfold roundDiv
  dsimp only
  split
  · exact .inl rfl
  · exact .inr rfl

/-- A quotient is rounded up beyond the half, and at the half if that makes it even. -/
theorem div_lt_roundDiv_iff (num den : Nat) :
    num / den < roundDiv num den ↔
      den < 2 * (num % den) ∨ den = 2 * (num % den) ∧ num / den % 2 = 1 := by
  unfold roundDiv
  dsimp only
  split <;> omega

/-- A quotient is rounded past a magnitude exactly if it lies beyond the middle between that one and
the next, or on the middle and the magnitude is odd. -/
theorem lt_roundUnits_iff (positive : 0 < den) (finite : b < infinityBits) :
    b < roundUnits num den ↔
      den * (unitsOfBits b + unitsOfBits (b + 1)) < 2 * num ∨
        den * (unitsOfBits b + unitsOfBits (b + 1)) = 2 * num ∧ b % 2 = 1 := by
  have cut := cut_bounds num den
  unfold roundUnits
  dsimp only at cut ⊢
  generalize (num / den).log2 - 52 = shift at cut ⊢
  obtain ⟨small, normal⟩ := cut
  have step : 0 < den * 2 ^ shift := Nat.mul_pos positive (Nat.two_pow_pos _)
  have beyond := div_lt_roundDiv_iff num (den * 2 ^ shift)
  have rounded := roundDiv_cases num (den * 2 ^ shift)
  have whole := Nat.div_add_mod num (den * 2 ^ shift)
  have below := Nat.mod_lt num step
  have lower := unitsOfBits_shift (r := num / (den * 2 ^ shift)) (by omega) normal
  have upper : unitsOfBits (shift * 2 ^ 52 + (num / (den * 2 ^ shift) + 1)) =
      (num / (den * 2 ^ shift) + 1) * 2 ^ shift :=
    unitsOfBits_shift (by omega) (by omega)
  rw [← Nat.add_assoc] at upper
  generalize num % (den * 2 ^ shift) = rest at beyond whole below
  generalize num / (den * 2 ^ shift) = q at small normal beyond rounded whole lower upper ⊢
  -- the two magnitudes next to the quotient, as multiples of its denominator
  have lowerUnits : den * unitsOfBits (shift * 2 ^ 52 + q) = den * 2 ^ shift * q := by
    rw [lower]; ring
  have upperUnits : den * unitsOfBits (shift * 2 ^ 52 + q + 1) =
      den * 2 ^ shift * q + den * 2 ^ shift := by
    rw [upper]; ring
  rw [Nat.lt_min, and_iff_left finite, Nat.mul_add]
  rcases Nat.lt_trichotomy b (shift * 2 ^ 52 + q) with less | same | more
  · have first : den * unitsOfBits b < den * unitsOfBits (shift * 2 ^ 52 + q) :=
      Nat.mul_lt_mul_of_pos_left (unitsOfBits_lt less) positive
    have second : den * unitsOfBits (b + 1) ≤ den * unitsOfBits (shift * 2 ^ 52 + q) :=
      Nat.mul_le_mul_left _ (unitsOfBits_le less)
    constructor <;> omega
  · subst same
    have parity : (shift * 2 ^ 52 + q) % 2 = q % 2 := by omega
    rw [parity, lowerUnits, upperUnits]
    constructor <;> omega
  · have first : den * unitsOfBits (shift * 2 ^ 52 + q + 1) ≤ den * unitsOfBits b :=
      Nat.mul_le_mul_left _ (unitsOfBits_le more)
    have second : den * unitsOfBits b < den * unitsOfBits (b + 1) :=
      Nat.mul_lt_mul_of_pos_left (unitsOfBits_lt (Nat.lt_succ_self b)) positive
    constructor <;> omega

/-- Rounding does not fall below a magnitude that the quotient has reached. -/
theorem le_roundUnits (positive : 0 < den) (number : b ≤ infinityBits)
    (reached : den * unitsOfBits b ≤ num) : b ≤ roundUnits num den := by
  cases b with
  | zero => exact Nat.zero_le _
  | succ b =>
    refine (lt_roundUnits_iff positive number).2 (.inl ?_)
    have less : den * unitsOfBits b < den * unitsOfBits (b + 1) :=
      Nat.mul_lt_mul_of_pos_left (unitsOfBits_lt (Nat.lt_succ_self b)) positive
    rw [Nat.mul_add]
    omega

/-- Rounding does not rise above a magnitude that the quotient does not exceed. -/
theorem roundUnits_le_of_le (positive : 0 < den) (within : num ≤ den * unitsOfBits b) :
    roundUnits num den ≤ b := by
  rcases Nat.lt_or_ge b infinityBits with finite | infinite
  · refine Nat.not_lt.1 fun beyond => ?_
    have less : den * unitsOfBits b < den * unitsOfBits (b + 1) :=
      Nat.mul_lt_mul_of_pos_left (unitsOfBits_lt (Nat.lt_succ_self b)) positive
    have middle := (lt_roundUnits_iff positive finite).1 beyond
    rw [Nat.mul_add] at middle
    omega
  · exact Nat.le_trans (roundUnits_le num den) infinite

/-- The least number that is rounded to an infinity: `2 ^ 1024` less half a step of the floats
below. -/
def overflowBound : Nat :=
  (2 ^ 54 - 1) * 2 ^ 970

/-- A quotient is rounded to an infinity exactly from the bound on. -/
theorem roundUnits_eq_infinityBits_iff (num : Nat) (positive : 0 < den) :
    roundUnits (num * 2 ^ 1074) den = infinityBits ↔ den * overflowBound ≤ num := by
  obtain ⟨e, exponent⟩ : ∃ e, e = 970 := ⟨970, rfl⟩
  obtain ⟨f, unit⟩ : ∃ f, f = 1074 := ⟨1074, rfl⟩
  have bound : overflowBound = (2 ^ 54 - 1) * 2 ^ e := by rw [exponent, overflowBound]
  -- the greatest finite magnitude is odd, so that the middle above it is rounded up
  obtain ⟨greatest, split⟩ : ∃ b, b = (e + 1 + f) * 2 ^ 52 + (2 ^ 53 - 1) := ⟨_, rfl⟩
  have last : infinityBits = greatest + 1 := by
    have top : infinityBits = 2047 * 2 ^ 52 := rfl
    omega
  have middle : unitsOfBits greatest + unitsOfBits (greatest + 1) =
      overflowBound * (2 * 2 ^ f) := by
    have next : greatest + 1 = (e + 1 + f) * 2 ^ 52 + 2 ^ 53 := by omega
    rw [next, split, unitsOfBits_shift (by decide) (.inr (by decide)),
      unitsOfBits_shift (by decide) (.inr (by decide)), bound, Nat.pow_add, Nat.pow_succ]
    ring
  have bounded := roundUnits_le (num * 2 ^ f) den
  have beyond : greatest < roundUnits (num * 2 ^ f) den ↔ _ :=
    lt_roundUnits_iff positive (by omega)
  have reached : roundUnits (num * 2 ^ f) den = infinityBits ↔
      greatest < roundUnits (num * 2 ^ f) den := by omega
  have half : 0 < 2 * 2 ^ f := Nat.mul_pos (by decide) (Nat.two_pow_pos f)
  rw [← unit, reached, beyond, middle, and_iff_left (by omega), ← Nat.le_iff_lt_or_eq,
    ← Nat.mul_assoc, Nat.mul_left_comm 2, Nat.mul_le_mul_right_iff half]

/-- No magnitude is nearer to the quotient than the one that it is rounded to. -/
theorem nearest_roundUnits (positive : 0 < den) (finite : roundUnits num den < infinityBits)
    (b : Nat) :
    ((den * unitsOfBits (roundUnits num den) : Int) - num).natAbs ≤
      ((den * unitsOfBits b : Int) - num).natAbs := by
  have spec {c : Nat} (bounded : c < infinityBits) : c < roundUnits num den ↔ _ :=
    lt_roundUnits_iff positive bounded
  generalize roundUnits num den = r at finite spec ⊢
  rcases Nat.lt_trichotomy b r with less | rfl | more
  · obtain ⟨below, rfl⟩ : ∃ below, r = below + 1 := ⟨r - 1, by omega⟩
    have beyond := (spec (by omega)).1 (Nat.lt_succ_self below)
    have further : den * unitsOfBits b ≤ den * unitsOfBits below :=
      Nat.mul_le_mul_left _ (unitsOfBits_le (Nat.le_of_lt_succ less))
    have order : den * unitsOfBits below < den * unitsOfBits (below + 1) :=
      Nat.mul_lt_mul_of_pos_left (unitsOfBits_lt (Nat.lt_succ_self below)) positive
    rw [Nat.mul_add] at beyond
    omega
  · exact le_refl _
  · have within := mt (spec finite).2 (Nat.lt_irrefl r)
    have further : den * unitsOfBits (r + 1) ≤ den * unitsOfBits b :=
      Nat.mul_le_mul_left _ (unitsOfBits_le more)
    have order : den * unitsOfBits r < den * unitsOfBits (r + 1) :=
      Nat.mul_lt_mul_of_pos_left (unitsOfBits_lt (Nat.lt_succ_self r)) positive
    rw [Nat.mul_add] at within
    omega

end Quotients

/-! ## Integers -/

section Integers

variable {n m : Int} {x : Binary64}

/-- The sign is the one a float was made with. -/
theorem negative_ofParts {sign : Bool} {magnitude : Nat} (small : magnitude < 2 ^ 63) :
    (ofParts sign magnitude).negative = sign := by
  unfold ofParts negative
  rw [UInt64.toNat_ofNat']
  cases sign with
  | false => exact decide_eq_false (by simp only [reduceIte, Bool.false_eq_true]; omega)
  | true => exact decide_eq_true (by simp only [reduceIte]; omega)

/-- The units are those of the magnitude a float was made with. -/
theorem units_ofParts {sign : Bool} {magnitude : Nat} (small : magnitude < 2 ^ 63) :
    (ofParts sign magnitude).units =
      if sign then -(unitsOfBits magnitude : Int) else unitsOfBits magnitude := by
  rw [units, negative_ofParts small, magnitudeBits_ofParts small]

/-- The number of `2 ^ -1074` in one. -/
def unitsOfOne : Nat :=
  2 ^ 1074

theorem unitsOfOne_pos : 0 < unitsOfOne := by
  unfold unitsOfOne
  positivity

/-- The number of `2 ^ -1074` in an integer. -/
def unitsOfInt (n : Int) : Int :=
  n * unitsOfOne

theorem unitsOfInt_zero : unitsOfInt 0 = 0 :=
  Int.zero_mul _

theorem unitsOfInt_lt_iff : unitsOfInt n < unitsOfInt m ↔ n < m :=
  Int.mul_lt_mul_right (Int.natCast_pos.2 unitsOfOne_pos)

/-- A float of an integer has the units that its own are rounded to. -/
theorem units_ofInt (n : Int) :
    (ofInt n).units =
      if unitsOfInt n < 0 then -(unitsOfBits (roundUnits (unitsOfInt n).natAbs 1) : Int)
      else unitsOfBits (roundUnits (unitsOfInt n).natAbs 1) := by
  have small : roundUnits (n.natAbs * 2 ^ 1074) 1 < 2 ^ 63 :=
    Nat.lt_of_le_of_lt (roundUnits_le _ _) (by decide)
  have size : (unitsOfInt n).natAbs = n.natAbs * 2 ^ 1074 := Int.natAbs_mul n _
  have sign := unitsOfInt_lt_iff (n := n) (m := 0)
  rw [unitsOfInt_zero] at sign
  simp only [ofInt, ofRatio, units_ofParts small, decide_eq_true_eq, size, sign]

/-- The units of a float are those of its magnitude, but for the sign. -/
theorem natAbs_units (x : Binary64) : x.units.natAbs = unitsOfBits x.magnitudeBits := by
  unfold units
  split <;> omega

/-- No number has a greater magnitude than infinity. -/
theorem magnitudeBits_le_of_isNaN (number : x.isNaN = false) : x.magnitudeBits ≤ infinityBits :=
  Nat.not_lt.1 (of_decide_eq_false number)

/-- The float of an integer is on the same side of every float as the integer. -/
theorem units_ofInt_bounds (n : Int) (number : x.isNaN = false) :
    (x.units ≤ unitsOfInt n → x.units ≤ (ofInt n).units) ∧
      (unitsOfInt n ≤ x.units → (ofInt n).units ≤ x.units) := by
  have bounded := magnitudeBits_le_of_isNaN number
  have lower : _ → x.magnitudeBits ≤ roundUnits (unitsOfInt n).natAbs 1 :=
    le_roundUnits (by decide) bounded
  have upper : _ → roundUnits (unitsOfInt n).natAbs 1 ≤ x.magnitudeBits :=
    roundUnits_le_of_le (by decide)
  rw [Nat.one_mul] at lower upper
  rw [units_ofInt]
  unfold units
  generalize unitsOfInt n = exact at lower upper ⊢
  generalize roundUnits exact.natAbs 1 = r at lower upper ⊢
  have lower' := fun reached => unitsOfBits_le (lower reached)
  have upper' := fun within => unitsOfBits_le (upper within)
  generalize unitsOfBits r = rounded at lower' upper' ⊢
  generalize unitsOfBits x.magnitudeBits = magnitude at lower' upper' ⊢
  cases x.negative <;> by_cases sign : exact < 0 <;>
    simp only [sign, reduceIte, Bool.false_eq_true] <;> omega

/-- No float is nearer to an integer than the one that it is rounded to. -/
theorem nearest_ofInt (finite : (ofInt n).isFinite = true) (x : Binary64) :
    ((ofInt n).units - unitsOfInt n).natAbs ≤ (x.units - unitsOfInt n).natAbs := by
  have bits : roundUnits (n.natAbs * 2 ^ 1074) 1 < 2 ^ 63 :=
    Nat.lt_of_le_of_lt (roundUnits_le _ _) (by decide)
  have size : (unitsOfInt n).natAbs = n.natAbs * 2 ^ 1074 := Int.natAbs_mul n _
  rw [isFinite, ofInt, ofRatio, magnitudeBits_ofParts bits, ← size, decide_eq_true_eq] at finite
  have nearest := nearest_roundUnits (by decide) finite x.magnitudeBits
  -- a float of the other sign is further away than zero
  have zero := nearest_roundUnits (by decide) finite 0
  have none : unitsOfBits 0 = 0 := rfl
  rw [units_ofInt]
  unfold units
  rw [none] at zero
  generalize unitsOfInt n = exact at nearest zero ⊢
  generalize unitsOfBits (roundUnits exact.natAbs 1) = rounded at nearest zero ⊢
  generalize unitsOfBits x.magnitudeBits = magnitude at nearest ⊢
  cases x.negative <;> by_cases sign : exact < 0 <;>
    simp only [sign, reduceIte, Bool.false_eq_true] <;> omega

/-- An integer that some float is, is rounded to that number. -/
theorem units_ofInt_of_eq (number : x.isNaN = false) (same : x.units = unitsOfInt n) :
    (ofInt n).units = unitsOfInt n := by
  obtain ⟨lower, upper⟩ := units_ofInt_bounds n number
  rw [← same]
  exact Int.le_antisymm (upper (Int.le_of_eq same.symm)) (lower (Int.le_of_eq same))

/-- Integers of 53 bits, scaled by a power of two, are floats. -/
theorem units_ofInt_scaled (small : m.natAbs ≤ 2 ^ 53) {e : Nat} (bounded : e ≤ 64) :
    (ofInt (m * (2 ^ e : Nat))).units = unitsOfInt (m * (2 ^ e : Nat)) := by
  obtain ⟨b, same⟩ := exists_unitsOfBits small (e + 1074)
  have finite : b < infinityBits := by
    refine Nat.not_le.1 fun infinite => ?_
    have large : 2 ^ 52 * 2 ^ 2045 ≤ unitsOfBits b :=
      Nat.le_trans (le_unitsOfBits_of_exponent (b := infinityBits) (by decide))
        (unitsOfBits_le infinite)
    have less : m.natAbs * 2 ^ (e + 1074) < 2 ^ 52 * 2 ^ 2045 := by
      rw [← Nat.pow_add]
      calc m.natAbs * 2 ^ (e + 1074) ≤ 2 ^ 53 * 2 ^ (e + 1074) := Nat.mul_le_mul_right _ small
        _ = 2 ^ (53 + (e + 1074)) := (Nat.pow_add ..).symm
        _ < 2 ^ (52 + 2045) := Nat.pow_lt_pow_right (by decide) (by omega)
    omega
  have bits : b < 2 ^ 63 := Nat.lt_trans finite (by decide)
  have number : (ofParts (m < 0) b).isNaN = false := by
    rw [isNaN, magnitudeBits_ofParts bits]
    exact decide_eq_false (by omega)
  have power (a : Nat) : 2 ^ (e + a) = 2 ^ e * 2 ^ a := Nat.pow_add 2 e a
  have size : (unitsOfBits b : Int) = m.natAbs * (2 ^ e : Nat) * unitsOfOne := by
    rw [same, power 1074, ← Nat.mul_assoc, Nat.cast_mul, Nat.cast_mul]
    rfl
  refine units_ofInt_of_eq number ?_
  rw [units_ofParts bits, size, unitsOfInt]
  by_cases sign : m < 0
  · have negative : (m.natAbs : Int) = -m := by omega
    simp only [sign, decide_true, reduceIte, negative, Int.neg_mul, Int.neg_neg]
  · have positive : (m.natAbs : Int) = m := by omega
    simp only [sign, decide_false, reduceIte, Bool.false_eq_true, positive]

/-- No integer but zero is rounded to a zero from below. -/
theorem units_ofInt_neg (negative : n < 0) : (ofInt n).units < 0 := by
  have one := units_ofInt_scaled (m := -1) (by decide) (e := 0) (by decide)
  have order : unitsOfInt n ≤ unitsOfInt (-1) := by
    rw [← Int.not_lt, unitsOfInt_lt_iff]
    omega
  have least : unitsOfInt (-1) < unitsOfInt 0 := unitsOfInt_lt_iff.2 (by decide)
  rw [unitsOfInt_zero] at least
  have below := (units_ofInt_bounds n (isNaN_ofInt (-1))).2
  rw [Nat.pow_zero, Nat.cast_one, Int.mul_one] at one
  omega

end Integers

/-! ## Comparison with integers -/

section Comparison

variable {n : Int} {x : Binary64}

/-- The number that a finite float is. -/
def toRat (x : Binary64) : ℚ :=
  x.units / unitsOfOne

/-- Distances of floats and integers are counted in units. -/
theorem toRat_sub_intCast (x : Binary64) (n : Int) :
    x.toRat - n = (x.units - unitsOfInt n : Int) / unitsOfOne := by
  have nonzero : (unitsOfOne : ℚ) ≠ 0 := by exact_mod_cast unitsOfOne_pos.ne'
  rw [toRat, unitsOfInt, Int.cast_sub, Int.cast_mul, Int.cast_natCast, sub_div,
    mul_div_cancel_right₀ _ nonzero]

/-- A float is an integer if it has the same units. -/
theorem toRat_eq_iff : x.toRat = n ↔ x.units = unitsOfInt n := by
  have nonzero : (unitsOfOne : ℚ) ≠ 0 := by exact_mod_cast unitsOfOne_pos.ne'
  rw [← sub_eq_zero, toRat_sub_intCast, div_eq_zero_iff, or_iff_left nonzero, Int.cast_eq_zero,
    sub_eq_zero]

/-- From `2 ^ 63` on, the floats below `2 ^ 64` are the multiples of 2048. -/
theorem toRat_ofInt_eq_iff (large : 2 ^ 63 ≤ n) (small : n < 2 ^ 64) :
    (ofInt n).toRat = n ↔ 2048 ∣ n := by
  obtain ⟨e, one⟩ : ∃ e, unitsOfOne = 2 ^ e := ⟨1074, rfl⟩
  have step : 2 ^ (11 + e) = 2 ^ 11 * unitsOfOne := by rw [one, Nat.pow_add]
  rw [toRat_eq_iff]
  constructor
  · intro same
    have positive : ¬unitsOfInt n < 0 := by
      rw [← unitsOfInt_zero, unitsOfInt_lt_iff]
      omega
    have units : unitsOfBits (roundUnits (unitsOfInt n).natAbs 1) = n.natAbs * unitsOfOne := by
      rw [units_ofInt, if_neg positive] at same
      rw [← Int.natAbs_natCast (unitsOfBits _), same, unitsOfInt, Int.natAbs_mul,
        Int.natAbs_natCast]
    generalize roundUnits (unitsOfInt n).natAbs 1 = b at units
    have exponent : 11 + e < b / 2 ^ 52 := by
      refine Nat.not_le.1 fun below => ?_
      have less := unitsOfBits_lt_of_exponent below
      rw [units, step, ← Nat.mul_assoc] at less
      have reduced := Nat.lt_of_mul_lt_mul_right less
      omega
    have divides := two_pow_dvd_unitsOfBits exponent
    rw [units, step] at divides
    have reduced : 2 ^ 11 ∣ n.natAbs := Nat.dvd_of_mul_dvd_mul_right unitsOfOne_pos divides
    exact Int.natCast_dvd.2 reduced
  · rintro ⟨m, rfl⟩
    have scaled := units_ofInt_scaled (m := m) (by omega) (e := 11) (by decide)
    rwa [Int.mul_comm] at scaled

/-- Floats and integers compare as their units do. -/
theorem toRat_le_iff : x.toRat ≤ n ↔ x.units ≤ unitsOfInt n := by
  rw [toRat, div_le_iff₀ (by exact_mod_cast unitsOfOne_pos), unitsOfInt]
  exact_mod_cast Iff.rfl

/-- Integers and floats compare as their units do. -/
theorem lt_toRat_iff : (n : ℚ) < x.toRat ↔ unitsOfInt n < x.units := by
  rw [← not_le, toRat_le_iff, Int.not_le]

/-- The bound `x` is not above the integer `n`. -/
def AtMost (x : Binary64) (n : Int) : Prop :=
  x = negInfinity ∨ x.isFinite = true ∧ x.toRat ≤ n

/-- The bound `x` is above the integer `n`. -/
def Above (x : Binary64) (n : Int) : Prop :=
  x = infinity ∨ x.isFinite = true ∧ n < x.toRat

/-- The integer `n` is below `x`, and so near that it is rounded to `x`. -/
def RoundsUpTo (n : Int) (x : Binary64) : Prop :=
  n < x.toRat ∧ ofInt n = x

/-- When an integer is rounded up to a float, told in units. -/
theorem roundsUpTo_iff : RoundsUpTo n x ↔ unitsOfInt n < x.units ∧ ofInt n = x := by
  rw [RoundsUpTo, lt_toRat_iff]

/-- An integer whose float is finite lies between the infinities. -/
theorem unitsOfInt_bounds (finite : (ofInt n).isFinite = true) :
    negInfinity.units < unitsOfInt n ∧ unitsOfInt n < infinity.units := by
  have magnitude : unitsOfBits (ofInt n).magnitudeBits < unitsOfBits infinityBits :=
    unitsOfBits_lt (of_decide_eq_true finite)
  have top : infinity.units = unitsOfBits infinityBits := rfl
  have bottom : negInfinity.units = -(unitsOfBits infinityBits : Int) := rfl
  have above := (units_ofInt_bounds (x := infinity) n (by decide)).1
  have below := (units_ofInt_bounds (x := negInfinity) n (by decide)).2
  rw [top] at above ⊢
  rw [bottom] at below ⊢
  have size := natAbs_units (ofInt n)
  omega

section Bounds

variable (number : x.isNaN = false) (small : (ofInt n).isFinite = true)

include number small

/-- When a float is above an integer, told in units. -/
theorem above_iff : x.Above n ↔ unitsOfInt n < x.units := by
  obtain ⟨lower, upper⟩ := unitsOfInt_bounds small
  rw [Above, lt_toRat_iff]
  cases finite : x.isFinite with
  | true =>
    have notInfinite : x ≠ infinity := by
      rintro rfl
      cases isFinite_infinity.symm.trans finite
    simp only [notInfinite, false_or, true_and]
  | false =>
    rcases eq_infinity_or_negInfinity number finite with rfl | rfl
    · exact iff_of_true (.inl rfl) upper
    · refine iff_of_false ?_ (by omega)
      rintro (same | ⟨⟨⟩, -⟩)
      exact absurd same (by decide)

/-- When a float is at most an integer, told in units. -/
theorem atMost_iff : x.AtMost n ↔ x.units ≤ unitsOfInt n := by
  obtain ⟨lower, upper⟩ := unitsOfInt_bounds small
  rw [AtMost, toRat_le_iff]
  cases finite : x.isFinite with
  | true =>
    have notInfinite : x ≠ negInfinity := by
      rintro rfl
      cases isFinite_negInfinity.symm.trans finite
    simp only [notInfinite, false_or, true_and]
  | false =>
    rcases eq_infinity_or_negInfinity number finite with rfl | rfl
    · refine iff_of_false ?_ (by omega)
      rintro (same | ⟨⟨⟩, -⟩)
      exact absurd same (by decide)
    · exact iff_of_true (.inl rfl) (by omega)

/-- The integer's float is below exactly those floats that the integer is below and that it is not
rounded to. -/
theorem units_ofInt_lt_iff : (ofInt n).units < x.units ↔ x.Above n ∧ ¬RoundsUpTo n x := by
  obtain ⟨lower, upper⟩ := units_ofInt_bounds n number
  rw [above_iff number small, roundsUpTo_iff]
  constructor
  · intro less
    refine ⟨by omega, ?_⟩
    rintro ⟨-, rfl⟩
    exact Int.lt_irrefl _ less
  · rintro ⟨above, kept⟩
    have least := upper (Int.le_of_lt above)
    refine lt_of_le_of_ne least fun same => kept ⟨above, ?_⟩
    have equal : (ofInt n).eqNumber x = true := by
      simp [eqNumber, isNaN_ofInt, number, same]
    refine (eq_or_zero_of_eqNumber equal).resolve_right fun zeros => ?_
    have none : x.units = 0 := by simp [units, zeros.2, unitsOfBits]
    have negative : n < 0 := by
      rw [← unitsOfInt_lt_iff, unitsOfInt_zero]
      omega
    have rounded := units_ofInt_neg negative
    omega

end Bounds

/-- What is finite is a number. -/
theorem isNaN_of_isFinite (finite : x.isFinite = true) : x.isNaN = false :=
  decide_eq_false (Nat.not_lt.2 (Nat.le_of_lt (of_decide_eq_true finite)))

theorem isNaN_of_above (above : x.Above n) : x.isNaN = false := by
  rcases above with rfl | ⟨finite, -⟩
  · decide
  · exact isNaN_of_isFinite finite

theorem isNaN_of_atMost (atMost : x.AtMost n) : x.isNaN = false := by
  rcases atMost with rfl | ⟨finite, -⟩
  · decide
  · exact isNaN_of_isFinite finite

section Int64

variable {n : Int64}

/-- The float of an integer is below exactly what the integer is below and not rounded to. -/
theorem ofInt_lt_iff : (ofInt n.toInt).lt x = true ↔ x.Above n.toInt ∧ ¬RoundsUpTo n.toInt x := by
  cases number : x.isNaN with
  | true =>
    refine iff_of_false (by simp [lt, number]) fun held => ?_
    cases number.symm.trans (isNaN_of_above held.1)
  | false =>
    rw [← units_ofInt_lt_iff number (isFinite_ofInt n)]
    simp [lt, number, isNaN_ofInt]

/-- The float of an integer reaches exactly what the integer reaches or is rounded up to. -/
theorem le_ofInt_iff : x.le (ofInt n.toInt) = true ↔ x.AtMost n.toInt ∨ RoundsUpTo n.toInt x := by
  cases number : x.isNaN with
  | true =>
    refine iff_of_false (by simp [le, number]) ?_
    rintro (atMost | ⟨-, rfl⟩)
    · cases number.symm.trans (isNaN_of_atMost atMost)
    · cases number.symm.trans (isNaN_ofInt _)
  | false =>
    have less := units_ofInt_lt_iff number (isFinite_ofInt n)
    rw [above_iff number (isFinite_ofInt n)] at less
    have compared : x.le (ofInt n.toInt) = true ↔ ¬(ofInt n.toInt).units < x.units := by
      simp [le, number, isNaN_ofInt]
    rw [compared, less, atMost_iff number (isFinite_ofInt n)]
    by_cases rounded : RoundsUpTo n.toInt x <;> simp [rounded]

end Int64

end Comparison

end DocumentSchema.Binary64

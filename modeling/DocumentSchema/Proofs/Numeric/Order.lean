import DocumentSchema.Numeric.Binary64

/-!
The order of double precision numbers.

More magnitude bits stand for a larger number (`Binary64.unitsOfBits_lt`), so numbers that compare
as equal have the same bits or are both zeros (`Binary64.eq_or_zero_of_eqNumber`). Rounding never
gives a NaN, and an integer of 64 bits is not rounded to an infinity (`Binary64.isFinite_ofInt`).
-/

namespace DocumentSchema.Binary64

/-! ## Magnitudes -/

/-- The numbers of an exponent, the lowest binade left out, begin where those below it end. -/
theorem unitsOfBits_lt_of_exponent {b e : Nat} (below : b / 2 ^ 52 ≤ e) :
    unitsOfBits b < 2 ^ 52 * 2 ^ e := by
  have fraction : b % 2 ^ 52 < 2 ^ 52 := Nat.mod_lt _ (by decide)
  unfold unitsOfBits
  dsimp only
  split
  · exact Nat.lt_of_lt_of_le fraction (Nat.le_mul_of_pos_right _ (Nat.two_pow_pos e))
  · next normal =>
    have double : 2 ^ 52 * 2 ^ (b / 2 ^ 52) = 2 ^ 53 * 2 ^ (b / 2 ^ 52 - 1) := by
      rw [← Nat.pow_add, ← Nat.pow_add]
      congr 1
      omega
    calc (2 ^ 52 + b % 2 ^ 52) * 2 ^ (b / 2 ^ 52 - 1)
        < 2 ^ 53 * 2 ^ (b / 2 ^ 52 - 1) :=
          Nat.mul_lt_mul_of_pos_right (by omega) (Nat.two_pow_pos _)
      _ = 2 ^ 52 * 2 ^ (b / 2 ^ 52) := double.symm
      _ ≤ 2 ^ 52 * 2 ^ e :=
          Nat.mul_le_mul_left _ (Nat.pow_le_pow_right (by decide) below)

theorem le_unitsOfBits_of_exponent {b e : Nat} (above : e < b / 2 ^ 52) :
    2 ^ 52 * 2 ^ e ≤ unitsOfBits b := by
  unfold unitsOfBits
  dsimp only
  rw [if_neg (by omega)]
  exact Nat.mul_le_mul (by omega) (Nat.pow_le_pow_right (by decide) (by omega))

/-- Greater magnitudes are more units. -/
theorem unitsOfBits_lt {a b : Nat} (less : a < b) : unitsOfBits a < unitsOfBits b := by
  rcases Nat.lt_or_eq_of_le (Nat.div_le_div_right (c := 2 ^ 52) (Nat.le_of_lt less)) with
    below | same
  · exact Nat.lt_of_lt_of_le (unitsOfBits_lt_of_exponent (Nat.le_refl _))
      (le_unitsOfBits_of_exponent below)
  · have fractions : a % 2 ^ 52 < b % 2 ^ 52 := by omega
    unfold unitsOfBits
    dsimp only
    rw [same]
    split
    · exact fractions
    · exact Nat.mul_lt_mul_of_pos_right (by omega) (Nat.two_pow_pos _)

/-- Units tell the magnitude. -/
theorem unitsOfBits_inj {a b : Nat} (same : unitsOfBits a = unitsOfBits b) : a = b := by
  rcases Nat.lt_trichotomy a b with less | equal | greater
  · exact absurd same (Nat.ne_of_lt (unitsOfBits_lt less))
  · exact equal
  · exact absurd same.symm (Nat.ne_of_lt (unitsOfBits_lt greater))

/-! ## Parts -/

/-- A float is told by its sign and its magnitude. -/
theorem eq_of_parts {x y : Binary64} (signs : x.negative = y.negative)
    (magnitudes : x.magnitudeBits = y.magnitudeBits) : x = y := by
  obtain ⟨a⟩ := x
  obtain ⟨b⟩ := y
  have small : a.toNat < 2 ^ 64 := a.toNat_lt
  have small' : b.toNat < 2 ^ 64 := b.toNat_lt
  simp only [negative, magnitudeBits, decide_eq_decide] at signs magnitudes
  have same : a.toNat = b.toNat := by omega
  rw [UInt64.toNat_inj.1 same]

/-- The magnitude is the one a float was made with. -/
theorem magnitudeBits_ofParts {sign : Bool} {magnitude : Nat} (small : magnitude < 2 ^ 63) :
    (ofParts sign magnitude).magnitudeBits = magnitude := by
  unfold ofParts magnitudeBits
  rw [UInt64.toNat_ofNat']
  cases sign <;> simp only [reduceIte, Bool.false_eq_true] <;> omega

theorem isFinite_ofParts {sign : Bool} {magnitude : Nat} (finite : magnitude < infinityBits) :
    (ofParts sign magnitude).isFinite = true := by
  rw [isFinite, magnitudeBits_ofParts (Nat.lt_trans finite (by decide))]
  exact decide_eq_true finite

theorem roundUnits_le (num den : Nat) : roundUnits num den ≤ infinityBits :=
  Nat.min_le_right _ _

/-- Rounding a ratio gives a number. -/
theorem isNaN_ofRatio (sign : Bool) (num den : Nat) : (ofRatio sign num den).isNaN = false := by
  have bounded := roundUnits_le (num * 2 ^ 1074) den
  have small : roundUnits (num * 2 ^ 1074) den < 2 ^ 63 :=
    Nat.lt_of_le_of_lt bounded (by decide)
  rw [isNaN, ofRatio, magnitudeBits_ofParts small]
  exact decide_eq_false (Nat.not_lt.2 bounded)

/-- Rounding an integer gives a number. -/
theorem isNaN_ofInt (n : Int) : (ofInt n).isNaN = false :=
  isNaN_ofRatio _ _ _

/-! ## Integers -/

theorem roundDiv_le (num den : Nat) : roundDiv num den ≤ num / den + 1 := by
  unfold roundDiv
  dsimp only
  split <;> omega

/-- What is small enough is not rounded to an infinity. -/
theorem roundUnits_lt {num e : Nat} (small : num < 2 ^ e) (bounded : e ≤ 2000) :
    roundUnits num 1 < infinityBits := by
  have log : num.log2 ≤ 2000 := by
    by_cases zero : num = 0
    · subst zero
      decide
    · exact Nat.le_trans (Nat.le_of_lt ((Nat.log2_lt zero).2 small)) bounded
  have cut : num / 2 ^ (num.log2 - 52) < 2 ^ 53 := by
    rw [Nat.div_lt_iff_lt_mul (Nat.two_pow_pos _), ← Nat.pow_add]
    calc num < 2 ^ (num.log2 + 1) := Nat.lt_log2_self
      _ ≤ 2 ^ (53 + (num.log2 - 52)) := Nat.pow_le_pow_right (by decide) (by omega)
  have rounded := roundDiv_le num (2 ^ (num.log2 - 52))
  have infinity : infinityBits = 2047 * 2 ^ 52 := rfl
  unfold roundUnits
  dsimp only
  rw [Nat.div_one, Nat.one_mul]
  refine Nat.lt_of_le_of_lt (Nat.min_le_left _ _) ?_
  omega

theorem mul_two_pow_lt {a b e : Nat} (less : a < 2 ^ b) : a * 2 ^ e < 2 ^ (b + e) := by
  rw [Nat.pow_add]
  exact Nat.mul_lt_mul_of_pos_right less (Nat.two_pow_pos e)

/-- The float nearest an integer of 64 bits, with or without a sign, is finite. -/
theorem isFinite_ofInt_of_lt {n : Int} (small : n.natAbs < 2 ^ 64) :
    (ofInt n).isFinite = true := by
  have finite : roundUnits (n.natAbs * 2 ^ 1074) 1 < infinityBits :=
    roundUnits_lt (mul_two_pow_lt small) (by decide)
  exact isFinite_ofParts finite

/-- Integers of 64 bits are finite floats. -/
theorem isFinite_ofInt (n : Int64) : (ofInt n.toInt).isFinite = true := by
  have least := n.le_toInt
  have greatest := n.toInt_lt
  exact isFinite_ofInt_of_lt (by omega)

theorem isFinite_infinity : infinity.isFinite = false := by
  decide

theorem isFinite_negInfinity : negInfinity.isFinite = false := by
  decide

/-- A number that is not finite is one of the two infinities. -/
theorem eq_infinity_or_negInfinity {x : Binary64} (number : x.isNaN = false)
    (infinite : x.isFinite = false) : x = .infinity ∨ x = .negInfinity := by
  simp only [isNaN, isFinite, decide_eq_false_iff_not, Nat.not_lt] at number infinite
  have magnitude : x.magnitudeBits = infinityBits := Nat.le_antisymm number infinite
  cases sign : x.negative with
  | false => exact .inl (eq_of_parts sign magnitude)
  | true => exact .inr (eq_of_parts sign magnitude)

/-! ## Comparison -/

/-- Numbers that compare as equal are the same, or zeros of either sign. -/
theorem eq_or_zero_of_eqNumber {x y : Binary64} (same : x.eqNumber y = true) :
    x = y ∨ (x.magnitudeBits = 0 ∧ y.magnitudeBits = 0) := by
  have zero : unitsOfBits 0 = 0 := rfl
  simp only [eqNumber, Bool.and_eq_true, decide_eq_true_eq] at same
  have units := same.2
  unfold Binary64.units at units
  by_cases signs : x.negative = y.negative
  · refine .inl (eq_of_parts signs (unitsOfBits_inj ?_))
    rw [signs] at units
    split at units <;> omega
  · have both : unitsOfBits x.magnitudeBits = 0 ∧ unitsOfBits y.magnitudeBits = 0 := by
      cases negative : x.negative <;> cases negative' : y.negative <;>
        simp_all only [reduceIte, Bool.false_eq_true, not_true_eq_false] <;> omega
    exact .inr ⟨unitsOfBits_inj (both.1.trans zero.symm), unitsOfBits_inj (both.2.trans zero.symm)⟩

/-- Nothing else compares as equal to a number that is not zero. -/
theorem eqNumber_iff_of_ne_zero {x y : Binary64} (number : y.isNaN = false)
    (nonzero : y.magnitudeBits ≠ 0) : x.eqNumber y = true ↔ x = y := by
  constructor
  · intro same
    exact (eq_or_zero_of_eqNumber same).resolve_right fun zeros => nonzero zeros.2
  · rintro rfl
    simp [eqNumber, number]

theorem eqNumber_infinity_iff {x : Binary64} : x.eqNumber .infinity = true ↔ x = .infinity :=
  eqNumber_iff_of_ne_zero (by decide) (by decide)

theorem eqNumber_negInfinity_iff {x : Binary64} :
    x.eqNumber .negInfinity = true ↔ x = .negInfinity :=
  eqNumber_iff_of_ne_zero (by decide) (by decide)

theorem eqNumber_self_of_eqNumber {x y : Binary64} (same : x.eqNumber y = true) :
    x.eqNumber x = true := by
  simp only [eqNumber, Bool.and_eq_true, decide_eq_true_eq] at same ⊢
  exact ⟨⟨same.1.1, same.1.1⟩, trivial⟩

/-- What compares as equal to a finite number is finite. -/
theorem isFinite_of_eqNumber {x y : Binary64} (same : x.eqNumber y = true)
    (finite : y.isFinite = true) : x.isFinite = true := by
  rcases eq_or_zero_of_eqNumber same with rfl | ⟨zero, -⟩
  · exact finite
  · rw [isFinite, zero]
    decide

end DocumentSchema.Binary64

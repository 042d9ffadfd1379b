import DocumentSchema.Range.Temporal

/-!
The lengths of offsets.

An offset is counted in 64 signed bits, step by step. `OffsetUnit.offset?_eq_some_iff` says that the
count is exact, and that there is none exactly if it would be too long.
-/

namespace DocumentSchema

namespace Checked

variable {a b c : Int64}

theorem product?_eq_some_iff : product? a b = some c ↔ c.toInt = a.toInt * b.toInt := by
  have least := c.le_toInt
  have greatest := c.toInt_lt
  unfold product?
  dsimp only
  generalize a.toInt * b.toInt = product
  split
  · next fits =>
    rw [Option.some.injEq, ← Int64.toInt_inj, Int64.toInt_ofInt_of_le (by omega) fits.2, eq_comm]
  · next beyond =>
    simp only [reduceCtorEq, false_iff]
    omega

theorem toInt_eq_least_iff : a = .minValue ↔ a.toInt = -(2 ^ 63) := by
  rw [← Int64.toInt_inj, Int64.toInt_minValue]

theorem magnitude?_eq_some_iff : magnitude? a = some c ↔ c.toInt = a.toInt.natAbs := by
  have least := a.le_toInt
  have greatest := a.toInt_lt
  have greatest' := c.toInt_lt
  unfold magnitude?
  split
  · next isLeast =>
    rw [toInt_eq_least_iff] at isLeast
    simp only [reduceCtorEq, false_iff]
    omega
  · next notLeast =>
    rw [toInt_eq_least_iff] at notLeast
    rw [Option.some.injEq, ← Int64.toInt_inj]
    split
    · next negative =>
      have below : a.toInt < 0 := Int64.lt_iff_toInt_lt.1 negative
      have fits : (-a.toInt).bmod (2 ^ 64) = -a.toInt := by
        apply Int.bmod_eq_of_le <;> omega
      rw [Int64.toInt_neg, fits]
      omega
    · next notNegative =>
      have above : ¬a.toInt < 0 := fun below => notNegative (Int64.lt_iff_toInt_lt.2 below)
      omega

end Checked

namespace OffsetUnit

variable {unit : OffsetUnit} {amount : Int64} {seconds : Int}

/-- The lengths in seconds that a duration may have: its milliseconds fit 64 signed bits, with
either sign. -/
def IsDuration (seconds : Int) : Prop :=
  (1000 * seconds).natAbs < 2 ^ 63

theorem toInt_ofInt_length (unit : OffsetUnit) : (Int64.ofInt unit.length).toInt = unit.length := by
  cases unit <;> rfl

theorem le_maxOffset_iff {magnitude : Int64} (same : magnitude.toInt = seconds.natAbs) :
    magnitude ≤ maxOffset ↔ IsDuration seconds := by
  have greatest : maxOffset.toInt = 9223372036854775 := by decide
  rw [Int64.le_iff_toInt_le, greatest, same]
  unfold IsDuration
  omega

/-- The seconds of an offset are its amount times its unit, whatever the amount, wherever that is
the length of a duration. -/
theorem offset?_eq_some_iff :
    unit.offset? amount = some seconds ↔
      seconds = amount.toInt * unit.length ∧ IsDuration seconds := by
  constructor
  · intro offset
    obtain ⟨product, isProduct, offset⟩ := Option.bind_eq_some_iff.1 offset
    obtain ⟨magnitude, isMagnitude, offset⟩ := Option.bind_eq_some_iff.1 offset
    rw [Checked.product?_eq_some_iff, toInt_ofInt_length] at isProduct
    rw [Checked.magnitude?_eq_some_iff] at isMagnitude
    split at offset
    · next short =>
      cases offset
      exact ⟨isProduct, (le_maxOffset_iff isMagnitude).1 short⟩
    · cases offset
  · rintro ⟨exact, duration⟩
    have small : seconds.natAbs < 2 ^ 63 := by
      unfold IsDuration at duration
      omega
    have isProduct : (Int64.ofInt seconds).toInt = seconds :=
      Int64.toInt_ofInt_of_le (by omega) (by omega)
    have isMagnitude : (Int64.ofInt seconds.natAbs).toInt = seconds.natAbs :=
      Int64.toInt_ofInt_of_le (by omega) (by omega)
    have product : Checked.product? amount (.ofInt unit.length) = some (.ofInt seconds) := by
      rw [Checked.product?_eq_some_iff, toInt_ofInt_length, isProduct, exact]
    have magnitude :
        Checked.magnitude? (.ofInt seconds) = some (.ofInt seconds.natAbs) := by
      rw [Checked.magnitude?_eq_some_iff, isProduct, isMagnitude]
    have short : Int64.ofInt seconds.natAbs ≤ maxOffset := (le_maxOffset_iff isMagnitude).2 duration
    simp only [offset?, product, magnitude, Option.bind_eq_bind, Option.bind_some, if_pos short,
      isProduct]

end OffsetUnit

end DocumentSchema

import DocumentSchema.Proofs.Text.Hex
import Mathlib.Data.String.Basic

/-!
Identifiers and their texts in order.

The texts of identifiers are exactly the runs of twenty-four lower-case hexadecimal digits
(`exists_ofText?_iff`), each of one identifier. A byte and a greater one differ in a digit that is
greater, the high one first, so that identifiers are in the order of their texts
(`isLE_compare_iff`). New identifiers begin with the time they are made at, and so are in the order
of these times (`compare_minted`).
-/

namespace DocumentSchema

namespace Text

variable {a b : UInt8} {as bs : List UInt8}

/-! ## Order -/

/-- Digits are in the order of their numbers. -/
theorem hexDigit_lt_iff : ∀ m n : Fin 16, hexDigit m < hexDigit n ↔ m < n := by
  decide

theorem hexDigit_eq_iff : ∀ m n : Fin 16, hexDigit m = hexDigit n ↔ m = n := by
  decide

/-- Texts that begin with a byte each compare by these, and then by the bytes that follow. -/
theorem hexOfBytes_cons_lt_iff :
    hexOfBytes (a :: as) < hexOfBytes (b :: bs) ↔
      a < b ∨ a = b ∧ hexOfBytes as < hexOfBytes bs := by
  have smallA : a.toNat < 256 := a.toNat_lt
  have smallB : b.toNat < 256 := b.toNat_lt
  have highLess := hexDigit_lt_iff ⟨a.toNat / 16, by omega⟩ ⟨b.toNat / 16, by omega⟩
  have highSame := hexDigit_eq_iff ⟨a.toNat / 16, by omega⟩ ⟨b.toNat / 16, by omega⟩
  have lowLess := hexDigit_lt_iff ⟨a.toNat % 16, by omega⟩ ⟨b.toNat % 16, by omega⟩
  have lowSame := hexDigit_eq_iff ⟨a.toNat % 16, by omega⟩ ⟨b.toNat % 16, by omega⟩
  simp only [Fin.mk_lt_mk, Fin.mk.injEq] at highLess highSame lowLess lowSame
  rw [hexOfBytes, hexOfBytes, List.cons_lt_cons_iff, List.cons_lt_cons_iff, highLess, highSame,
    lowLess, lowSame, UInt8.lt_iff_toNat_lt, ← UInt8.toNat_inj, and_or_left, ← or_assoc,
    ← and_assoc]
  exact or_congr (by omega) (and_congr_left fun _ => by omega)

end Text

namespace ObjectId

/-! ## Texts of identifiers -/

/-- The texts that are read are those that pass the check. -/
theorem exists_ofText?_iff (text : String) :
    (∃ i, ofText? text = some i) ↔
      text.toList.length = 24 ∧ ∀ c ∈ text.toList, Text.IsHexDigit c := by
  constructor
  · rintro ⟨i, read⟩
    rw [← hex_of_ofText? read]
    exact ⟨i.length_hex, fun c => isHexDigit_of_mem_hex⟩
  · intro written
    obtain ⟨bytes, read, length⟩ := (Text.exists_bytesOfHex?_iff 12).2 written
    refine ⟨⟨bytes, length⟩, ?_⟩
    rw [ofText?_eq_bind, read, Option.bind_some, ofBytes?, dif_pos length]

theorem ofText?_eq_some_iff {text : String} {i : ObjectId} :
    ofText? text = some i ↔ i.hex = text := by
  constructor
  · exact hex_of_ofText?
  · rintro rfl
    exact ofText?_hex i

/-! ## Order -/

variable {as bs : List UInt8}

/-- Bytes compare greater exactly if their digits do. -/
theorem go_eq_gt_iff : compare.go as bs = .gt ↔ Text.hexOfBytes bs < Text.hexOfBytes as := by
  induction as generalizing bs with
  | nil => cases bs <;> simp [compare.go, Text.hexOfBytes]
  | cons a as ih =>
    cases bs with
    | nil => simp [compare.go, Text.hexOfBytes]
    | cons b bs =>
      rw [compare.go, Text.hexOfBytes_cons_lt_iff]
      by_cases same : a = b
      · subst same
        simp [UInt8.lt_irrefl, ih]
      · rcases UInt8.lt_or_lt_of_ne same with less | greater
        · simp [less, UInt8.lt_asymm less, Ne.symm same]
        · simp [greater, UInt8.lt_asymm greater]

/-- Identifiers are in the order of their texts. -/
theorem isLE_compare_iff (a b : ObjectId) : (compare a b).isLE = true ↔ a.hex ≤ b.hex := by
  have isLE : (compare a b).isLE = true ↔ compare a b ≠ .gt := by
    cases compare a b <;> decide
  rw [isLE, ← String.not_lt, String.lt_iff_toList_lt, hex, hex, String.toList_ofList,
    String.toList_ofList]
  exact not_congr go_eq_gt_iff

/-! ## New identifiers -/

/-- Numbers below `2 ^ 32` are in the order of their bytes, whatever bytes follow. -/
theorem go_fourBytes {m n : Nat} (less : m < n) (small : n < 2 ^ 32) :
    compare.go (fourBytes m ++ as) (fourBytes n ++ bs) = .lt := by
  simp only [fourBytes, List.cons_append, List.nil_append, compare.go, UInt8.lt_iff_toNat_lt,
    UInt8.toNat_ofNat']
  -- the first byte that differs is less, and there is one
  split_ifs <;> first | rfl | omega

/-- Identifiers that are made later, in the seconds that four bytes count, come later. -/
theorem compare_minted {earlier later : Int} (first : 0 ≤ earlier) (less : earlier < later)
    (last : later < 2 ^ 32) (random random' : Vector UInt8 8) :
    compare (minted earlier random) (minted later random') = .lt :=
  go_fourBytes (by omega) (by omega)

/-- Texts of identifiers are exactly the runs of twenty-four lower-case hexadecimal digits. Each is
the text of the one identifier that it is read as, and identifiers are in the order of their
texts. -/
theorem hex_lawful :
    (∀ text, (∃ i, ofText? text = some i) ↔
      text.toList.length = 24 ∧ ∀ c ∈ text.toList, Text.IsHexDigit c) ∧
    (∀ text i, ofText? text = some i ↔ i.hex = text) ∧
    ∀ a b, (compare a b).isLE = true ↔ a.hex ≤ b.hex :=
  ⟨exists_ofText?_iff, fun _ _ => ofText?_eq_some_iff, isLE_compare_iff⟩

end ObjectId

end DocumentSchema

import DocumentSchema.Proofs.Numeric.Order
import DocumentSchema.Proofs.Traversal
import DocumentSchema.Proofs.Value.Parts

/-!
Values that differ in the signs of zeros only.

`Value.Alike` is sameness of values once the sign of every zero is dropped. It lies between the two
equalities of values: a NaN is like itself, and values that the program takes for equal are alike
(`Value.alike_of_equal`).
-/

namespace DocumentSchema

/-- The number, or positive zero for a zero of either sign. -/
def Binary64.unsignZero (x : Binary64) : Binary64 :=
  if x.magnitudeBits = 0 then .zero else x

theorem Binary64.unsignZero_eq_of_eqNumber {x y : Binary64} (same : x.eqNumber y = true) :
    x.unsignZero = y.unsignZero := by
  rcases eq_or_zero_of_eqNumber same with rfl | ⟨left, right⟩
  · rfl
  · rw [unsignZero, unsignZero, if_pos left, if_pos right]

namespace Value

/-! ## Equality part by part -/

theorem equalList_iff {as bs : List Value} :
    equalList as bs = true ↔ List.Forall₂ (fun a b => a.equal b = true) as bs := by
  induction as generalizing bs with
  | nil => cases bs <;> simp [equalList]
  | cons a as ih => cases bs <;> simp [equalList, ih]

theorem equalEntries_iff {as bs : List (String × Value)} :
    equalEntries as bs = true ↔
      List.Forall₂ (fun a b => a.1 = b.1 ∧ a.2.equal b.2 = true) as bs := by
  induction as generalizing bs with
  | nil => cases bs <;> simp [equalEntries]
  | cons a as ih =>
    cases bs with
    | nil => simp [equalEntries]
    | cons b bs => simp [equalEntries, ih]

theorem eq_of_equal_str {v : Value} {text : String} (same : v.equal (.str text) = true) :
    v = .str text := by
  cases v with
  | str other => simpa [equal] using same
  | _ => simp [equal] at same

theorem eq_of_str_equal {v : Value} {text : String} (same : (Value.str text).equal v = true) :
    v = .str text := by
  cases v with
  | str other => rw [beq_iff_eq.1 same]
  | _ => simp [equal] at same

theorem eq_of_int_equal {v : Value} {n : Int64} (same : (Value.int n).equal v = true) :
    v = .int n := by
  cases v with
  | int other => rw [beq_iff_eq.1 same]
  | _ => simp [equal] at same

/-- What equals some value equals itself: there is no NaN in it. -/
theorem equal_self_of_equal {a b : Value} (same : a.equal b = true) : a.equal a = true := by
  induction a using byParts generalizing b with
  | step a ih =>
    cases a with
    | float x =>
      cases b with
      | float y =>
        rw [equal] at same ⊢
        exact Binary64.eqNumber_self_of_eqNumber same
      | _ => simp [equal] at same
    | list items =>
      cases b with
      | list others =>
        rw [equal] at same ⊢
        refine equalList_iff.2 (List.forall₂_same.2 fun item member => ?_)
        obtain ⟨other, held⟩ : ∃ other, item.equal other = true := by
          obtain ⟨i, bound, rfl⟩ := List.mem_iff_getElem.1 member
          have pairs := equalList_iff.1 same
          exact ⟨_, pairs.get bound (pairs.length_eq ▸ bound)⟩
        exact ih item member held
      | _ => simp [equal] at same
    | map entries =>
      cases b with
      | map others =>
        rw [equal] at same ⊢
        refine equalEntries_iff.2 (List.forall₂_same.2 fun entry member => ⟨rfl, ?_⟩)
        obtain ⟨other, held⟩ : ∃ other, entry.2.equal other = true := by
          obtain ⟨i, bound, rfl⟩ := List.mem_iff_getElem.1 member
          have pairs := equalEntries_iff.1 same
          exact ⟨_, (pairs.get bound (pairs.length_eq ▸ bound)).2⟩
        exact ih entry.2 (List.mem_map_of_mem member) held
      | _ => simp [equal] at same
    | _ => simp [equal]

/-! ## Signs of zeros -/

mutual

/-- The value with the sign of every zero in it dropped. -/
def unsignZeros : Value → Value
  | .float x => .float x.unsignZero
  | .list items => .list (unsignZerosList items)
  | .map entries => .map (unsignZerosEntries entries)
  | .null => .null
  | .bool flag => .bool flag
  | .int number => .int number
  | .str text => .str text
  | .bytes content => .bytes content
  | .id identifier => .id identifier
termination_by structural x => x

/-- The values of a list with the signs of zeros dropped. -/
def unsignZerosList : List Value → List Value
  | [] => []
  | item :: rest => unsignZeros item :: unsignZerosList rest
termination_by structural x => x

/-- The values of a dictionary with the signs of zeros dropped. -/
def unsignZerosEntries : List (String × Value) → List (String × Value)
  | [] => []
  | (key, value) :: rest => (key, unsignZeros value) :: unsignZerosEntries rest
termination_by structural x => x

end

theorem unsignZerosList_eq (items : List Value) :
    unsignZerosList items = items.map unsignZeros := by
  induction items with
  | nil => rfl
  | cons item rest ih => rw [unsignZerosList, ih, List.map_cons]

theorem unsignZerosEntries_eq (entries : List (String × Value)) :
    unsignZerosEntries entries = Entries.mapValues unsignZeros entries := by
  induction entries with
  | nil => rfl
  | cons entry rest ih =>
    rw [unsignZerosEntries, ih]
    rfl

/-- Values that are the same but for the signs of zeros. -/
def Alike (a b : Value) : Prop :=
  a.unsignZeros = b.unsignZeros

theorem Alike.refl (a : Value) : a.Alike a :=
  rfl

theorem Alike.symm {a b : Value} (alike : a.Alike b) : b.Alike a :=
  Eq.symm alike

theorem Alike.trans {a b c : Value} (left : a.Alike b) (right : b.Alike c) : a.Alike c :=
  Eq.trans left right

theorem alike_list {as bs : List Value} (alike : List.Forall₂ Alike as bs) :
    (Value.list as).Alike (.list bs) := by
  rw [Alike, unsignZeros, unsignZeros, unsignZerosList_eq, unsignZerosList_eq]
  congr 1
  induction alike with
  | nil => rfl
  | cons here _ ih => rw [List.map_cons, List.map_cons, ih, here]

theorem alike_map {as bs : List (String × Value)}
    (alike : List.Forall₂ (fun a b => a.1 = b.1 ∧ a.2.Alike b.2) as bs) :
    (Value.map as).Alike (.map bs) := by
  rw [Alike, unsignZeros, unsignZeros, unsignZerosEntries_eq, unsignZerosEntries_eq]
  congr 1
  induction alike with
  | nil => rfl
  | cons here _ ih =>
    simp only [Entries.mapValues, List.map_cons] at ih ⊢
    rw [ih, here.1, here.2]

theorem alike_of_equal {a b : Value} (same : a.equal b = true) : a.Alike b := by
  induction a using byParts generalizing b with
  | step a ih =>
    cases a with
    | float x =>
      cases b with
      | float y =>
        rw [equal] at same
        rw [Alike, unsignZeros, unsignZeros, Binary64.unsignZero_eq_of_eqNumber same]
      | _ => simp [equal] at same
    | list items =>
      cases b with
      | list others =>
        rw [equal] at same
        have pairs := equalList_iff.1 same
        refine alike_list (List.forall₂_iff_get.2 ⟨pairs.length_eq, fun i bound bound' => ?_⟩)
        exact ih _ (List.get_mem items ⟨i, bound⟩) (pairs.get bound bound')
      | _ => simp [equal] at same
    | map entries =>
      cases b with
      | map others =>
        rw [equal] at same
        have pairs := equalEntries_iff.1 same
        refine alike_map (List.forall₂_iff_get.2 ⟨pairs.length_eq, fun i bound bound' => ?_⟩)
        have here := pairs.get bound bound'
        exact ⟨here.1, ih _ (List.mem_map_of_mem (List.get_mem entries ⟨i, bound⟩)) here.2⟩
      | _ => simp [equal] at same
    | _ => cases b <;> simp_all [equal, Alike]

end Value

end DocumentSchema

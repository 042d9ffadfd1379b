import DocumentSchema.Json.Basic
import DocumentSchema.Proofs.Value.Parts

/-!
Values that survive their JSON form.

JSON has neither bytes nor identifiers nor infinite numbers. A value in which none of them occurs is
had back from its JSON form, floats with the same bits, and no other value is
(`Value.toValue_toJson_eq_iff`).
-/

namespace DocumentSchema

namespace Json

/-- The integers of 64 signed bits. -/
theorem fitsInt64_iff {n : Int} : fitsInt64 n = true ↔ -(2 ^ 63) ≤ n ∧ n < 2 ^ 63 := by
  rw [fitsInt64, Bool.and_eq_true, decide_eq_true_eq, decide_eq_true_eq]

theorem toValues_eq (items : List Json) : toValues items = items.map toValue := by
  induction items with
  | nil => rfl
  | cons item rest ih => rw [toValues, ih, List.map_cons]

theorem toEntries_eq (members : List (String × Json)) :
    toEntries members = Entries.mapValues toValue members := by
  induction members with
  | nil => rfl
  | cons member rest ih =>
    rw [toEntries, ih]
    rfl

end Json

namespace Value

/-- JSON has values of this type, and the number, if it is one. -/
def InJson : Value → Prop
  | .bytes _ => False
  | .id _ => False
  | .float x => x.isFinite = true
  | _ => True

/-- At no depth are there bytes, an identifier, an infinity or a NaN. -/
def JsonFaithful (v : Value) : Prop :=
  ∀ part, Occurs part v → part.InJson

variable {v part : Value}

/-- A value that survives its JSON form has one. -/
theorem JsonFaithful.here (faithful : v.JsonFaithful) : v.InJson :=
  faithful v .here

/-- What occurs in a value that survives its JSON form survives it too. -/
theorem JsonFaithful.ofOccurs (faithful : v.JsonFaithful) (occurs : Occurs part v) :
    part.JsonFaithful :=
  fun inner deeper => faithful inner (deeper.trans occurs)

/-- A value survives its JSON form if it has one and its parts survive theirs. -/
theorem jsonFaithful_iff : v.JsonFaithful ↔ v.InJson ∧ ∀ part ∈ v.parts, part.JsonFaithful := by
  constructor
  · intro faithful
    exact ⟨faithful.here, fun part member => faithful.ofOccurs (.inside member .here)⟩
  · intro h part occurs
    obtain ⟨self, others⟩ := h
    cases occurs with
    | here => exact self
    | inside member deeper => exact others _ member part deeper

/-- A value without parts survives its JSON form if it has one. -/
theorem jsonFaithful_of_leaf (leaf : v.parts = []) : v.JsonFaithful ↔ v.InJson := by
  rw [jsonFaithful_iff, leaf]
  exact and_iff_left fun _ member => by cases member

@[simp]
theorem jsonFaithful_null : Value.null.JsonFaithful :=
  (jsonFaithful_of_leaf rfl).2 trivial

@[simp]
theorem jsonFaithful_bool (flag : Bool) : (Value.bool flag).JsonFaithful :=
  (jsonFaithful_of_leaf rfl).2 trivial

@[simp]
theorem jsonFaithful_int (n : Int64) : (Value.int n).JsonFaithful :=
  (jsonFaithful_of_leaf rfl).2 trivial

@[simp]
theorem jsonFaithful_str (text : String) : (Value.str text).JsonFaithful :=
  (jsonFaithful_of_leaf rfl).2 trivial

/-- Finite floats survive their JSON form. -/
@[simp]
theorem jsonFaithful_float {x : Binary64} :
    (Value.float x).JsonFaithful ↔ x.isFinite = true :=
  jsonFaithful_of_leaf rfl

/-- Bytes come back as a text. -/
@[simp]
theorem not_jsonFaithful_bytes (content : List UInt8) : ¬(Value.bytes content).JsonFaithful :=
  fun faithful => faithful.here

/-- Identifiers come back as texts. -/
@[simp]
theorem not_jsonFaithful_id (identifier : ObjectId) : ¬(Value.id identifier).JsonFaithful :=
  fun faithful => faithful.here

/-- A list survives its JSON form if its items do. -/
theorem jsonFaithful_list {items : List Value} :
    (Value.list items).JsonFaithful ↔ ∀ item ∈ items, item.JsonFaithful := by
  rw [jsonFaithful_iff]
  exact and_iff_right trivial

/-- A map survives its JSON form if its values do. -/
theorem jsonFaithful_map {entries : Document} :
    (Value.map entries).JsonFaithful ↔ ∀ entry ∈ entries, entry.2.JsonFaithful := by
  rw [jsonFaithful_iff]
  exact (and_iff_right trivial).trans List.forall_mem_map

/-! ## There and back -/

theorem toJsonItems_eq (items : List Value) : toJsonItems items = items.map toJson := by
  induction items with
  | nil => rfl
  | cons item rest ih => rw [toJsonItems, ih, List.map_cons]

theorem toJsonMembers_eq (entries : Document) :
    toJsonMembers entries = Entries.mapValues toJson entries := by
  induction entries with
  | nil => rfl
  | cons entry rest ih =>
    rw [toJsonMembers, ih]
    rfl

theorem toValues_toJsonItems (items : List Value) :
    Json.toValues (toJsonItems items) = items.map fun item => item.toJson.toValue := by
  rw [toJsonItems_eq, Json.toValues_eq, List.map_map]
  rfl

theorem toEntries_toJsonMembers (entries : Document) :
    Json.toEntries (toJsonMembers entries) =
      entries.map fun entry => (entry.1, entry.2.toJson.toValue) := by
  rw [toJsonMembers_eq, Json.toEntries_eq, Entries.mapValues, Entries.mapValues, List.map_map]
  rfl

/-- Integers of 64 bits fit. -/
theorem fitsInt64_toInt (n : Int64) : Json.fitsInt64 n.toInt = true :=
  Json.fitsInt64_iff.2 ⟨n.le_toInt, n.toInt_lt⟩

/-- Integers survive their JSON form. -/
theorem toValue_toJson_int (n : Int64) : (Value.int n).toJson.toValue = .int n := by
  rw [toJson, Json.toValue, if_pos (fitsInt64_toInt n), Int64.ofInt_toInt]

/-- A list that no element of which is changed is not changed, and no other. -/
theorem map_eq_self_iff {α : Type} {f : α → α} {xs : List α} :
    xs.map f = xs ↔ ∀ x ∈ xs, f x = x := by
  induction xs with
  | nil => simp
  | cons x xs ih => simp [ih]

/-- Exactly the values without bytes, identifiers and numbers that are not finite are had back from
their JSON form. -/
theorem toValue_toJson_eq_iff : v.toJson.toValue = v ↔ v.JsonFaithful := by
  induction v using byParts with
  | step v ih =>
    cases v with
    | int n => simp [toValue_toJson_int]
    | float x => cases finite : x.isFinite <;> simp [toJson, Json.toValue, finite]
    | list items =>
      rw [toJson, Json.toValue, toValues_toJsonItems, Value.list.injEq, map_eq_self_iff,
        jsonFaithful_list]
      exact forall₂_congr ih
    | map entries =>
      rw [toJson, Json.toValue, toEntries_toJsonMembers, Value.map.injEq, map_eq_self_iff,
        jsonFaithful_map]
      refine forall₂_congr fun entry member => ?_
      rw [← ih entry.2 (List.mem_map_of_mem member), Prod.ext_iff]
      exact and_iff_right rfl
    | _ => simp [toJson, Json.toValue]

/-- What is had from a JSON form is faithful, whatever it was made from. -/
theorem jsonFaithful_toValue_toJson (v : Value) : v.toJson.toValue.JsonFaithful := by
  induction v using byParts with
  | step v ih =>
    cases v with
    | int n => simp [toValue_toJson_int]
    | float x => cases finite : x.isFinite <;> simp [toJson, Json.toValue, finite]
    | list items =>
      rw [toJson, Json.toValue, toValues_toJsonItems, jsonFaithful_list, List.forall_mem_map]
      exact ih
    | map entries =>
      rw [toJson, Json.toValue, toEntries_toJsonMembers, jsonFaithful_map, List.forall_mem_map]
      exact fun entry member => ih entry.2 (List.mem_map_of_mem member)
    | _ => simp [toJson, Json.toValue]

end Value

end DocumentSchema

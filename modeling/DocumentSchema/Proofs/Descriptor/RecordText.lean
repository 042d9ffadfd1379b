import DocumentSchema.Proofs.Descriptor.JsonImage
import DocumentSchema.Proofs.Json.RoundTrip
import DocumentSchema.Proofs.Value.Order

/-!
Records in JSON text.

A JSON text is read back when the names in its objects ascend and its numbers are read back. The
names ascend in every record of a well-formed descriptor whose own values are ordered
(`Descriptor.ordered_toRecord`), and integers are always read back, so that only the floats in a
record can differ from what was written (`Value.numbersReadBack_toJson`).
-/

namespace DocumentSchema

/-! ## Ordered values in JSON -/

namespace Json

theorem itemsOrdered_iff {items : List Json} :
    ItemsOrdered items ↔ ∀ item ∈ items, item.Ordered := by
  induction items with
  | nil => simp [ItemsOrdered]
  | cons item rest ih => simp [ItemsOrdered, ih]

theorem membersOrdered_iff {members : List (String × Json)} :
    MembersOrdered members ↔ ∀ member ∈ members, member.2.Ordered := by
  induction members with
  | nil => simp [MembersOrdered]
  | cons member rest ih => simp [MembersOrdered, ih]

theorem itemsReadBack_iff {items : List Json} :
    ItemsReadBack items ↔ ∀ item ∈ items, item.NumbersReadBack := by
  induction items with
  | nil => simp [ItemsReadBack]
  | cons item rest ih => simp [ItemsReadBack, ih]

theorem membersReadBack_iff {members : List (String × Json)} :
    MembersReadBack members ↔ ∀ member ∈ members, member.2.NumbersReadBack := by
  induction members with
  | nil => simp [MembersReadBack]
  | cons member rest ih => simp [MembersReadBack, ih]

end Json

namespace Value

variable {v : Value} {items : List Value} {entries : Document}

theorem ordered_toJson (ordered : v.Ordered) : v.toJson.Ordered := by
  induction v using byParts with
  | step v ih =>
    cases v with
    | list items =>
      rw [toJson, Json.Ordered, toJsonItems_eq, Json.itemsOrdered_iff, List.forall_mem_map]
      exact fun item member => ih item member (ordered.ofItem member)
    | map entries =>
      rw [toJson, Json.Ordered, toJsonMembers_eq, Json.membersOrdered_iff, Entries.mapValues,
        List.forall_mem_map]
      exact ⟨ordered.ascending.of_keys_eq (Entries.keys_mapValues toJson entries),
        fun entry member => ih entry.2 (List.mem_map_of_mem member) (ordered.ofEntry member)⟩
    | float x => cases finite : x.isFinite <;> simp [toJson, finite, Json.Ordered]
    | _ => trivial

/-- At every depth, the floats that are written are read back. -/
def FloatsReadBack (v : Value) : Prop :=
  ∀ x, Occurs (.float x) v → x.isFinite = true → Json.FloatReadsBack x

theorem floatsReadBack_iff : v.FloatsReadBack ↔
    (∀ x, v = .float x → x.isFinite = true → Json.FloatReadsBack x) ∧
      ∀ part ∈ v.parts, part.FloatsReadBack := by
  constructor
  · intro floats
    refine ⟨fun x same finite => floats x ?_ finite, fun part member x occurs => ?_⟩
    · rw [same]
      exact .here
    · exact floats x (.inside member occurs)
  · intro h x occurs finite
    obtain ⟨self, others⟩ := h
    cases occurs with
    | here => exact self x rfl finite
    | inside member deeper => exact others _ member x deeper finite

theorem floatsReadBack_list :
    (Value.list items).FloatsReadBack ↔ ∀ item ∈ items, item.FloatsReadBack := by
  rw [floatsReadBack_iff]
  exact and_iff_right fun _ same => by cases same

theorem floatsReadBack_map :
    (Value.map entries).FloatsReadBack ↔ ∀ entry ∈ entries, entry.2.FloatsReadBack := by
  rw [floatsReadBack_iff]
  exact (and_iff_right fun _ same => by cases same).trans List.forall_mem_map

/-- Where there is no float, all are read back. -/
theorem floatsReadBack_of_leaf (leaf : v.parts = []) (noFloat : ∀ x, v ≠ .float x) :
    v.FloatsReadBack :=
  floatsReadBack_iff.2
    ⟨fun x same => absurd same (noFloat x), fun _ member => by rw [leaf] at member; cases member⟩

@[simp]
theorem floatsReadBack_bool (flag : Bool) : (Value.bool flag).FloatsReadBack :=
  floatsReadBack_of_leaf rfl fun _ same => by cases same

@[simp]
theorem floatsReadBack_str (text : String) : (Value.str text).FloatsReadBack :=
  floatsReadBack_of_leaf rfl fun _ same => by cases same

/-- Integers have 64 signed bits, so that the numbers are read back if the floats are. -/
theorem numbersReadBack_toJson (floats : v.FloatsReadBack) : v.toJson.NumbersReadBack := by
  induction v using byParts with
  | step v ih =>
    cases v with
    | int n => exact fitsInt64_toInt n
    | float x =>
      cases finite : x.isFinite with
      | false => simp [toJson, finite, Json.NumbersReadBack]
      | true =>
        have here := floats x .here finite
        simpa [toJson, finite, Json.NumbersReadBack] using here
    | list items =>
      rw [toJson, Json.NumbersReadBack, toJsonItems_eq, Json.itemsReadBack_iff,
        List.forall_mem_map]
      exact fun item member => ih item member (floatsReadBack_list.1 floats item member)
    | map entries =>
      rw [toJson, Json.NumbersReadBack, toJsonMembers_eq, Json.membersReadBack_iff,
        Entries.mapValues, List.forall_mem_map]
      exact fun entry member => ih entry.2 (List.mem_map_of_mem member)
        (floatsReadBack_map.1 floats entry member)
    | _ => trivial

theorem jsonClosed_ordered : JsonClosed Ordered where
  leaf v leaf _ := by
    cases v with
    | list items =>
      cases (show items = [] from leaf)
      trivial
    | map entries =>
      cases List.map_eq_nil_iff.1 (show entries.map (·.2) = [] from leaf)
      exact ordered_map_iff.2 ⟨List.Pairwise.nil, fun _ member => by cases member⟩
    | _ => trivial
  list _ := ordered_list_iff.2
  map _ ascending each := ordered_map_iff.2 ⟨ascending, each⟩

end Value

/-- The record of a well-formed descriptor is ordered, if its own values are. -/
theorem Descriptor.ordered_toRecord {d : Descriptor} {r : Value} (written : d.toRecord = .ok r)
    (wellFormed : Throughout WellFormed d) (values : d.ForValues Value.Ordered) : r.Ordered :=
  Value.jsonClosed_ordered.toRecord written wellFormed values

end DocumentSchema

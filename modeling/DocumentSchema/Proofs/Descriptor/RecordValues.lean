import DocumentSchema.Proofs.Descriptor.WellFormed
import DocumentSchema.Proofs.Value.JsonForm

/-!
What the records of descriptors are made of.

All values in the record of a well-formed descriptor are of types that JSON has and keep the keys of
maps in order, but for the values of the descriptor itself: the members of its literals and its
fixed defaults. A property that is closed under what JSON has (`Value.JsonClosed`) holds of the
record if it holds of these values (`Value.JsonClosed.toRecord`).
-/

namespace DocumentSchema

/-- At every depth, the members of literals and the fixed defaults have a property. -/
def Descriptor.ForValues (property : Value → Prop) : Descriptor → Prop :=
  Throughout fun part =>
    (∀ members, part.shape = .literal members → ∀ v ∈ members, property v) ∧
      ∀ v, part.default = some (.static v) → property v

namespace Descriptor

variable {d : Descriptor} {v : Value}

/-- What stands alone, and is no literal, has its default for its only value. -/
theorem forValues_of_default {property : Value → Prop} (leaf : d.children = [])
    (noLiteral : ∀ members, d.shape ≠ .literal members) (fixed : d.default = some (.static v)) :
    d.ForValues property ↔ property v := by
  constructor
  · intro values
    exact values.here.2 v fixed
  · intro holds
    refine throughout_of_leaf leaf ⟨fun members literal => absurd literal (noLiteral members), ?_⟩
    intro other same
    rw [fixed] at same
    cases same
    exact holds

theorem storable_of_default (leaf : d.children = []) (unbounded : d.shape.length? = none)
    (fixed : d.default = some (.static v)) : d.Storable := by
  refine throughout_of_leaf leaf ⟨fun name named => ?_, fun range bounded => ?_⟩
  · rw [fixed] at named
    cases named
  · rw [unbounded] at bounded
    cases bounded

end Descriptor

namespace Value

/-- The scalars that JSON has have a property, and lists and maps with ascending keys have it if
what they are made of has it. -/
structure JsonClosed (property : Value → Prop) : Prop where
  leaf : ∀ v, v.parts = [] → v.InJson → property v
  list : ∀ items, (∀ item ∈ items, property item) → property (.list items)
  map : ∀ entries, Entries.Ascending entries → (∀ entry ∈ entries, property entry.2) →
    property (.map entries)

namespace JsonClosed

variable {property : Value → Prop} (closed : JsonClosed property)

include closed

theorem null : property .null :=
  closed.leaf _ rfl trivial

theorem bool (flag : Bool) : property (.bool flag) :=
  closed.leaf _ rfl trivial

theorem int (n : Int64) : property (.int n) :=
  closed.leaf _ rfl trivial

theorem str (text : String) : property (.str text) :=
  closed.leaf _ rfl trivial

theorem texts (texts : List String) : property (ofTexts texts) :=
  closed.list _ (List.forall_mem_map.2 fun text _ => closed.str text)

theorem pair {first second : Value} (holdsFirst : property first) (holdsSecond : property second) :
    property (.list [first, second]) :=
  closed.list _ (List.forall_mem_cons.2 ⟨holdsFirst, List.forall_mem_singleton.2 holdsSecond⟩)

theorem entry (key : String) {v : Value} (holds : property v) : property (.map [(key, v)]) :=
  closed.map _ (List.pairwise_singleton _ _) (List.forall_mem_singleton.2 holds)

/-! ## Parts of records -/

/-- Every bound that is a number has a form in JSON, an infinite one by its name. -/
theorem ofBound {x : Binary64} (number : x.isNaN = false) : property (Record.ofBound x) := by
  unfold Record.ofBound
  simp only [Binary64.eqNumber_infinity_iff, Binary64.eqNumber_negInfinity_iff]
  split
  · exact closed.str _
  · next notInfinity =>
    split
    · exact closed.str _
    · next notNegInfinity =>
      have finite : x.isFinite = true := by
        rw [← Bool.not_eq_false]
        intro infinite
        rcases Binary64.eq_infinity_or_negInfinity number infinite with same | same
        · exact notInfinity same
        · exact notNegInfinity same
      exact closed.leaf _ rfl finite

theorem ofNumericRanges {ranges : List NumericRange}
    (wellFormed : ∀ range ∈ ranges, range.WellFormed) :
    property (Record.ofNumericRanges ranges) := by
  refine closed.list _ (List.forall_mem_map.2 fun range member => ?_)
  obtain ⟨lower, upper, -⟩ := wellFormed range member
  exact closed.pair (closed.ofBound lower) (closed.ofBound upper)

theorem ofTemporalRanges (ranges : List TemporalRange) :
    property (Record.ofTemporalRanges ranges) :=
  closed.list _ (List.forall_mem_map.2 fun _ _ => closed.pair (closed.str _) (closed.str _))

theorem ofLengthRange (length : Option LengthRange) : property (Record.ofLengthRange length) := by
  rcases length with - | ⟨least, - | most⟩
  · exact closed.null
  · exact closed.pair (closed.int _) closed.null
  · exact closed.pair (closed.int _) (closed.int _)

theorem ofDefault {default : Option Default} {value : Value}
    (written : Record.ofDefault default = .ok value)
    (fixed : ∀ v, default = some (.static v) → property v) : property value := by
  rcases default with - | v | name | callback
  · cases written
    exact closed.null
  · cases written
    exact closed.entry _ (fixed v rfl)
  · cases written
    exact closed.entry _ (closed.str name)
  · cases written

/-! ## Records -/

variable {d : Descriptor} {shape : Shape} {m : Document}

theorem toRecords {ds : List Descriptor} {rs : List Value} (written : toRecords ds = .ok rs)
    (inner : ∀ d ∈ ds, ∀ r, d.toRecord = .ok r → property r) : property (.list rs) := by
  refine closed.list _ fun r member => ?_
  obtain ⟨d, held, here⟩ := exists_of_mem_right (Descriptor.toRecords_eq_ok_iff.1 written) member
  exact inner d held r here

/-- The arguments of a shape have the property, if the members of a literal and the records of its
children have it. -/
theorem toArgs (written : shape.toArgs = .ok m) (wellFormed : shape.WellFormed)
    (members : ∀ members, shape = .literal members → ∀ v ∈ members, property v)
    (inner : ∀ child ∈ shape.children, ∀ r, child.toRecord = .ok r → property r) :
    ∀ entry ∈ m, property entry.2 := by
  cases shape with
  | int ranges | float ranges =>
    cases written
    exact List.forall_mem_singleton.2 (closed.ofNumericRanges wellFormed)
  | str pattern =>
    cases written
    cases pattern with
    | none => exact List.forall_mem_singleton.2 closed.null
    | some p => exact List.forall_mem_singleton.2 (closed.str p.source)
  | temporal kind ranges =>
    cases written
    exact List.forall_mem_singleton.2 (closed.ofTemporalRanges ranges)
  | email filter | webUri filter | mailUri filter | telUri filter =>
    cases written
    simp [Record.ofDomains, closed.texts, closed.bool]
  | phone codes =>
    cases written
    exact List.forall_mem_singleton.2 (closed.texts codes)
  | literal values =>
    cases written
    exact List.forall_mem_singleton.2 (closed.list _ (members values rfl))
  | list alternatives length =>
    obtain ⟨records, each, same⟩ := except_bind_eq_ok_iff.1 written
    cases same
    simp [closed.ofLengthRange, closed.toRecords each inner]
  | union alternatives =>
    obtain ⟨records, each, same⟩ := except_bind_eq_ok_iff.1 written
    cases same
    exact List.forall_mem_singleton.2 (closed.toRecords each inner)
  | dict key val required length =>
    obtain ⟨keyRecord, ofKey, written⟩ := except_bind_eq_ok_iff.1 written
    obtain ⟨valRecord, ofVal, same⟩ := except_bind_eq_ok_iff.1 written
    cases same
    have key := inner key (List.mem_pair.2 (.inl rfl)) keyRecord ofKey
    have val := inner val (List.mem_pair.2 (.inr rfl)) valRecord ofVal
    simp [key, val, closed.ofLengthRange, closed.texts]
  | record fields =>
    obtain ⟨entries, each, same⟩ := except_bind_eq_ok_iff.1 written
    cases same
    have matching := Descriptor.toFieldRecords_eq_ok_iff.1 each
    have keys := Entries.keys_eq_of_forall₂ matching fun _ _ here => here.1.symm
    refine List.forall_mem_singleton.2
      (closed.map _ (wellFormed.1.of_keys_eq keys) fun entry member => ?_)
    obtain ⟨field, held, -, here⟩ := exists_of_mem_right matching member
    exact inner field.2 (List.mem_map_of_mem held) entry.2 here
  | custom validator =>
    cases validator with
    | named name =>
      cases written
      exact List.forall_mem_singleton.2 (closed.str name)
    | inline callback => cases written
  | _ =>
    cases written
    exact fun _ member => by cases member

/-- The record of a well-formed descriptor has the property, if the values of the descriptor
have it. -/
theorem toRecord {r : Value} (written : d.toRecord = .ok r)
    (wellFormed : Descriptor.Throughout Descriptor.WellFormed d)
    (values : d.ForValues property) : property r := by
  induction d using Descriptor.byChildren generalizing r with
  | step d ih =>
    obtain ⟨shape, default, nullable⟩ := d
    obtain ⟨args, ofShape, value, ofDefault, rfl⟩ := Descriptor.toRecord_eq_ok_iff.1 written
    obtain ⟨members, fixed⟩ := values.here
    have each := closed.toArgs ofShape wellFormed.here.1 members
      fun child member r here => ih child member here (wellFormed.ofChild member)
        (values.ofChild member)
    have arguments := closed.map args (Descriptor.ascending_of_toArgs ofShape) each
    have default := closed.ofDefault ofDefault fixed
    have names : Entries.Ascending [("allow_none", Value.bool nullable), ("args", .map args),
        ("default", value), ("kind", .str shape.kind.tag)] := by
      rw [Entries.ascending_iff_keys]
      simp only [Entries.keys, List.map_cons, List.map_nil]
      decide
    refine closed.map _ names ?_
    simp [arguments, default, closed.bool, closed.str]

end JsonClosed

end Value

end DocumentSchema

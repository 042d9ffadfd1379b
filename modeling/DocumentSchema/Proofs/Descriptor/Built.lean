import DocumentSchema.Proofs.Descriptor.Make
import DocumentSchema.Proofs.Descriptor.Parts
import DocumentSchema.Schema.Builder

/-!
Descriptors that can be built.

`Descriptor.Built` lists the ways to build a descriptor: the functions that make one of each kind,
and setting its default or that of a field inside it, and its nullability. Every such descriptor is
`Descriptor.Checked`: at every depth, the arguments of its shape are ones that the functions of the
kind accept. That is the invariant which reading records back relies on.
-/

namespace DocumentSchema

/-- A range of lengths that was built. -/
inductive LengthRange.Built : LengthRange → Prop
  | make {least : Nat} {most : Option Nat} {range : LengthRange} :
    LengthRange.make least most = .ok range → Built range
  | atLeast (least : Nat) : Built (.atLeast least)

theorem LengthRange.Built.make_self {range : LengthRange} (built : range.Built) :
    LengthRange.make range.least range.most = .ok range := by
  cases built with
  | make made =>
    obtain ⟨-, rfl⟩ := make_eq_ok_iff.1 made
    exact made
  | atLeast least => rfl

/-! ## Building -/

namespace Descriptor

/-- The shapes of the kinds that can be had without arguments. -/
def plainShapes : List Shape :=
  [.any, .bool, .int [], .float [], .str none, .bytes, .temporal .date [], .temporal .time [],
    .temporal .dateTime [], .email .any, .webUri .any, .mailUri .any, .telUri ⟨[], []⟩, .phone [],
    .ip, .id, .geoPoint, .file, .locale, .localeCode, .descriptor]

/-- A descriptor that was built from nothing, or from built ones. -/
inductive Built : Descriptor → Prop
  | plain {shape : Shape} : shape ∈ plainShapes → Built (.ofShape shape)
  | intRanged {bounds : List (Binary64 × Binary64)} {d : Descriptor} :
    Descriptor.intRanged bounds = .ok d → Built d
  | floatRanged {bounds : List (Binary64 × Binary64)} {d : Descriptor} :
    Descriptor.floatRanged bounds = .ok d → Built d
  | strPattern {source : String} {d : Descriptor} :
    Descriptor.strPattern source = .ok d → Built d
  | temporalRanged {kind : TemporalKind} {bounds : List (String × String)} {d : Descriptor} :
    Descriptor.temporalRanged kind bounds = .ok d → Built d
  | email {filter : DomainFilter} {d : Descriptor} : Descriptor.email filter = .ok d → Built d
  | webUri {filter : DomainFilter} {d : Descriptor} : Descriptor.webUri filter = .ok d → Built d
  | mailUri {filter : DomainFilter} {d : Descriptor} : Descriptor.mailUri filter = .ok d → Built d
  | telUri {filter : CodeFilter} {d : Descriptor} : Descriptor.telUri filter = .ok d → Built d
  | phone {codes : List String} {d : Descriptor} : Descriptor.phone codes = .ok d → Built d
  | literal {members : List Value} {d : Descriptor} :
    Descriptor.literal members = .ok d → Built d
  | list {alternatives : List Descriptor} {length : Option LengthRange} {d : Descriptor} :
    (∀ alternative ∈ alternatives, Built alternative) → (∀ range ∈ length, range.Built) →
    Descriptor.list alternatives length = .ok d → Built d
  | union {alternatives : List Descriptor} {d : Descriptor} :
    (∀ alternative ∈ alternatives, Built alternative) →
    Descriptor.union alternatives = .ok d → Built d
  | dict {key val : Descriptor} {required : List String} {length : Option LengthRange}
      {d : Descriptor} :
    Built key → Built val → (∀ range ∈ length, range.Built) →
    Descriptor.dict key val required length = .ok d → Built d
  | record {fields : List (String × Descriptor)} {d : Descriptor} :
    (∀ field ∈ fields, Built field.2) → Descriptor.record fields = .ok d → Built d
  | customNamed {name : String} {d : Descriptor} :
    Descriptor.customNamed name = .ok d → Built d
  | customInline (callback : InlineCallback Validator) :
    Built (.ofShape (.custom (.inline callback)))
  | withDefault {d : Descriptor} (default : Default) : Built d → Built (d.withDefault default)
  | orNull {d : Descriptor} : Built d → Built d.orNull
  | defaultAt {path : String} {default : Option Default} {segments : List String}
      {d d' : Descriptor} :
    Built d → d.setDefaultAt path default segments = .ok d' → Built d'

/-! ## Checked arguments -/

end Descriptor

/-- The arguments of a shape are ones that the functions of its kind accept. -/
def Shape.Checked : Shape → Prop
  | .int ranges => ∀ range ∈ ranges, NumericRange.make range.lo range.hi = .ok range
  | .float ranges => ∀ range ∈ ranges, NumericRange.make range.lo range.hi = .ok range
  | .str pattern => ∀ p ∈ pattern, TextPattern.make p.source = .ok p
  | .temporal kind ranges => ∀ range ∈ ranges, ∃ lo hi, TemporalRange.parse kind lo hi = .ok range
  | .email filter => filter.check .email = .ok ()
  | .webUri filter => filter.check .webUri = .ok ()
  | .mailUri filter => filter.check .mailUri = .ok () ∧ filter.strict = false
  | .telUri filter => checkDialCodes .telUri (filter.allowed ++ filter.refused) = .ok ()
  | .phone codes => checkDialCodes .phone codes = .ok ()
  | .literal members => members ≠ []
  | .list alternatives length => alternatives ≠ [] ∧ ∀ range ∈ length, range.Built
  | .union alternatives => alternatives ≠ []
  | .dict key _ _ length => key.yieldsKey = true ∧ ∀ range ∈ length, range.Built
  | .record fields =>
    Entries.Ascending fields ∧ ∀ field ∈ fields, checkName (.kind .record) field.1 = .ok ()
  | .custom (.named name) => name ≠ ""
  | _ => True

theorem Shape.checked_of_plain :
    ∀ shape ∈ Descriptor.plainShapes, shape.children = [] ∧ shape.Checked := by
  simp [Descriptor.plainShapes, children, Checked, DomainFilter.any, DomainFilter.check,
    checkDialCodes]

namespace Descriptor

/-- At every depth, the arguments are ones that the functions of the kind accept. -/
def Checked : Descriptor → Prop :=
  Throughout fun part => part.shape.Checked

variable {d : Descriptor}

theorem checked_of_leaf {shape : Shape} (leaf : shape.children = []) (checked : shape.Checked) :
    (ofShape shape).Checked :=
  throughout_of_leaf leaf checked

theorem checked_mk {shape : Shape} {default : Option Default} {nullable : Bool} :
    (mk shape default nullable).Checked ↔
      shape.Checked ∧ ∀ child ∈ shape.children, child.Checked :=
  throughout_iff

/-- Whether a descriptor is checked does not depend on its own default and nullability. -/
theorem Checked.of_shape {d' : Descriptor} (checked : d.Checked) (same : d'.shape = d.shape) :
    d'.Checked := by
  obtain ⟨shape, default, nullable⟩ := d
  obtain ⟨shape', default', nullable'⟩ := d'
  cases (show shape' = shape from same)
  exact checked_mk.2 (checked_mk.1 checked)

/-- A field of a record is replaced by a checked one. -/
theorem checked_insert {fields : Entries Descriptor} {name : String} {field : Descriptor}
    {default : Option Default} {nullable : Bool} {default' : Option Default} {nullable' : Bool}
    (checked : (mk (.record fields) default nullable).Checked)
    (declared : Entries.hasKey fields name = true) (replacement : field.Checked) :
    (mk (.record (Entries.insert name field fields)) default' nullable').Checked := by
  obtain ⟨⟨ascending, named⟩, each⟩ := checked_mk.1 checked
  refine checked_mk.2 ⟨⟨Entries.ascending_insert name field ascending, fun entry member => ?_⟩,
    fun child member => ?_⟩
  · obtain ⟨⟨key, former⟩, present, rfl⟩ := List.mem_map.1 (Entries.hasKey_iff_mem.1 declared)
    rcases Entries.mem_insert member with rfl | kept
    · exact named (key, former) present
    · exact named _ kept
  · obtain ⟨entry, held, rfl⟩ := List.mem_map.1 member
    rcases Entries.mem_insert held with rfl | kept
    · exact replacement
    · exact each _ (List.mem_map_of_mem kept)

/-- Setting a default at a path changes no arguments. -/
theorem checked_setDefaultAt {path : String} {default : Option Default} {segments : List String}
    {d' : Descriptor} (checked : d.Checked)
    (set : d.setDefaultAt path default segments = .ok d') : d'.Checked := by
  induction segments generalizing d d' with
  | nil =>
    cases set
    exact checked.of_shape rfl
  | cons segment rest ih =>
    obtain ⟨shape, own, nullable⟩ := d
    cases shape with
    | record fields =>
      cases found : Entries.get? fields segment with
      | none =>
        simp only [setDefaultAt, assignDefault, Descriptor.shape, found] at set
        cases set
      | some field =>
        rw [setDefaultAt_record found, except_map_eq_ok_iff] at set
        obtain ⟨replacement, inner, rfl⟩ := set
        have member : field ∈ (mk (.record fields) own nullable).children :=
          List.mem_map_of_mem (Entries.mem_of_get? found)
        have ascending : Entries.Ascending fields := (checked_mk.1 checked).1.1
        rw [Entries.replace_eq_insert ascending found]
        exact checked_insert checked (Entries.hasKey_iff_exists.2 ⟨field, found⟩)
          (ih (checked.ofChild member) inner)
    | _ => cases set

theorem make_of_forall₂ {bounds : List (Binary64 × Binary64)} {ranges : List NumericRange}
    (made : numericRanges bounds = .ok ranges) :
    ∀ range ∈ ranges, NumericRange.make range.lo range.hi = .ok range := by
  intro range member
  obtain ⟨pair, -, here⟩ := exists_of_mem_right (numericRanges_eq_ok_iff.1 made) member
  cases NumericRange.eq_of_make here
  exact here

/-- Every descriptor that can be built is checked. -/
theorem Built.checked (built : Built d) : d.Checked := by
  induction built with
  | plain plain =>
    obtain ⟨leaf, checked⟩ := Shape.checked_of_plain _ plain
    exact checked_of_leaf leaf checked
  | intRanged made =>
    obtain ⟨ranges, each, rfl⟩ := intRanged_eq_ok_iff.1 made
    exact checked_of_leaf rfl (make_of_forall₂ each)
  | floatRanged made =>
    obtain ⟨ranges, each, rfl⟩ := floatRanged_eq_ok_iff.1 made
    exact checked_of_leaf rfl (make_of_forall₂ each)
  | strPattern made =>
    obtain ⟨pattern, read, rfl⟩ := strPattern_eq_ok_iff.1 made
    refine checked_of_leaf rfl ?_
    intro _ held
    cases held
    rwa [TextPattern.source_of_make read]
  | temporalRanged made =>
    obtain ⟨ranges, each, rfl⟩ := temporalRanged_eq_ok_iff.1 made
    apply checked_of_leaf rfl
    intro range member
    obtain ⟨pair, -, parsed⟩ := exists_of_mem_right (temporalRanges_eq_ok_iff.1 each) member
    exact ⟨pair.1, pair.2, parsed⟩
  | email made =>
    obtain ⟨passed, rfl⟩ := email_eq_ok_iff.1 made
    exact checked_of_leaf rfl passed
  | webUri made =>
    obtain ⟨passed, rfl⟩ := webUri_eq_ok_iff.1 made
    exact checked_of_leaf rfl passed
  | mailUri made =>
    obtain ⟨passed, rfl⟩ := mailUri_eq_ok_iff.1 made
    exact checked_of_leaf rfl ⟨passed, rfl⟩
  | telUri made =>
    obtain ⟨passed, rfl⟩ := telUri_eq_ok_iff.1 made
    exact checked_of_leaf rfl passed
  | phone made =>
    obtain ⟨passed, rfl⟩ := phone_eq_ok_iff.1 made
    exact checked_of_leaf rfl passed
  | literal made =>
    obtain ⟨some, rfl⟩ := literal_eq_ok_iff.1 made
    exact checked_of_leaf rfl some
  | list _ lengths made each =>
    obtain ⟨some, rfl⟩ := list_eq_ok_iff.1 made
    exact checked_mk.2 ⟨⟨some, lengths⟩, each⟩
  | union _ made each =>
    obtain ⟨some, rfl⟩ := union_eq_ok_iff.1 made
    exact checked_mk.2 ⟨some, each⟩
  | dict _ _ lengths made ofKey ofVal =>
    obtain ⟨yields, rfl⟩ := dict_eq_ok_iff.1 made
    refine checked_mk.2 ⟨⟨yields, lengths⟩, fun child member => ?_⟩
    rcases List.mem_pair.1 member with rfl | rfl
    · exact ofKey
    · exact ofVal
  | record _ made each =>
    obtain ⟨fields, rfl, ascending, given⟩ := fields_of_record made
    refine checked_mk.2 ⟨⟨ascending, ?_⟩, ?_⟩
    · intro entry member
      exact (given entry member).2
    · intro child member
      obtain ⟨entry, held, rfl⟩ := List.mem_map.1 member
      exact each entry (given entry held).1
  | customNamed made =>
    obtain ⟨named, rfl⟩ := customNamed_eq_ok_iff.1 made
    exact checked_of_leaf rfl named
  | customInline callback => exact checked_of_leaf rfl trivial
  | withDefault _ _ checked => exact checked.of_shape rfl
  | orNull _ checked => exact checked.of_shape rfl
  | defaultAt _ set checked => exact checked_setDefaultAt checked set

/-- The fields of a record that was built ascend, and so do those of every record in it. -/
theorem Built.ordered (built : Built d) : d.Ordered := by
  intro part occurs fields isRecord
  have checked : part.shape.Checked := built.checked part occurs
  rw [isRecord] at checked
  exact checked.1

end Descriptor

end DocumentSchema

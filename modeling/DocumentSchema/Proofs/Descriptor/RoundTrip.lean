import DocumentSchema.Proofs.Descriptor.Built
import DocumentSchema.Proofs.Descriptor.Reading
import DocumentSchema.Proofs.Descriptor.Writing
import DocumentSchema.Proofs.Numeric.Order
import DocumentSchema.Proofs.Range.Bound

/-!
Records that are read back.

A descriptor is `Descriptor.Storable` when each named default in it has a name that is not empty
and each bound on lengths is a number of 64 signed bits. Nothing else is ever read from a record,
and every checked descriptor of this kind that has been written is read back from its record as it
was, floats with the same bits (`Descriptor.ofRecord_of_toRecord`). The arguments of the kinds
without nested descriptors are read back by `readLeaf_of_toArgs`, and `readFrom_of_toArgs` adds the
others.
-/

namespace DocumentSchema

/-! ## Storable descriptors -/

/-- Both bounds are numbers of 64 signed bits. -/
def LengthRange.Storable (range : LengthRange) : Prop :=
  range.least < 2 ^ 63 ∧ ∀ most ∈ range.most, most < 2 ^ 63

/-- The range of lengths that a shape asks for. -/
def Shape.length? : Shape → Option LengthRange
  | .list _ length => length
  | .dict _ _ _ length => length
  | _ => none

/-- At every depth, named defaults have a name that is not empty, and the bounds on lengths are
numbers of 64 signed bits. -/
def Descriptor.Storable : Descriptor → Prop :=
  Throughout fun part => (∀ name, part.default = some (.named name) → name ≠ "") ∧
    ∀ range ∈ part.shape.length?, range.Storable

/-- Shapes without parts have no range of lengths. -/
theorem Shape.length?_of_kind {shape : Shape} (leaf : shape.kind ∉ Kind.composites) :
    shape.length? = none := by
  cases shape <;> first | rfl | exact absurd (by simp [Shape.kind, Kind.composites]) leaf

/-- A length that is read is one of 63 bits. -/
theorem Args.lt_of_length? {value : Value} {n : Nat} (held : length? value = some n) :
    n < 2 ^ 63 := by
  unfold length? at held
  split at held
  · next number =>
    split at held
    · cases held
    · cases held
      have below := number.toInt_lt
      omega
  · cases held

/-- A range of lengths that is read can be written again. -/
theorem Args.storable_of_lengthRange {args : Args} {range : LengthRange}
    (read : args.lengthRange = .ok (some range)) : range.Storable := by
  rcases lengthRange_cases read with ⟨-, none⟩ | ⟨first, least, -, lower, same⟩ |
    ⟨first, second, least, most, made, -, lower, upper, checked, same⟩
  · cases none
  · cases same
    refine ⟨lt_of_length? lower, ?_⟩
    intro _ held
    cases held
  · cases same
    obtain ⟨-, rfl⟩ := LengthRange.make_eq_ok_iff.1 checked
    refine ⟨lt_of_length? lower, ?_⟩
    intro _ held
    cases held
    exact lt_of_length? upper

namespace Descriptor

variable {d : Descriptor}

/-- The range of lengths of a descriptor that is read can be written again. -/
theorem ReadFrom.storable_length {args : Args} {range : LengthRange} (read : ReadFrom args d)
    (bounded : d.shape.length? = some range) : range.Storable := by
  cases read with
  | leaf leaf =>
    have kind := leaf.kind_not_composite
    rw [← leaf.kind_eq] at kind
    have none : Shape.length? (Descriptor.shape (.ofShape _)) = none := Shape.length?_of_kind kind
    rw [none] at bounded
    cases bounded
  | list _ _ _ length _ =>
    cases bounded
    exact Args.storable_of_lengthRange length
  | union => cases bounded
  | dict _ _ _ _ _ _ length _ =>
    cases bounded
    exact Args.storable_of_lengthRange length
  | record _ _ _ made =>
    obtain ⟨fields, rfl, -, -⟩ := fields_of_record made
    cases bounded

/-- Whatever is read from a record is storable. -/
theorem storable_of_ofRecord {r : Value} (read : ofRecord r = .ok d) : d.Storable := by
  refine throughout_of_ofRecord (fun {r d} _ read => ?_) read
  obtain ⟨m, -, kind, -, args, -, shaped, ofArgs, nullable, -, default, ofDefault, rfl⟩ :=
    ofRecord_eq_ok_iff.1 read
  refine ⟨?_, fun range bounded => ofArgs.storable_length bounded⟩
  intro name same
  cases (show default = some (.named name) from same)
  rcases Record.defaultOf_cases ofDefault with ⟨-, none⟩ | ⟨value, -, other⟩ |
    ⟨given, filled, -, other⟩
  · cases none
  · cases other
  · cases other
    exact filled

end Descriptor

/-! ## Arguments that are read back -/

namespace Args

variable {args : Args} {key : String}

/-- An argument is what stands at its key. -/
theorem get?_of_entry {value : Value} (held : Entries.get? args.entries key = some value)
    (some : value.isNull = false) : args.get? key = .some value := by
  simp [get?, held, some]

/-- Null stands for an absent argument. -/
theorem get?_of_null (held : Entries.get? args.entries key = some .null) :
    args.get? key = none := by
  simp [get?, held, Value.isNull]

/-- A record stands for itself where an argument is required. -/
theorem required_of_toRecord {d : Descriptor} {r : Value} (written : d.toRecord = .ok r)
    (held : Entries.get? args.entries key = some r) : args.required key = .ok r := by
  rw [required, get?_of_entry held (Descriptor.isNull_of_toRecord written)]

/-- Texts are read back from their record. -/
theorem texts_of_ofTexts {texts : List String}
    (held : Entries.get? args.entries key = some (Value.ofTexts texts)) :
    args.texts key = .ok texts := by
  have found : args.list key = .ok (texts.map .str) := by
    rw [list, get?_of_entry held rfl]
    rfl
  rw [Args.texts, found]
  refine except_mapM_eq_ok_iff.2 (List.forall₂_map_left_iff.2 (List.forall₂_same.2 fun _ _ => rfl))

/-- A numeric bound is read back from its record. -/
theorem bound_ofBound (x : Binary64) : args.bound (Record.ofBound x) = .ok x := by
  unfold Record.ofBound
  simp only [Binary64.eqNumber_infinity_iff, Binary64.eqNumber_negInfinity_iff]
  split
  · next same =>
    rw [same]
    rfl
  · split
    · next same =>
      rw [same]
      rfl
    · rfl

/-- Numeric ranges are read back from their record. -/
theorem numericBounds_of_ofNumericRanges {ranges : List NumericRange}
    (held : Entries.get? args.entries "ranges" = some (Record.ofNumericRanges ranges)) :
    args.numericBounds = .ok (ranges.map fun range => (range.lo, range.hi)) := by
  have found : args.list "ranges" =
      .ok (ranges.map fun range => .list [Record.ofBound range.lo, Record.ofBound range.hi]) := by
    rw [list, get?_of_entry held rfl]
    rfl
  rw [numericBounds, found]
  refine except_mapM_eq_ok_iff.2 ?_
  rw [List.forall₂_map_left_iff, List.forall₂_map_right_iff, List.forall₂_same]
  intro range _
  simp only [bound_ofBound]
  rfl

/-- Ranges of times are read back from their record. -/
theorem temporalBounds_of_ofTemporalRanges {ranges : List TemporalRange}
    (held : Entries.get? args.entries "ranges" = some (Record.ofTemporalRanges ranges)) :
    args.temporalBounds = .ok (ranges.map fun range => (range.lo.text, range.hi.text)) := by
  have found : args.list "ranges" =
      .ok (ranges.map fun range => .list [.str range.lo.text, .str range.hi.text]) := by
    rw [list, get?_of_entry held rfl]
    rfl
  rw [temporalBounds, found]
  refine except_mapM_eq_ok_iff.2 ?_
  rw [List.forall₂_map_left_iff, List.forall₂_map_right_iff, List.forall₂_same]
  exact fun _ _ => rfl

/-- A length is read back from its record. -/
theorem length?_ofInt {n : Nat} (small : n < 2 ^ 63) :
    length? (.int (Int64.ofInt n)) = some n := by
  have number : (Int64.ofInt n).toInt = n := Int64.toInt_ofInt_of_le (by omega) (by omega)
  have positive : ¬Int64.ofInt n < 0 := by
    rw [Int64.lt_iff_toInt_lt, number]
    simp
  simp [length?, positive, number]

/-- A range of lengths is read back from its record. -/
theorem lengthRange_of_ofLengthRange {length : Option LengthRange}
    (held : Entries.get? args.entries "len_range" = some (Record.ofLengthRange length))
    (built : ∀ range ∈ length, range.Built) (storable : ∀ range ∈ length, range.Storable) :
    args.lengthRange = .ok length := by
  cases length with
  | none =>
    rw [lengthRange, get?_of_null held]
  | some range =>
    obtain ⟨least, most⟩ := range
    obtain ⟨smallLeast, smallMost⟩ := storable _ rfl
    have made := (built _ rfl).make_self
    rw [lengthRange, get?_of_entry held rfl]
    cases most with
    | none =>
      simp only [Record.ofLengthRange, Record.ofLength, Option.elim_none, length?_ofInt smallLeast]
      rfl
    | some limit =>
      simp only [Record.ofLengthRange, Record.ofLength, Option.elim_some, length?_ofInt smallLeast,
        length?_ofInt (smallMost limit rfl), made]
      rfl

/-- Lists of domains are read back from their arguments. -/
theorem domains_of_ofDomains {kind : Kind} {filter : DomainFilter} :
    domains ⟨kind, Record.ofDomains filter ++ [("strict_matching", .bool filter.strict)]⟩ =
      .ok filter := by
  rw [domains, texts_of_ofTexts rfl, texts_of_ofTexts rfl]
  rfl

/-- Lists of domains without a flag are those of a filter that is not strict. -/
theorem domains_of_ofDomains_lax {kind : Kind} {filter : DomainFilter}
    (lax : filter.strict = false) : domains ⟨kind, Record.ofDomains filter⟩ = .ok filter := by
  obtain ⟨allowed, refused, strict⟩ := filter
  cases lax
  rw [domains, texts_of_ofTexts rfl, texts_of_ofTexts rfl]
  rfl

/-- Lists of dial codes are read back from their arguments. -/
theorem codes_of_ofTexts {kind : Kind} {filter : CodeFilter} :
    codes ⟨kind, [("allowed_codes", Value.ofTexts filter.allowed),
      ("disallowed_codes", Value.ofTexts filter.refused)]⟩ = .ok filter := by
  rw [codes, texts_of_ofTexts rfl, texts_of_ofTexts rfl]
  rfl

end Args

/-- Ranges that were made are made of their bounds again. -/
theorem numericRanges_of_made {ranges : List NumericRange}
    (made : ∀ range ∈ ranges, NumericRange.make range.lo range.hi = .ok range) :
    numericRanges (ranges.map fun range => (range.lo, range.hi)) = .ok ranges := by
  rw [numericRanges_eq_ok_iff, List.forall₂_map_left_iff, List.forall₂_same]
  exact made

/-- Ranges of times that were parsed are parsed from their bounds again. -/
theorem temporalRanges_of_parsed {kind : TemporalKind} {ranges : List TemporalRange}
    (parsed : ∀ range ∈ ranges, ∃ lo hi, TemporalRange.parse kind lo hi = .ok range) :
    temporalRanges kind (ranges.map fun range => (range.lo.text, range.hi.text)) = .ok ranges := by
  rw [temporalRanges_eq_ok_iff, List.forall₂_map_left_iff, List.forall₂_same]
  intro range member
  obtain ⟨lo, hi, here⟩ := parsed range member
  exact TemporalRange.parse_text here

namespace Descriptor

/-! ## Shapes that are read back -/

/-- A shape without parts is read back from its arguments. -/
theorem readLeaf_of_toArgs {shape : Shape} {args : Document} (written : shape.toArgs = .ok args)
    (checked : shape.Checked) (leaf : shape.kind ∉ Kind.composites) :
    ReadLeaf ⟨shape.kind, args⟩ shape := by
  cases shape with
  | int ranges =>
    cases written
    exact .int rfl (Args.numericBounds_of_ofNumericRanges rfl) (numericRanges_of_made checked)
  | float ranges =>
    cases written
    exact .float rfl (Args.numericBounds_of_ofNumericRanges rfl) (numericRanges_of_made checked)
  | str pattern =>
    cases written
    cases pattern with
    | none => exact .anyText rfl rfl
    | some pattern => exact .text rfl rfl (checked pattern rfl)
  | temporal kind ranges =>
    cases written
    exact .temporal rfl (Args.temporalBounds_of_ofTemporalRanges rfl)
      (temporalRanges_of_parsed checked)
  | email filter =>
    cases written
    exact .email rfl Args.domains_of_ofDomains checked
  | webUri filter =>
    cases written
    exact .webUri rfl Args.domains_of_ofDomains checked
  | mailUri filter =>
    cases written
    obtain ⟨passed, lax⟩ := checked
    have read : ReadLeaf ⟨.mailUri, Record.ofDomains filter⟩
        (.mailUri { filter with strict := false }) :=
      .mailUri rfl (Args.domains_of_ofDomains_lax lax) passed
    rwa [← lax] at read
  | telUri filter =>
    cases written
    exact .telUri rfl Args.codes_of_ofTexts checked
  | phone codes =>
    cases written
    exact .phone rfl (Args.texts_of_ofTexts rfl) checked
  | literal members =>
    cases written
    exact .literal rfl rfl checked
  | custom validator =>
    cases validator with
    | named name =>
      cases written
      exact .custom rfl rfl checked
    | inline callback => cases written
  | list | union | dict | record => exact absurd (by simp [Shape.kind, Kind.composites]) leaf
  | _ =>
    cases written
    exact .bare (by simp [bareShapes]) rfl

variable {shape : Shape} {args : Document}

/-- The arguments of a shape are read back, if the records of its children are. -/
theorem readFrom_of_toArgs (written : shape.toArgs = .ok args) (checked : shape.Checked)
    (storable : ∀ range ∈ shape.length?, range.Storable)
    (inner : ∀ child ∈ shape.children, ∀ r, child.toRecord = .ok r → ofRecord r = .ok child) :
    ReadFrom ⟨shape.kind, args⟩ (.ofShape shape) := by
  by_cases leaf : shape.kind ∉ Kind.composites
  · exact .leaf (readLeaf_of_toArgs written checked leaf)
  · cases shape with
    | list alternatives length =>
      obtain ⟨some, built⟩ := checked
      rw [Shape.toArgs, except_bind_eq_ok_iff] at written
      obtain ⟨records, each, same⟩ := written
      cases same
      exact .list rfl rfl (forall₂_swap_of_mem (toRecords_eq_ok_iff.1 each) inner)
        (Args.lengthRange_of_ofLengthRange rfl built storable) some
    | union alternatives =>
      rw [Shape.toArgs, except_bind_eq_ok_iff] at written
      obtain ⟨records, each, same⟩ := written
      cases same
      exact .union rfl rfl (forall₂_swap_of_mem (toRecords_eq_ok_iff.1 each) inner) checked
    | dict key val required length =>
      obtain ⟨yields, built⟩ := checked
      rw [Shape.toArgs] at written
      simp only [except_bind_eq_ok_iff] at written
      obtain ⟨keyRecord, ofKey, valRecord, ofVal, same⟩ := written
      cases same
      exact .dict rfl (Args.required_of_toRecord ofKey rfl)
        (inner key (List.mem_pair.2 (.inl rfl)) keyRecord ofKey)
        (Args.required_of_toRecord ofVal rfl)
        (inner val (List.mem_pair.2 (.inr rfl)) valRecord ofVal) (Args.texts_of_ofTexts rfl)
        (Args.lengthRange_of_ofLengthRange rfl built storable) yields
    | record fields =>
      obtain ⟨ascending, named⟩ := checked
      rw [Shape.toArgs, except_bind_eq_ok_iff] at written
      obtain ⟨entries, each, same⟩ := written
      cases same
      have read : List.Forall₂ (fun entry field => field.1 = entry.1 ∧
          ofRecord entry.2 = .ok field.2) entries fields := by
        refine forall₂_swap_of_mem (toFieldRecords_eq_ok_iff.1 each) ?_
        intro field member entry written
        obtain ⟨same, here⟩ := written
        exact ⟨same.symm, inner field.2 (List.mem_map_of_mem member) entry.2 here⟩
      exact .record rfl rfl read (record_of_ascending ascending named)
    | temporal kind ranges =>
      cases kind <;> exact absurd (by simp [Shape.kind, TemporalKind.kind, Kind.composites]) leaf
    | _ => exact absurd (by simp [Shape.kind, Kind.composites]) leaf

/-! ## Records that are read back -/

/-- The kind is read back from a record. -/
theorem kindOf_of_toRecord {args : Document} {value : Value} {nullable : Bool} {kind : Kind} :
    Record.kindOf [("allow_none", .bool nullable), ("args", .map args), ("default", value),
      ("kind", .str kind.tag)] = .ok kind := by
  have known : (["allow_none", "args", "default", "kind"].find? fun key =>
      !Record.fieldNames.contains key) = none := rfl
  unfold Record.kindOf
  simp only [Entries.get?, String.reduceEq, if_false, if_true, Option.bind_some, Value.str?,
    Kind.ofTag?_tag, Entries.keys, List.map_cons, List.map_nil, known]

/-- The arguments of a shape have names that its kind knows. -/
theorem find?_of_toArgs (written : shape.toArgs = .ok args) :
    (Entries.keys args).find? (fun key => !(Args.names shape.kind).contains key) = none := by
  cases shape with
  | temporal kind ranges =>
    cases written
    cases kind <;> rfl
  | custom validator =>
    cases validator with
    | named name =>
      cases written
      rfl
    | inline callback => cases written
  | list | union | record =>
    rw [Shape.toArgs, except_bind_eq_ok_iff] at written
    obtain ⟨_, -, same⟩ := written
    cases same
    rfl
  | dict =>
    rw [Shape.toArgs] at written
    simp only [except_bind_eq_ok_iff] at written
    obtain ⟨_, -, _, -, same⟩ := written
    cases same
    rfl
  | _ =>
    cases written
    rfl

/-- The arguments are read back from a record. -/
theorem ofField_of_toArgs (written : shape.toArgs = .ok args) :
    Args.ofField shape.kind (some (.map args)) = .ok ⟨shape.kind, args⟩ := by
  unfold Args.ofField
  simp only [find?_of_toArgs written]

/-- A default is read back from its record, unless it is a callback without a name. -/
theorem defaultOf_of_ofDefault {default : Option Default} {value : Value} (kind : Kind)
    (written : Record.ofDefault default = .ok value)
    (named : ∀ name, default = some (.named name) → name ≠ "") :
    Record.defaultOf kind (some value) = .ok default := by
  rcases default with - | fixed | name | callback
  · cases written
    rfl
  · cases written
    rfl
  · cases written
    have filled : name.isEmpty = false := by simpa using named name rfl
    simp [Record.defaultOf, filled]
  · cases written

/-- A checked descriptor that is storable is read back from its record. -/
theorem ofRecord_of_toRecord {r : Value} (checked : d.Checked) (storable : d.Storable)
    (written : d.toRecord = .ok r) : ofRecord r = .ok d := by
  induction d using byChildren generalizing r with
  | step d ih =>
    obtain ⟨shape, default, nullable⟩ := d
    obtain ⟨args, ofShape, value, ofDefault, rfl⟩ := toRecord_eq_ok_iff.1 written
    obtain ⟨named, bounded⟩ := storable.here
    refine ofRecord_eq_ok_iff.2 ⟨_, rfl, shape.kind, kindOf_of_toRecord, ⟨shape.kind, args⟩,
      ofField_of_toArgs ofShape, .ofShape shape, ?_, nullable, rfl, default,
      defaultOf_of_ofDefault shape.kind ofDefault named, rfl⟩
    exact readFrom_of_toArgs ofShape checked.here bounded fun child member r here =>
      ih child member (checked.ofChild member) (storable.ofChild member) here

/-- Writing a descriptor that was built fails exactly when a callback is bound in it at some depth,
and calls it not portable then. Its record is read back as the same descriptor exactly when the
descriptor is storable. -/
theorem record_roundTrip (built : Built d) :
    ((∃ e, d.toRecord = .error e) ↔ d.HasInline) ∧
      (∀ e, d.toRecord = .error e → e.code = "ATTR_SCHEMA_NOT_PORTABLE") ∧
      ∀ r, d.toRecord = .ok r → (ofRecord r = .ok d ↔ d.Storable) :=
  ⟨toRecord_error_iff, fun _ failed => (hasInline_of_toRecord_error failed).2, fun _ written =>
    ⟨storable_of_ofRecord, fun storable => ofRecord_of_toRecord built.checked storable written⟩⟩

/-- Lists with a least length, and with a default that is made under a name. -/
def tags (least : Nat) : Descriptor :=
  (ofShape (.list [ofShape (.str none)] (some (.atLeast least)))).withDefault (.named "tags")

theorem built_tags (least : Nat) : Built (tags least) := by
  refine .withDefault _ (Built.list ?_ ?_ (list_eq_ok_iff.2 ⟨List.cons_ne_nil _ _, rfl⟩))
  · intro alternative member
    cases List.mem_singleton.1 member
    exact .plain (by simp [plainShapes])
  · intro _ held
    cases held
    exact .atLeast least

theorem storable_tags_iff {least : Nat} : (tags least).Storable ↔ least < 2 ^ 63 := by
  constructor
  · exact fun storable => (storable.here.2 (.atLeast least) rfl).1
  · intro small
    refine throughout_iff.2 ⟨⟨?_, ?_⟩, fun child member => ?_⟩
    · intro _ held
      cases held
      decide
    · intro _ held
      cases held
      refine ⟨small, ?_⟩
      intro _ held
      cases held
    · cases List.mem_singleton.1 (show child ∈ [ofShape (.str none)] from member)
      refine throughout_of_leaf rfl ⟨?_, ?_⟩
      · intro _ held
        cases held
      · intro _ held
        cases held

/-- The least bound that is lost lies just above the numbers of 64 signed bits. -/
theorem record_roundTrip_tags :
    (∃ r, (tags (2 ^ 63 - 1)).toRecord = .ok r ∧ ofRecord r = .ok (tags (2 ^ 63 - 1))) ∧
      ∃ r, (tags (2 ^ 63)).toRecord = .ok r ∧ ofRecord r ≠ .ok (tags (2 ^ 63)) := by
  obtain ⟨-, -, kept⟩ := record_roundTrip (built_tags (2 ^ 63 - 1))
  obtain ⟨-, -, lost⟩ := record_roundTrip (built_tags (2 ^ 63))
  refine ⟨⟨_, rfl, (kept _ rfl).2 (storable_tags_iff.2 (by decide))⟩, _, rfl, fun read => ?_⟩
  exact absurd (storable_tags_iff.1 ((lost _ rfl).1 read)) (by decide)

end Descriptor

end DocumentSchema

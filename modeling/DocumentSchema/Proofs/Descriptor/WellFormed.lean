import DocumentSchema.Proofs.Descriptor.RoundTrip

/-!
What records can describe.

Whatever is read from a record could have been built from the functions that make descriptors
(`Descriptor.built_of_ofRecord`), since each child of it is read from a record too.
`Shape.WellFormed` says in plain terms what those functions ask of the arguments of a kind, without
mention of the functions themselves, and `Shape.wellFormed_of_checked` that they ask no less. So a
descriptor that is read is well formed at every depth (`Descriptor.wellFormed_of_ofRecord`), down to
the names in it, which are never empty.
-/

namespace DocumentSchema

/-! ## Building what is read -/

theorem Args.built_of_lengthRange {args : Args} {range : LengthRange}
    (read : args.lengthRange = .ok (some range)) : range.Built := by
  rcases lengthRange_cases read with ⟨-, none⟩ | ⟨first, least, -, -, same⟩ |
    ⟨first, second, least, most, made, -, -, -, checked, same⟩
  · cases none
  · cases same
    exact .atLeast least
  · cases same
    exact .make checked

namespace Descriptor

variable {d : Descriptor} {args : Args}

theorem ReadLeaf.built {shape : Shape} (read : ReadLeaf args shape) : Built (.ofShape shape) := by
  cases read with
  | bare member _ =>
    refine .plain ?_
    revert shape
    simp [bareShapes, plainShapes]
  | int _ _ made => exact .intRanged (intRanged_eq_ok_iff.2 ⟨_, made, rfl⟩)
  | float _ _ made => exact .floatRanged (floatRanged_eq_ok_iff.2 ⟨_, made, rfl⟩)
  | anyText => exact .plain (by simp [plainShapes])
  | text _ _ made => exact .strPattern (strPattern_eq_ok_iff.2 ⟨_, made, rfl⟩)
  | temporal _ _ made => exact .temporalRanged (temporalRanged_eq_ok_iff.2 ⟨_, made, rfl⟩)
  | email _ _ passed => exact .email (email_eq_ok_iff.2 ⟨passed, rfl⟩)
  | webUri _ _ passed => exact .webUri (webUri_eq_ok_iff.2 ⟨passed, rfl⟩)
  | mailUri _ _ passed => exact .mailUri (mailUri_eq_ok_iff.2 ⟨passed, rfl⟩)
  | telUri _ _ passed => exact .telUri (telUri_eq_ok_iff.2 ⟨passed, rfl⟩)
  | phone _ _ passed => exact .phone (phone_eq_ok_iff.2 ⟨passed, rfl⟩)
  | literal _ _ some => exact .literal (literal_eq_ok_iff.2 ⟨some, rfl⟩)
  | custom _ _ named => exact .customNamed (customNamed_eq_ok_iff.2 ⟨named, rfl⟩)

/-- What is read from arguments has neither default nor nullability. -/
theorem ReadFrom.exists_shape (read : ReadFrom args d) : ∃ shape, d = .ofShape shape := by
  cases read with
  | record _ _ _ made =>
    obtain ⟨-, -, rfl⟩ := record_eq_ok_iff.1 made
    exact ⟨_, rfl⟩
  | _ => exact ⟨_, rfl⟩

/-- What is read from arguments can be built, if its children can. -/
theorem ReadFrom.built (read : ReadFrom args d) (inner : ∀ child ∈ d.children, Built child) :
    Built d := by
  cases read with
  | leaf leaf => exact leaf.built
  | list _ _ _ length some =>
    refine .list inner ?_ (list_eq_ok_iff.2 ⟨some, rfl⟩)
    intro range held
    cases held
    exact Args.built_of_lengthRange length
  | union _ _ _ some => exact .union inner (union_eq_ok_iff.2 ⟨some, rfl⟩)
  | dict _ _ _ _ _ _ length yields =>
    refine .dict (inner _ (List.mem_pair.2 (.inl rfl))) (inner _ (List.mem_pair.2 (.inr rfl))) ?_
      (dict_eq_ok_iff.2 ⟨yields, rfl⟩)
    intro range held
    cases held
    exact Args.built_of_lengthRange length
  | @record m pairs _ _ _ _ made =>
    obtain ⟨-, distinct, rfl⟩ := record_eq_ok_iff.1 made
    refine .record (fun field member => ?_) made
    -- No field is given twice, so each that was given is a child.
    have kept : field ∈ Entries.ofList pairs := (Entries.mem_ofList_iff distinct).2 member
    exact inner field.2 (List.mem_map_of_mem kept)

/-- A shape that can be built can be had with any default and either nullability. -/
theorem Built.mk {shape : Shape} (built : Built (.ofShape shape)) (default : Option Default)
    (nullable : Bool) : Built (.mk shape default nullable) := by
  have flagged : Built (.mk shape none nullable) := by
    cases nullable with
    | false => exact built
    | true => exact built.orNull
  cases default with
  | none => exact flagged
  | some default => exact flagged.withDefault default

/-- Whatever is read from a record can be built. -/
theorem built_of_ofRecord {r : Value} (read : ofRecord r = .ok d) : Built d := by
  induction d using byChildren generalizing r with
  | step d ih =>
    obtain ⟨m, -, kind, -, args, -, shaped, ofArgs, nullable, -, default, -, rfl⟩ :=
      ofRecord_eq_ok_iff.1 read
    have plain : Built shaped := by
      refine ofArgs.built fun child member => ?_
      obtain ⟨r', -, here⟩ := exists_record_of_ofRecord read member
      exact ih child member here
    obtain ⟨shape, rfl⟩ := ofArgs.exists_shape
    exact plain.mk default nullable

end Descriptor

/-! ## Well-formed arguments -/

/-- Neither bound is a NaN, and they do not cross. -/
def NumericRange.WellFormed (range : NumericRange) : Prop :=
  range.lo.isNaN = false ∧ range.hi.isNaN = false ∧ range.lo.le range.hi = true

/-- The lower bound lies below the upper one, if there is one. -/
def LengthRange.WellFormed (range : LengthRange) : Prop :=
  ∀ most ∈ range.most, range.least < most

/-- A text in the format of a kind, or an offset in a unit that the kind permits. -/
def Bound.WellFormed (kind : TemporalKind) : Bound → Prop
  | .absolute text => kind.isFormat text = true
  | .relative _ unit => kind.permits unit = true

/-- Domains are allowed or refused and not both, and none is empty. -/
def DomainFilter.WellFormed (filter : DomainFilter) : Prop :=
  (filter.allowed = [] ∨ filter.refused = []) ∧ "" ∉ filter.allowed ∧ "" ∉ filter.refused

/-- A dial code is a text of digits that is not empty. -/
def IsDialCode (code : String) : Prop :=
  code ≠ "" ∧ ∀ c ∈ code.toList, Text.isDigit c = true

/-- The name of a field is not empty and holds no dot. -/
def IsFieldName (name : String) : Prop :=
  name ≠ "" ∧ '.' ∉ name.toList

/-- The arguments of a shape make sense. -/
def Shape.WellFormed : Shape → Prop
  | .int ranges => ∀ range ∈ ranges, range.WellFormed
  | .float ranges => ∀ range ∈ ranges, range.WellFormed
  | .str pattern =>
    ∀ p ∈ pattern, Pattern.regexOfText ("^(?:" ++ p.source ++ ")$") = .ok p.regex
  | .temporal kind ranges =>
    ∀ range ∈ ranges, range.lo.WellFormed kind ∧ range.hi.WellFormed kind
  | .email filter => filter.WellFormed
  | .webUri filter => filter.WellFormed
  | .mailUri filter => filter.WellFormed ∧ filter.strict = false
  | .telUri filter => ∀ code ∈ filter.allowed ++ filter.refused, IsDialCode code
  | .phone codes => ∀ code ∈ codes, IsDialCode code
  | .literal members => members ≠ []
  | .list alternatives length => alternatives ≠ [] ∧ ∀ range ∈ length, range.WellFormed
  | .union alternatives => alternatives ≠ []
  | .dict key _ _ length => key.yieldsKey = true ∧ ∀ range ∈ length, range.WellFormed
  | .record fields => Entries.Ascending fields ∧ ∀ field ∈ fields, IsFieldName field.1
  | .custom (.named name) => name ≠ ""
  | .custom (.inline _) => False
  | _ => True

/-- The arguments of the shape make sense, and a generator that is named has a name that is not
empty. -/
def Descriptor.WellFormed (d : Descriptor) : Prop :=
  d.shape.WellFormed ∧ ∀ name, d.default = some (.named name) → name ≠ ""

/-! ## What is checked -/

theorem NumericRange.wellFormed_of_make {range : NumericRange}
    (made : make range.lo range.hi = .ok range) : range.WellFormed := by
  unfold make at made
  split at made
  · cases made
  · next numbers =>
    split at made
    · cases made
    · next ordered =>
      simp only [Bool.or_eq_true, not_or, Bool.not_eq_true] at numbers
      obtain ⟨lower, upper⟩ := numbers
      refine ⟨lower, upper, ?_⟩
      simp only [Binary64.lt, Binary64.le, lower, upper, Bool.not_false, Bool.true_and,
        decide_eq_true_eq] at ordered ⊢
      omega

theorem LengthRange.Built.wellFormed {range : LengthRange} (built : range.Built) :
    range.WellFormed :=
  (make_eq_ok_iff.1 built.make_self).1

theorem Bound.wellFormed_of_parse {kind : TemporalKind} {text : String} {bound : Bound}
    (parsed : parse kind text = .ok bound) : bound.WellFormed kind := by
  rcases parse_cases parsed with ⟨-, format, rfl⟩ | ⟨amount, unit, permitted, rfl, -⟩
  · exact format
  · exact permitted

theorem DomainFilter.wellFormed_of_check {filter : DomainFilter} {kind : Kind}
    (passed : filter.check kind = .ok ()) : filter.WellFormed := by
  unfold check at passed
  split at passed
  · cases passed
  · next exclusive =>
    split at passed
    · cases passed
    · next filled =>
      refine ⟨?_, ?_⟩
      · rcases h : filter.allowed with - | ⟨domain, rest⟩
        · exact .inl rfl
        · right
          simpa [h] using exclusive
      · simp only [List.any_append, Bool.or_eq_true, List.any_eq_true, String.isEmpty_iff,
          exists_eq_right, not_or] at filled
        exact filled

theorem isDialCode_of_checkDialCodes {kind : Kind} {codes : List String}
    (passed : checkDialCodes kind codes = .ok ()) : ∀ code ∈ codes, IsDialCode code := by
  unfold checkDialCodes at passed
  split at passed
  · cases passed
  · next none =>
    intro code member
    have numeric := List.find?_eq_none.1 none code member
    simpa [Text.Format.isDialCode, Text.isDigits, IsDialCode] using numeric

theorem isFieldName_of_checkName {subject : Subject} {name : String}
    (passed : checkName subject name = .ok ()) : IsFieldName name := by
  unfold checkName at passed
  split at passed
  · cases passed
  · next filled =>
    simpa [IsFieldName] using filled

/-- The functions that make descriptors ask for arguments that make sense. -/
theorem Shape.wellFormed_of_checked {shape : Shape} (checked : shape.Checked)
    (portable : ∀ callback, shape ≠ .custom (.inline callback)) : shape.WellFormed := by
  cases shape with
  | int ranges => exact fun range member => NumericRange.wellFormed_of_make (checked range member)
  | float ranges => exact fun range member => NumericRange.wellFormed_of_make (checked range member)
  | str pattern =>
    intro p held
    have made := checked p held
    unfold TextPattern.make at made
    split at made
    · next compiled =>
      rw [compiled, ← congrArg TextPattern.regex (Except.ok.inj made)]
    · cases made
  | temporal kind ranges =>
    intro range member
    obtain ⟨lo, hi, parsed⟩ := checked range member
    obtain ⟨lower, upper⟩ := TemporalRange.parse_eq_ok_iff.1 parsed
    exact ⟨Bound.wellFormed_of_parse lower, Bound.wellFormed_of_parse upper⟩
  | email filter => exact DomainFilter.wellFormed_of_check checked
  | webUri filter => exact DomainFilter.wellFormed_of_check checked
  | mailUri filter => exact ⟨DomainFilter.wellFormed_of_check checked.1, checked.2⟩
  | telUri filter => exact isDialCode_of_checkDialCodes checked
  | phone codes => exact isDialCode_of_checkDialCodes checked
  | literal members => exact checked
  | list alternatives length =>
    exact ⟨checked.1, fun range held => (checked.2 range held).wellFormed⟩
  | union alternatives => exact checked
  | dict key val required length =>
    exact ⟨checked.1, fun range held => (checked.2 range held).wellFormed⟩
  | record fields =>
    exact ⟨checked.1, fun field member => isFieldName_of_checkName (checked.2 field member)⟩
  | custom validator =>
    cases validator with
    | named name => exact checked
    | inline callback => exact portable callback rfl
  | _ => trivial

namespace Descriptor

variable {d : Descriptor} {args : Args}

/-- A checked descriptor is well formed at every depth if it is storable and no callback is bound in
it. -/
theorem throughout_wellFormed (checked : d.Checked) (storable : d.Storable)
    (portable : ¬d.HasInline) : Throughout WellFormed d := by
  intro part occurs
  refine ⟨Shape.wellFormed_of_checked (checked part occurs) fun callback same => ?_,
    (storable part occurs).1⟩
  exact portable ⟨part, occurs, .inl ⟨callback, same⟩⟩

/-- No validator is bound in what is read from arguments. -/
theorem ReadFrom.shape_ne_inline (read : ReadFrom args d) (callback : InlineCallback Validator) :
    d.shape ≠ .custom (.inline callback) := by
  intro same
  cases read with
  | leaf leaf =>
    cases (show _ = Shape.custom (.inline callback) from same)
    cases leaf with
    | bare member => simp [bareShapes] at member
  | record _ _ _ made =>
    obtain ⟨-, -, rfl⟩ := record_eq_ok_iff.1 made
    cases same
  | _ => cases same

/-- A descriptor that is read from a record is well formed at every depth. -/
theorem wellFormed_of_ofRecord {r : Value} (read : ofRecord r = .ok d) :
    Throughout WellFormed d := by
  refine throughout_of_ofRecord (fun {r d} _ read => ?_) read
  have checked := (built_of_ofRecord read).checked.here
  have named := (storable_of_ofRecord read).here.1
  obtain ⟨m, -, kind, -, args, -, shaped, ofArgs, nullable, -, default, -, rfl⟩ :=
    ofRecord_eq_ok_iff.1 read
  exact ⟨Shape.wellFormed_of_checked checked ofArgs.shape_ne_inline, named⟩

/-- A range of lengths without upper bound is read without a check, and needs none. -/
theorem wellFormed_of_ofRecord_tags :
    ∃ r, ofRecord r = .ok (tags 3) ∧ Throughout WellFormed (tags 3) := by
  have storable : (tags 3).Storable := storable_tags_iff.2 (by decide)
  obtain ⟨r, written⟩ : ∃ r, (tags 3).toRecord = .ok r := ⟨_, rfl⟩
  have read : ofRecord r = .ok (tags 3) :=
    ofRecord_of_toRecord (built_tags 3).checked storable written
  exact ⟨r, read, wellFormed_of_ofRecord read⟩

end Descriptor

end DocumentSchema

import DocumentSchema.Proofs.Descriptor.NormalForm
import DocumentSchema.Proofs.Descriptor.WellFormed
import DocumentSchema.Proofs.Value.Order

/-!
Records that are written back.

Nothing in a record is ignored: the descriptor that is read from it is written as the normal form of
that record (`Descriptor.toRecord_of_ofRecord`). The arguments of the kinds without nested
descriptors are written back by `Descriptor.ReadLeaf.toArgs_eq`, which goes through the rules of
`Descriptor.ReadLeaf`; `Descriptor.ReadFrom.toArgs_eq` adds the others, and the fields of a record
are put together by `Descriptor.writesNormal`.
-/

namespace DocumentSchema

namespace Descriptor

/-! ## Arguments that are written back -/

theorem named_of_toArgs {shape : Shape} {m : Document} (written : shape.toArgs = .ok m) :
    ∀ key ∈ Entries.keys m, key ∈ Args.names shape.kind := by
  simpa using find?_of_toArgs written

variable {args : Args} {shape : Shape} {d : Descriptor}

/-- The arguments of a shape are those that it was read from in their normal form, if each of them
is. -/
theorem toArgs_eq_normal {m : Document} (sound : args.Sound) (same : args.kind = shape.kind)
    (written : shape.toArgs = .ok m)
    (each : ∀ key ∈ Args.names args.kind, Entries.get? args.normal key = Entries.get? m key) :
    shape.toArgs = .ok args.normal := by
  have named := named_of_toArgs written
  rw [← same] at named
  have normal : args.normal = m :=
    Record.completed_eq (Args.nodup_keys_emptyArgs args.kind) (Args.names_of_emptyArgs args.kind)
      sound.ascending sound.known (ascending_of_toArgs written) named each
  rw [written, normal]

theorem toArgs_of_bare {shape : Shape} (bare : shape ∈ bareShapes) :
    shape.toArgs = .ok [] ∧ Args.names shape.kind = [] := by
  revert shape
  simp [bareShapes, Shape.toArgs, Shape.kind, Args.names]

theorem ReadLeaf.toArgs_eq (read : ReadLeaf args shape) (sound : args.Sound) :
    shape.toArgs = .ok args.normal := by
  have same := read.kind_eq.symm
  obtain ⟨kind, m⟩ := args
  cases read with
  | bare member known =>
    obtain ⟨written, none⟩ := toArgs_of_bare member
    refine toArgs_eq_normal sound same written fun key member => ?_
    rw [same, none] at member
    cases member
  | int known held made =>
    cases known
    refine toArgs_eq_normal sound same rfl fun key member => ?_
    cases List.mem_singleton.1 member
    exact Args.normal_of_numericBounds held made rfl rfl
  | float known held made =>
    cases known
    refine toArgs_eq_normal sound same rfl fun key member => ?_
    cases List.mem_singleton.1 member
    exact Args.normal_of_numericBounds held made rfl rfl
  | anyText known absent =>
    cases known
    refine toArgs_eq_normal sound same rfl fun key member => ?_
    cases List.mem_singleton.1 member
    exact Args.get?_normal_of_none absent rfl
  | text known held made =>
    cases known
    refine toArgs_eq_normal sound same rfl fun key member => ?_
    cases List.mem_singleton.1 member
    rw [Args.get?_normal_of_some held, ← TextPattern.source_of_make made]
    rfl
  | @temporal temporal _ _ known held made =>
    cases known
    have names : Args.names temporal.kind = ["ranges"] := by cases temporal <;> rfl
    have form : Record.argForm temporal.kind "ranges" = .temporalRanges := by
      cases temporal <;> rfl
    have filled : Entries.get? (Record.emptyArgs temporal.kind) "ranges" = some (.list []) := by
      cases temporal <;> rfl
    refine toArgs_eq_normal sound same rfl fun key member => ?_
    cases List.mem_singleton.1 (names ▸ member)
    exact Args.normal_of_temporalBounds held made filled form
  | email known held passed =>
    cases known
    obtain ⟨allowed, refused, strict⟩ := Args.normal_of_domains held (.inl rfl)
    refine toArgs_eq_normal sound same rfl fun key member => ?_
    simp only [Args.names, List.mem_cons, List.not_mem_nil, or_false] at member
    rcases member with rfl | rfl | rfl
    · exact allowed
    · exact refused
    · exact strict (by simp)
  | webUri known held passed =>
    cases known
    obtain ⟨allowed, refused, strict⟩ := Args.normal_of_domains held (.inr (.inl rfl))
    refine toArgs_eq_normal sound same rfl fun key member => ?_
    simp only [Args.names, List.mem_cons, List.not_mem_nil, or_false] at member
    rcases member with rfl | rfl | rfl
    · exact allowed
    · exact refused
    · exact strict (by simp)
  | mailUri known held passed =>
    cases known
    obtain ⟨allowed, refused, -⟩ := Args.normal_of_domains held (.inr (.inr rfl))
    refine toArgs_eq_normal sound same rfl fun key member => ?_
    rcases List.mem_pair.1 member with rfl | rfl
    · exact allowed
    · exact refused
  | telUri known held passed =>
    cases known
    obtain ⟨allowed, refused⟩ := Args.normal_of_codes held rfl
    refine toArgs_eq_normal sound same rfl fun key member => ?_
    rcases List.mem_pair.1 member with rfl | rfl
    · exact allowed
    · exact refused
  | phone known held passed =>
    cases known
    refine toArgs_eq_normal sound same rfl fun key member => ?_
    cases List.mem_singleton.1 member
    exact Args.normal_of_texts held rfl rfl
  | literal known held some =>
    cases known
    refine toArgs_eq_normal sound same rfl fun key member => ?_
    cases List.mem_singleton.1 member
    rw [Args.normal_of_list held rfl]
    rfl
  | custom known held named =>
    cases known
    refine toArgs_eq_normal sound same rfl fun key member => ?_
    cases List.mem_singleton.1 member
    rw [Args.get?_normal_of_some (Args.required_eq_ok_iff.1 held)]
    rfl

/-- The record of a descriptor is the normal form of every record that it is read from. -/
def WritesNormal (d : Descriptor) : Prop :=
  ∀ r : Value, r.Ordered → ofRecord r = .ok d → d.toRecord = .ok (Record.normal r)

theorem toRecords_eq_normal {items : List Value} {ds : List Descriptor}
    (each : List.Forall₂ (fun r d => ofRecord r = .ok d) items ds)
    (ordered : ∀ item ∈ items, item.Ordered) (inner : ∀ d ∈ ds, d.WritesNormal) :
    toRecords ds = .ok (items.map Record.normal) := by
  rw [toRecords_eq_ok_iff, List.forall₂_map_right_iff]
  induction each with
  | nil => exact .nil
  | cons here _ ih =>
    rw [List.forall_mem_cons] at ordered inner
    exact .cons (inner.1 _ ordered.1 here) (ih ordered.2 inner.2)

theorem toFieldRecords_eq_normal {m : Document} {fields : List (String × Descriptor)}
    (each : List.Forall₂ (fun entry field => field.1 = entry.1 ∧ ofRecord entry.2 = .ok field.2)
      m fields)
    (ordered : ∀ entry ∈ m, entry.2.Ordered) (inner : ∀ field ∈ fields, field.2.WritesNormal) :
    toFieldRecords fields = .ok (Record.normalEntries (fun _ => .record) m) := by
  rw [toFieldRecords_eq_ok_iff, Record.normalEntries_eq, List.forall₂_map_right_iff]
  induction each with
  | nil => exact .nil
  | cons here _ ih =>
    rw [List.forall_mem_cons] at ordered inner
    obtain ⟨same, read⟩ := here
    exact .cons ⟨same.symm, inner.1 _ ordered.1 read⟩ (ih ordered.2 inner.2)

/-- The arguments of what is read are written back in their normal form, if the records of its
children are. -/
theorem ReadFrom.toArgs_eq (read : ReadFrom args d) (sound : args.Sound)
    (ordered : (Value.map args.entries).Ordered)
    (inner : ∀ child ∈ d.children, child.WritesNormal) :
    d.shape.toArgs = .ok args.normal := by
  have below : ∀ {key v}, args.get? key = some v → v.Ordered := by
    intro key v held
    exact ordered.ofEntry (Args.mem_of_get? held)
  obtain ⟨kind, m⟩ := args
  cases read with
  | leaf leaf => exact leaf.toArgs_eq sound
  | @list items alternatives length known held each range some =>
    cases known
    have held := Args.records_eq_ok_iff.1 held
    have items := toRecords_eq_normal each (fun item => (below held).ofItem) inner
    refine toArgs_eq_normal sound rfl (except_bind_eq_ok_iff.2 ⟨_, items, rfl⟩) fun key member => ?_
    rcases List.mem_pair.1 member with rfl | rfl
    · rw [Args.get?_normal_of_some held, ← Record.normalItems_eq]
      rfl
    · exact Args.normal_of_lengthRange range rfl rfl
  | union known held each some =>
    cases known
    have held := Args.records_eq_ok_iff.1 held
    have items := toRecords_eq_normal each (fun item => (below held).ofItem) inner
    refine toArgs_eq_normal sound rfl (except_bind_eq_ok_iff.2 ⟨_, items, rfl⟩) fun key member => ?_
    cases List.mem_singleton.1 member
    rw [Args.get?_normal_of_some held, ← Record.normalItems_eq]
    rfl
  | @dict keyRecord valRecord key val required length known heldKey ofKey heldVal ofVal texts
      range =>
    cases known
    have heldKey := Args.required_eq_ok_iff.1 heldKey
    have heldVal := Args.required_eq_ok_iff.1 heldVal
    have written : (Shape.dict key val required length).toArgs =
        .ok [("key", Record.normal keyRecord), ("len_range", Record.ofLengthRange length),
          ("req", Value.ofTexts required), ("val", Record.normal valRecord)] := by
      rw [Shape.toArgs, inner key (List.mem_pair.2 (.inl rfl)) keyRecord (below heldKey) ofKey,
        inner val (List.mem_pair.2 (.inr rfl)) valRecord (below heldVal) ofVal]
      rfl
    refine toArgs_eq_normal sound rfl written fun name member => ?_
    simp only [Args.names, List.mem_cons, List.not_mem_nil, or_false] at member
    rcases member with rfl | rfl | rfl | rfl
    · exact Args.get?_normal_of_some heldKey
    · exact Args.get?_normal_of_some heldVal
    · exact Args.normal_of_texts texts rfl rfl
    · exact Args.normal_of_lengthRange range rfl rfl
  | record known held each made =>
    cases known
    have held := Args.fieldRecords_eq_ok_iff.1 held
    obtain ⟨-, -, rfl⟩ := record_eq_ok_iff.1 made
    have keys := Entries.keys_eq_of_forall₂ each fun _ _ here => here.1.symm
    have ascending := (below held).ascending.of_keys_eq keys
    rw [Entries.ofList_of_ascending ascending] at inner ⊢
    have fields := toFieldRecords_eq_normal each (fun entry => (below held).ofEntry)
      fun field member => inner field.2 (List.mem_map_of_mem member)
    refine toArgs_eq_normal sound rfl (except_bind_eq_ok_iff.2 ⟨_, fields, rfl⟩)
      fun key member => ?_
    cases List.mem_singleton.1 member
    exact Args.get?_normal_of_some held

/-! ## Records that are written back -/

section Fields

variable {m : Document} {kind : Kind} {key : String} {v : Value}

theorem nodup_keys_emptyFields (kind : Kind) :
    (Entries.keys (Record.emptyFields kind)).Nodup := by
  change ["allow_none", "args", "default"].Nodup
  decide

/-- The normal form of a field that is absent or null is its empty form. -/
theorem get?_fields_of_none
    (absent : Entries.get? m key = none ∨ Entries.get? m key = some .null)
    (filled : Entries.get? (Record.emptyFields kind) key = some v) :
    Entries.get? (Record.normalFields kind m) key = some v := by
  refine Record.get?_completed_of_none (nodup_keys_emptyFields kind) ?_ filled
  rcases absent with held | held <;> rw [held] <;> rfl

theorem get?_fields_of_some (held : Entries.get? m key = some v) (some : v.isNull = false) :
    Entries.get? (Record.normalFields kind m) key =
      .some (Record.normalAs (Record.fieldForm kind key) v) := by
  refine Record.get?_completed_of_some (nodup_keys_emptyFields kind) ?_
  simp [held, some]

theorem complete_emptyArgs (kind : Kind) :
    Record.complete (Record.emptyArgs kind) [] = Record.emptyArgs kind := by
  cases kind <;> rfl

theorem normal_of_ofField {args : Args}
    (read : Args.ofField kind (Entries.get? m "args") = .ok args) :
    Entries.get? (Record.normalFields kind m) "args" = some (.map args.normal) := by
  obtain ⟨rfl, -, ⟨absent, none⟩ | held⟩ := Args.ofField_cases read
  · rw [Args.normal, none, Record.normalEntries, complete_emptyArgs]
    exact get?_fields_of_none absent rfl
  · exact get?_fields_of_some held rfl

theorem normal_of_nullabilityOf {nullable : Bool}
    (read : Record.nullabilityOf kind (Entries.get? m "allow_none") = .ok nullable) :
    Entries.get? (Record.normalFields kind m) "allow_none" = some (.bool nullable) := by
  rcases Record.nullabilityOf_cases read with ⟨absent, rfl⟩ | held
  · exact get?_fields_of_none absent rfl
  · exact get?_fields_of_some held rfl

theorem normal_of_defaultOf {default : Option Default}
    (read : Record.defaultOf kind (Entries.get? m "default") = .ok default) :
    ∃ value, Record.ofDefault default = .ok value ∧
      Entries.get? (Record.normalFields kind m) "default" = some value := by
  rcases Record.defaultOf_cases read with ⟨absent, rfl⟩ | ⟨value, held, rfl⟩ |
    ⟨name, -, held, rfl⟩
  · exact ⟨_, rfl, get?_fields_of_none absent rfl⟩
  · exact ⟨_, rfl, get?_fields_of_some held rfl⟩
  · exact ⟨_, rfl, get?_fields_of_some held rfl⟩

/-- A map with these four fields is the record with them. -/
theorem complete_eq_recordOf {args : Document} {default : Value} {nullable : Bool}
    (ascending : Entries.Ascending m) (known : ∀ key ∈ Entries.keys m, key ∈ Record.fieldNames)
    (ofKind : Entries.get? m "kind" = some (.str kind.tag))
    (ofArgs : Entries.get? (Record.normalFields kind m) "args" = some (.map args))
    (ofNullable : Entries.get? (Record.normalFields kind m) "allow_none" = some (.bool nullable))
    (ofDefault : Entries.get? (Record.normalFields kind m) "default" = some default) :
    Value.map (Record.normalFields kind m) = recordOf nullable args default kind := by
  have filled : ∀ key ∈ Entries.keys (Record.emptyFields kind), key ∈ Record.fieldNames := by
    change ∀ key ∈ ["allow_none", "args", "default"], key ∈ Record.fieldNames
    decide
  refine congrArg Value.map (Record.completed_eq (nodup_keys_emptyFields kind) filled ascending
    known (Entries.ascending_iff_keys.2 ?_) ?_ fun key member => ?_)
  · change ["allow_none", "args", "default", "kind"].Pairwise (· < ·)
    decide
  · change ∀ key ∈ ["allow_none", "args", "default", "kind"], key ∈ Record.fieldNames
    decide
  · simp only [Record.fieldNames, List.mem_cons, List.not_mem_nil, or_false] at member
    rcases member with rfl | rfl | rfl | rfl
    · exact get?_fields_of_some ofKind rfl
    · exact ofArgs
    · exact ofNullable
    · exact ofDefault

end Fields

/-- The record of a descriptor is the normal form of every record that it is read from. -/
theorem writesNormal (d : Descriptor) : d.WritesNormal := by
  induction d using byChildren with
  | step d ih =>
    intro r ordered read
    obtain ⟨m, rfl, kind, ofKind, args, ofField, shaped, ofArgs, nullable, ofNullable, default,
      ofDefault, rfl⟩ := ofRecord_eq_ok_iff.1 read
    obtain ⟨tag, known⟩ := Record.kindOf_cases ofKind
    obtain ⟨same, names, held⟩ := Args.ofField_cases ofField
    have below : (Value.map args.entries).Ordered := by
      rcases held with ⟨-, none⟩ | held
      · rw [none]
        exact ⟨.nil, trivial⟩
      · exact ordered.ofEntry (Entries.mem_of_get? held)
    have sound : args.Sound := ⟨below.ascending, same ▸ names⟩
    have shapes : shaped.shape.kind = kind := ofArgs.kind_eq.trans same
    obtain ⟨value, written, filled⟩ := normal_of_defaultOf ofDefault
    refine toRecord_eq_ok_iff.2 ⟨args.normal, ofArgs.toArgs_eq sound below ih, value, written, ?_⟩
    have named : Record.kind? m = some kind := by
      rw [Record.kind?, tag]
      exact Kind.ofTag?_tag kind
    rw [Record.normal, Record.normalAs, named, shapes]
    exact complete_eq_recordOf ordered.ascending known tag (normal_of_ofField ofField)
      (normal_of_nullabilityOf ofNullable) filled

/-- The record of a descriptor that was read is the normal form of the record that it was read from.
So no callback is bound in such a descriptor, the normal form is read as the same descriptor, and
two records are read as the same one exactly when they have the same normal form. -/
theorem toRecord_of_ofRecord {r : Value} (ordered : r.Ordered) (read : ofRecord r = .ok d) :
    d.toRecord = .ok (Record.normal r) ∧ ¬d.HasInline ∧ ofRecord (Record.normal r) = .ok d ∧
      ∀ (r' : Value) (d' : Descriptor), r'.Ordered → ofRecord r' = .ok d' →
        (d' = d ↔ Record.normal r' = Record.normal r) := by
  have written := writesNormal d r ordered read
  have again : ofRecord (Record.normal r) = .ok d :=
    ofRecord_of_toRecord (built_of_ofRecord read).checked (storable_of_ofRecord read) written
  refine ⟨written, not_hasInline_of_toRecord written, again, fun r' d' ordered' read' => ?_⟩
  have written' := writesNormal d' r' ordered' read'
  have again' : ofRecord (Record.normal r') = .ok d' :=
    ofRecord_of_toRecord (built_of_ofRecord read').checked (storable_of_ofRecord read') written'
  constructor
  · rintro rfl
    exact Except.ok.inj (written'.symm.trans written)
  · intro same
    rw [same, again] at again'
    exact (Except.ok.inj again').symm

/-- A record of the dates of the last week, with most of its fields left out and its offsets in a
spelling of their own. -/
def looseDates : Value :=
  .map [("args", .map [("ranges", .list [.list [.str "-007d", .str "-00w"]])]),
    ("kind", .str "DATE")]

theorem toRecord_of_ofRecord_dates :
    ∃ d, ofRecord looseDates = .ok d ∧
      d.toRecord = .ok (.map [("allow_none", .bool false),
        ("args", .map [("ranges", .list [.list [.str "-7d", .str "+0w"]])]), ("default", .null),
        ("kind", .str "DATE")]) := by
  have ordered : looseDates.Ordered := by
    simp only [looseDates, Value.Ordered, Value.OrderedEntries, Value.OrderedList,
      Entries.Ascending]
    decide
  have lower : Bound.parse .date "-007d" = .ok (.relative (-7) .days) := by
    have signed : Bound.isSigned "-007d" = true :=
      Bound.isSigned_of_toList (show "-007d".toList = '-' :: "007d".toList from rfl) (.inr rfl)
    have parts : Text.Format.offsetParts? "-007d" = some (true, ['0', '0', '7'], 'd') := rfl
    exact Bound.parse_of_signed signed parts rfl rfl
  have upper : Bound.parse .date "-00w" = .ok (.relative 0 .weeks) := by
    have signed : Bound.isSigned "-00w" = true :=
      Bound.isSigned_of_toList (show "-00w".toList = '-' :: "00w".toList from rfl) (.inr rfl)
    have parts : Text.Format.offsetParts? "-00w" = some (true, ['0', '0'], 'w') := rfl
    exact Bound.parse_of_signed signed parts rfl rfl
  have ranges : temporalRanges .date [("-007d", "-00w")] =
      .ok [⟨.relative (-7) .days, .relative 0 .weeks⟩] :=
    temporalRanges_eq_ok_iff.2 (.cons (TemporalRange.parse_eq_ok_iff.2 ⟨lower, upper⟩) .nil)
  have read : ofRecord looseDates =
      .ok (.ofShape (.temporal .date [⟨.relative (-7) .days, .relative 0 .weeks⟩])) :=
    ofRecord_eq_ok_iff.2 ⟨_, rfl, .date, rfl, _, rfl, _, .leaf (.temporal rfl rfl ranges), false,
      rfl, none, rfl, rfl⟩
  exact ⟨_, read, (toRecord_of_ofRecord ordered read).1⟩

end Descriptor

end DocumentSchema

import DocumentSchema.Descriptor.Record
import DocumentSchema.Proofs.Descriptor.Parts
import DocumentSchema.Proofs.Traversal

/-!
Writing descriptors as records.

A record has four fields, and the records of the children of a descriptor stand in its arguments.
`Descriptor.toRecord_eq_ok_iff` and its companions say what is written when nothing fails, and
`Descriptor.hasInline_of_toRecord_error` what has failed otherwise: writing a descriptor fails
exactly when a callback is bound in it at some depth, and always for the same reason.
-/

namespace DocumentSchema

namespace Descriptor

/-! ## Records that are written -/

/-- The record with these fields. -/
def recordOf (nullable : Bool) (args : Document) (default : Value) (kind : Kind) : Value :=
  .map [("allow_none", .bool nullable), ("args", .map args), ("default", default),
    ("kind", .str kind.tag)]

theorem toRecord_eq_ok_iff {shape : Shape} {default : Option Default} {nullable : Bool}
    {r : Value} :
    (mk shape default nullable).toRecord = .ok r ↔
      ∃ args, shape.toArgs = .ok args ∧
        ∃ value, Record.ofDefault default = .ok value ∧
          r = recordOf nullable args value shape.kind := by
  rw [Descriptor.toRecord]
  simp only [except_bind_eq_ok_iff, except_pure_eq_ok_iff, recordOf]

theorem isNull_of_toRecord {d : Descriptor} {r : Value} (written : d.toRecord = .ok r) :
    r.isNull = false := by
  obtain ⟨shape, default, nullable⟩ := d
  obtain ⟨args, -, value, -, rfl⟩ := toRecord_eq_ok_iff.1 written
  rfl

theorem toRecords_eq_ok_iff {ds : List Descriptor} {rs : List Value} :
    toRecords ds = .ok rs ↔ List.Forall₂ (fun d r => d.toRecord = .ok r) ds rs := by
  induction ds generalizing rs with
  | nil =>
    rw [toRecords]
    simp [eq_comm]
  | cons d ds ih =>
    rw [toRecords]
    simp only [except_bind_eq_ok_iff, except_pure_eq_ok_iff, ih, List.forall₂_cons_left_iff,
      exists_and_left]

theorem toFieldRecords_eq_ok_iff {fields : List (String × Descriptor)} {m : Document} :
    toFieldRecords fields = .ok m ↔
      List.Forall₂ (fun field entry => entry.1 = field.1 ∧ field.2.toRecord = .ok entry.2)
        fields m := by
  induction fields generalizing m with
  | nil =>
    rw [toFieldRecords]
    simp [eq_comm]
  | cons field fields ih =>
    obtain ⟨name, d⟩ := field
    rw [toFieldRecords]
    simp only [except_bind_eq_ok_iff, except_pure_eq_ok_iff, except_mapError_eq_ok_iff, ih,
      List.forall₂_cons_left_iff]
    constructor
    · intro h
      obtain ⟨r, written, rest, others, rfl⟩ := h
      exact ⟨(name, r), rest, ⟨rfl, written⟩, others, rfl⟩
    · intro h
      obtain ⟨⟨_, r⟩, rest, ⟨rfl, written⟩, others, rfl⟩ := h
      exact ⟨r, written, rest, others, rfl⟩

/-- With a shape, each of its children is written. -/
theorem toRecord_of_mem_children {shape : Shape} {args : Document} {child : Descriptor}
    (written : shape.toArgs = .ok args) (member : child ∈ shape.children) :
    ∃ r, child.toRecord = .ok r := by
  cases shape with
  | list alternatives length =>
    rw [Shape.toArgs, except_bind_eq_ok_iff] at written
    obtain ⟨records, each, -⟩ := written
    obtain ⟨r, -, here⟩ := exists_of_mem_left (toRecords_eq_ok_iff.1 each) member
    exact ⟨r, here⟩
  | union alternatives =>
    rw [Shape.toArgs, except_bind_eq_ok_iff] at written
    obtain ⟨records, each, -⟩ := written
    obtain ⟨r, -, here⟩ := exists_of_mem_left (toRecords_eq_ok_iff.1 each) member
    exact ⟨r, here⟩
  | dict key val required length =>
    rw [Shape.toArgs] at written
    simp only [except_bind_eq_ok_iff] at written
    obtain ⟨first, ofKey, second, ofVal, -⟩ := written
    rcases List.mem_pair.1 (show child ∈ [key, val] from member) with rfl | rfl
    · exact ⟨first, ofKey⟩
    · exact ⟨second, ofVal⟩
  | record fields =>
    rw [Shape.toArgs, except_bind_eq_ok_iff] at written
    obtain ⟨records, each, -⟩ := written
    obtain ⟨field, held, rfl⟩ := List.mem_map.1 (show child ∈ fields.map (·.2) from member)
    obtain ⟨entry, -, -, here⟩ := exists_of_mem_left (toFieldRecords_eq_ok_iff.1 each) held
    exact ⟨entry.2, here⟩
  | _ => cases member

/-- The names of the arguments of a shape ascend. -/
theorem ascending_of_toArgs {shape : Shape} {m : Document} (written : shape.toArgs = .ok m) :
    Entries.Ascending m := by
  rw [Entries.ascending_iff_keys]
  cases shape with
  | custom validator =>
    cases validator with
    | named name =>
      cases written
      exact List.pairwise_singleton _ _
    | inline callback => cases written
  | list | union | record =>
    rw [Shape.toArgs, except_bind_eq_ok_iff] at written
    obtain ⟨_, -, same⟩ := written
    cases same
    simp only [Entries.keys, List.map_cons, List.map_nil]
    decide
  | dict =>
    rw [Shape.toArgs] at written
    simp only [except_bind_eq_ok_iff] at written
    obtain ⟨_, -, _, -, same⟩ := written
    cases same
    simp only [Entries.keys, List.map_cons, List.map_nil]
    decide
  | _ =>
    cases written
    simp only [Record.ofDomains, List.cons_append, List.nil_append, Entries.keys, List.map_cons,
      List.map_nil]
    decide

/-! ## Bound callbacks -/

/-- A callback is bound in a descriptor itself: its validator or its default. -/
def Inline (d : Descriptor) : Prop :=
  (∃ callback, d.shape = .custom (.inline callback)) ∨
    ∃ callback, d.default = some (.inline callback)

/-- A callback is bound in a descriptor at some depth. -/
def HasInline (d : Descriptor) : Prop :=
  ∃ part, Occurs part d ∧ part.Inline

variable {d : Descriptor} {e : SchemaError}

theorem HasInline.of_child {child : Descriptor} (inside : child.HasInline)
    (member : child ∈ d.children) : d.HasInline := by
  obtain ⟨part, occurs, inline⟩ := inside
  exact ⟨part, .inside member occurs, inline⟩

/-- No callback is bound in what has been written. -/
theorem not_hasInline_of_toRecord {r : Value} (written : d.toRecord = .ok r) : ¬d.HasInline := by
  suffices free : Throughout (fun part => ¬part.Inline) d by
    intro h
    obtain ⟨part, occurs, inline⟩ := h
    exact free part occurs inline
  induction d using byChildren generalizing r with
  | step d ih =>
    obtain ⟨shape, default, nullable⟩ := d
    obtain ⟨args, ofShape, value, ofDefault, -⟩ := toRecord_eq_ok_iff.1 written
    refine throughout_iff.2 ⟨?_, fun child member => ?_⟩
    · intro h
      rcases h with ⟨callback, same⟩ | ⟨callback, same⟩
      · cases (show shape = .custom (.inline callback) from same)
        cases ofShape
      · cases (show default = some (.inline callback) from same)
        cases ofDefault
    · obtain ⟨r', here⟩ := toRecord_of_mem_children ofShape member
      exact ih child member here

/-! ## Failures -/

theorem toRecords_error {ds : List Descriptor} (failed : toRecords ds = .error e) :
    ∃ d ∈ ds, d.toRecord = .error e := by
  induction ds with
  | nil =>
    rw [toRecords] at failed
    cases failed
  | cons d ds ih =>
    rw [toRecords] at failed
    rcases except_bind_eq_error_iff.1 failed with here | ⟨_, -, failed⟩
    · exact ⟨d, List.mem_cons_self, here⟩
    · rcases except_bind_eq_error_iff.1 failed with there | ⟨_, -, none⟩
      · obtain ⟨d', member, here⟩ := ih there
        exact ⟨d', List.mem_cons_of_mem _ member, here⟩
      · cases none

theorem toFieldRecords_error {fields : List (String × Descriptor)}
    (failed : toFieldRecords fields = .error e) :
    ∃ field ∈ fields, ∃ cause, field.2.toRecord = .error cause ∧ e = cause.within field.1 := by
  induction fields with
  | nil =>
    rw [toFieldRecords] at failed
    cases failed
  | cons field fields ih =>
    obtain ⟨name, d⟩ := field
    rw [toFieldRecords] at failed
    rcases except_bind_eq_error_iff.1 failed with here | ⟨_, -, failed⟩
    · exact ⟨(name, d), List.mem_cons_self, except_mapError_eq_error_iff.1 here⟩
    · rcases except_bind_eq_error_iff.1 failed with there | ⟨_, -, none⟩
      · obtain ⟨field, member, here⟩ := ih there
        exact ⟨field, List.mem_cons_of_mem _ member, here⟩
      · cases none

/-- Why the arguments of a shape are not written: its own validator is bound in it, or one of its
children is not written, for the same reason. -/
theorem toArgs_error {shape : Shape} (failed : shape.toArgs = .error e) :
    (∃ callback, shape = .custom (.inline callback)) ∧
        e = .ofFault (.notPortable .inlineValidator) ∨
      ∃ child ∈ shape.children, ∃ cause, child.toRecord = .error cause ∧ e.fault = cause.fault := by
  cases shape with
  | list alternatives length =>
    right
    rw [Shape.toArgs] at failed
    rcases except_bind_eq_error_iff.1 failed with inside | ⟨_, -, none⟩
    · obtain ⟨child, member, here⟩ := toRecords_error inside
      exact ⟨child, member, e, here, rfl⟩
    · cases none
  | union alternatives =>
    right
    rw [Shape.toArgs] at failed
    rcases except_bind_eq_error_iff.1 failed with inside | ⟨_, -, none⟩
    · obtain ⟨child, member, here⟩ := toRecords_error inside
      exact ⟨child, member, e, here, rfl⟩
    · cases none
  | dict key val required length =>
    right
    rw [Shape.toArgs] at failed
    rcases except_bind_eq_error_iff.1 failed with here | ⟨_, -, failed⟩
    · exact ⟨key, List.mem_pair.2 (.inl rfl), e, here, rfl⟩
    · rcases except_bind_eq_error_iff.1 failed with here | ⟨_, -, none⟩
      · exact ⟨val, List.mem_pair.2 (.inr rfl), e, here, rfl⟩
      · cases none
  | record fields =>
    right
    rw [Shape.toArgs] at failed
    rcases except_bind_eq_error_iff.1 failed with inside | ⟨_, -, none⟩
    · obtain ⟨field, member, cause, here, rfl⟩ := toFieldRecords_error inside
      exact ⟨field.2, List.mem_map_of_mem member, cause, here, rfl⟩
    · cases none
  | custom validator =>
    left
    cases validator with
    | named name => cases failed
    | inline callback =>
      cases failed
      exact ⟨⟨callback, rfl⟩, rfl⟩
  | _ => cases failed

/-- What is not written has a callback bound in it, and is called not portable. -/
theorem hasInline_of_toRecord_error (failed : d.toRecord = .error e) :
    d.HasInline ∧ e.code = "ATTR_SCHEMA_NOT_PORTABLE" := by
  induction d using byChildren generalizing e with
  | step d ih =>
    obtain ⟨shape, default, nullable⟩ := d
    rw [Descriptor.toRecord] at failed
    rcases except_bind_eq_error_iff.1 failed with ofShape | ⟨_, -, failed⟩
    · rcases toArgs_error ofShape with ⟨inline, rfl⟩ | ⟨child, member, cause, here, same⟩
      · exact ⟨⟨_, .here, .inl inline⟩, rfl⟩
      · obtain ⟨inside, code⟩ := ih child member here
        exact ⟨inside.of_child member, by rwa [SchemaError.code, same]⟩
    · rcases except_bind_eq_error_iff.1 failed with ofDefault | ⟨_, -, none⟩
      · rcases default with - | value | name | callback
        · cases ofDefault
        · cases ofDefault
        · cases ofDefault
        · cases ofDefault
          exact ⟨⟨_, .here, .inr ⟨callback, rfl⟩⟩, rfl⟩
      · cases none

/-- Writing fails exactly when a callback is bound in the descriptor. -/
theorem toRecord_error_iff : (∃ e, d.toRecord = .error e) ↔ d.HasInline := by
  constructor
  · intro h
    obtain ⟨e, failed⟩ := h
    exact (hasInline_of_toRecord_error failed).1
  · intro inline
    cases written : d.toRecord with
    | error e => exact ⟨e, rfl⟩
    | ok r => exact absurd inline (not_hasInline_of_toRecord written)

end Descriptor

end DocumentSchema

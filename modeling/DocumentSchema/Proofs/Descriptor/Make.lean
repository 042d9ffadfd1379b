import DocumentSchema.Descriptor.Make
import DocumentSchema.Proofs.Traversal
import DocumentSchema.Proofs.Value.Dictionary

/-!
What the functions that make descriptors give.

Each of them either refuses its arguments or gives the descriptor of one shape. The statements here
say when it is which. The fields of records are collected one by one, so that `record_eq_ok_iff`
rests on an induction on the fields that are left (`addFields_eq_ok_iff`).
-/

namespace DocumentSchema

/-! ## Ranges -/

/-- A range of lengths is made unless it is empty. -/
theorem LengthRange.make_eq_ok_iff {least : Nat} {most : Option Nat} {range : LengthRange} :
    make least most = .ok range ↔ (∀ limit, most = some limit → least < limit) ∧
      range = ⟨least, most⟩ := by
  unfold make
  cases most with
  | none => simp [eq_comm]
  | some limit =>
    by_cases crossed : limit ≤ least
    · have refused : ¬least < limit := Nat.not_lt.2 crossed
      simp [crossed, refused]
    · have admitted : least < limit := Nat.lt_of_not_le crossed
      simp [crossed, admitted, eq_comm]

/-- A numeric range has the bounds it is made of. -/
theorem NumericRange.eq_of_make {lo hi : Binary64} {range : NumericRange}
    (made : make lo hi = .ok range) : range = ⟨lo, hi⟩ := by
  unfold make at made
  split at made
  · cases made
  · split at made
    · cases made
    · exact (Except.ok.inj made).symm

/-- A pattern keeps its text. -/
theorem TextPattern.source_of_make {source : String} {pattern : TextPattern}
    (made : make source = .ok pattern) : pattern.source = source := by
  unfold make at made
  split at made
  · cases made
    rfl
  · cases made

/-- Numeric ranges are made one by one. -/
theorem numericRanges_eq_ok_iff {bounds : List (Binary64 × Binary64)}
    {ranges : List NumericRange} :
    numericRanges bounds = .ok ranges ↔
      List.Forall₂ (fun pair range => NumericRange.make pair.1 pair.2 = .ok range)
        bounds ranges :=
  except_mapM_eq_ok_iff

/-- Ranges of times are parsed one by one. -/
theorem temporalRanges_eq_ok_iff {kind : TemporalKind} {bounds : List (String × String)}
    {ranges : List TemporalRange} :
    temporalRanges kind bounds = .ok ranges ↔
      List.Forall₂ (fun pair range => TemporalRange.parse kind pair.1 pair.2 = .ok range)
        bounds ranges :=
  except_mapM_eq_ok_iff

namespace Descriptor

variable {d : Descriptor}

/-! ## Scalars -/

theorem intRanged_eq_ok_iff {bounds : List (Binary64 × Binary64)} :
    intRanged bounds = .ok d ↔
      ∃ ranges, numericRanges bounds = .ok ranges ∧ d = .ofShape (.int ranges) := by
  simp only [intRanged, except_bind_eq_ok_iff, except_pure_eq_ok_iff]

theorem floatRanged_eq_ok_iff {bounds : List (Binary64 × Binary64)} :
    floatRanged bounds = .ok d ↔
      ∃ ranges, numericRanges bounds = .ok ranges ∧ d = .ofShape (.float ranges) := by
  simp only [floatRanged, except_bind_eq_ok_iff, except_pure_eq_ok_iff]

theorem strPattern_eq_ok_iff {source : String} :
    strPattern source = .ok d ↔
      ∃ pattern, TextPattern.make source = .ok pattern ∧ d = .ofShape (.str (some pattern)) := by
  simp only [strPattern, except_bind_eq_ok_iff, except_pure_eq_ok_iff]

theorem temporalRanged_eq_ok_iff {kind : TemporalKind} {bounds : List (String × String)} :
    temporalRanged kind bounds = .ok d ↔
      ∃ ranges, temporalRanges kind bounds = .ok ranges ∧ d = .ofShape (.temporal kind ranges) := by
  simp only [temporalRanged, except_bind_eq_ok_iff, except_pure_eq_ok_iff]

theorem email_eq_ok_iff {filter : DomainFilter} :
    email filter = .ok d ↔ filter.check .email = .ok () ∧ d = .ofShape (.email filter) := by
  simp only [email, except_bind_unit_eq_ok_iff, except_pure_eq_ok_iff]

theorem webUri_eq_ok_iff {filter : DomainFilter} :
    webUri filter = .ok d ↔ filter.check .webUri = .ok () ∧ d = .ofShape (.webUri filter) := by
  simp only [webUri, except_bind_unit_eq_ok_iff, except_pure_eq_ok_iff]

theorem mailUri_eq_ok_iff {filter : DomainFilter} :
    mailUri filter = .ok d ↔
      filter.check .mailUri = .ok () ∧
        d = .ofShape (.mailUri { filter with strict := false }) := by
  simp only [mailUri, except_bind_unit_eq_ok_iff, except_pure_eq_ok_iff]

theorem telUri_eq_ok_iff {filter : CodeFilter} :
    telUri filter = .ok d ↔
      checkDialCodes .telUri (filter.allowed ++ filter.refused) = .ok () ∧
        d = .ofShape (.telUri filter) := by
  simp only [telUri, except_bind_unit_eq_ok_iff, except_pure_eq_ok_iff]

theorem phone_eq_ok_iff {codes : List String} :
    phone codes = .ok d ↔ checkDialCodes .phone codes = .ok () ∧ d = .ofShape (.phone codes) := by
  simp only [phone, except_bind_unit_eq_ok_iff, except_pure_eq_ok_iff]

theorem literal_eq_ok_iff {members : List Value} :
    literal members = .ok d ↔ members ≠ [] ∧ d = .ofShape (.literal members) := by
  cases members <;> simp [literal, eq_comm]

theorem customNamed_eq_ok_iff {name : String} :
    customNamed name = .ok d ↔ name ≠ "" ∧ d = .ofShape (.custom (.named name)) := by
  by_cases empty : name = ""
  · simp [customNamed, empty]
  · have held : name.isEmpty = false := by simpa using empty
    simp only [customNamed, held, Bool.false_eq_true, if_false, Except.ok.injEq, ne_eq, empty,
      not_false_eq_true, true_and]
    exact eq_comm

/-! ## Composites -/

/-- A list needs an alternative for its elements. -/
theorem list_eq_ok_iff {alternatives : List Descriptor} {length : Option LengthRange} :
    list alternatives length = .ok d ↔
      alternatives ≠ [] ∧ d = .ofShape (.list alternatives length) := by
  cases alternatives <;> simp [list, eq_comm]

/-- A union needs an alternative. -/
theorem union_eq_ok_iff {alternatives : List Descriptor} :
    union alternatives = .ok d ↔ alternatives ≠ [] ∧ d = .ofShape (.union alternatives) := by
  cases alternatives <;> simp [union, eq_comm]

/-- A dictionary needs keys that are texts. -/
theorem dict_eq_ok_iff {key val : Descriptor} {required : List String}
    {length : Option LengthRange} :
    dict key val required length = .ok d ↔
      key.yieldsKey = true ∧ d = .ofShape (.dict key val required length) := by
  cases yields : key.yieldsKey <;> simp [dict, yields, eq_comm]

/-- A field is added under a proper new name. -/
theorem addField_eq_ok_iff {fields added : Entries Descriptor} {name : String} :
    addField fields name d = .ok added ↔
      checkName (.kind .record) name = .ok () ∧ Entries.hasKey fields name = false ∧
        added = Entries.insert name d fields := by
  simp only [addField, except_bind_unit_eq_ok_iff]
  cases Entries.hasKey fields name <;> simp [eq_comm]

/-- Fields are collected exactly when each of them is new and has a name that passes. -/
theorem addFields_eq_ok_iff {pairs : List (String × Descriptor)}
    {done fields : Entries Descriptor} :
    pairs.foldlM (fun done pair => addField done pair.1 pair.2) done = .ok fields ↔
      (∀ pair ∈ pairs, checkName (.kind .record) pair.1 = .ok () ∧
        Entries.hasKey done pair.1 = false) ∧
        (Entries.keys pairs).Nodup ∧ fields = Entries.insertAll done pairs := by
  induction pairs generalizing done with
  | nil =>
    simp [Entries.keys, Entries.insertAll, except_pure_eq_ok_iff]
  | cons pair rest ih =>
    obtain ⟨name, d⟩ := pair
    have absent : ∀ other, Entries.hasKey (Entries.insert name d done) other = false ↔
        other ≠ name ∧ Entries.hasKey done other = false := by
      intro other
      rw [Entries.hasKey, Entries.hasKey, Entries.get?_insert]
      split <;> simp [*]
    have split : (∀ pair ∈ rest, pair.1 ≠ name) ↔ name ∉ Entries.keys rest := by
      simp only [Entries.keys, List.mem_map, not_exists, not_and]
    simp only [List.foldlM_cons, except_bind_eq_ok_iff, addField_eq_ok_iff, ih,
      Entries.insertAll_cons, List.forall_mem_cons, Entries.keys, List.map_cons, List.nodup_cons]
    rw [Entries.keys] at split
    constructor
    · intro h
      obtain ⟨_, ⟨named, fresh, rfl⟩, each, distinct, made⟩ := h
      refine ⟨⟨⟨named, fresh⟩, fun pair member => ?_⟩, ⟨split.1 fun pair member => ?_, distinct⟩,
        made⟩
      · exact ⟨(each pair member).1, ((absent _).1 (each pair member).2).2⟩
      · exact ((absent _).1 (each pair member).2).1
    · intro h
      obtain ⟨⟨⟨named, fresh⟩, each⟩, ⟨new, distinct⟩, made⟩ := h
      refine ⟨_, ⟨named, fresh, rfl⟩, fun pair member => ?_, distinct, made⟩
      exact ⟨(each pair member).1, (absent _).2 ⟨split.2 new pair member, (each pair member).2⟩⟩

/-- A record needs proper names, each once, and orders them. -/
theorem record_eq_ok_iff {pairs : List (String × Descriptor)} :
    record pairs = .ok d ↔
      (∀ pair ∈ pairs, checkName (.kind .record) pair.1 = .ok ()) ∧ (Entries.keys pairs).Nodup ∧
        d = .ofShape (.record (Entries.ofList pairs)) := by
  have none : ∀ name, Entries.hasKey ([] : Entries Descriptor) name = false := fun _ => rfl
  simp only [record, except_bind_eq_ok_iff, except_pure_eq_ok_iff, addFields_eq_ok_iff, none,
    and_true, Entries.ofList_eq_insertAll, and_assoc, exists_and_left, exists_eq_left]

/-- The fields of a record ascend, and they are those that were given, under names that pass. -/
theorem fields_of_record {pairs : List (String × Descriptor)} (made : record pairs = .ok d) :
    ∃ fields, d = .ofShape (.record fields) ∧ Entries.Ascending fields ∧
      ∀ entry ∈ fields, entry ∈ pairs ∧ checkName (.kind .record) entry.1 = .ok () := by
  obtain ⟨named, -, rfl⟩ := record_eq_ok_iff.1 made
  refine ⟨_, rfl, Entries.ascending_ofList pairs, fun entry member => ?_⟩
  have given := Entries.mem_of_mem_ofList member
  exact ⟨given, named entry given⟩

/-- Fields in order are kept as they are. -/
theorem record_of_ascending {fields : Entries Descriptor} (ascending : Entries.Ascending fields)
    (named : ∀ entry ∈ fields, checkName (.kind .record) entry.1 = .ok ()) :
    record fields = .ok (.ofShape (.record fields)) := by
  refine record_eq_ok_iff.2 ⟨named, ascending.nodup_keys, ?_⟩
  rw [Entries.ofList_of_ascending ascending]

end Descriptor

end DocumentSchema

import DocumentSchema.Descriptor.Record
import DocumentSchema.Proofs.Descriptor.Make
import DocumentSchema.Proofs.Descriptor.Parts
import DocumentSchema.Proofs.Value.Parts

/-!
Reading records as descriptors.

`Descriptor.ofRecord_eq_ok_iff` splits a record into its four fields, and `Descriptor.ofArgs_iff`
says what its arguments are read as: `Descriptor.ReadLeaf` has a rule for each kind without nested
descriptors, and `Descriptor.ReadFrom` adds one for each of the others. As every child of what is
read is read from a record itself, what holds of all that is read from records holds of it at every
depth (`Descriptor.throughout_of_ofRecord`).
-/

namespace DocumentSchema

/-- The kinds with nested descriptors. -/
def Kind.composites : List Kind :=
  [.list, .union, .dict, .record]

/-- The arguments of a record are the entries of a map, with names that the kind knows, and there
are none if the field is absent or null. -/
theorem Args.ofField_cases {kind : Kind} {field : Option Value} {args : Args}
    (read : ofField kind field = .ok args) :
    args.kind = kind ∧ (∀ key ∈ Entries.keys args.entries, key ∈ names kind) ∧
      (((field = none ∨ field = some .null) ∧ args.entries = []) ∨
        field = some (.map args.entries)) := by
  unfold ofField at read
  dsimp only at read
  split at read
  · split at read
    · cases read
    · cases read
      exact ⟨rfl, by simp [Entries.keys], .inl ⟨.inl rfl, rfl⟩⟩
  · split at read
    · cases read
    · cases read
      exact ⟨rfl, by simp [Entries.keys], .inl ⟨.inr rfl, rfl⟩⟩
  · split at read
    · cases read
    · next known =>
      cases read
      exact ⟨rfl, by simpa using known, .inr rfl⟩
  · cases read

theorem Args.required_eq_ok_iff {args : Args} {key : String} {v : Value} :
    args.required key = .ok v ↔ args.get? key = some v := by
  unfold required
  split <;> simp [*]

theorem Args.records_eq_ok_iff {args : Args} {key : String} {items : List Value} :
    args.records key = .ok items ↔ args.get? key = some (.list items) := by
  rw [records, except_bind_eq_ok_iff, ← required_eq_ok_iff]
  constructor
  · intro h
    obtain ⟨v, held, same⟩ := h
    cases v <;> cases same
    exact held
  · exact fun held => ⟨_, held, rfl⟩

theorem Args.fieldRecords_eq_ok_iff {args : Args} {key : String} {m : Document} :
    args.fieldRecords key = .ok m ↔ args.get? key = some (.map m) := by
  rw [fieldRecords, except_bind_eq_ok_iff, ← required_eq_ok_iff]
  constructor
  · intro h
    obtain ⟨v, held, same⟩ := h
    cases v <;> cases same
    exact held
  · exact fun held => ⟨_, held, rfl⟩

theorem Args.mem_of_get? {args : Args} {key : String} {v : Value}
    (held : args.get? key = some v) : (key, v) ∈ args.entries :=
  Entries.mem_of_get? (Option.filter_eq_some_iff.1 held).1

/-- What an argument of a record holds occurs in the record. -/
theorem Args.occurs_of_ofField {kind : Kind} {m : Document} {args : Args} {key : String} {v : Value}
    (read : ofField kind (Entries.get? m "args") = .ok args) (held : args.get? key = some v) :
    Value.Occurs v (.map m) := by
  have member := mem_of_get? held
  rcases (ofField_cases read).2.2 with ⟨-, none⟩ | inside
  · rw [none] at member
    cases member
  · exact (Value.Occurs.ofEntry member).trans (.ofEntry (Entries.mem_of_get? inside))

/-- What the range of lengths is read from: nothing, a pair with null for its upper bound, or a pair
of lengths. -/
theorem Args.lengthRange_cases {args : Args} {length : Option LengthRange}
    (read : args.lengthRange = .ok length) :
    (args.get? "len_range" = none ∧ length = none) ∨
      (∃ first least, args.get? "len_range" = some (.list [first, .null]) ∧
        length? first = some least ∧ length = some (.atLeast least)) ∨
      ∃ first second least most range, args.get? "len_range" = some (.list [first, second]) ∧
        length? first = some least ∧ length? second = some most ∧
          LengthRange.make least (some most) = .ok range ∧ length = some range := by
  unfold lengthRange at read
  dsimp only at read
  split at read
  · next held =>
    cases read
    exact .inl ⟨held, rfl⟩
  · next first held =>
    split at read
    · next least number =>
      cases read
      exact .inr (.inl ⟨first, least, held, number, rfl⟩)
    · cases read
  · next first second _ held =>
    split at read
    · next least most lower upper =>
      cases made : LengthRange.make least (some most) with
      | error e =>
        rw [made] at read
        cases read
      | ok range =>
        rw [made] at read
        cases read
        exact .inr (.inr ⟨first, second, least, most, range, held, lower, upper, made, rfl⟩)
    · cases read
  · cases read

/-- A kind that is read has the name it was read from. -/
theorem Kind.tag_of_ofTag? {tag : String} {kind : Kind} (read : ofTag? tag = some kind) :
    kind.tag = tag := by
  simpa using List.find?_some read

namespace Record

/-- A record has the tag of its kind, and no field that is not known. -/
theorem kindOf_cases {m : Document} {kind : Kind} (read : kindOf m = .ok kind) :
    Entries.get? m "kind" = some (.str kind.tag) ∧
      ∀ key ∈ Entries.keys m, key ∈ fieldNames := by
  unfold kindOf at read
  split at read
  · cases read
  · next tag held =>
    split at read
    · cases read
    · next known =>
      split at read
      · cases read
      · next none =>
        cases read
        obtain ⟨v, found, text⟩ := Option.bind_eq_some_iff.1 held
        cases v <;> cases text
        rw [Kind.tag_of_ofTag? known]
        exact ⟨found, by simpa using none⟩

/-- The flag is read, or it is absent and off. -/
theorem nullabilityOf_cases {kind : Kind} {field : Option Value} {nullable : Bool}
    (read : nullabilityOf kind field = .ok nullable) :
    ((field = none ∨ field = some .null) ∧ nullable = false) ∨ field = some (.bool nullable) := by
  unfold nullabilityOf at read
  split at read
  · cases read
    exact .inl ⟨.inl rfl, rfl⟩
  · cases read
    exact .inl ⟨.inr rfl, rfl⟩
  · cases read
    exact .inr rfl
  · cases read

/-- A default is absent, a value, or the name of a generator. -/
theorem defaultOf_cases {kind : Kind} {field : Option Value} {default : Option Default}
    (read : defaultOf kind field = .ok default) :
    ((field = none ∨ field = some .null) ∧ default = none) ∨
      (∃ value, field = some (.map [("value", value)]) ∧ default = some (.static value)) ∨
      ∃ name, name ≠ "" ∧ field = some (.map [("generator", .str name)]) ∧
        default = some (.named name) := by
  unfold defaultOf at read
  split at read
  · cases read
    exact .inl ⟨.inl rfl, rfl⟩
  · cases read
    exact .inl ⟨.inr rfl, rfl⟩
  · split at read
    · next value same =>
      cases read
      exact .inr (.inl ⟨value, by rw [same], rfl⟩)
    · split at read
      · next same =>
        split at read
        · next name =>
          by_cases empty : name.isEmpty = true
          · rw [if_pos empty] at read
            cases read
          · rw [if_neg empty] at read
            cases read
            exact .inr (.inr ⟨name, by simpa using empty, by rw [same], rfl⟩)
        · cases read
      · cases read
  · cases read

end Record

namespace Descriptor

variable {d : Descriptor}

/-! ## Lists of records -/

/-- Records are read one by one. -/
theorem ofRecords_eq_ok_iff {rs : List Value} {ds : List Descriptor} :
    ofRecords rs = .ok ds ↔ List.Forall₂ (fun r d => ofRecord r = .ok d) rs ds := by
  induction rs generalizing ds with
  | nil =>
    rw [ofRecords]
    simp [eq_comm]
  | cons r rs ih =>
    rw [ofRecords]
    simp only [except_bind_eq_ok_iff, except_pure_eq_ok_iff, ih, List.forall₂_cons_left_iff,
      exists_and_left]

/-- The records of fields are read one by one, under their names. -/
theorem ofFieldRecords_eq_ok_iff {m : Document} {fields : List (String × Descriptor)} :
    ofFieldRecords m = .ok fields ↔
      List.Forall₂ (fun entry field => field.1 = entry.1 ∧ ofRecord entry.2 = .ok field.2)
        m fields := by
  induction m generalizing fields with
  | nil =>
    rw [ofFieldRecords]
    simp [eq_comm]
  | cons entry m ih =>
    obtain ⟨name, r⟩ := entry
    rw [ofFieldRecords]
    simp only [except_bind_eq_ok_iff, except_pure_eq_ok_iff, except_mapError_eq_ok_iff, ih,
      List.forall₂_cons_left_iff]
    constructor
    · intro h
      obtain ⟨d, read, rest, others, rfl⟩ := h
      exact ⟨(name, d), rest, ⟨rfl, read⟩, others, rfl⟩
    · intro h
      obtain ⟨⟨_, d⟩, rest, ⟨rfl, read⟩, others, rfl⟩ := h
      exact ⟨d, read, rest, others, rfl⟩

/-! ## Kinds without nested descriptors -/

/-- The shapes of kinds without arguments. -/
def bareShapes : List Shape :=
  [.any, .bool, .bytes, .ip, .id, .geoPoint, .file, .locale, .localeCode, .descriptor]

/-- How the arguments of a kind without nested descriptors are read. -/
inductive ReadLeaf (args : Args) : Shape → Prop
  | bare {shape : Shape} : shape ∈ bareShapes → args.kind = shape.kind → ReadLeaf args shape
  | int {bounds : List (Binary64 × Binary64)} {ranges : List NumericRange} :
    args.kind = .int → args.numericBounds = .ok bounds → numericRanges bounds = .ok ranges →
    ReadLeaf args (.int ranges)
  | float {bounds : List (Binary64 × Binary64)} {ranges : List NumericRange} :
    args.kind = .float → args.numericBounds = .ok bounds → numericRanges bounds = .ok ranges →
    ReadLeaf args (.float ranges)
  | anyText : args.kind = .str → args.get? "pattern" = none → ReadLeaf args (.str none)
  | text {source : String} {pattern : TextPattern} :
    args.kind = .str → args.get? "pattern" = some (.str source) →
    TextPattern.make source = .ok pattern → ReadLeaf args (.str (some pattern))
  | temporal {kind : TemporalKind} {bounds : List (String × String)}
      {ranges : List TemporalRange} :
    args.kind = kind.kind → args.temporalBounds = .ok bounds →
    temporalRanges kind bounds = .ok ranges → ReadLeaf args (.temporal kind ranges)
  | email {filter : DomainFilter} :
    args.kind = .email → args.domains = .ok filter → filter.check .email = .ok () →
    ReadLeaf args (.email filter)
  | webUri {filter : DomainFilter} :
    args.kind = .webUri → args.domains = .ok filter → filter.check .webUri = .ok () →
    ReadLeaf args (.webUri filter)
  | mailUri {filter : DomainFilter} :
    args.kind = .mailUri → args.domains = .ok filter → filter.check .mailUri = .ok () →
    ReadLeaf args (.mailUri { filter with strict := false })
  | telUri {filter : CodeFilter} :
    args.kind = .telUri → args.codes = .ok filter →
    checkDialCodes .telUri (filter.allowed ++ filter.refused) = .ok () →
    ReadLeaf args (.telUri filter)
  | phone {codes : List String} :
    args.kind = .phone → args.texts "codes" = .ok codes → checkDialCodes .phone codes = .ok () →
    ReadLeaf args (.phone codes)
  | literal {members : List Value} :
    args.kind = .literal → args.list "literal" = .ok members → members ≠ [] →
    ReadLeaf args (.literal members)
  | custom {name : String} :
    args.kind = .custom → args.required "func" = .ok (.str name) → name ≠ "" →
    ReadLeaf args (.custom (.named name))

/-- What is read of arguments without parts. -/
theorem readLeaf_of_leafOf {args : Args} (leaf : args.kind ∉ Kind.composites)
    (read : Record.leafOf args = .ok d) : ∃ shape, ReadLeaf args shape ∧ d = .ofShape shape := by
  obtain ⟨kind, m⟩ := args
  unfold Record.leafOf at read
  cases kind with
  | int =>
    obtain ⟨bounds, held, made⟩ := except_bind_eq_ok_iff.1 read
    obtain ⟨ranges, each, rfl⟩ := intRanged_eq_ok_iff.1 made
    exact ⟨_, .int rfl held each, rfl⟩
  | float =>
    obtain ⟨bounds, held, made⟩ := except_bind_eq_ok_iff.1 read
    obtain ⟨ranges, each, rfl⟩ := floatRanged_eq_ok_iff.1 made
    exact ⟨_, .float rfl held each, rfl⟩
  | str =>
    dsimp only at read
    unfold Args.pattern at read
    split at read
    · next none =>
      cases read
      exact ⟨_, .anyText rfl none, rfl⟩
    · next source held =>
      obtain ⟨pattern, made, rfl⟩ := strPattern_eq_ok_iff.1 read
      exact ⟨_, .text rfl held made, rfl⟩
    · cases read
  | date =>
    obtain ⟨bounds, held, made⟩ := except_bind_eq_ok_iff.1 read
    obtain ⟨ranges, each, rfl⟩ := temporalRanged_eq_ok_iff.1 made
    exact ⟨.temporal .date ranges, .temporal rfl held each, rfl⟩
  | time =>
    obtain ⟨bounds, held, made⟩ := except_bind_eq_ok_iff.1 read
    obtain ⟨ranges, each, rfl⟩ := temporalRanged_eq_ok_iff.1 made
    exact ⟨.temporal .time ranges, .temporal rfl held each, rfl⟩
  | dateTime =>
    obtain ⟨bounds, held, made⟩ := except_bind_eq_ok_iff.1 read
    obtain ⟨ranges, each, rfl⟩ := temporalRanged_eq_ok_iff.1 made
    exact ⟨.temporal .dateTime ranges, .temporal rfl held each, rfl⟩
  | email =>
    obtain ⟨filter, held, made⟩ := except_bind_eq_ok_iff.1 read
    obtain ⟨passed, rfl⟩ := email_eq_ok_iff.1 made
    exact ⟨_, .email rfl held passed, rfl⟩
  | webUri =>
    obtain ⟨filter, held, made⟩ := except_bind_eq_ok_iff.1 read
    obtain ⟨passed, rfl⟩ := webUri_eq_ok_iff.1 made
    exact ⟨_, .webUri rfl held passed, rfl⟩
  | mailUri =>
    obtain ⟨filter, held, made⟩ := except_bind_eq_ok_iff.1 read
    obtain ⟨passed, rfl⟩ := mailUri_eq_ok_iff.1 made
    exact ⟨_, .mailUri rfl held passed, rfl⟩
  | telUri =>
    obtain ⟨filter, held, made⟩ := except_bind_eq_ok_iff.1 read
    obtain ⟨passed, rfl⟩ := telUri_eq_ok_iff.1 made
    exact ⟨_, .telUri rfl held passed, rfl⟩
  | phone =>
    obtain ⟨codes, held, made⟩ := except_bind_eq_ok_iff.1 read
    obtain ⟨passed, rfl⟩ := phone_eq_ok_iff.1 made
    exact ⟨_, .phone rfl held passed, rfl⟩
  | literal =>
    obtain ⟨members, held, made⟩ := except_bind_eq_ok_iff.1 read
    obtain ⟨some, rfl⟩ := literal_eq_ok_iff.1 made
    exact ⟨_, .literal rfl held some, rfl⟩
  | custom =>
    obtain ⟨value, held, made⟩ := except_bind_eq_ok_iff.1 read
    split at made
    · obtain ⟨named, rfl⟩ := customNamed_eq_ok_iff.1 made
      exact ⟨_, .custom rfl held named, rfl⟩
    · cases made
  | list | union | dict | record => exact absurd (by simp [Kind.composites]) leaf
  | _ =>
    cases read
    exact ⟨_, .bare (by simp [bareShapes]) rfl, rfl⟩

namespace ReadLeaf

variable {args : Args} {shape : Shape}

/-- What is read of a kind without nested descriptors is of that kind. -/
theorem kind_eq (read : ReadLeaf args shape) : shape.kind = args.kind := by
  cases read with
  | bare _ same => exact same.symm
  | temporal same => exact same.symm
  | _ => exact Eq.symm ‹args.kind = _›

/-- Only kinds without parts are read so. -/
theorem kind_not_composite (read : ReadLeaf args shape) : args.kind ∉ Kind.composites := by
  rw [← read.kind_eq]
  cases read with
  | bare member =>
    revert shape
    simp [bareShapes, Shape.kind, Kind.composites]
  | @temporal kind => cases kind <;> simp [Shape.kind, TemporalKind.kind, Kind.composites]
  | _ => simp [Shape.kind, Kind.composites]

/-- Arguments without parts are read as their shape. -/
theorem leafOf_eq (read : ReadLeaf args shape) : Record.leafOf args = .ok (.ofShape shape) := by
  obtain ⟨kind, m⟩ := args
  cases read with
  | bare member same =>
    cases same
    revert shape
    simp [bareShapes, Record.leafOf]
  | int same held made =>
    cases same
    exact except_bind_eq_ok_iff.2 ⟨_, held, intRanged_eq_ok_iff.2 ⟨_, made, rfl⟩⟩
  | float same held made =>
    cases same
    exact except_bind_eq_ok_iff.2 ⟨_, held, floatRanged_eq_ok_iff.2 ⟨_, made, rfl⟩⟩
  | anyText same none =>
    cases same
    simp only [Record.leafOf, Args.pattern, none]
  | text same held made =>
    cases same
    simp only [Record.leafOf, Args.pattern, held]
    exact strPattern_eq_ok_iff.2 ⟨_, made, rfl⟩
  | @temporal kind _ _ same held made =>
    cases same
    have read := temporalRanged_eq_ok_iff.2 ⟨_, made, rfl⟩
    cases kind <;> exact except_bind_eq_ok_iff.2 ⟨_, held, read⟩
  | email same held passed =>
    cases same
    exact except_bind_eq_ok_iff.2 ⟨_, held, email_eq_ok_iff.2 ⟨passed, rfl⟩⟩
  | webUri same held passed =>
    cases same
    exact except_bind_eq_ok_iff.2 ⟨_, held, webUri_eq_ok_iff.2 ⟨passed, rfl⟩⟩
  | mailUri same held passed =>
    cases same
    exact except_bind_eq_ok_iff.2 ⟨_, held, mailUri_eq_ok_iff.2 ⟨passed, rfl⟩⟩
  | telUri same held passed =>
    cases same
    exact except_bind_eq_ok_iff.2 ⟨_, held, telUri_eq_ok_iff.2 ⟨passed, rfl⟩⟩
  | phone same held passed =>
    cases same
    exact except_bind_eq_ok_iff.2 ⟨_, held, phone_eq_ok_iff.2 ⟨passed, rfl⟩⟩
  | literal same held some =>
    cases same
    exact except_bind_eq_ok_iff.2 ⟨_, held, literal_eq_ok_iff.2 ⟨some, rfl⟩⟩
  | custom same held named =>
    cases same
    exact except_bind_eq_ok_iff.2 ⟨_, held, customNamed_eq_ok_iff.2 ⟨named, rfl⟩⟩

end ReadLeaf

/-- Kinds without parts have none. -/
theorem children_of_kind {shape : Shape} (leaf : shape.kind ∉ Kind.composites) :
    shape.children = [] := by
  cases shape <;> first | rfl | exact absurd (by simp [Shape.kind, Kind.composites]) leaf

/-! ## Arguments -/

/-- How the arguments of a record are read. -/
inductive ReadFrom (args : Args) : Descriptor → Prop
  | leaf {shape : Shape} : ReadLeaf args shape → ReadFrom args (.ofShape shape)
  | list {items : List Value} {alternatives : List Descriptor} {length : Option LengthRange} :
    args.kind = .list → args.records "list" = .ok items →
    List.Forall₂ (fun r d => ofRecord r = .ok d) items alternatives →
    args.lengthRange = .ok length → alternatives ≠ [] →
    ReadFrom args (.ofShape (.list alternatives length))
  | union {items : List Value} {alternatives : List Descriptor} :
    args.kind = .union → args.records "union" = .ok items →
    List.Forall₂ (fun r d => ofRecord r = .ok d) items alternatives → alternatives ≠ [] →
    ReadFrom args (.ofShape (.union alternatives))
  | dict {keyRecord valRecord : Value} {key val : Descriptor} {required : List String}
      {length : Option LengthRange} :
    args.kind = .dict → args.required "key" = .ok keyRecord → ofRecord keyRecord = .ok key →
    args.required "val" = .ok valRecord → ofRecord valRecord = .ok val →
    args.texts "req" = .ok required → args.lengthRange = .ok length → key.yieldsKey = true →
    ReadFrom args (.ofShape (.dict key val required length))
  | record {m : Document} {pairs : List (String × Descriptor)} {d : Descriptor} :
    args.kind = .record → args.fieldRecords "dict" = .ok m →
    List.Forall₂ (fun entry field => field.1 = entry.1 ∧ ofRecord entry.2 = .ok field.2) m pairs →
    Descriptor.record pairs = .ok d → ReadFrom args d

section Arguments

variable {m : Document}

/-- How a list is read. -/
theorem ofArgs_list_iff :
    ofArgs ⟨.list, m⟩ = .ok d ↔
      ∃ items, Args.records ⟨.list, m⟩ "list" = .ok items ∧
        ∃ alternatives, List.Forall₂ (fun r d => ofRecord r = .ok d) items alternatives ∧
          ∃ length, Args.lengthRange ⟨.list, m⟩ = .ok length ∧
            alternatives ≠ [] ∧ d = .ofShape (.list alternatives length) := by
  rw [ofArgs]
  dsimp only
  split
  · next failed => simp [failed]
  · next held =>
    simp only [held, except_bind_eq_ok_iff, ofRecords_eq_ok_iff, list_eq_ok_iff, Except.ok.injEq,
      exists_eq_left']

/-- How a union is read. -/
theorem ofArgs_union_iff :
    ofArgs ⟨.union, m⟩ = .ok d ↔
      ∃ items, Args.records ⟨.union, m⟩ "union" = .ok items ∧
        ∃ alternatives, List.Forall₂ (fun r d => ofRecord r = .ok d) items alternatives ∧
          alternatives ≠ [] ∧ d = .ofShape (.union alternatives) := by
  rw [ofArgs]
  dsimp only
  split
  · next failed => simp [failed]
  · next held =>
    simp only [held, except_bind_eq_ok_iff, ofRecords_eq_ok_iff, union_eq_ok_iff, Except.ok.injEq,
      exists_eq_left']

/-- How a dictionary is read. -/
theorem ofArgs_dict_iff :
    ofArgs ⟨.dict, m⟩ = .ok d ↔
      ∃ keyRecord, Args.required ⟨.dict, m⟩ "key" = .ok keyRecord ∧
        ∃ key, ofRecord keyRecord = .ok key ∧
          ∃ valRecord, Args.required ⟨.dict, m⟩ "val" = .ok valRecord ∧
            ∃ val, ofRecord valRecord = .ok val ∧
              ∃ required, Args.texts ⟨.dict, m⟩ "req" = .ok required ∧
                ∃ length, Args.lengthRange ⟨.dict, m⟩ = .ok length ∧
                  key.yieldsKey = true ∧ d = .ofShape (.dict key val required length) := by
  rw [ofArgs]
  dsimp only
  split
  · next failed => simp [failed]
  · next heldKey =>
    simp only [heldKey, except_bind_eq_ok_iff, Except.ok.injEq, exists_eq_left']
    refine exists_congr fun key => and_congr_right fun _ => ?_
    split
    · next failed => simp [failed]
    · next heldVal =>
      simp only [heldVal, except_bind_eq_ok_iff, dict_eq_ok_iff, Except.ok.injEq,
        exists_eq_left']

/-- How a record is read. -/
theorem ofArgs_record_iff :
    ofArgs ⟨.record, m⟩ = .ok d ↔
      ∃ entries, Args.fieldRecords ⟨.record, m⟩ "dict" = .ok entries ∧
        ∃ pairs, List.Forall₂ (fun entry field => field.1 = entry.1 ∧
            ofRecord entry.2 = .ok field.2) entries pairs ∧
          Descriptor.record pairs = .ok d := by
  rw [ofArgs]
  dsimp only
  split
  · next failed => simp [failed]
  · next held =>
    simp only [held, except_bind_eq_ok_iff, ofFieldRecords_eq_ok_iff, Except.ok.injEq,
      exists_eq_left']

end Arguments

/-- Kinds without parts are read from their arguments alone. -/
theorem ofArgs_leaf {args : Args} (leaf : args.kind ∉ Kind.composites) :
    ofArgs args = Record.leafOf args := by
  obtain ⟨kind, m⟩ := args
  rw [ofArgs]
  cases kind <;> first | rfl | exact absurd (by simp [Kind.composites]) leaf

/-- Arguments are read exactly as `ReadFrom` says. -/
theorem ofArgs_iff {args : Args} : ofArgs args = .ok d ↔ ReadFrom args d := by
  obtain ⟨kind, m⟩ := args
  constructor
  · intro read
    by_cases composite : kind ∈ Kind.composites
    · simp only [Kind.composites, List.mem_cons, List.not_mem_nil, or_false] at composite
      rcases composite with rfl | rfl | rfl | rfl
      · obtain ⟨items, held, alternatives, each, length, range, some, rfl⟩ :=
          ofArgs_list_iff.1 read
        exact .list rfl held each range some
      · obtain ⟨items, held, alternatives, each, some, rfl⟩ := ofArgs_union_iff.1 read
        exact .union rfl held each some
      · obtain ⟨_, heldKey, key, ofKey, _, heldVal, val, ofVal, required, texts, length, range,
          yields, rfl⟩ := ofArgs_dict_iff.1 read
        exact .dict rfl heldKey ofKey heldVal ofVal texts range yields
      · obtain ⟨entries, held, pairs, each, made⟩ := ofArgs_record_iff.1 read
        exact .record rfl held each made
    · rw [ofArgs_leaf composite] at read
      obtain ⟨shape, leaf, rfl⟩ := readLeaf_of_leafOf composite read
      exact .leaf leaf
  · intro read
    cases read with
    | leaf leaf => exact (ofArgs_leaf leaf.kind_not_composite).trans leaf.leafOf_eq
    | list same held each range some =>
      cases same
      exact ofArgs_list_iff.2 ⟨_, held, _, each, _, range, some, rfl⟩
    | union same held each some =>
      cases same
      exact ofArgs_union_iff.2 ⟨_, held, _, each, some, rfl⟩
    | dict same heldKey ofKey heldVal ofVal texts range yields =>
      cases same
      exact ofArgs_dict_iff.2
        ⟨_, heldKey, _, ofKey, _, heldVal, _, ofVal, _, texts, _, range, yields, rfl⟩
    | record same held each made =>
      cases same
      exact ofArgs_record_iff.2 ⟨_, held, _, each, made⟩

/-! ## Whole records -/

/-- A record is read field by field. -/
theorem ofRecord_eq_ok_iff {r : Value} :
    ofRecord r = .ok d ↔
      ∃ m, r = .map m ∧ ∃ kind, Record.kindOf m = .ok kind ∧
        ∃ args, Args.ofField kind (Entries.get? m "args") = .ok args ∧
          ∃ read, ReadFrom args read ∧
            ∃ nullable, Record.nullabilityOf kind (Entries.get? m "allow_none") = .ok nullable ∧
              ∃ default, Record.defaultOf kind (Entries.get? m "default") = .ok default ∧
                d = .mk read.shape default nullable := by
  cases r with
  | map m =>
    rw [ofRecord]
    split
    · next failed => simp [failed]
    · next kind ofKind =>
      split
      · next failed => simp [ofKind, failed]
      · next args ofField =>
        simp only [ofKind, ofField, except_bind_eq_ok_iff, except_pure_eq_ok_iff, ofArgs_iff,
          Value.map.injEq, Except.ok.injEq, exists_eq_left']
  | _ => simp [ofRecord]

/-- What is read from arguments is of their kind. -/
theorem ReadFrom.kind_eq {args : Args} (read : ReadFrom args d) : d.shape.kind = args.kind := by
  cases read with
  | leaf leaf => exact leaf.kind_eq
  | record same _ _ made =>
    obtain ⟨-, -, rfl⟩ := record_eq_ok_iff.1 made
    exact same.symm
  | _ => exact Eq.symm ‹args.kind = _›

/-- The children of what is read from arguments are read from records in them. -/
theorem ReadFrom.exists_record {args : Args} {child : Descriptor} (read : ReadFrom args d)
    (member : child ∈ d.children) :
    ∃ key v r, args.get? key = some v ∧ Value.Occurs r v ∧ ofRecord r = .ok child := by
  cases read with
  | leaf leaf =>
    have kind := leaf.kind_not_composite
    rw [← leaf.kind_eq] at kind
    have none : Descriptor.children (.ofShape _) = [] := children_of_kind kind
    rw [none] at member
    cases member
  | list _ held each _ _ =>
    obtain ⟨r, item, here⟩ := exists_of_mem_right each member
    exact ⟨"list", _, r, Args.records_eq_ok_iff.1 held, .ofItem item, here⟩
  | union _ held each _ =>
    obtain ⟨r, item, here⟩ := exists_of_mem_right each member
    exact ⟨"union", _, r, Args.records_eq_ok_iff.1 held, .ofItem item, here⟩
  | @dict keyRecord valRecord key val _ _ _ heldKey ofKey heldVal ofVal =>
    rcases List.mem_pair.1 (show child ∈ [key, val] from member) with rfl | rfl
    · exact ⟨"key", _, keyRecord, Args.required_eq_ok_iff.1 heldKey, .here, ofKey⟩
    · exact ⟨"val", _, valRecord, Args.required_eq_ok_iff.1 heldVal, .here, ofVal⟩
  | record _ held each made =>
    obtain ⟨fields, rfl, -, given⟩ := fields_of_record made
    obtain ⟨field, kept, rfl⟩ := List.mem_map.1 (show child ∈ fields.map (·.2) from member)
    obtain ⟨entry, within, -, here⟩ := exists_of_mem_right each (given field kept).1
    exact ⟨"dict", _, entry.2, Args.fieldRecords_eq_ok_iff.1 held, .ofEntry within, here⟩

/-- The children of what is read from a record are read from records in it. -/
theorem exists_record_of_ofRecord {r : Value} {child : Descriptor} (read : ofRecord r = .ok d)
    (member : child ∈ d.children) : ∃ r', Value.Occurs r' r ∧ ofRecord r' = .ok child := by
  obtain ⟨m, rfl, kind, -, args, ofField, shaped, ofArgs, nullable, -, default, -, rfl⟩ :=
    ofRecord_eq_ok_iff.1 read
  obtain ⟨key, v, r', held, occurs, here⟩ := ofArgs.exists_record member
  exact ⟨r', occurs.trans (Args.occurs_of_ofField ofField held), here⟩

/-- What holds of all that is read from the records in a record holds at every depth of what is read
from it. -/
theorem throughout_of_ofRecord {property : Descriptor → Prop} {r : Value}
    (each : ∀ {r' d}, Value.Occurs r' r → ofRecord r' = .ok d → property d)
    (read : ofRecord r = .ok d) : Throughout property d := by
  induction d using byChildren generalizing r with
  | step d ih =>
    refine throughout_iff.2 ⟨each .here read, fun child member => ?_⟩
    obtain ⟨r', inside, here⟩ := exists_record_of_ofRecord read member
    exact ih child member (fun occurs => each (occurs.trans inside)) here

end Descriptor

end DocumentSchema

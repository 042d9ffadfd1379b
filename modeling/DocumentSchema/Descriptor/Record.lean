import DocumentSchema.Descriptor.Make
import DocumentSchema.Json.Basic

/-!
Descriptors as records.

A record is the form of a descriptor that can be stored: a map with the tag of its kind, its
arguments, its nullability and its default, in which nested descriptors are records themselves.
`Descriptor.toRecord` writes records; callbacks bound in a descriptor have no written form.
`Descriptor.ofRecord` reads them, through the functions that make descriptors of each kind, so that
no record gives a descriptor which those functions refuse. A field that is absent or null has its
empty form, and a field that is not known is an error.
-/

namespace DocumentSchema

/-! ## Writing -/

namespace Record

/-- A numeric bound; the infinities are written by name. -/
def ofBound (x : Binary64) : Value :=
  if x.eqNumber .infinity then .str "inf"
  else if x.eqNumber .negInfinity then .str "-inf"
  else .float x

/-- Ranges of numbers, as pairs of bounds. -/
def ofNumericRanges (ranges : List NumericRange) : Value :=
  .list (ranges.map fun range => .list [ofBound range.lo, ofBound range.hi])

/-- Ranges of dates or times, as pairs of texts. -/
def ofTemporalRanges (ranges : List TemporalRange) : Value :=
  .list (ranges.map fun range => .list [.str range.lo.text, .str range.hi.text])

/-- A number of 64 unsigned bits, read as one of 64 signed bits. -/
def ofLength (length : Nat) : Value :=
  .int (Int64.ofInt length)

/-- A range of lengths, as a pair with null for an absent upper bound. -/
def ofLengthRange : Option LengthRange → Value
  | none => .null
  | some range => .list [ofLength range.least, range.most.elim .null ofLength]

/-- The pair of domain lists. -/
def ofDomains (filter : DomainFilter) : List (String × Value) :=
  [("allowed_domains", Value.ofTexts filter.allowed),
    ("disallowed_domains", Value.ofTexts filter.refused)]

/-- A default: null, or a map with a value or the name of a generator. -/
def ofDefault : Option Default → Except SchemaError Value
  | none => .ok .null
  | some (.static value) => .ok (.map [("value", value)])
  | some (.named name) => .ok (.map [("generator", .str name)])
  | some (.inline _) => .error (.ofFault (.notPortable .inlineGenerator))

end Record

mutual

/-- The record of a descriptor. -/
def Descriptor.toRecord : Descriptor → Except SchemaError Value
  | .mk shape default nullable => do
    let args ← shape.toArgs
    let default ← Record.ofDefault default
    return .map [("allow_none", .bool nullable), ("args", .map args), ("default", default),
      ("kind", .str shape.kind.tag)]
termination_by structural x => x

/-- The arguments of a shape. -/
def Shape.toArgs : Shape → Except SchemaError Document
  | .any => .ok []
  | .bool => .ok []
  | .int ranges => .ok [("ranges", Record.ofNumericRanges ranges)]
  | .float ranges => .ok [("ranges", Record.ofNumericRanges ranges)]
  | .str pattern => .ok [("pattern", pattern.elim .null fun p => .str p.source)]
  | .bytes => .ok []
  | .temporal _ ranges => .ok [("ranges", Record.ofTemporalRanges ranges)]
  | .email filter => .ok (Record.ofDomains filter ++ [("strict_matching", .bool filter.strict)])
  | .webUri filter => .ok (Record.ofDomains filter ++ [("strict_matching", .bool filter.strict)])
  | .mailUri filter => .ok (Record.ofDomains filter)
  | .telUri filter =>
    .ok [("allowed_codes", Value.ofTexts filter.allowed),
      ("disallowed_codes", Value.ofTexts filter.refused)]
  | .phone codes => .ok [("codes", Value.ofTexts codes)]
  | .ip => .ok []
  | .id => .ok []
  | .geoPoint => .ok []
  | .file => .ok []
  | .locale => .ok []
  | .localeCode => .ok []
  | .literal members => .ok [("literal", .list members)]
  | .list alternatives length => do
    let alternatives ← toRecords alternatives
    return [("len_range", Record.ofLengthRange length), ("list", .list alternatives)]
  | .union alternatives => do
    let alternatives ← toRecords alternatives
    return [("union", .list alternatives)]
  | .dict key val required length => do
    let key ← key.toRecord
    let val ← val.toRecord
    return [("key", key), ("len_range", Record.ofLengthRange length),
      ("req", Value.ofTexts required), ("val", val)]
  | .record fields => do
    let fields ← toFieldRecords fields
    return [("dict", .map fields)]
  | .descriptor => .ok []
  | .custom (.named name) => .ok [("func", .str name)]
  | .custom (.inline _) => .error (.ofFault (.notPortable .inlineValidator))
termination_by structural x => x

/-- The records of several descriptors. -/
def toRecords : List Descriptor → Except SchemaError (List Value)
  | [] => .ok []
  | d :: rest => do
    let first ← d.toRecord
    let others ← toRecords rest
    return first :: others
termination_by structural x => x

/-- The records of fields, under their names. -/
def toFieldRecords : List (String × Descriptor) → Except SchemaError Document
  | [] => .ok []
  | (name, d) :: rest => do
    let first ← d.toRecord.mapError (SchemaError.within name)
    let others ← toFieldRecords rest
    return (name, first) :: others
termination_by structural x => x

end

/-- The JSON form of a descriptor's record. -/
def Descriptor.toJsonRecord (d : Descriptor) : Except SchemaError Json :=
  d.toRecord.map Value.toJson

/-! ## Reading arguments -/

/-- The arguments in a record of a kind. -/
structure Args where
  kind : Kind
  entries : Document

namespace Args

/-- The names of the arguments of a kind. -/
def names : Kind → List String
  | .int => ["ranges"]
  | .float => ["ranges"]
  | .date => ["ranges"]
  | .time => ["ranges"]
  | .dateTime => ["ranges"]
  | .str => ["pattern"]
  | .email => ["allowed_domains", "disallowed_domains", "strict_matching"]
  | .webUri => ["allowed_domains", "disallowed_domains", "strict_matching"]
  | .mailUri => ["allowed_domains", "disallowed_domains"]
  | .telUri => ["allowed_codes", "disallowed_codes"]
  | .phone => ["codes"]
  | .literal => ["literal"]
  | .list => ["list", "len_range"]
  | .union => ["union"]
  | .dict => ["key", "val", "req", "len_range"]
  | .record => ["dict"]
  | .custom => ["func"]
  | _ => []

/-- The arguments of a record; an absent or null field holds none. -/
def ofField (kind : Kind) (field : Option Value) : Except SchemaError Args :=
  let checked (entries : Document) : Except SchemaError Args :=
    match (Entries.keys entries).find? fun key => !(names kind).contains key with
    | some key => .error (malformedKind kind (.unexpectedArg key))
    | none => .ok ⟨kind, entries⟩
  match field with
  | none => checked []
  | some .null => checked []
  | some (.map entries) => checked entries
  | some other => .error (malformedKind kind (.argsNotMapping other.typeName))

/-- The error of an argument of the wrong form. -/
def wrong (args : Args) (key expected : String) : SchemaError :=
  malformedKind args.kind (.wrongArg key expected)

/-- An argument, if it is there and not null. -/
def get? (args : Args) (key : String) : Option Value :=
  (Entries.get? args.entries key).filter fun value => !value.isNull

/-- An argument that must be there. -/
def required (args : Args) (key : String) : Except SchemaError Value :=
  match args.get? key with
  | some value => .ok value
  | none => .error (malformedKind args.kind (.missingArg key))

/-- The items of an argument that is a list; an absent one is empty. -/
def list (args : Args) (key : String) : Except SchemaError (List Value) :=
  match args.get? key with
  | none => .ok []
  | some (.list items) => .ok items
  | some _ => .error (args.wrong key "a list")

/-- The texts of an argument that is a list of them. -/
def texts (args : Args) (key : String) : Except SchemaError (List String) := do
  (← args.list key).mapM fun item =>
    match item with
    | .str text => .ok text
    | _ => .error (args.wrong key "a list of strings")

/-- An argument that is a flag; an absent one is off. -/
def flag (args : Args) (key : String) : Except SchemaError Bool :=
  match args.get? key with
  | none => .ok false
  | some (.bool flag) => .ok flag
  | some _ => .error (args.wrong key "a bool")

/-- A numeric bound: a number, or an infinity by name. -/
def bound (args : Args) (value : Value) : Except SchemaError Binary64 :=
  match value with
  | .int n => .ok (Binary64.ofInt n.toInt)
  | .float x => .ok x
  | .str text =>
    if text = "inf" then .ok .infinity
    else if text = "-inf" then .ok .negInfinity
    else .error (args.wrong "ranges" "numeric or \"inf\"/\"-inf\"")
  | _ => .error (args.wrong "ranges" "numeric or \"inf\"/\"-inf\"")

/-- The pairs of numeric bounds. -/
def numericBounds (args : Args) : Except SchemaError (List (Binary64 × Binary64)) := do
  (← args.list "ranges").mapM fun range =>
    match range with
    | .list [lo, hi] => do
      let lo ← args.bound lo
      let hi ← args.bound hi
      return (lo, hi)
    | _ => .error (args.wrong "ranges" "a list of [lo, hi] pairs")

/-- The pairs of texts that bound dates or times. -/
def temporalBounds (args : Args) : Except SchemaError (List (String × String)) := do
  (← args.list "ranges").mapM fun range =>
    match range with
    | .list [.str lo, .str hi] => .ok (lo, hi)
    | _ => .error (args.wrong "ranges" "a list of [lo, hi] text pairs")

/-- A length: an integer that is not negative. -/
def length? (value : Value) : Option Nat :=
  match value with
  | .int n => if n < 0 then none else some n.toInt.toNat
  | _ => none

/-- The range of lengths. A range without upper bound needs no check. -/
def lengthRange (args : Args) : Except SchemaError (Option LengthRange) :=
  let refuse : Except SchemaError (Option LengthRange) :=
    .error (args.wrong "len_range" "[min, max]")
  match args.get? "len_range" with
  | none => .ok none
  | some (.list [least, .null]) =>
    match length? least with
    | some least => .ok (some (.atLeast least))
    | none => refuse
  | some (.list [least, most]) =>
    match length? least, length? most with
    | some least, some most => (LengthRange.make least (some most)).map some
    | _, _ => refuse
  | some _ => refuse

/-- The domain filter; a kind without the flag never sets it. -/
def domains (args : Args) : Except SchemaError DomainFilter := do
  let allowed ← args.texts "allowed_domains"
  let refused ← args.texts "disallowed_domains"
  let strict ← args.flag "strict_matching"
  return ⟨allowed, refused, strict⟩

/-- The dial codes. -/
def codes (args : Args) : Except SchemaError CodeFilter := do
  let allowed ← args.texts "allowed_codes"
  let refused ← args.texts "disallowed_codes"
  return ⟨allowed, refused⟩

/-- The records in an argument that is a list of them. -/
def records (args : Args) (key : String) : Except SchemaError (List Value) := do
  match ← args.required key with
  | .list items => return items
  | _ => .error (args.wrong key "a list of records")

/-- The records in an argument that is a map of them. -/
def fieldRecords (args : Args) (key : String) : Except SchemaError Document := do
  match ← args.required key with
  | .map entries => return entries
  | _ => .error (args.wrong key "a mapping of records")

/-- The pattern of a text kind. -/
def pattern (args : Args) : Except SchemaError Descriptor :=
  match args.get? "pattern" with
  | none => .ok (.ofShape (.str none))
  | some (.str source) => Descriptor.strPattern source
  | some _ => .error (args.wrong "pattern" "a string")

/-- The name of a registered validator. -/
def validator (args : Args) : Except SchemaError Descriptor := do
  match ← args.required "func" with
  | .str name => Descriptor.customNamed name
  | _ => .error (args.wrong "func" "a callback name")

/-! ## Sizes -/

theorem sizeOf_get?_lt {m : Document} {key : String} {value : Value}
    (found : Entries.get? m key = some value) : sizeOf value < sizeOf m := by
  induction m with
  | nil => simp [Entries.get?] at found
  | cons entry rest ih =>
    obtain ⟨k, v⟩ := entry
    simp only [Entries.get?] at found
    split at found
    · cases found
      simp only [List.cons.sizeOf_spec, Prod.mk.sizeOf_spec]
      omega
    · have := ih found
      simp only [List.cons.sizeOf_spec, Prod.mk.sizeOf_spec]
      omega

theorem sizeOf_required_lt {args : Args} {key : String} {value : Value}
    (found : args.required key = .ok value) : sizeOf value < sizeOf args.entries := by
  unfold required at found
  split at found
  · next held =>
    cases found
    exact sizeOf_get?_lt (Option.filter_eq_some_iff.1 held).1
  · cases found

theorem sizeOf_records_lt {args : Args} {key : String} {items : List Value}
    (found : args.records key = .ok items) : sizeOf items < sizeOf args.entries := by
  unfold records at found
  cases held : args.required key with
  | error e => rw [held] at found; cases found
  | ok value =>
    rw [held] at found
    have smaller := sizeOf_required_lt held
    cases value <;> cases found
    simp only [Value.list.sizeOf_spec] at smaller
    omega

theorem sizeOf_fieldRecords_lt {args : Args} {key : String} {entries : Document}
    (found : args.fieldRecords key = .ok entries) : sizeOf entries < sizeOf args.entries := by
  unfold fieldRecords at found
  cases held : args.required key with
  | error e => rw [held] at found; cases found
  | ok value =>
    rw [held] at found
    have smaller := sizeOf_required_lt held
    cases value <;> cases found
    simp only [Value.map.sizeOf_spec] at smaller
    omega

theorem sizeOf_ofField {kind : Kind} {m : Document} {key : String} {args : Args}
    (found : ofField kind (Entries.get? m key) = .ok args) :
    args.entries = [] ∨ sizeOf args.entries < sizeOf m := by
  unfold ofField at found
  cases held : Entries.get? m key with
  | none =>
    rw [held] at found
    dsimp only at found
    split at found
    · cases found
    · cases found
      exact .inl rfl
  | some value =>
    rw [held] at found
    have smaller := sizeOf_get?_lt held
    cases value with
    | null =>
      dsimp only at found
      split at found
      · cases found
      · cases found
        exact .inl rfl
    | map entries =>
      dsimp only at found
      split at found
      · cases found
      · cases found
        simp only [Value.map.sizeOf_spec] at smaller
        exact .inr (by dsimp only; omega)
    | _ => cases found

end Args

/-! ## Reading records -/

namespace Record

/-- The fields of a record. -/
def fieldNames : List String :=
  ["kind", "args", "allow_none", "default"]

/-- The kind of a record, all of whose fields must be known. -/
def kindOf (entries : Document) : Except SchemaError Kind :=
  match (Entries.get? entries "kind").bind Value.str? with
  | none => .error (malformed .record .missingKindTag)
  | some tag =>
    match Kind.ofTag? tag with
    | none => .error (.ofFault (.unknownKind tag))
    | some kind =>
      match (Entries.keys entries).find? fun key => !fieldNames.contains key with
      | some key => .error (malformedKind kind (.unexpectedRecordKey key))
      | none => .ok kind

/-- The nullability of a record. -/
def nullabilityOf (kind : Kind) (field : Option Value) : Except SchemaError Bool :=
  match field with
  | none => .ok false
  | some .null => .ok false
  | some (.bool flag) => .ok flag
  | some other => .error (malformedKind kind (.nullabilityNotBool other.typeName))

/-- The default of a record: a map with a single entry, for a value or for a generator whose name
is not empty. -/
def defaultOf (kind : Kind) (field : Option Value) : Except SchemaError (Option Default) :=
  match field with
  | none => .ok none
  | some .null => .ok none
  | some (.map [(key, value)]) =>
    if key = "value" then .ok (some (.static value))
    else if key = "generator" then
      match value with
      | .str name =>
        if name.isEmpty then .error (malformedKind kind .unrecognisedDefault)
        else .ok (some (.named name))
      | _ => .error (malformedKind kind .unrecognisedDefault)
    else .error (malformedKind kind .unrecognisedDefault)
  | some _ => .error (malformedKind kind .defaultForm)

/-- The descriptor of a kind without nested descriptors. -/
def leafOf (args : Args) : Except SchemaError Descriptor :=
  match args.kind with
  | .any => .ok (.ofShape .any)
  | .bool => .ok (.ofShape .bool)
  | .int => args.numericBounds >>= Descriptor.intRanged
  | .float => args.numericBounds >>= Descriptor.floatRanged
  | .str => args.pattern
  | .bytes => .ok (.ofShape .bytes)
  | .date => args.temporalBounds >>= Descriptor.temporalRanged .date
  | .time => args.temporalBounds >>= Descriptor.temporalRanged .time
  | .dateTime => args.temporalBounds >>= Descriptor.temporalRanged .dateTime
  | .email => args.domains >>= Descriptor.email
  | .webUri => args.domains >>= Descriptor.webUri
  | .mailUri => args.domains >>= Descriptor.mailUri
  | .telUri => args.codes >>= Descriptor.telUri
  | .phone => args.texts "codes" >>= Descriptor.phone
  | .ip => .ok (.ofShape .ip)
  | .id => .ok (.ofShape .id)
  | .geoPoint => .ok (.ofShape .geoPoint)
  | .file => .ok (.ofShape .file)
  | .locale => .ok (.ofShape .locale)
  | .localeCode => .ok (.ofShape .localeCode)
  | .literal => args.list "literal" >>= Descriptor.literal
  | .descriptor => .ok (.ofShape .descriptor)
  | .custom => args.validator
  | .list => Descriptor.list [] none
  | .union => Descriptor.union []
  | .dict => .error (malformedKind .dict (.missingArg "key"))
  | .record => Descriptor.record []

end Record

mutual

/-- The descriptor of a record. -/
def Descriptor.ofRecord (record : Value) : Except SchemaError Descriptor :=
  match record with
  | .map entries =>
    match Record.kindOf entries with
    | .error e => .error e
    | .ok kind =>
      match _held : Args.ofField kind (Entries.get? entries "args") with
      | .error e => .error e
      | .ok args => do
        let d ← Descriptor.ofArgs args
        let nullable ← Record.nullabilityOf kind (Entries.get? entries "allow_none")
        let default ← Record.defaultOf kind (Entries.get? entries "default")
        return .mk d.shape default nullable
  | _ => .error (malformed .record .notAMapping)
termination_by (sizeOf record, 0)
decreasing_by
  have smaller := Args.sizeOf_ofField _held
  simp only [Prod.lex_def, Value.map.sizeOf_spec]
  rcases smaller with none | smaller
  · rw [none]
    have : 0 < sizeOf entries := by
      cases entries <;> simp only [List.nil.sizeOf_spec, List.cons.sizeOf_spec] <;> omega
    left
    simp only [List.nil.sizeOf_spec]
    omega
  · left
    omega

/-- The descriptor of a kind with its arguments, with neither default nor nullability. -/
def Descriptor.ofArgs (args : Args) : Except SchemaError Descriptor :=
  match args.kind with
  | .list =>
    match _held : args.records "list" with
    | .error e => .error e
    | .ok items => do
      let alternatives ← Descriptor.ofRecords items
      let length ← args.lengthRange
      Descriptor.list alternatives length
  | .union =>
    match _held : args.records "union" with
    | .error e => .error e
    | .ok items => do
      let alternatives ← Descriptor.ofRecords items
      Descriptor.union alternatives
  | .dict =>
    match _heldKey : args.required "key" with
    | .error e => .error e
    | .ok key => do
      let key ← Descriptor.ofRecord key
      match _heldVal : args.required "val" with
      | .error e => .error e
      | .ok val => do
        let val ← Descriptor.ofRecord val
        let required ← args.texts "req"
        let length ← args.lengthRange
        Descriptor.dict key val required length
  | .record =>
    match _held : args.fieldRecords "dict" with
    | .error e => .error e
    | .ok entries => do
      let fields ← Descriptor.ofFieldRecords entries
      Descriptor.record fields
  | _ => Record.leafOf args
termination_by (sizeOf args.entries, 1)
decreasing_by
  · exact Prod.Lex.left _ _ (Args.sizeOf_records_lt _held)
  · exact Prod.Lex.left _ _ (Args.sizeOf_records_lt _held)
  · exact Prod.Lex.left _ _ (Args.sizeOf_required_lt _heldKey)
  · exact Prod.Lex.left _ _ (Args.sizeOf_required_lt _heldVal)
  · exact Prod.Lex.left _ _ (Args.sizeOf_fieldRecords_lt _held)

/-- The descriptors of several records. -/
def Descriptor.ofRecords (records : List Value) : Except SchemaError (List Descriptor) :=
  match records with
  | [] => .ok []
  | record :: rest => do
    let first ← Descriptor.ofRecord record
    let others ← Descriptor.ofRecords rest
    return first :: others
termination_by (sizeOf records, 0)
decreasing_by
  · exact Prod.Lex.left _ _ (by simp only [List.cons.sizeOf_spec]; omega)
  · exact Prod.Lex.left _ _ (by simp only [List.cons.sizeOf_spec]; omega)

/-- The descriptors of the records of fields, under their names. -/
def Descriptor.ofFieldRecords (fields : List (String × Value)) :
    Except SchemaError (List (String × Descriptor)) :=
  match fields with
  | [] => .ok []
  | (name, record) :: rest => do
    let first ← (Descriptor.ofRecord record).mapError (SchemaError.within name)
    let others ← Descriptor.ofFieldRecords rest
    return (name, first) :: others
termination_by (sizeOf fields, 0)
decreasing_by
  · exact Prod.Lex.left _ _ (by simp only [List.cons.sizeOf_spec, Prod.mk.sizeOf_spec]; omega)
  · exact Prod.Lex.left _ _ (by simp only [List.cons.sizeOf_spec, Prod.mk.sizeOf_spec]; omega)

end

/-- The descriptor of a record in JSON form. -/
def Descriptor.ofJsonRecord (record : Json) : Except SchemaError Descriptor :=
  Descriptor.ofRecord record.toValue

end DocumentSchema

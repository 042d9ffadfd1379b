import DocumentSchema.Proofs.Command.Requests
import DocumentSchema.Proofs.Validation.Overflow

/-!
Required attributes in answers.

Where no descriptor of a schema has a default, accepts null or is custom, a new document that is
accepted comes back with every attribute. `Engine.required_answered` says when the JSON value of one
is null all the same: exactly if the request has a text of digits for it that writes a number beyond
all floats, and the descriptor gives the text to a float without ranges.
-/

namespace DocumentSchema

namespace Json

variable {j : Json} {text : String} {x : Binary64}

/-- Texts alone are read as texts. -/
theorem toValue_eq_str_iff : j.toValue = .str text ↔ j = .str text := by
  cases j with
  | int n =>
    rw [toValue]
    split <;> simp
  | _ => simp [toValue]

/-- Floats that stand in a text are finite. -/
theorem isFinite_of_toValue (wellFormed : j.WellFormed) (same : j.toValue = .float x) :
    x.isFinite = true := by
  have inText := (wellFormed_iff.1 wellFormed).1
  cases j with
  | int n =>
    rw [toValue] at same
    split at same
    · cases same
    · next large =>
      cases same
      exact isFinite_of_large (large_of_not_fitsInt64 inText large)
  | float y =>
    cases same
    exact inText
  | _ => cases same

end Json

namespace Engine

variable {registry : Registry} {path name : String} {directory : Directory}
  {configFile : Option (Option String)} {engine : Engine} {schema : Schema} {now : Instant}
  {request data : Json} {members : List (String × Json)} {field : String}

theorem valueAt_toEntries (members : List (String × Json)) (field : String) :
    Document.valueAt (Json.toEntries members) field =
      ((Entries.get? members field).getD .null).toValue := by
  rw [Document.valueAt, get?_toEntries]
  cases Entries.get? members field <;> rfl

/-- A document has a text where its request has it. -/
theorem valueAt_toEntries_eq_str_iff {text : String} :
    Document.valueAt (Json.toEntries members) field = .str text ↔
      Entries.get? members field = some (.str text) := by
  rw [valueAt_toEntries, Json.toValue_eq_str_iff]
  cases Entries.get? members field <;> simp

/-- The floats of a well-formed request are finite. -/
theorem isFinite_valueAt_toEntries (wellFormed : (Json.object members).WellFormed) {x : Binary64}
    (same : Document.valueAt (Json.toEntries members) field = .float x) :
    x.isFinite = true := by
  rw [valueAt_toEntries] at same
  cases given : Entries.get? members field with
  | none =>
    rw [given] at same
    cases same
  | some value =>
    rw [given] at same
    have part : value ∈ (Json.object members).parts :=
      List.mem_map_of_mem (Entries.mem_of_get? given)
    exact Json.isFinite_of_toValue ((Json.wellFormed_iff.1 wellFormed).2 value part) same

/-- What the answer has for a required attribute. -/
theorem exists_value_of_required {out : Document}
    (canonical : (engine.context now).CanonicalDocument .create schema (Json.toEntries members) out)
    (wellFormed : (Json.object members).WellFormed) {d : Descriptor} (strict : d.Required)
    (declared : schema.get? field = some d) :
    ∃ value, Entries.get? (Value.toJsonMembers out) field = some value ∧
      (value = .null ↔ ∃ text, Entries.get? members field = some (.str text) ∧
        Scalar.Overflows text ∧ (engine.context now).TakenByFloat field text
          (Json.toEntries members) d.shape) ∧
      (d.kind = .float → value = .null ∨ ∃ x, value = .float x ∧ x.isFinite = true) ∧
      (d.kind = .int → ∃ n, value = .int n) := by
  obtain ⟨c, held, answer⟩ := canonical.attributes field d ⟨declared, .inl rfl⟩
  have accepted :=
    ((Context.answers_iff_of_required strict).1 ((Context.validate_eq_ok_iff (by decide)).1
      answer)).2
  refine ⟨c.toJson, by rw [get?_toJsonMembers, held, Option.map_some], ?_, fun isFloat => ?_,
    fun isInt => ?_⟩
  · simp only [Context.toJson_eq_null_iff (by decide)
      (fun x same => isFinite_valueAt_toEntries wellFormed same) strict answer,
      valueAt_toEntries_eq_str_iff]
  · obtain ⟨shape, default, nullable⟩ := d
    cases shape with
    | float ranges =>
      obtain ⟨x, -, -, rfl⟩ := Scalar.acceptFloat_eq_some_iff.1 accepted
      cases finite : x.isFinite with
      | true => exact .inr ⟨x, if_pos finite, finite⟩
      | false => exact .inl (if_neg (by simp [finite]))
    | temporal kind ranges => cases kind <;> cases isFloat
    | _ => cases isFloat
  · obtain ⟨shape, default, nullable⟩ := d
    cases shape with
    | int ranges =>
      obtain ⟨n, -, -, rfl⟩ := Scalar.acceptInt_eq_some_iff.1 accepted
      exact ⟨n.toInt, rfl⟩
    | temporal kind ranges => cases kind <;> cases isInt
    | _ => cases isInt

/-- All attributes of a schema of required descriptors come back from a request for a new document
that is accepted. The value of one is null exactly if the request has digits for it that overflow
and are given to a float without ranges. Apart from that, a float or an integer is a number. -/
theorem required_answered (booted : boot registry path directory configFile = .ok engine)
    (stored : engine.require name = .ok schema) (wellFormed : request.WellFormed)
    (required : ∀ entry ∈ schema.attributes, entry.2.Required)
    (answered : engine.validateRequest now name .create request = .ok data) :
    ∃ members out, request = .object members ∧ data = .object out ∧
      ∀ field d, schema.get? field = some d → ∃ value,
        Entries.get? out field = some value ∧
        (value = .null ↔ ∃ text, Entries.get? members field = some (.str text) ∧
          Scalar.Overflows text ∧ (engine.context now).TakenByFloat field text
            (Json.toEntries members) d.shape) ∧
        (d.kind = .float → value = .null ∨ ∃ x, value = .float x ∧ x.isFinite = true) ∧
        (d.kind = .int → ∃ n, value = .int n) := by
  obtain ⟨members, out, rfl, rfl, canonical⟩ :=
    canonicalDocument_of_validateRequest booted stored wellFormed answered
  refine ⟨members, _, rfl, rfl, fun field d declared => ?_⟩
  exact exists_value_of_required canonical wellFormed
    (required (field, d) (Entries.mem_of_get? declared)) declared

/-! ## Readings -/

/-- A schema of readings whose level is any float. -/
def readings : Schema :=
  ⟨"readings", [("level", .ofShape (.float []))]⟩

theorem built_readings : readings.Built := by
  have float : (Descriptor.ofShape (.float [])).Built :=
    .plain (by simp [Descriptor.plainShapes])
  have named : checkName .schema "level" = .ok () := by
    rw [checkName, String.contains_char_eq]
    rfl
  refine ⟨_, .declare "level" (.new "readings") float, ?_⟩
  rw [SchemaBuilder.new, SchemaBuilder.declare_eq named fun _ member => by cases member]
  exact Schema.build_eq (by decide)

theorem savable_readings : ∀ field ∈ readings.attributes, field.2.Savable := by
  intro field member
  cases List.mem_singleton.1 member
  constructor
  · refine Descriptor.throughout_of_leaf rfl ⟨fun _ named => ?_, fun _ bounded => ?_⟩
    · cases named
    · cases bounded
  · refine Descriptor.throughout_of_leaf rfl ⟨fun _ literal => ?_, fun _ fixed => ?_⟩
    · cases literal
    · cases fixed
  · intro r written
    cases written
    have ranges : (Record.ofNumericRanges []).FloatsReadBack :=
      Value.floatsReadBack_list.2 (List.forall_mem_nil _)
    have null : Value.null.FloatsReadBack :=
      Value.floatsReadBack_of_leaf rfl fun _ same => by cases same
    simp [Value.floatsReadBack_map, ranges, null]
  · intro r written
    cases written
    decide

/-- An engine is booted from the file of readings alone. -/
theorem boot_readings :
    ∃ directory, boot .empty "schemas" directory none = .ok (ofSchema readings) := by
  obtain ⟨text, written⟩ : ∃ text, readings.toFileText = .ok text := ⟨_, rfl⟩
  exact boot_ofSchema built_readings savable_readings rfl written

theorem require_readings : (ofSchema readings).require "readings" = .ok readings :=
  rfl

theorem required_readings : ∀ field ∈ readings.attributes, field.2.Required := by
  intro field member
  cases List.mem_singleton.1 member
  exact ⟨Descriptor.throughout_of_leaf rfl rfl, Descriptor.throughout_of_leaf rfl rfl,
    Descriptor.throughout_of_leaf rfl (by decide)⟩

/-- A request with a text for the level. -/
def levelRequest (text : String) : Json :=
  .object [("level", .str text)]

/-- Digits for a level are answered by the float they are read as. -/
theorem validateRequest_levelRequest {text : String} {x : Binary64}
    (read : Scalar.floatOfText? text = some x) :
    (ofSchema readings).validateRequest ⟨0, 0⟩ "readings" .create (levelRequest text) =
      .ok (.object [("level", (Value.float x).toJson)]) := by
  have accepted : Scalar.acceptFloat [] (.str text) = some (.float x) :=
    Scalar.acceptFloat_eq_some_iff.2 ⟨x, .inr (.inr ⟨text, rfl, read⟩), rfl, rfl⟩
  have answer : ((ofSchema readings).context ⟨0, 0⟩).validate .create "level"
      (.ofShape (.float [])) (.str text) [("level", .str text)] = .ok (.float x) :=
    (Context.validate_eq_ok_iff (by decide)).2 (.inr ⟨by simp, .inl accepted⟩)
  have answers : ((ofSchema readings).context ⟨0, 0⟩).answers .create readings
      [("level", .str text)] = [("level", .ok (.float x))] :=
    congrArg (fun answer => [("level", answer)]) answer
  refine (validateRequest_eq_ok_iff require_readings).2
    ⟨[("level", .str text)], [("level", .float x)], rfl, ?_, rfl⟩
  change ((ofSchema readings).context ⟨0, 0⟩).validateDocument .create readings
    [("level", .str text)] = _
  rw [Context.validateDocument, answers]
  rfl

theorem wellFormed_levelRequest (text : String) : (levelRequest text).WellFormed := by
  refine Json.wellFormed_object (List.pairwise_singleton _ _) fun member held => ?_
  cases List.mem_singleton.1 held
  exact Json.wellFormed_of_leaf rfl trivial

/-- Digits of a small number come back as a number. -/
theorem required_answered_readings :
    (∃ directory, boot .empty "schemas" directory none = .ok (ofSchema readings)) ∧
      ∃ value, (ofSchema readings).validateRequest ⟨0, 0⟩ "readings" .create
          (levelRequest "1.5") = .ok (.object [("level", value)]) ∧
        ∃ x, value = .float x ∧ x.isFinite = true := by
  obtain ⟨directory, booted⟩ := boot_readings
  have read : Scalar.floatOfText? "1.5" = some ⟨0x3FF8000000000000⟩ := by decide +kernel
  have answered := validateRequest_levelRequest read
  obtain ⟨members, out, ⟨⟩, ⟨⟩, each⟩ := required_answered booted require_readings
    (wellFormed_levelRequest "1.5") required_readings answered
  obtain ⟨value, found, null, number, -⟩ := each "level" _ rfl
  refine ⟨⟨directory, booted⟩, value, ?_, (number rfl).resolve_left fun isNull => ?_⟩
  · rw [answered, Option.some.inj found]
  · obtain ⟨text, given, overflows, -⟩ := null.1 isNull
    cases given
    exact absurd overflows.2 (by decide +kernel)

/-- The digits of `10 ^ 309` come back as null. -/
theorem level_lost :
    (∃ directory, boot .empty "schemas" directory none = .ok (ofSchema readings)) ∧
      (ofSchema readings).require "readings" = .ok readings ∧
      (∀ field ∈ readings.attributes, field.2.Required ∧ field.2.kind = .float) ∧
      (levelRequest (String.ofList ('1' :: List.replicate 309 '0'))).WellFormed ∧
      (ofSchema readings).validateRequest ⟨0, 0⟩ "readings" .create
          (levelRequest (String.ofList ('1' :: List.replicate 309 '0'))) =
        .ok (.object [("level", .null)]) := by
  have overflows : Scalar.Overflows (String.ofList ('1' :: List.replicate 309 '0')) := by
    rw [Scalar.Overflows, Text.Format.isDecimal, String.toList_ofList]
    exact ⟨by decide +kernel, by decide +kernel⟩
  refine ⟨boot_readings, require_readings, fun field member => ⟨required_readings field member, ?_⟩,
    wellFormed_levelRequest _, ?_⟩
  · cases List.mem_singleton.1 member
    rfl
  · rw [validateRequest_levelRequest (Scalar.floatOfText?_eq_infinity_iff.2 overflows)]
    rfl

end Engine

end DocumentSchema

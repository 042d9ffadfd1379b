import DocumentSchema.Command.Engine
import DocumentSchema.Proofs.Json.Reading
import DocumentSchema.Proofs.Schema.Publication
import DocumentSchema.Proofs.Validation.Outcome

/-!
Requests to an engine.

All schemas of a booted engine are built (`Engine.built_of_boot`), and all requests that are read
from a line of text are well formed (`Engine.wellFormed_of_readRequest`). A request is answered
exactly if it is an object whose document is accepted, and then by the JSON form of the canonical
document (`Engine.validateRequest_eq_ok_iff`). So the keys that do not concern the schema keep their
JSON values, but for integers beyond 64 signed bits (`Engine.others_pass_through`).
-/

namespace DocumentSchema

/-- A key concerns a schema when it is declared, or leads on from an attribute: it has a dot, and
the part before the first one is declared. -/
def Schema.Concerns (schema : Schema) (key : String) : Prop :=
  schema.declares key = true ∨ ∃ root rest, key = Context.partName root rest ∧
    '.' ∉ root.toList ∧ schema.declares root = true

namespace Engine

variable {registry : Registry} {path name : String} {directory : Directory}
  {configFile : Option (Option String)} {engine : Engine} {schema : Schema} {now : Instant}
  {mode : Mode} {request data : Json} {members : List (String × Json)} {out : Document}

/-! ## Schemas of an engine -/

/-- An engine is booted if its configuration and all schema files pass. -/
theorem boot_eq_ok_iff : boot registry path directory configFile = .ok engine ↔
    ∃ config, configOf configFile = .ok config ∧ registry.verifyConfig config = .ok () ∧
      ∃ catalogue, (Catalogue.new path).load registry directory = (catalogue, .ok ()) ∧
        engine = ⟨config, registry, catalogue⟩ := by
  simp only [boot, except_bind_eq_ok_iff, except_mapError_eq_ok_iff, except_pure_eq_ok_iff]
  refine exists_congr fun config => and_congr_right fun _ => ?_
  constructor
  · rintro ⟨⟨⟩, verified, ⟨⟩, loaded, same⟩
    exact ⟨verified, _, Prod.ext rfl loaded, same⟩
  · rintro ⟨verified, catalogue, loaded, same⟩
    rw [loaded]
    exact ⟨(), verified, (), rfl, same⟩

/-- A schema is required of an engine that has it. -/
theorem require_eq_ok_iff :
    engine.require name = .ok schema ↔ engine.catalogue.get? name = some schema := by
  rw [require, except_mapError_eq_ok_iff, Catalogue.require]
  cases engine.catalogue.get? name <;> simp

/-- The schemas of a booted engine were built. -/
theorem built_of_boot (booted : boot registry path directory configFile = .ok engine)
    (stored : engine.require name = .ok schema) : schema.Built := by
  obtain ⟨config, -, -, catalogue, loaded, rfl⟩ := boot_eq_ok_iff.1 booted
  have put : ((Catalogue.new path).next (.load registry directory)).get? name = some schema := by
    rw [Catalogue.next, loaded]
    exact require_eq_ok_iff.1 stored
  obtain ⟨-, gives⟩ := Catalogue.gives_of_get?_next rfl put
  exact gives.built fun _ other => by cases other

/-! ## Answers -/

/-- Objects alone are documents. -/
theorem toValue_eq_map_iff {doc : Document} :
    request.toValue = .map doc ↔ ∃ members, request = .object members ∧
      doc = Json.toEntries members := by
  cases request with
  | object members => simp [Json.toValue, eq_comm]
  | int n =>
    rw [Json.toValue]
    split <;> simp
  | _ => simp [Json.toValue]

/-- A request is answered exactly if it is an object whose document is accepted. -/
theorem validateRequest_eq_ok_iff (stored : engine.require name = .ok schema) :
    engine.validateRequest now name mode request = .ok data ↔
      ∃ members out, request = .object members ∧
        (engine.context now).validateDocument mode schema (Json.toEntries members) = .ok out ∧
        data = .object (Value.toJsonMembers out) := by
  rw [validateRequest, stored]
  simp only [Bind.bind, Except.bind]
  constructor
  · intro answered
    split at answered
    · next doc isMap =>
      obtain ⟨members, rfl, rfl⟩ := toValue_eq_map_iff.1 isMap
      obtain ⟨out, accepted, same⟩ := except_bind_eq_ok_iff.1 answered
      exact ⟨members, out, rfl, except_mapError_eq_ok_iff.1 accepted, except_pure_eq_ok_iff.1 same⟩
    · cases answered
  · rintro ⟨members, out, rfl, accepted, rfl⟩
    rw [Json.toValue]
    exact except_bind_eq_ok_iff.2 ⟨out, except_mapError_eq_ok_iff.2 accepted, rfl⟩

/-- A request is answered for a schema of the engine. -/
theorem exists_require_of_validateRequest
    (answered : engine.validateRequest now name mode request = .ok data) :
    ∃ schema, engine.require name = .ok schema := by
  obtain ⟨schema, stored, -⟩ := except_bind_eq_ok_iff.1 answered
  exact ⟨schema, stored⟩

/-! ## Keys that do not concern the schema -/

/-- The document of an object has the values of its members. -/
theorem get?_toEntries (members : List (String × Json)) (key : String) :
    Entries.get? (Json.toEntries members) key = (Entries.get? members key).map Json.toValue := by
  rw [Json.toEntries_eq, Entries.get?_mapValues]

/-- The members of an answer are the values of the document. -/
theorem get?_toJsonMembers (entries : Document) (key : String) :
    Entries.get? (Value.toJsonMembers entries) key =
      (Entries.get? entries key).map Value.toJson := by
  rw [Value.toJsonMembers_eq, Entries.get?_mapValues]

theorem ascending_toEntries (ascending : Entries.Ascending members) :
    Entries.Ascending (Json.toEntries members) := by
  refine ascending.of_keys_eq ?_
  rw [Json.toEntries_eq, Entries.keys_mapValues]

/-- A request that is read from a line of text is well formed. -/
theorem wellFormed_of_readRequest {text : String} (read : readRequest text = .ok request) :
    request.WellFormed := by
  unfold readRequest at read
  dsimp only at read
  split at read
  · cases read
  · split at read
    · next parsed =>
      cases read
      exact Json.wellFormed_of_ofText? parsed
    · cases read

/-- A request that is answered is an object, and the answer is an object: the JSON form of the
canonical form of the request's document. -/
theorem canonicalDocument_of_validateRequest
    (booted : boot registry path directory configFile = .ok engine)
    (stored : engine.require name = .ok schema) (wellFormed : request.WellFormed)
    (answered : engine.validateRequest now name mode request = .ok data) :
    ∃ members out, request = .object members ∧ data = .object (Value.toJsonMembers out) ∧
      (engine.context now).CanonicalDocument mode schema (Json.toEntries members) out := by
  obtain ⟨members, out, rfl, accepted, rfl⟩ := (validateRequest_eq_ok_iff stored).1 answered
  have ascending : Entries.Ascending members := (Json.wellFormed_iff.1 wellFormed).1
  refine ⟨members, out, rfl, rfl, Context.canonicalDocument_of_validateDocument
    (built_of_boot booted stored).sound.2.ascending (ascending_toEntries ascending) accepted⟩

/-- What the answer has for a key that does not concern the schema. -/
theorem get?_of_not_concerns
    (canonical : (engine.context now).CanonicalDocument mode schema (Json.toEntries members) out)
    (wellFormed : (Json.object members).WellFormed) {key : String} {value : Json}
    (given : Entries.get? members key = some value) (apart : ¬schema.Concerns key) :
    Entries.get? (Value.toJsonMembers out) key = some value.rounded ∧
      (value.rounded.Same value ↔ ∀ n, Json.Occurs (.int n) value → 2 ^ 63 ≤ n → 2048 ∣ n) := by
  have part : value ∈ (Json.object members).parts :=
    List.mem_map_of_mem (Entries.mem_of_get? given)
  have inside := (Json.wellFormed_iff.1 wellFormed).2 value part
  have undeclared : schema.declares key = false :=
    Bool.eq_false_iff.2 fun declared => apart (.inl declared)
  have kept := canonical.others key undeclared fun root rest dotted => by
    obtain ⟨name, isKey, noDot, declared⟩ := dotted.leads
    exact apart (.inr ⟨name, rest, isKey, noDot, Entries.hasKey_iff_exists.2 ⟨root, declared⟩⟩)
  refine ⟨?_, Json.same_rounded_iff inside⟩
  rw [get?_toJsonMembers, kept, get?_toEntries, given, Option.map_some, Option.map_some,
    Json.toJson_toValue inside]

/-- The answer has keys of the request and declared keys alone. -/
theorem hasKey_or_declares
    (canonical : (engine.context now).CanonicalDocument mode schema (Json.toEntries members) out)
    {key : String} (held : Entries.hasKey (Value.toJsonMembers out) key = true) :
    Entries.hasKey members key = true ∨ schema.declares key = true := by
  rw [Entries.hasKey, get?_toJsonMembers, Option.isSome_map] at held
  refine ((canonical.keys key).1 held).imp (fun given => ?_) And.right
  rwa [Entries.hasKey, get?_toEntries, Option.isSome_map] at given

/-- The keys of an accepted request that do not concern the schema come back with their values, in
which integers beyond 64 signed bits are rounded; a value is exactly the same if and only if all
such integers in it are multiples of 2048. Besides the keys of the request, the answer has declared
keys alone. -/
theorem others_pass_through (booted : boot registry path directory configFile = .ok engine)
    (stored : engine.require name = .ok schema) (wellFormed : request.WellFormed)
    (answered : engine.validateRequest now name mode request = .ok data) :
    ∃ members out, request = .object members ∧ data = .object out ∧
      (∀ key value, Entries.get? members key = some value → ¬schema.Concerns key →
        Entries.get? out key = some value.rounded ∧
          (value.rounded.Same value ↔
            ∀ n, Json.Occurs (.int n) value → 2 ^ 63 ≤ n → 2048 ∣ n)) ∧
      ∀ key, Entries.hasKey out key = true →
        Entries.hasKey members key = true ∨ schema.declares key = true := by
  obtain ⟨members, out, rfl, rfl, canonical⟩ :=
    canonicalDocument_of_validateRequest booted stored wellFormed answered
  exact ⟨members, _, rfl, rfl,
    fun key value given apart => get?_of_not_concerns canonical wellFormed given apart,
    fun key held => hasKey_or_declares canonical held⟩

/-! ## Engines of a single schema -/

/-- The engine of a directory that has the file of one schema alone. -/
def ofSchema (schema : Schema) : Engine :=
  ⟨.initial, .empty, ⟨"schemas", [(schema.name, schema)]⟩⟩

/-- An engine is booted from the file of a schema alone. -/
theorem boot_ofSchema (built : schema.Built)
    (savable : ∀ field ∈ schema.attributes, field.2.Savable)
    (verified : Registry.empty.verifySchema schema = .ok ()) {text : String}
    (written : schema.toFileText = .ok text) :
    ∃ directory, boot .empty "schemas" directory none = .ok (ofSchema schema.jsonImage) := by
  have read : Schema.ofFileText .empty
      (FileTree.join "schemas" (schema.name ++ Catalogue.extension)) (some text) =
        .ok schema.jsonImage :=
    Schema.ofFileText_toFileText built savable verified written
  have loaded :=
    Catalogue.load_of_singleton (Catalogue.isFileName_append built.sound.1) read
  exact ⟨_, boot_eq_ok_iff.2 ⟨.initial, rfl, rfl, _, loaded, rfl⟩⟩

/-- An engine that has the schema of notes alone. -/
def notes : Engine :=
  ofSchema (Catalogue.notes .null)

/-- An engine is booted from the file of notes alone. -/
theorem boot_notes : ∃ directory, boot .empty "schemas" directory none = .ok notes := by
  have floats : Value.null.FloatsReadBack :=
    Value.floatsReadBack_of_leaf rfl fun _ same => by cases same
  obtain ⟨text, written⟩ : ∃ text, (Catalogue.notes .null).toFileText = .ok text := ⟨_, rfl⟩
  exact boot_ofSchema (Catalogue.built_notes .null)
    (Catalogue.savable_notes trivial floats (by decide)) (Catalogue.verifySchema_notes .empty _)
    written

theorem require_notes : notes.require "notes" = .ok (Catalogue.notes .null) :=
  rfl

/-- A request with a single integer, under a key that does not concern notes. -/
def countRequest (n : Int) : Json :=
  .object [("count", .int n)]

theorem wellFormed_countRequest {n : Int} (least : 0 ≤ n) (greatest : n < 2 ^ 64) :
    (countRequest n).WellFormed := by
  refine Json.wellFormed_object (List.pairwise_singleton _ _) fun member held => ?_
  cases List.mem_singleton.1 held
  exact Json.wellFormed_of_leaf rfl ⟨by omega, greatest⟩

/-- A count comes back as its JSON form. -/
theorem validateRequest_countRequest (now : Instant) (n : Int) :
    notes.validateRequest now "notes" .createDraft (countRequest n) =
      .ok (.object [("count", (Json.int n).toValue.toJson)]) :=
  rfl

theorem not_concerns_count : ¬(Catalogue.notes .null).Concerns "count" := by
  rintro (declared | ⟨root, rest, dotted, -, -⟩)
  · exact absurd declared (by decide)
  · have dot : '.' ∈ "count".toList := by simp [dotted, Context.partName]
    exact absurd dot (by decide)

/-- A multiple of 2048 beyond 64 signed bits comes back as the same number. -/
theorem others_pass_through_notes :
    (∃ directory, boot .empty "schemas" directory none = .ok notes) ∧
      ∃ value, notes.validateRequest ⟨0, 0⟩ "notes" .createDraft
          (countRequest 18446744073709549568) = .ok (.object [("count", value)]) ∧
        value.Same (.int 18446744073709549568) := by
  obtain ⟨directory, booted⟩ := boot_notes
  have wellFormed : (countRequest 18446744073709549568).WellFormed :=
    wellFormed_countRequest (by decide) (by decide)
  have answered := validateRequest_countRequest ⟨0, 0⟩ 18446744073709549568
  obtain ⟨members, out, ⟨⟩, ⟨⟩, others, -⟩ :=
    others_pass_through booted require_notes wellFormed answered
  obtain ⟨found, same⟩ := others "count" _ rfl not_concerns_count
  refine ⟨⟨directory, booted⟩, _, answered, ?_⟩
  rw [Option.some.inj found, same]
  rintro n (here | ⟨member, -⟩) -
  · decide
  · cases member

/-- The greatest integer of 64 bits comes back as the float above it. -/
theorem count_rounded :
    (∃ directory, boot .empty "schemas" directory none = .ok notes) ∧
      notes.require "notes" = .ok (Catalogue.notes .null) ∧
      ¬(Catalogue.notes .null).Concerns "count" ∧
      (countRequest 18446744073709551615).WellFormed ∧
      notes.validateRequest ⟨0, 0⟩ "notes" .createDraft (countRequest 18446744073709551615) =
        .ok (.object [("count", .float (.ofInt 18446744073709551616))]) ∧
      ¬(Json.float (.ofInt 18446744073709551616)).Same (.int 18446744073709551615) := by
  have wellFormed : (Json.int 18446744073709551615).WellFormed :=
    Json.wellFormed_of_leaf rfl ⟨by decide, by decide⟩
  have value : (Json.int 18446744073709551615).rounded =
      .float (.ofInt 18446744073709551616) :=
    congrArg Json.float (by decide +kernel)
  refine ⟨boot_notes, require_notes, not_concerns_count,
    wellFormed_countRequest (by decide) (by decide), ?_, fun same => ?_⟩
  · rw [validateRequest_countRequest, Json.toJson_toValue wellFormed, value]
  · rw [← value, Json.same_rounded_iff wellFormed] at same
    exact absurd (same _ .here (by decide)) (by decide)

end Engine

end DocumentSchema

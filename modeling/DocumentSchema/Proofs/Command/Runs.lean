import DocumentSchema.Command.Run
import DocumentSchema.Proofs.Command.RequiredAttributes

/-!
Runs that validate.

A run with a command to validate ends well exactly if an engine is booted, the line that is read
holds a request, and the engine answers it (`status_validate_eq_zero_iff`). What is read from a line
is well formed, so all that is known of answers to well-formed requests holds of what such a run
writes, whatever its input: of the keys that do not concern the schema (`others_of_run`) and of
required attributes (`required_of_run`).
-/

namespace DocumentSchema

open Engine (readRequest)

variable {tree : FileTree} {fresh : Fresh} {arguments : List String} {input name : String}
  {sources : Sources} {mode : Mode}

/-- A run with a command ends well exactly if the command has an answer, which is then written. -/
theorem run_of_command {command : Command} (asked : Command.ofArguments arguments = .ok command) :
    run tree fresh arguments input = .ofAnswer (do
      let engine ← command.boot tree (.builtins fresh)
      command.answer engine fresh.now input) := by
  rw [run, asked]

theorem Outcome.status_ofAnswer_eq_zero_iff {answer : Except CommandError Json} :
    (ofAnswer answer).status = 0 ↔ ∃ data, answer = .ok data := by
  cases answer <;> simp [ofAnswer]

/-- A run that validates ends well exactly if a request is read that the engine answers. -/
theorem status_validate_eq_zero_iff
    (asked : Command.ofArguments arguments = .ok (.validate sources name mode)) :
    (run tree fresh arguments input).status = 0 ↔ ∃ engine request data,
      (Command.validate sources name mode).boot tree (.builtins fresh) = .ok engine ∧
        readRequest input = .ok request ∧
        engine.validateRequest fresh.now name mode request = .ok data := by
  rw [run_of_command asked, Outcome.status_ofAnswer_eq_zero_iff]
  simp only [except_bind_eq_ok_iff, Command.answer]
  constructor
  · rintro ⟨data, engine, booted, request, read, answered⟩
    exact ⟨engine, request, data, booted, read, answered⟩
  · rintro ⟨engine, request, data, booted, read, answered⟩
    exact ⟨data, engine, booted, request, read, answered⟩

/-- A run that validates and ends well has read an object, and writes the JSON form of the canonical
form of its document. -/
theorem canonicalDocument_of_run
    (asked : Command.ofArguments arguments = .ok (.validate sources name mode))
    (ended : (run tree fresh arguments input).status = 0) :
    ∃ engine schema members out,
      (Command.validate sources name mode).boot tree (.builtins fresh) = .ok engine ∧
        engine.require name = .ok schema ∧ readRequest input = .ok (.object members) ∧
        (Json.object members).WellFormed ∧
        run tree fresh arguments input =
          ⟨0, Outcome.line (Outcome.dataResponse (.object (Value.toJsonMembers out))), ""⟩ ∧
        (engine.context fresh.now).CanonicalDocument mode schema (Json.toEntries members) out := by
  obtain ⟨engine, request, data, booted, read, answered⟩ :=
    (status_validate_eq_zero_iff asked).1 ended
  obtain ⟨schema, stored⟩ := Engine.exists_require_of_validateRequest answered
  have wellFormed := Engine.wellFormed_of_readRequest read
  obtain ⟨members, out, rfl, rfl, canonical⟩ :=
    Engine.canonicalDocument_of_validateRequest booted stored wellFormed answered
  refine ⟨engine, schema, members, out, booted, stored, read, wellFormed, ?_, canonical⟩
  have whole : (do
      let engine ← (Command.validate sources name mode).boot tree (.builtins fresh)
      (Command.validate sources name mode).answer engine fresh.now input) =
        .ok (.object (Value.toJsonMembers out)) :=
    except_bind_eq_ok_iff.2 ⟨engine, booted, except_bind_eq_ok_iff.2 ⟨_, read, answered⟩⟩
  rw [run_of_command asked, whole]
  rfl

/-- Whatever line a run reads that validates and ends well, the keys in it that do not concern the
schema are written with their values, in which integers beyond 64 signed bits are rounded; a value
is exactly the same if and only if all such integers in it are multiples of 2048. Besides the keys
of the line, declared keys alone are written. -/
theorem others_of_run
    (asked : Command.ofArguments arguments = .ok (.validate sources name mode))
    (ended : (run tree fresh arguments input).status = 0) :
    ∃ engine schema members out,
      (Command.validate sources name mode).boot tree (.builtins fresh) = .ok engine ∧
        engine.require name = .ok schema ∧ readRequest input = .ok (.object members) ∧
        run tree fresh arguments input =
          ⟨0, Outcome.line (Outcome.dataResponse (.object out)), ""⟩ ∧
        (∀ key value, Entries.get? members key = some value → ¬schema.Concerns key →
          Entries.get? out key = some value.rounded ∧
            (value.rounded.Same value ↔
              ∀ n, Json.Occurs (.int n) value → 2 ^ 63 ≤ n → 2048 ∣ n)) ∧
        ∀ key, Entries.hasKey out key = true →
          Entries.hasKey members key = true ∨ schema.declares key = true := by
  obtain ⟨engine, schema, members, out, booted, stored, read, wellFormed, written, canonical⟩ :=
    canonicalDocument_of_run asked ended
  exact ⟨engine, schema, members, _, booted, stored, read, written,
    fun key value given apart => Engine.get?_of_not_concerns canonical wellFormed given apart,
    fun key held => Engine.hasKey_or_declares canonical held⟩

/-- Whatever line a run reads that validates a new document and ends well, all attributes of a
schema of required descriptors are written. One is written as null exactly if the line has digits
for it that overflow and are given to a float without ranges. -/
theorem required_of_run
    (asked : Command.ofArguments arguments = .ok (.validate sources name .create))
    (ended : (run tree fresh arguments input).status = 0) :
    ∃ engine schema members out,
      (Command.validate sources name .create).boot tree (.builtins fresh) = .ok engine ∧
        engine.require name = .ok schema ∧ readRequest input = .ok (.object members) ∧
        run tree fresh arguments input =
          ⟨0, Outcome.line (Outcome.dataResponse (.object out)), ""⟩ ∧
        ((∀ entry ∈ schema.attributes, entry.2.Required) →
          ∀ field d, schema.get? field = some d → ∃ value,
            Entries.get? out field = some value ∧
            (value = .null ↔ ∃ text, Entries.get? members field = some (.str text) ∧
              Scalar.Overflows text ∧ (engine.context fresh.now).TakenByFloat field text
                (Json.toEntries members) d.shape)) := by
  obtain ⟨engine, schema, members, out, booted, stored, read, wellFormed, written, canonical⟩ :=
    canonicalDocument_of_run asked ended
  refine ⟨engine, schema, members, _, booted, stored, read, written,
    fun required field d declared => ?_⟩
  obtain ⟨value, found, null, -⟩ := Engine.exists_value_of_required canonical wellFormed
    (required (field, d) (Entries.mem_of_get? declared)) declared
  exact ⟨value, found, null⟩

end DocumentSchema

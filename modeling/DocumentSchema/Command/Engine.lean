import DocumentSchema.Command.Error
import DocumentSchema.Schema.Catalogue
import DocumentSchema.Validation.Document

/-!
Engines.

An engine is what commands need: a configuration, the registered callbacks and the catalogue of
schemas. `Engine.boot` makes one and gives up at the first thing that is wrong: the configuration,
the fallback it names, then the schema files in their order. Requests are single lines of JSON.
-/

namespace DocumentSchema

/-- A configuration, callbacks and schemas that fit each other. -/
structure Engine where
  config : Config
  registry : Registry
  catalogue : Catalogue

namespace Engine

/-- The configuration of a file's content: the initial one where no file is named, and an error
where the file that is named cannot be read. -/
def configOf (file : Option (Option String)) : Except CommandError Config :=
  match file with
  | none => .ok .initial
  | some content => (Config.ofText content).mapError .config

/-- The engine of a directory of schemas, as it is seen, and of a configuration file, if one is
named. -/
def boot (registry : Registry) (path : String) (directory : Directory)
    (configFile : Option (Option String)) : Except CommandError Engine := do
  let config ← configOf configFile
  (registry.verifyConfig config).mapError .schema
  let (catalogue, loaded) := (Catalogue.new path).load registry directory
  loaded.mapError .schema
  return ⟨config, registry, catalogue⟩

/-- The context of a validation at an instant. -/
def context (engine : Engine) (now : Instant) : Context :=
  ⟨engine.config, engine.registry, now⟩

/-- The schema of a name. -/
def require (engine : Engine) (name : String) : Except CommandError Schema :=
  (engine.catalogue.require name).mapError .schema

/-! ## Requests -/

/-- The characters up to the first line break. -/
def firstLine (text : String) : List Char :=
  text.toList.takeWhile (· != '\n')

/-- The JSON value on the first line of a text; a line of blanks alone is empty. -/
def readRequest (text : String) : Except CommandError Json :=
  let line := firstLine text
  if line.all Text.Unicode.isSpace then .error (.request .empty)
  else match Json.ofText? (String.ofList line) with
    | some value => .ok value
    | none => .error (.request .notJson)

/-- The canonical form of a document in JSON, validated against the schema of a name. -/
def validateRequest (engine : Engine) (now : Instant) (name : String) (mode : Mode)
    (request : Json) : Except CommandError Json := do
  let schema ← engine.require name
  match request.toValue with
  | .map doc =>
    let canonical ← ((engine.context now).validateDocument mode schema doc).mapError .rejected
    return (Value.map canonical).toJson
  | other => .error (.notAnObject other.typeName)

/-- The record of the descriptor at a path into the schema of a name. -/
def resolve (engine : Engine) (name path : String) : Except CommandError Json := do
  let schema ← engine.require name
  let d ← (schema.resolveAt engine.config path).mapError .schema
  d.toJsonRecord.mapError .schema

/-- The names of all schemas, in order. -/
def schemaNames (engine : Engine) : Json :=
  .object [("schemas", .array (engine.catalogue.names.map .str))]

end Engine

end DocumentSchema

import DocumentSchema.Descriptor.Record
import DocumentSchema.Json.Reader
import DocumentSchema.Json.Writer
import DocumentSchema.Schema.Registry

/-!
Schemas in files.

The file of a schema holds its name and the records of its attributes in JSON form.
`Schema.toFileText` writes it; `Schema.ofFileText` reads it, through the builder of schemas, and
checks that every callback it refers to is registered. Fields that are not known have no effect.
-/

namespace DocumentSchema

/-- The content of a schema file. -/
structure SchemaFile where
  name : String
  attributes : Entries Json

namespace SchemaFile

/-! ## Writing -/

/-- The stored form, the name before the attributes. -/
def toJson (file : SchemaFile) : Json :=
  .object [("name", .str file.name), ("attrs", .object file.attributes)]

/-- The records of the attributes of a schema. -/
def ofSchema (schema : Schema) : Except SchemaError SchemaFile := do
  let attributes ← schema.attributes.mapM fun (name, d) => do
    let record ← d.toJsonRecord.mapError (SchemaError.within name)
    return (name, record)
  return ⟨schema.name, attributes⟩

/-! ## Reading -/

/-- The two fields of a file as far as they are known. -/
structure Fields where
  name : Option String
  attributes : Option (Entries Json)

/-- The text of a string. -/
def readName? : Json.Tree → Option String
  | .scalar (some (.str name)) => some name
  | _ => none

/-- The records in an object, which itself stands in another value. -/
def readAttributes? : Json.Tree → Option (Entries Json)
  | .object members => (Json.Tree.members? (Json.maxDepth - 2) members).map Entries.ofList
  | _ => none

/-- Adds a member of an object: each field at most once, and other members without effect. -/
def Fields.addMember? (fields : Fields) (member : Option String × Json.Tree) : Option Fields := do
  let name ← member.1
  if name = "name" then
    guard fields.name.isNone
    return { fields with name := some (← readName? member.2) }
  else if name = "attrs" then
    guard fields.attributes.isNone
    return { fields with attributes := some (← readAttributes? member.2) }
  else return fields

/-- The content that a JSON text writes: an object, or an array of the two fields. -/
def ofTree? : Json.Tree → Option SchemaFile
  | .object members => do
    let fields ← members.foldlM Fields.addMember? ⟨none, none⟩
    return ⟨← fields.name, ← fields.attributes⟩
  | .array [name, attributes] => return ⟨← readName? name, ← readAttributes? attributes⟩
  | _ => none

/-- The builder with the attributes of a file. -/
def builder (file : SchemaFile) : Except SchemaError SchemaBuilder :=
  file.attributes.foldlM (fun builder (name, record) => do
    let d ← (Descriptor.ofJsonRecord record).mapError (SchemaError.within name)
    return builder.declare name d) (SchemaBuilder.new file.name)

/-- The schema of a file. -/
def schema (file : SchemaFile) (registry : Registry) : Except SchemaError Schema := do
  let builder ← file.builder
  let schema ← builder.build
  registry.verifySchema schema
  return schema

end SchemaFile

/-- The error of a file or a directory. -/
def malformedFile (path : String) (flaw : FileFlaw) : SchemaError :=
  .ofFault (.malformedFile path flaw)

namespace Schema

/-- The content of the file of a schema. -/
def toFileText (schema : Schema) : Except SchemaError String := do
  return (← SchemaFile.ofSchema schema).toJson.pretty 0

/-- The schema in the file at a path; without content, the file cannot be read. -/
def ofFileText (registry : Registry) (path : String) (content : Option String) :
    Except SchemaError Schema :=
  match content with
  | none => .error (malformedFile path .unreadable)
  | some text =>
    match (Json.treeOfText? text).bind SchemaFile.ofTree? with
    | none => .error (malformedFile path .invalidJson)
    | some file => (file.schema registry).mapError (SchemaError.within path)

end Schema

end DocumentSchema

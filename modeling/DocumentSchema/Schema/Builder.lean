import DocumentSchema.Descriptor.Make
import DocumentSchema.Path.Segments

/-!
Schemas and how they are built.

A schema is a name and the descriptors of its attributes. A builder collects attributes and keeps
the first thing that is wrong with them until it is asked for the schema; later attributes are then
left out. Defaults can be set until the schema is built, also on fields inside records.
-/

namespace DocumentSchema

/-- The descriptors of the attributes of one type of document. -/
structure Schema where
  name : String
  attributes : Entries Descriptor

namespace Schema

/-- The descriptor of an attribute. -/
def get? (schema : Schema) (name : String) : Option Descriptor :=
  Entries.get? schema.attributes name

/-- Whether an attribute is declared. -/
def declares (schema : Schema) (name : String) : Bool :=
  Entries.hasKey schema.attributes name

/-- Equality of schemas. -/
def equal (a b : Schema) : Bool :=
  a.name == b.name && equalFields a.attributes b.attributes

end Schema

/-- A schema that is being built, with the first thing that is wrong with it. -/
structure SchemaBuilder where
  name : String
  attributes : Entries Descriptor
  error : Option SchemaError

/-- The error of a path that does not exist. -/
def pathNotFound (path segment : String) : SchemaError :=
  .ofFault (.pathNotFound path segment)

namespace Descriptor

/-- Sets, in its place, the default of the descriptor that segments lead to through the fields of
records. What is left comes with the answer. -/
def assignDefault (path : String) (default : Option Default) :
    Descriptor → List String → Except SchemaError Unit × Descriptor
  | d, [] => (.ok (), d.setDefault default)
  | d, segment :: rest =>
    match d.shape with
    | .record fields =>
      match Entries.get? fields segment with
      | some field =>
        let (answer, field) := assignDefault path default field rest
        (answer, .mk (.record (Entries.replace segment field fields)) d.default d.nullable)
      | none => (.error (pathNotFound path segment), d)
    | _ => (.error (pathNotFound path segment), d)

/-- The descriptor with the default of the one that segments lead to set. -/
def setDefaultAt (path : String) (default : Option Default) (d : Descriptor)
    (segments : List String) : Except SchemaError Descriptor :=
  let (answer, left) := d.assignDefault path default segments
  answer.map fun () => left

/-- A default that cannot be set leaves the descriptor as it was. -/
theorem assignDefault_of_error {path : String} {default : Option Default} {segments : List String}
    {d : Descriptor} {error : SchemaError}
    (failed : (d.assignDefault path default segments).1 = .error error) :
    (d.assignDefault path default segments).2 = d := by
  induction segments generalizing d with
  | nil => cases failed
  | cons segment rest ih =>
    obtain ⟨shape, own, nullable⟩ := d
    cases shape with
    | record fields =>
      simp only [assignDefault, shape] at failed ⊢
      cases found : Entries.get? fields segment with
      | none => rfl
      | some field =>
        simp only [found] at failed ⊢
        rw [ih failed, Entries.replace_self found]
        rfl
    | _ => rfl

/-- A default is set inside a field, which is then put in its place. -/
theorem setDefaultAt_record {fields : Entries Descriptor} {segment : String} {field : Descriptor}
    (found : Entries.get? fields segment = some field) (path : String)
    (default own : Option Default) (nullable : Bool) (rest : List String) :
    (mk (.record fields) own nullable).setDefaultAt path default (segment :: rest) =
      (field.setDefaultAt path default rest).map fun field =>
        mk (.record (Entries.replace segment field fields)) own nullable := by
  simp only [setDefaultAt, assignDefault, shape, found]
  cases (field.assignDefault path default rest).1 <;> rfl

end Descriptor

namespace SchemaBuilder

/-- A builder without attributes. -/
def new (name : String) : SchemaBuilder :=
  ⟨name, [], none⟩

/-- Declares an attribute, unless something is wrong already. Its name must be new, not empty, and
without dots. -/
def declare (builder : SchemaBuilder) (name : String) (d : Descriptor) : SchemaBuilder :=
  if builder.error.isSome then builder
  else match checkName .schema name with
    | .error error => { builder with error := some error }
    | .ok () =>
      { builder with
        attributes := Entries.insert name d builder.attributes
        error := if Entries.hasKey builder.attributes name then
            some (malformed .schema (.declaredTwice name))
          else none }

/-- Sets or removes, in its place, the default of the attribute or field at a path. The builder that
is left comes with the answer. -/
def assignDefault (builder : SchemaBuilder) (path : String) (default : Option Default) :
    Except SchemaError Unit × SchemaBuilder :=
  match Path.dotted path with
  | [] => (.error (pathNotFound path ""), builder)
  | first :: rest =>
    match Entries.get? builder.attributes first with
    | none => (.error (pathNotFound path first), builder)
    | some d =>
      let (answer, d) := d.assignDefault path default rest
      (answer, { builder with attributes := Entries.replace first d builder.attributes })

/-- The builder with the default of the attribute or field at a path set or removed. -/
def setDefault (builder : SchemaBuilder) (path : String) (default : Option Default) :
    Except SchemaError SchemaBuilder :=
  let (answer, left) := builder.assignDefault path default
  answer.map fun () => left

variable {builder : SchemaBuilder} {d : Descriptor} {path first : String} {rest : List String}

/-- The default is set in the attribute that the first part of the path names. -/
theorem setDefault_of_dotted (split : Path.dotted path = first :: rest)
    (found : Entries.get? builder.attributes first = some d) (default : Option Default) :
    builder.setDefault path default = (d.setDefaultAt path default rest).map fun d =>
      { builder with attributes := Entries.replace first d builder.attributes } := by
  simp only [setDefault, assignDefault, split, found, Descriptor.setDefaultAt]
  cases (d.assignDefault path default rest).1 <;> rfl

/-- The first part of the path must name an attribute. -/
theorem setDefault_of_missing (split : Path.dotted path = first :: rest)
    (missing : Entries.get? builder.attributes first = none) (default : Option Default) :
    builder.setDefault path default = .error (pathNotFound path first) := by
  simp only [setDefault, assignDefault, split, missing]
  rfl

/-- The schema, if nothing is wrong and its name is not empty. -/
def build (builder : SchemaBuilder) : Except SchemaError Schema :=
  match builder.error with
  | some error => .error (error.within builder.name)
  | none =>
    if builder.name.isEmpty then .error (malformed .schema .emptySchemaName)
    else .ok ⟨builder.name, builder.attributes⟩

end SchemaBuilder

end DocumentSchema

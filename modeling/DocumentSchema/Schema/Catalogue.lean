import DocumentSchema.Schema.File
import DocumentSchema.Storage.FileTree

/-!
Catalogues of schemas.

A catalogue holds published schemas by name. A name, once taken, keeps its schema. `Catalogue.load`
takes in the schema files of the catalogue's directory in the order of their names and stops at the
first one that is wrong, and `Catalogue.save` adds the file of a schema to a file tree in which that
schema has none.
-/

namespace DocumentSchema

/-- Published schemas by name, and the directory of their files. -/
structure Catalogue where
  directory : String
  schemas : Entries Schema

namespace Catalogue

/-- The catalogue of a directory, nothing loaded yet. -/
def new (directory : String) : Catalogue :=
  ⟨directory, []⟩

/-- The schema of a name. -/
def get? (catalogue : Catalogue) (name : String) : Option Schema :=
  Entries.get? catalogue.schemas name

/-- The schema of a name, which must be there. -/
def require (catalogue : Catalogue) (name : String) : Except SchemaError Schema :=
  match catalogue.get? name with
  | some schema => .ok schema
  | none => .error (.ofFault (.unknownSchema name))

/-- Whether a name is taken. -/
def holds (catalogue : Catalogue) (name : String) : Bool :=
  Entries.hasKey catalogue.schemas name

/-- The names that are taken, in order. -/
def names (catalogue : Catalogue) : List String :=
  Entries.keys catalogue.schemas

/-- The number of schemas. -/
def size (catalogue : Catalogue) : Nat :=
  catalogue.schemas.length

/-- Publishes a schema under its name, which must not be taken. -/
def register (catalogue : Catalogue) (schema : Schema) : Except SchemaError Catalogue :=
  if catalogue.holds schema.name then .error (.ofFault (.immutable schema.name))
  else .ok { catalogue with schemas := Entries.insert schema.name schema catalogue.schemas }

/-! ## Loading -/

/-- The end of the names of schema files. -/
def extension : String := ".json"

/-- Whether a name is one of a schema file: something, and the ending. -/
def isFileName (name : String) : Bool :=
  extension.length < name.length && name.endsWith extension

/-- Publishes the schema in one file. -/
def loadFile (catalogue : Catalogue) (registry : Registry) (path : String)
    (content : Option String) : Except SchemaError Catalogue := do
  catalogue.register (← Schema.ofFileText registry path content)

/-- Publishes the schemas in files up to the first one that is wrong; its error comes with the
schemas published until then. -/
def loadFiles (registry : Registry) :
    Catalogue → List (String × Option String) → Catalogue × Except SchemaError Unit
  | catalogue, [] => (catalogue, .ok ())
  | catalogue, (name, content) :: rest =>
    match catalogue.loadFile registry (FileTree.join catalogue.directory name) content with
    | .ok loaded => loadFiles registry loaded rest
    | .error error => (catalogue, .error error)

/-- Publishes the schemas in the files of the directory; a directory that is absent has none. -/
def load (catalogue : Catalogue) (registry : Registry) (directory : Directory) :
    Catalogue × Except SchemaError Unit :=
  match directory with
  | .absent => (catalogue, .ok ())
  | .unreadable => (catalogue, .error (malformedFile catalogue.directory .unreadableDirectory))
  | .listing entries =>
    loadFiles registry catalogue (entries.filter fun entry => isFileName entry.1)

/-! ## Saving -/

/-- The path of the file of a schema. -/
def pathOf (catalogue : Catalogue) (schema : Schema) : String :=
  FileTree.join catalogue.directory (schema.name ++ extension)

/-- A tree with the catalogue's directory. -/
def makeDirectory (catalogue : Catalogue) (tree : FileTree) : Except SchemaError FileTree :=
  if (tree.node? catalogue.directory).isSome then .ok tree
  else match tree.makeDirectory? catalogue.directory with
    | some tree => .ok tree
    | none => .error (malformedFile catalogue.directory .uncreatableDirectory)

/-- A tree with the file of a schema, at a path where nothing stands. -/
def save (catalogue : Catalogue) (tree : FileTree) (schema : Schema) :
    Except SchemaError FileTree := do
  let path := catalogue.pathOf schema
  if (tree.node? path).isSome then .error (.ofFault (.immutable schema.name))
  else
    let text ← schema.toFileText
    let tree ← catalogue.makeDirectory tree
    match tree.write? path text with
    | some tree => .ok tree
    | none => .error (malformedFile path .unwritable)

end Catalogue

end DocumentSchema

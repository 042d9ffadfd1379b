import DocumentSchema.Descriptor.Kind
import DocumentSchema.Value.Basic

/-!
What can be wrong with a document.

A failure of one attribute says whether its value is missing or invalid, and of which type the
value was. `DocumentError` gathers the failures of a whole document; a missing attribute decides
its code before an invalid one does.
-/

namespace DocumentSchema

/-- How a value is validated: as part of a complete new document, of a draft in which attributes
may be absent, of an update, or as a part of another value. -/
inductive Mode where
  | create
  | createDraft
  | update
  | deep
  deriving DecidableEq, Repr

/-- The name of a mode. -/
def Mode.text : Mode → String
  | create => "create"
  | createDraft => "create_draft"
  | update => "update"
  | deep => "deep"

/-- The failure of one attribute. -/
inductive ValidationError where
  | missing (name : String) (kind : Kind)
  | invalid (name : String) (kind : Kind) (observed : String)
  deriving DecidableEq

namespace ValidationError

/-- The failure of an attribute whose value was refused. -/
def ofValue (name : String) (kind : Kind) (value : Value) : ValidationError :=
  .invalid name kind value.typeName

/-- The name of the attribute. -/
def name : ValidationError → String
  | missing name _ => name
  | invalid name _ _ => name

/-- The kind of the attribute. -/
def kind : ValidationError → Kind
  | missing _ kind => kind
  | invalid _ kind _ => kind

/-- The type of the value that failed. -/
def observed : ValidationError → String
  | missing _ _ => Value.null.typeName
  | invalid _ _ observed => observed

/-- Whether the value was missing. -/
def isMissing : ValidationError → Bool
  | missing _ _ => true
  | invalid _ _ _ => false

/-- The code of a failure. -/
def code : ValidationError → String
  | missing _ _ => "ATTR_MISSING"
  | invalid _ _ _ => "ATTR_INVALID"

/-- The wording of a failure. -/
def message : ValidationError → String
  | missing name kind => "Missing attribute '" ++ name ++ "' of kind " ++ kind.tag
  | invalid name kind observed =>
    "Invalid attribute '" ++ name ++ "': expected " ++ kind.tag ++ ", got " ++ observed

end ValidationError

/-- All failures of one document. -/
structure DocumentError where
  errors : List ValidationError
  deriving DecidableEq

namespace DocumentError

/-- The failures of missing attributes. -/
def missing (error : DocumentError) : List ValidationError :=
  error.errors.filter (·.isMissing)

/-- The failures of invalid attributes. -/
def invalid (error : DocumentError) : List ValidationError :=
  error.errors.filter fun e => !e.isMissing

/-- The code of the first missing attribute, or else of the first failure. -/
def code (error : DocumentError) : String :=
  ((error.missing.head?).or error.errors.head?).elim "ATTR_INVALID" ValidationError.code

/-- The number of failures and the wording of each. -/
def message (error : DocumentError) : String :=
  error.errors.foldl (fun text e => text ++ "; " ++ e.message)
    (toString error.errors.length ++ " attribute(s) failed validation")

end DocumentError

end DocumentSchema

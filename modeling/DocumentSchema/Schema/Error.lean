import DocumentSchema.Descriptor.Kind
import DocumentSchema.Numeric.Shortest
import DocumentSchema.Pattern.Fault

/-!
What can be wrong with a schema.

An error is a cause together with the names it was found under, outermost first. The code and the
severity follow from the cause alone; `SchemaError.message` is the only place that words causes.
Failures of the file system, of JSON texts and of patterns are worded without details.
-/

namespace DocumentSchema

/-- What a malformed part is a part of. -/
inductive Subject where
  | kind (kind : Kind)
  | numericRange
  | lengthRange
  | record
  | schema
  | named (name : String)
  deriving DecidableEq

/-- What is wrong with a malformed part. -/
inductive Flaw where
  | boundIsNaN
  | crossedBounds (lo hi : Binary64)
  | noLength (least most : Nat)
  | malformedOffset (text : String)
  | offsetOverflow (text : String)
  | unitNotPermitted (unit : Char) (text : String)
  | wrongBoundFormat (text : String) (kind : Kind)
  | badPattern (source : String) (fault : Pattern.Fault)
  | exclusiveDomainLists
  | emptyDomain
  | nonNumericDialCode (code : String)
  | emptyLiteralSet
  | noElementTypes
  | noAlternatives
  | notAKey (kind : Kind)
  | badName (name : String)
  | duplicateKey (name : String)
  | emptyCallbackName
  | declaredTwice (name : String)
  | emptySchemaName
  | notAMapping
  | missingKindTag
  | unexpectedRecordKey (key : String)
  | nullabilityNotBool (observed : String)
  | defaultForm
  | unrecognisedDefault
  | argsNotMapping (observed : String)
  | unexpectedArg (key : String)
  | missingArg (key : String)
  | wrongArg (key expected : String)
  | other (reason : String)
  deriving DecidableEq

/-- The table in which a callback is looked up. -/
inductive CallbackRole where
  | defaultGenerator
  | typeValidator
  | localeFallback
  | named (name : String)
  deriving DecidableEq

/-- Why a descriptor has no record. -/
inductive Unportable where
  | inlineValidator
  | inlineGenerator
  | other (reason : String)
  deriving DecidableEq

/-- What is wrong with a schema file or its directory. -/
inductive FileFlaw where
  | unreadableDirectory
  | uncreatableDirectory
  | unreadable
  | unwritable
  | invalidJson
  | other (reason : String)
  deriving DecidableEq

/-- The cause of an error. -/
inductive SchemaFault where
  | malformed (subject : Subject) (flaw : Flaw)
  | unknownKind (tag : String)
  | notPortable (reason : Unportable)
  | unresolvedCallback (role : CallbackRole) (name : String)
  | duplicateCallback (role : CallbackRole) (name : String)
  | immutable (schema : String)
  | malformedFile (path : String) (flaw : FileFlaw)
  | pathNotFound (path segment : String)
  | unknownSchema (name : String)
  deriving DecidableEq

/-- How far an error reaches: a rejected request, or a schema that cannot be used. -/
inductive Severity where
  | reject
  | fatal
  deriving DecidableEq

/-- An error and the names it was found under, outermost first. -/
structure SchemaError where
  fault : SchemaFault
  context : List String
  deriving DecidableEq

/-! ## Wording -/

/-- A text between single quotes. -/
def quoted (text : String) : String :=
  "'" ++ text ++ "'"

/-- The name of a subject. -/
def Subject.text : Subject → String
  | kind k => k.tag
  | numericRange => "numeric range"
  | lengthRange => "length range"
  | record => "record"
  | schema => "schema"
  | named name => name

/-- The wording of a flaw. -/
def Flaw.text : Flaw → String
  | boundIsNaN => "bound is NaN"
  | crossedBounds lo hi =>
    "lower bound " ++ lo.plainText ++ " exceeds upper bound " ++ hi.plainText
  | noLength least most =>
    "[" ++ toString least ++ ", " ++ toString most ++ ") admits no length"
  | malformedOffset text => "bad relative bound " ++ quoted text
  | offsetOverflow text => "bound " ++ quoted text ++ " overflows"
  | unitNotPermitted unit text =>
    "unit " ++ quoted (String.singleton unit) ++ " not permitted in " ++ quoted text
  | wrongBoundFormat text kind => "bound " ++ quoted text ++ " is not in " ++ kind.tag ++ " format"
  | badPattern source fault => "invalid pattern " ++ quoted source ++ ": " ++ fault.text
  | exclusiveDomainLists => "allowed_domains and disallowed_domains are mutually exclusive"
  | emptyDomain => "empty domain"
  | nonNumericDialCode code => "dial code " ++ quoted code ++ " is not numeric"
  | emptyLiteralSet => "empty literal set"
  | noElementTypes => "no element types"
  | noAlternatives => "no alternatives"
  | notAKey kind => kind.tag ++ " cannot describe a dictionary key"
  | badName name => "key " ++ quoted name ++ " must be non-empty and contain no '.'"
  | duplicateKey name => "duplicate key " ++ quoted name
  | emptyCallbackName => "empty callback name"
  | declaredTwice name => "attribute " ++ quoted name ++ " declared twice"
  | emptySchemaName => "empty schema name"
  | notAMapping => "expected a mapping"
  | missingKindTag => "missing kind tag"
  | unexpectedRecordKey key => "unexpected record key " ++ quoted key
  | nullabilityNotBool observed => "allow_none must be a bool, got " ++ observed
  | defaultForm => "default must be null, \x7bvalue\x7d or \x7bgenerator\x7d"
  | unrecognisedDefault => "unrecognised default"
  | argsNotMapping observed => "args must be a mapping, got " ++ observed
  | unexpectedArg key => "unexpected arg " ++ quoted key
  | missingArg key => "missing arg " ++ quoted key
  | wrongArg key expected => "arg " ++ quoted key ++ " must be " ++ expected
  | other reason => reason

/-- The name of a role. -/
def CallbackRole.text : CallbackRole → String
  | defaultGenerator => "default generator"
  | typeValidator => "type validator"
  | localeFallback => "locale fallback"
  | named name => name

/-- The wording of a reason. -/
def Unportable.text : Unportable → String
  | inlineValidator => "inline TYPE callback"
  | inlineGenerator => "inline default generator"
  | other reason => reason

/-- The wording of a flaw of a file. -/
def FileFlaw.text : FileFlaw → String
  | unreadableDirectory => "Failed to read schema directory: no access"
  | uncreatableDirectory => "Failed to create schema directory: no access"
  | unreadable => "Failed to read file: no access"
  | unwritable => "Failed to write file: no access"
  | invalidJson => "Invalid JSON: not the form of a schema file"
  | other reason => reason

namespace SchemaFault

/-- The wording of a cause. -/
def text : SchemaFault → String
  | malformed subject flaw => "Malformed " ++ subject.text ++ " descriptor: " ++ flaw.text
  | unknownKind tag => "Unknown attr kind " ++ quoted tag
  | notPortable reason => "Descriptor cannot be encoded: " ++ reason.text
  | unresolvedCallback role name => "No " ++ role.text ++ " registered under " ++ quoted name
  | duplicateCallback role name =>
    "A " ++ role.text ++ " is already registered under " ++ quoted name
  | immutable schema => "Schema " ++ quoted schema ++ " is already registered and immutable"
  | malformedFile path flaw => "Malformed schema file " ++ quoted path ++ ": " ++ flaw.text
  | pathNotFound path segment =>
    "Segment " ++ quoted segment ++ " of path " ++ quoted path ++ " does not exist"
  | unknownSchema name => "Schema " ++ quoted name ++ " not found"

/-- The code of a cause. -/
def code : SchemaFault → String
  | malformed _ _ => "ATTR_SCHEMA_MALFORMED"
  | unknownKind _ => "ATTR_SCHEMA_UNKNOWN_KIND"
  | notPortable _ => "ATTR_SCHEMA_NOT_PORTABLE"
  | unresolvedCallback _ _ => "ATTR_SCHEMA_UNRESOLVED_CALLBACK"
  | duplicateCallback _ _ => "ATTR_SCHEMA_DUPLICATE_CALLBACK"
  | immutable _ => "ATTR_SCHEMA_IMMUTABLE"
  | malformedFile _ _ => "ATTR_SCHEMA_FILE_MALFORMED"
  | pathNotFound _ _ => "ATTR_SCHEMA_PATH_NOT_FOUND"
  | unknownSchema _ => "ATTR_SCHEMA_UNKNOWN"

/-- A path that does not exist and an unknown schema reject the request; all else makes the schema
unusable. -/
def severity : SchemaFault → Severity
  | pathNotFound _ _ => .reject
  | unknownSchema _ => .reject
  | _ => .fatal

/-- The name that a cause itself speaks of. -/
def path? : SchemaFault → Option String
  | malformed _ _ => none
  | unknownKind _ => none
  | notPortable _ => none
  | unresolvedCallback _ name => some name
  | duplicateCallback _ name => some name
  | immutable schema => some schema
  | malformedFile path _ => some path
  | pathNotFound path _ => some path
  | unknownSchema name => some name

end SchemaFault

/-- The name of a severity. -/
def Severity.text : Severity → String
  | reject => "REJECT"
  | fatal => "FATAL"

namespace SchemaError

/-- A cause found under no name yet. -/
def ofFault (fault : SchemaFault) : SchemaError :=
  ⟨fault, []⟩

/-- The same error found under one name more. -/
def within (name : String) (error : SchemaError) : SchemaError :=
  ⟨error.fault, name :: error.context⟩

/-- The code of an error. -/
def code (error : SchemaError) : String :=
  error.fault.code

/-- The severity of an error. -/
def severity (error : SchemaError) : Severity :=
  error.fault.severity

/-- The names and the wording of the cause, each name followed by a colon. -/
def message (error : SchemaError) : String :=
  error.context.foldr (fun name rest => name ++ ": " ++ rest) error.fault.text

/-- The name that the cause speaks of, or else the innermost name the error was found under. -/
def path? (error : SchemaError) : Option String :=
  error.fault.path?.or error.context.getLast?

/-- Severity, code and message on one line. -/
def display (error : SchemaError) : String :=
  "[" ++ error.severity.text ++ "] " ++ error.code ++ ": " ++ error.message

end SchemaError

/-- The error of a malformed part. -/
def malformed (subject : Subject) (flaw : Flaw) : SchemaError :=
  .ofFault (.malformed subject flaw)

/-! ## Causes in words -/

/-- The same cause told in words alone, as those tell theirs who check other parts, callbacks or
files. -/
def SchemaFault.inWords : SchemaFault → SchemaFault
  | malformed subject flaw => malformed (.named subject.text) (.other flaw.text)
  | notPortable reason => notPortable (.other reason.text)
  | unresolvedCallback role name => unresolvedCallback (.named role.text) name
  | duplicateCallback role name => duplicateCallback (.named role.text) name
  | malformedFile path flaw => malformedFile path (.other flaw.text)
  | fault => fault

/-- All that is reported of an error, the words of its cause tell. -/
theorem SchemaError.reported_inWords (fault : SchemaFault) (context : List String) :
    (SchemaError.mk fault.inWords context).code = (SchemaError.mk fault context).code ∧
      (SchemaError.mk fault.inWords context).path? = (SchemaError.mk fault context).path? ∧
      (SchemaError.mk fault.inWords context).display = (SchemaError.mk fault context).display := by
  cases fault <;> exact ⟨rfl, rfl, rfl⟩

end DocumentSchema

import DocumentSchema.Json.Basic
import DocumentSchema.Schema.Config
import DocumentSchema.Schema.Error
import DocumentSchema.Validation.Error

/-!
Why a command fails.

An error keeps its cause: the configuration, the request, a schema, or the failures of a document.
The code is that of the cause where the cause has one.
-/

namespace DocumentSchema

/-- What is wrong with a request before it is a JSON value. -/
inductive RequestFlaw where
  | unreadable
  | empty
  | notJson
  deriving DecidableEq

/-- Why a command fails. -/
inductive CommandError where
  | config (error : ConfigError)
  | request (flaw : RequestFlaw)
  | notAnObject (found : String)
  | schema (error : SchemaError)
  | rejected (error : DocumentError)
  deriving DecidableEq

/-- The wording of a flaw. -/
def RequestFlaw.text : RequestFlaw → String
  | unreadable => "stream did not contain valid UTF-8"
  | empty => "Empty input"
  | notJson => "JSON error: not a JSON text"

namespace CommandError

/-- The code of an error. -/
def code : CommandError → String
  | config _ => "ATTRSCHEMA_CLI_CONFIG_ERROR"
  | request _ => "ATTRSCHEMA_CLI_IO_ERROR"
  | notAnObject _ => "ATTRSCHEMA_CLI_BAD_INPUT"
  | schema error => error.code
  | rejected error => error.code

/-- The wording of an error. -/
def message : CommandError → String
  | config error => error.message
  | request flaw => flaw.text
  | notAnObject found => "Expected a JSON object, got " ++ found
  | schema error => error.message
  | rejected error => error.message

/-- The JSON form of the failure of one attribute. -/
def detail (error : ValidationError) : Json :=
  .object [("attr", .str error.name), ("code", .str error.code), ("kind", .str error.kind.tag),
    ("observed", .str error.observed)]

/-- The failures of a rejected document, one by one; other errors have no details. -/
def details? : CommandError → Option (List Json)
  | rejected error => some (error.errors.map detail)
  | _ => none

/-- Code and message on one line. -/
def display (error : CommandError) : String :=
  error.code ++ ": " ++ error.message

end CommandError

end DocumentSchema

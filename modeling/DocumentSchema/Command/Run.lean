import DocumentSchema.Command.Arguments
import DocumentSchema.Command.Engine

/-!
Running commands.

Every command boots an engine and answers with one line of JSON: the data it was asked for, or the
error that stopped it, which is repeated among the diagnostics.
-/

namespace DocumentSchema

/-- What a run leaves: its status, and the texts it writes. -/
structure Outcome where
  status : Nat
  output : String
  diagnostics : String
  deriving DecidableEq

namespace Command

/-- Whether a command takes a request from its input. -/
def readsInput : Command → Bool
  | validate _ _ _ => true
  | _ => false

/-- The data that a command answers with. -/
def answer (command : Command) (engine : Engine) (now : Instant) (input : String) :
    Except CommandError Json :=
  match command with
  | validate _ schema mode => do
    let request ← Engine.readRequest input
    engine.validateRequest now schema mode request
  | resolve _ schema path => engine.resolve schema path
  | check _ => .ok engine.schemaNames

/-- The engine of a command in a file tree. -/
def boot (command : Command) (tree : FileTree) (registry : Registry) :
    Except CommandError Engine :=
  Engine.boot registry command.sources.directory (tree.directory command.sources.directory)
    (command.sources.config.map tree.read?)

end Command

namespace CommandError

/-- The line that reports an error. -/
def response (error : CommandError) : Json :=
  .object <| ("code", .str error.code) ::
    (error.details?.elim [] fun details => [("errors", .array details)]) ++
    [("message", .str error.message), ("status", .str "error")]

end CommandError

namespace Outcome

/-- A line of JSON. -/
def line (response : Json) : String :=
  response.compact ++ "\n"

/-- The line that carries data. -/
def dataResponse (data : Json) : Json :=
  .object [("data", data), ("status", .str "ok")]

/-- What an answer leaves. -/
def ofAnswer : Except CommandError Json → Outcome
  | .ok data => ⟨0, line (dataResponse data), ""⟩
  | .error error => ⟨1, line error.response, error.display ++ "\n"⟩

/-- The name of the program and its version. -/
def versionText : String := "attrschema 0.1.0"

/-- How the program is called. -/
def usageText : String :=
  "Usage: attrschema validate [--schema-dir DIR] --schema NAME [--mode MODE] [--config FILE]\n" ++
  "       attrschema resolve [--schema-dir DIR] --schema NAME --path PATH [--config FILE]\n" ++
  "       attrschema check [--schema-dir DIR] [--config FILE]\n" ++
  "       attrschema help | --help | --version\n" ++
  "Modes: create, create-draft, update\n"

/-- What arguments without a command leave. -/
def ofNoCommand : NoCommand → Outcome
  | .helpAsked => ⟨0, usageText, ""⟩
  | .versionAsked => ⟨0, versionText ++ "\n", ""⟩
  | _ => ⟨2, "", usageText⟩

end Outcome

/-- What a run with arguments and an input leaves, in a file tree at an instant. -/
def run (tree : FileTree) (fresh : Fresh) (arguments : List String) (input : String) : Outcome :=
  match Command.ofArguments arguments with
  | .error stop => .ofNoCommand stop
  | .ok command => .ofAnswer do
    let engine ← command.boot tree (.builtins fresh)
    command.answer engine fresh.now input

end DocumentSchema

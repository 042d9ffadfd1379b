import DocumentSchema.Command.Run
import Std.Time.DateTime.Timestamp

/-!
The command line.

Looks at the directory of schemas and the configuration file, boots an engine, reads a line of input
if the command takes one, and writes what the run leaves. All decisions are made in `Command.Run`.
-/

namespace DocumentSchema.CommandLine

/-- The content of a text file, if it can be read. -/
def readText? (path : String) : IO (Option String) :=
  try
    return some (← IO.FS.readFile path)
  catch _ => return none

/-- What is seen of a directory. -/
def observe (path : String) : IO Directory := do
  let place := (← IO.currentDir) / path
  if path.isEmpty || !(← place.pathExists) then return .absent
  else
    try
      let entries ← place.readDir
      let contents ← entries.toList.mapM fun entry => do
        if Catalogue.isFileName entry.fileName then
          return (entry.fileName, ← readText? entry.path.toString)
        else return (entry.fileName, none)
      return .listing (Entries.ofList contents)
    catch _ => return .unreadable

/-- The instant some nanoseconds after the start of 1970. -/
def instantOf (nanoseconds : Int) : Instant :=
  ⟨nanoseconds / 10 ^ 9, (nanoseconds % 10 ^ 9).toNat⟩

/-- The current instant and a new identifier. -/
def drawFresh : IO Fresh := do
  let now ← Std.Time.Timestamp.now
  let bytes ← IO.getRandomBytes 8
  return ⟨instantOf now.toNanosecondsSinceUnixEpoch.val,
    .minted now.toSecondsSinceUnixEpoch.val (.ofFn fun i => bytes.data.getD i 0)⟩

/-- One line of the input. -/
def readLine : IO (Except CommandError String) :=
  try
    return .ok (← (← IO.getStdin).getLine)
  catch _ => return .error (.request .unreadable)

/-- What a command leaves. -/
def perform (command : Command) : IO Outcome := do
  let fresh ← drawFresh
  let directory ← observe command.sources.directory
  let config ← command.sources.config.mapM readText?
  match Engine.boot (.builtins fresh) command.sources.directory directory config with
  | .error error => return .ofAnswer (.error error)
  | .ok engine =>
    let input ← if command.readsInput then readLine else pure (.ok "")
    return .ofAnswer (input.bind (command.answer engine fresh.now))

end DocumentSchema.CommandLine

open DocumentSchema in
/-- Runs the command that the arguments name. -/
def main (arguments : List String) : IO UInt32 := do
  let outcome ←
    match Command.ofArguments arguments with
    | .error stop => pure (Outcome.ofNoCommand stop)
    | .ok command => CommandLine.perform command
  IO.print outcome.output
  IO.eprint outcome.diagnostics
  return outcome.status.toUInt32

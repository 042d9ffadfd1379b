import DocumentSchema.Validation.Error

/-!
Commands and their arguments.

A command is named by the first argument and told the rest by options, each with a value: behind an
equals sign, or in the argument that follows. `Command.ofArguments` reads the arguments from left to
right and stops at the first that is wrong. The value in an argument of its own is looked at only
when the next option or the end is reached, so an argument without meaning is reported before it.
-/

namespace DocumentSchema

/-- Where a command finds schemas and, if it is named, the configuration. -/
structure Sources where
  directory : String
  config : Option String
  deriving DecidableEq

/-- What to do: validate a document, print a descriptor, or list the schemas. -/
inductive Command where
  | validate (sources : Sources) (schema : String) (mode : Mode)
  | resolve (sources : Sources) (schema path : String)
  | check (sources : Sources)
  deriving DecidableEq

/-- The options of commands. -/
inductive CommandOption where
  | directory
  | schema
  | mode
  | path
  | config
  deriving DecidableEq

/-- Why arguments name no command to run. -/
inductive NoCommand where
  | nothingGiven
  | helpAsked
  | versionAsked
  | unknownCommand (text : String)
  | unknownArgument (text : String)
  | flagWithValue (text : String)
  | missingValue (option : CommandOption)
  | badValue (option : CommandOption) (value : String)
  | repeatedOption (option : CommandOption)
  | missingOption (option : CommandOption)
  deriving DecidableEq

namespace CommandOption

/-- The name of an option, without the two hyphens in front of it. -/
def text : CommandOption → String
  | directory => "schema-dir"
  | schema => "schema"
  | mode => "mode"
  | path => "path"
  | config => "config"

/-- The modes that can be asked for. -/
def modeOf? (value : String) : Option Mode :=
  if value = "create" then some .create
  else if value = "create-draft" then some .createDraft
  else if value = "update" then some .update
  else none

/-- Whether an option can have a value: files and directories have names, and modes are known. -/
def admits : CommandOption → String → Bool
  | directory, value => !value.isEmpty
  | config, value => !value.isEmpty
  | mode, value => (modeOf? value).isSome
  | schema, _ => true
  | path, _ => true

end CommandOption

/-! ## Single arguments -/

/-- The forms of an argument: two hyphens alone, behind which there are no more options; a long
name with or without a value; letters behind one hyphen; or anything else. -/
inductive Argument where
  | separator
  | long (name : String) (value : Option String)
  | short (letters : List Char)
  | plain

/-- The name and, behind an equals sign, the value of a long argument. -/
def Argument.ofLong (cs : List Char) : Argument :=
  let name := String.ofList (cs.takeWhile (· != '='))
  match cs.dropWhile (· != '=') with
  | [] => .long name none
  | _ :: value => .long name (some (String.ofList value))

/-- The form of an argument. -/
def Argument.ofText (text : String) : Argument :=
  match text.toList with
  | ['-', '-'] => .separator
  | '-' :: '-' :: rest => .ofLong rest
  | '-' :: letter :: rest => .short (letter :: rest)
  | _ => .plain

/-! ## Options -/

/-- Values of options. -/
abbrev OptionValues := List (CommandOption × String)

/-- The value of an option. -/
def OptionValues.get? (values : OptionValues) (option : CommandOption) : Option String :=
  (values.find? fun entry => entry.1 = option).map (·.2)

/-- Gives an option its value; it must have none yet. -/
def OptionValues.add (values : OptionValues) (option : CommandOption) (value : String) :
    Except NoCommand OptionValues :=
  if (values.get? option).isSome then .error (.repeatedOption option)
  else if option.admits value then .ok ((option, value) :: values)
  else .error (.badValue option value)

/-- How far options are read: the values given so far, and the option that waits for its value or,
with the value already there, to be taken in. -/
structure OptionState where
  values : OptionValues
  waiting : Option (CommandOption × Option String)
  ended : Bool

namespace OptionState

/-- The values once the waiting option is taken in. -/
def settled (state : OptionState) : Except NoCommand OptionValues :=
  match state.waiting with
  | none => .ok state.values
  | some (option, none) => .error (.missingValue option)
  | some (option, some value) => state.values.add option value

/-- Takes in an option of a command, with its value where an equals sign gives one. -/
def takeOption (state : OptionState) (option : CommandOption) (value : Option String) :
    Except NoCommand OptionState := do
  let values ← state.settled
  match value with
  | some value => return ⟨← values.add option value, none, false⟩
  | none => return ⟨values, some (option, none), false⟩

/-- Stops for help, once the waiting option is taken in. -/
def takeHelp (state : OptionState) : Except NoCommand OptionState := do
  let _ ← state.settled
  .error .helpAsked

/-- Takes in one argument of a command with the given options. -/
def take (options : List CommandOption) (state : OptionState) (text : String) :
    Except NoCommand OptionState :=
  if state.ended then .error (.unknownArgument text)
  else match Argument.ofText text with
    | .separator => .ok { state with ended := true }
    | .long name value =>
      if name = "help" then
        if value.isSome then .error (.flagWithValue text) else state.takeHelp
      else match options.find? fun option => option.text == name with
        | some option => state.takeOption option value
        | none => .error (.unknownArgument text)
    | .short letters =>
      if letters.head? = some 'h' then state.takeHelp else .error (.unknownArgument text)
    | .plain =>
      match state.waiting with
      | some (option, none) => .ok { state with waiting := some (option, some text) }
      | _ => .error (.unknownArgument text)

end OptionState

namespace OptionValues

/-- The values in the arguments of a command with the given options. -/
def ofArguments (options : List CommandOption) (arguments : List String) :
    Except NoCommand OptionValues := do
  (← arguments.foldlM (OptionState.take options) ⟨[], none, false⟩).settled

/-- The value of an option that must be given. -/
def require (values : OptionValues) (option : CommandOption) : Except NoCommand String :=
  match values.get? option with
  | some value => .ok value
  | none => .error (.missingOption option)

/-- Where schemas and configuration are. -/
def sources (values : OptionValues) : Sources :=
  ⟨(values.get? .directory).getD "./schemas", values.get? .config⟩

/-- The mode that is asked for; new documents are validated where none is. -/
def mode (values : OptionValues) : Mode :=
  ((values.get? .mode).bind CommandOption.modeOf?).getD .create

end OptionValues

/-! ## Commands -/

namespace Command

/-- Where a command finds schemas and configuration. -/
def sources : Command → Sources
  | validate sources _ _ => sources
  | resolve sources _ _ => sources
  | check sources => sources

/-- The reader of the arguments of each command. -/
def readers : List (String × (List String → Except NoCommand Command)) :=
  [("validate", fun arguments => do
      let values ← OptionValues.ofArguments [.directory, .schema, .mode, .config] arguments
      let schema ← OptionValues.require values .schema
      return .validate values.sources schema values.mode),
    ("resolve", fun arguments => do
      let values ← OptionValues.ofArguments [.directory, .schema, .path, .config] arguments
      let schema ← OptionValues.require values .schema
      let path ← OptionValues.require values .path
      return .resolve values.sources schema path),
    ("check", fun arguments => do
      let values ← OptionValues.ofArguments [.directory, .config] arguments
      return .check values.sources)]

/-- The reader of a command's arguments. -/
def reader? (name : String) : Option (List String → Except NoCommand Command) :=
  (readers.find? fun entry => entry.1 == name).map (·.2)

/-- Whether a name is one of a command or asks for help. -/
def isKnown (name : String) : Bool :=
  name == "help" || (reader? name).isSome

/-- The answer to `help`, which one name of a command may follow. -/
def helpFor : List String → NoCommand
  | [] => .helpAsked
  | [name] => if isKnown name then .helpAsked else .unknownCommand name
  | name :: next :: _ => .unknownCommand (if isKnown name then next else name)

/-- The answer to arguments behind two hyphens, where no command can stand. -/
def behindSeparator : List String → NoCommand
  | [] => .nothingGiven
  | first :: _ => if isKnown first then .unknownArgument first else .unknownCommand first

/-- The answer to a first argument that is no command. -/
def flagAnswer (first : String) (rest : List String) : NoCommand :=
  match Argument.ofText first with
  | .separator => behindSeparator rest
  | .long name value =>
    if name = "help" ∨ name = "version" then
      if value.isSome then .flagWithValue first
      else if name = "help" then .helpAsked else .versionAsked
    else .unknownArgument first
  | .short letters =>
    if letters.head? = some 'h' then .helpAsked
    else if letters.head? = some 'V' then .versionAsked
    else .unknownArgument first
  | .plain => .unknownCommand first

/-- The command that arguments name. -/
def ofArguments : List String → Except NoCommand Command
  | [] => .error .nothingGiven
  | first :: rest =>
    if first = "help" then .error (helpFor rest)
    else match reader? first with
      | some read => read rest
      | none => .error (flagAnswer first rest)

end Command

end DocumentSchema

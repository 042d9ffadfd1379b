import DocumentSchema.Schema.Builder
import DocumentSchema.Schema.Config

/-!
Registered callbacks.

Descriptors refer to generators of defaults, validators and locale fallbacks by name, and a
registry maps those names to functions, one table for each role. `Registry.verify` checks that a
descriptor refers to nothing that is not registered.
-/

namespace DocumentSchema

/-- Makes the value of a locale from the given texts and the code of the locale. -/
abbrev Fallback := Document → String → Value

/-- The registered callbacks by role and name. -/
structure Registry where
  generators : Entries Generator
  validators : Entries Validator
  fallbacks : Entries Fallback

/-- What the built-in generators take from outside: the current instant and a new identifier. -/
structure Fresh where
  now : Instant
  id : ObjectId

namespace Registry

/-- The registry without callbacks. -/
def empty : Registry :=
  ⟨[], [], []⟩

/-- The registry of the built-in generators: the current instant, the current date, and a new
identifier. Generators are functions of the document, so the identifier is the same for all
attributes that one run fills. -/
def builtins (fresh : Fresh) : Registry :=
  { empty with
    generators := Entries.ofList
      [("utc_now.datetime", fun _ => .str fresh.now.dateTimeText),
        ("utc_now.date", fun _ => .str fresh.now.dateText),
        ("object_id", fun _ => .id fresh.id)] }

/-- Adds a callback to a table under a name that is not taken. -/
def insertNew {α : Type} (table : Entries α) (role : CallbackRole) (name : String) (callback : α) :
    Except SchemaError (Entries α) :=
  if Entries.hasKey table name then .error (.ofFault (.duplicateCallback role name))
  else .ok (Entries.insert name callback table)

/-- Registers a generator. -/
def addGenerator (registry : Registry) (name : String) (generator : Generator) :
    Except SchemaError Registry := do
  let generators ← insertNew registry.generators .defaultGenerator name generator
  return { registry with generators }

/-- Registers a validator. -/
def addValidator (registry : Registry) (name : String) (validator : Validator) :
    Except SchemaError Registry := do
  let validators ← insertNew registry.validators .typeValidator name validator
  return { registry with validators }

/-- Registers a locale fallback. -/
def addFallback (registry : Registry) (name : String) (fallback : Fallback) :
    Except SchemaError Registry := do
  let fallbacks ← insertNew registry.fallbacks .localeFallback name fallback
  return { registry with fallbacks }

/-- The generator of a name. -/
def generator? (registry : Registry) (name : String) : Option Generator :=
  Entries.get? registry.generators name

/-- The validator of a name. -/
def validator? (registry : Registry) (name : String) : Option Validator :=
  Entries.get? registry.validators name

/-- The locale fallback of a name. -/
def fallback? (registry : Registry) (name : String) : Option Fallback :=
  Entries.get? registry.fallbacks name

/-- What is shown of names while programs are debugged. -/
def debugNames (names : List String) : String :=
  "[" ++ String.intercalate ", " (names.map Text.Quoted.encode) ++ "]"

/-- What is shown of a registry while programs are debugged: the names in its tables. -/
def debugText (registry : Registry) : String :=
  "FunctionRegistry \x7b defaults: " ++ debugNames (Entries.keys registry.generators) ++
    ", validators: " ++ debugNames (Entries.keys registry.validators) ++
    ", locale_fallbacks: " ++ debugNames (Entries.keys registry.fallbacks) ++ " \x7d"

/-! ## Verification -/

/-- Refuses a default whose generator is not registered. -/
def verifyDefault (registry : Registry) : Option Default → Except SchemaError Unit
  | some (.named name) =>
    if (registry.generator? name).isSome then .ok ()
    else .error (.ofFault (.unresolvedCallback .defaultGenerator name))
  | _ => .ok ()

mutual

/-- Refuses a descriptor that refers, itself or in its parts, to a callback that is not
registered. -/
def verify (registry : Registry) : Descriptor → Except SchemaError Unit
  | .mk shape default _ => do
    registry.verifyDefault default
    verifyShape registry shape
termination_by structural x => x

/-- Refuses a shape that refers to a callback that is not registered. -/
def verifyShape (registry : Registry) : Shape → Except SchemaError Unit
  | .custom (.named name) =>
    if (registry.validator? name).isSome then .ok ()
    else .error (.ofFault (.unresolvedCallback .typeValidator name))
  | .list alternatives _ => verifyAll registry alternatives
  | .union alternatives => verifyAll registry alternatives
  | .dict key val _ _ => do
    verify registry key
    verify registry val
  | .record fields => verifyFields registry fields
  | _ => .ok ()
termination_by structural x => x

/-- Verifies several descriptors. -/
def verifyAll (registry : Registry) : List Descriptor → Except SchemaError Unit
  | [] => .ok ()
  | d :: rest => do
    verify registry d
    verifyAll registry rest
termination_by structural x => x

/-- Verifies the descriptors of fields. -/
def verifyFields (registry : Registry) : List (String × Descriptor) → Except SchemaError Unit
  | [] => .ok ()
  | (_, d) :: rest => do
    verify registry d
    verifyFields registry rest
termination_by structural x => x

end

/-- Verifies the attributes of a schema, under their names. -/
def verifySchema (registry : Registry) (schema : Schema) : Except SchemaError Unit :=
  schema.attributes.forM fun (name, d) =>
    (registry.verify d).mapError (SchemaError.within name)

/-- Refuses a configuration whose locale fallback is not registered. -/
def verifyConfig (registry : Registry) (config : Config) : Except SchemaError Unit :=
  match config.strategy with
  | .fallback name =>
    if (registry.fallback? name).isSome then .ok ()
    else .error (.ofFault (.unresolvedCallback .localeFallback name))
  | _ => .ok ()

end Registry

end DocumentSchema

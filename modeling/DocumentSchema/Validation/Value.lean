import DocumentSchema.Descriptor.Record
import DocumentSchema.Validation.Locale
import DocumentSchema.Validation.Operator
import DocumentSchema.Validation.Scalar

/-!
Validation of a value.

`Context.validate` answers the canonical form of a value that a descriptor accepts. Null stands for
an absent value: a default replaces it, or else it is accepted where the descriptor says so. A
value that the kind refuses is replaced by a default too. The parts of a value are validated in the
same way in the mode `deep`. In an update there are no defaults, null is accepted, and a map with a
reserved key is a request to change the value.
-/

namespace DocumentSchema

/-- What a validation depends on besides descriptor and value. -/
structure Context where
  config : Config
  registry : Registry
  now : Instant

namespace Context

/-- The value of a default; a generator that is not registered gives none. -/
def defaultValue? (context : Context) (default : Option Default) (doc : Document) : Option Value :=
  match default with
  | none => none
  | some (.static value) => some value
  | some (.inline callback) => some (callback.run doc)
  | some (.named name) => (context.registry.generator? name).map fun generator => generator doc

/-- The answer where no kind has a say: for an absent value, a default or null. -/
def absent (context : Context) (name : String) (kind : Kind) (default : Option Default)
    (nullable : Bool) (doc : Document) : Except ValidationError Value :=
  match context.defaultValue? default doc with
  | some value => .ok value
  | none => if nullable then .ok .null else .error (.missing name kind)

/-- The answer for a value that the kind refuses: a default or an error. -/
def refused (context : Context) (name : String) (kind : Kind) (default : Option Default)
    (value : Value) (doc : Document) : Except ValidationError Value :=
  match context.defaultValue? default doc with
  | some value => .ok value
  | none => .error (.ofValue name kind value)

/-- A value as the custom validator of a descriptor sees it; one that is not registered accepts
nothing. -/
def acceptCustom (context : Context) (mode : Mode) (name : String) (d : Descriptor)
    (ref : ValidatorRef) (value : Value) : Option Value :=
  let call : ValidatorCall := ⟨mode, name, ref.id, d.default, d.nullable, value⟩
  match ref with
  | .inline callback => (callback.run call).toOption
  | .named callback =>
    (context.registry.validator? callback).bind fun validator => (validator call).toOption

/-- The text of a canonical key of a dictionary. -/
def keyText? : Value → Option String
  | .str text => some text
  | .id i => some i.hex
  | _ => none

/-- The name of a part of an attribute. -/
def partName (name part : String) : String :=
  name ++ "." ++ part

/-- Whether a length lies in a range, if there is one. -/
def lengthFits (range : Option LengthRange) (length : Nat) : Bool :=
  range.all (·.contains length)

mutual

/-- The canonical form of a part of a value. `file` accepts the values of files. -/
def validatePart (context : Context) (file : String → Value → Document → Option Value)
    (name : String) : Descriptor → Value → Document → Except ValidationError Value
  | .mk shape default nullable, value, doc =>
    if value.isNull then context.absent name shape.kind default nullable doc
    else
      let custom := context.acceptCustom .deep name (.mk shape default nullable)
      match acceptShape context file custom name shape value doc with
      | some canonical => .ok canonical
      | none => context.refused name shape.kind default value doc
termination_by structural d => d

/-- The canonical form of a value that a kind accepts. `custom` accepts the values of a custom
kind. -/
def acceptShape (context : Context) (file : String → Value → Document → Option Value)
    (custom : ValidatorRef → Value → Option Value) (name : String) :
    Shape → Value → Document → Option Value
  | .any, value, _ => if value.isNull then none else some value
  | .bool, value, _ => Scalar.acceptBool value
  | .int ranges, value, _ => Scalar.acceptInt ranges value
  | .float ranges, value, _ => Scalar.acceptFloat ranges value
  | .str pattern, value, _ => Scalar.acceptStr pattern value
  | .bytes, value, _ => Scalar.acceptBytes value
  | .temporal kind ranges, value, _ => Scalar.acceptTemporal kind ranges context.now value
  | .email filter, value, _ => Scalar.acceptEmail filter value
  | .webUri filter, value, _ => Scalar.acceptWebUri filter value
  | .mailUri filter, value, _ => Scalar.acceptMailUri filter value
  | .telUri filter, value, _ => Scalar.acceptTelUri filter value
  | .phone codes, value, _ => Scalar.acceptPhone codes value
  | .ip, value, _ => Scalar.acceptIp value
  | .id, value, _ => Scalar.acceptId name value
  | .geoPoint, value, _ => Scalar.acceptGeoPoint value
  | .file, value, doc => file name value doc
  | .locale, value, _ => Localised.accept context.config context.registry value
  | .localeCode, value, _ => Scalar.acceptLocaleCode context.config value
  | .literal members, value, _ => Scalar.acceptLiteral members value
  | .list alternatives length, value, doc => do
    let items ← value.list?
    guard (lengthFits length items.length)
    let canonical ← items.zipIdx.mapM fun (item, i) =>
      acceptFirst context file (partName name (toString i)) alternatives item doc
    return .list canonical
  | .union alternatives, value, doc => acceptFirst context file name alternatives value doc
  | .dict key val required length, value, doc => do
    let entries ← value.map?
    guard (lengthFits length entries.length)
    guard (required.all fun k => Entries.hasKey entries k)
    let canonical ← entries.mapM fun (k, v) => do
      let canonicalKey ←
        (validatePart context file (partName name k) key (.str k) doc).toOption
      let text ← keyText? canonicalKey
      let canonicalValue ← (validatePart context file (partName name k) val v doc).toOption
      return (text, canonicalValue)
    return .map (Entries.ofList canonical)
  | .record fields, value, doc => do
    let entries ← value.map?
    let canonical ← acceptFields context file name fields entries doc
    guard ((Entries.keys entries).all fun k => Entries.hasKey fields k)
    return .map canonical
  | .descriptor, value, _ =>
    match Descriptor.ofRecord value with
    | .ok _ => some value
    | .error _ => none
  | .custom ref, value, _ => custom ref value
termination_by structural d => d

/-- The canonical form that the first alternative to accept a value gives it. -/
def acceptFirst (context : Context) (file : String → Value → Document → Option Value)
    (name : String) : List Descriptor → Value → Document → Option Value
  | [], _, _ => none
  | d :: rest, value, doc =>
    match validatePart context file name d value doc with
    | .ok canonical => some canonical
    | .error _ => acceptFirst context file name rest value doc
termination_by structural d => d

/-- The canonical forms of the fields of a record; a field that a map lacks is null. -/
def acceptFields (context : Context) (file : String → Value → Document → Option Value)
    (name : String) : List (String × Descriptor) → Document → Document → Option Document
  | [], _, _ => some []
  | (field, d) :: rest, entries, doc => do
    let value := (Entries.get? entries field).getD .null
    let canonical ← (validatePart context file (partName name field) d value doc).toOption
    let others ← acceptFields context file name rest entries doc
    return (field, canonical) :: others
termination_by structural d => d

end

/-- The canonical form of a file: a value of the fixed form, which holds no files itself. A list of
one element stands for that element. -/
def acceptFile (context : Context) (name : String) (value : Value) (doc : Document) :
    Option Value :=
  let value :=
    match value with
    | .list [item] => item
    | _ => value
  (context.validatePart (fun _ _ _ => none) name .fileForm value doc).toOption

/-- The canonical form of a value that the kind of a descriptor accepts. -/
def accept (context : Context) (mode : Mode) (name : String) (d : Descriptor) (value : Value)
    (doc : Document) : Option Value :=
  context.acceptShape context.acceptFile (context.acceptCustom mode name d) name d.shape value doc

/-- The canonical form of a new element of a list, which is accepted as the only one would be. -/
def acceptElement (context : Context) (name : String) (d : Descriptor) (value : Value)
    (doc : Document) : Option Value :=
  match d.shape with
  | .list alternatives length =>
    if lengthFits length 1 then
      context.acceptFirst context.acceptFile name alternatives value doc
    else none
  | _ => none

/-- The request with a canonical payload: an operand is a value of the attribute, an element one of
its list, and what is deleted lies in a list or a dictionary. -/
def acceptOperator (context : Context) (name : String) (d : Descriptor)
    (operator : UpdateOperator) (doc : Document) : Option UpdateOperator :=
  match operator with
  | .add value field => do
    return .add (← context.accept .update name d value doc) field
  | .multiply value field => do
    return .multiply (← context.accept .update name d value doc) field
  | .append value unique => do
    return .append (← context.acceptElement name d value doc) unique
  | .setIndex value index => do
    return .setIndex (← context.acceptElement name d value doc) index
  | .deleteValues values =>
    match d.shape with
    | .list _ _ => some (.deleteValues values)
    | _ => none
  | .deleteIndex target =>
    match d.shape, target with
    | .list _ _, .position _ => some (.deleteIndex target)
    | .dict _ _ _ _, .key _ => some (.deleteIndex target)
    | _, _ => none

/-- The canonical form of a request. -/
def validateOperator (context : Context) (name : String) (d : Descriptor) (entries : Document)
    (doc : Document) : Except ValidationError Value :=
  match (UpdateOperator.ofMap? entries).bind fun op => context.acceptOperator name d op doc with
  | some checked => .ok checked.toValue
  | none => .error (.ofValue name d.kind (.map entries))

/-- Validation in an update. -/
def validateUpdate (context : Context) (name : String) (d : Descriptor) (value : Value)
    (doc : Document) : Except ValidationError Value :=
  if value.isNull then .ok .null
  else
    let plain : Except ValidationError Value :=
      match context.accept .update name d value doc with
      | some canonical => .ok canonical
      | none => .error (.ofValue name d.kind value)
    match value with
    | .map entries =>
      if Document.hasOperator entries then context.validateOperator name d entries doc else plain
    | _ => plain

/-- The canonical form of a value. `doc` is the document around it, from which generators make
defaults. -/
def validate (context : Context) (mode : Mode) (name : String) (d : Descriptor) (value : Value)
    (doc : Document) : Except ValidationError Value :=
  if mode = .update then context.validateUpdate name d value doc
  else if value.isNull then context.absent name d.kind d.default d.nullable doc
  else match context.accept mode name d value doc with
    | some canonical => .ok canonical
    | none => context.refused name d.kind d.default value doc

end Context

end DocumentSchema

import DocumentSchema.Pattern.Meaning
import DocumentSchema.Range.Basic
import DocumentSchema.Range.Temporal
import DocumentSchema.Text.Quoted
import DocumentSchema.Validation.Error

/-!
Descriptors.

Every attribute of every document is described by a descriptor: a shape, which is a kind with its
arguments, an optional default, and a flag that lets null stand for no value. Callbacks bound in a
descriptor itself carry a token, and two of them are the same when their tokens are. `equal` is
equality of descriptors; numbers in it are compared as numbers and patterns by their text.
-/

namespace DocumentSchema

/-- A pattern for texts, with the regular expression that it means when it must match the whole of
a text. -/
structure TextPattern where
  source : String
  regex : Regex

/-- What is shown of a pattern while programs are debugged. -/
def TextPattern.debugText (pattern : TextPattern) : String :=
  "StrPattern(" ++ Text.Quoted.encode pattern.source ++ ")"

/-- Lists of allowed or refused domains. A strict filter compares whole hosts, any other one their
ends. -/
structure DomainFilter where
  allowed : List String
  refused : List String
  strict : Bool
  deriving DecidableEq

/-- Lists of allowed and refused dial codes. -/
structure CodeFilter where
  allowed : List String
  refused : List String
  deriving DecidableEq

/-- A callback that is bound where it is used, told from others by its token. -/
structure InlineCallback (α : Type) where
  token : Nat
  run : α

/-- Makes a default from the document that lacks it. -/
abbrev Generator := Document → Value

/-- What stands in for an absent or malformed value: a fixed value, a registered generator, or one
bound in the descriptor. -/
inductive Default where
  | static (value : Value)
  | named (name : String)
  | inline (callback : InlineCallback Generator)

/-- Which callback is referred to: the one registered under a name, or the one with a token. -/
inductive CallbackId where
  | named (name : String)
  | bound (token : Nat)
  deriving DecidableEq

/-- What is shown of a callback while programs are debugged: its name, if it has one. -/
def CallbackId.debugText : CallbackId → String
  | named name => "Named(" ++ Text.Quoted.encode name ++ ")"
  | bound _ => "Inline(<fn>)"

/-- What is shown of a callback that makes defaults while programs are debugged. -/
def Default.debugText? : Default → Option String
  | static _ => none
  | named name => some (CallbackId.named name).debugText
  | inline callback => some (CallbackId.bound callback.token).debugText

/-- What a custom validator is told about the value it is to check. Of the descriptor that holds it,
which has no parts, it sees the reference to itself, the default, and whether null is accepted. -/
structure ValidatorCall where
  mode : Mode
  name : String
  reference : CallbackId
  default : Option Default
  nullable : Bool
  value : Value

/-- Checks a value and answers its canonical form. -/
abbrev Validator := ValidatorCall → Except ValidationError Value

/-- The validator of a custom kind: registered under a name, or bound in the descriptor. -/
inductive ValidatorRef where
  | named (name : String)
  | inline (callback : InlineCallback Validator)

/-- The callback that a reference is to. -/
def ValidatorRef.id : ValidatorRef → CallbackId
  | named name => .named name
  | inline callback => .bound callback.token

/-- What is shown of a custom validator while programs are debugged. -/
def ValidatorRef.debugText (validator : ValidatorRef) : String :=
  validator.id.debugText

mutual

/-- A descriptor: a shape, a default, and whether null is accepted where no default applies. -/
inductive Descriptor where
  | mk (shape : Shape) (default : Option Default) (nullable : Bool)

/-- A kind with its arguments. -/
inductive Shape where
  | any
  | bool
  | int (ranges : List NumericRange)
  | float (ranges : List NumericRange)
  | str (pattern : Option TextPattern)
  | bytes
  | temporal (kind : TemporalKind) (ranges : List TemporalRange)
  | email (filter : DomainFilter)
  | webUri (filter : DomainFilter)
  | mailUri (filter : DomainFilter)
  | telUri (filter : CodeFilter)
  | phone (codes : List String)
  | ip
  | id
  | geoPoint
  | file
  | locale
  | localeCode
  | literal (members : List Value)
  | list (alternatives : List Descriptor) (length : Option LengthRange)
  | union (alternatives : List Descriptor)
  | dict (key val : Descriptor) (required : List String) (length : Option LengthRange)
  | record (fields : List (String × Descriptor))
  | descriptor
  | custom (validator : ValidatorRef)

end

/-- The kind of a shape. -/
def Shape.kind : Shape → Kind
  | any => .any
  | bool => .bool
  | int _ => .int
  | float _ => .float
  | str _ => .str
  | bytes => .bytes
  | temporal kind _ => kind.kind
  | email _ => .email
  | webUri _ => .webUri
  | mailUri _ => .mailUri
  | telUri _ => .telUri
  | phone _ => .phone
  | ip => .ip
  | id => .id
  | geoPoint => .geoPoint
  | file => .file
  | locale => .locale
  | localeCode => .localeCode
  | literal _ => .literal
  | list _ _ => .list
  | union _ => .union
  | dict _ _ _ _ => .dict
  | record _ => .record
  | descriptor => .descriptor
  | custom _ => .custom

/-- The descriptors that a shape is made of: alternatives, key and value, or fields in the order of
their names. -/
def Shape.children : Shape → List Descriptor
  | list alternatives _ => alternatives
  | union alternatives => alternatives
  | dict key val _ _ => [key, val]
  | record fields => Entries.values fields
  | _ => []

namespace Descriptor

/-- The shape of a descriptor. -/
def shape : Descriptor → Shape
  | mk shape _ _ => shape

/-- The default of a descriptor. -/
def default : Descriptor → Option Default
  | mk _ default _ => default

/-- Whether a descriptor accepts null where no default applies. -/
def nullable : Descriptor → Bool
  | mk _ _ nullable => nullable

/-- The kind of a descriptor. -/
def kind (d : Descriptor) : Kind :=
  d.shape.kind

/-- The descriptors that a descriptor is made of. -/
def children (d : Descriptor) : List Descriptor :=
  d.shape.children

/-- A shape without default that does not accept null. -/
def ofShape (shape : Shape) : Descriptor :=
  mk shape none false

/-- The descriptor with another default, or with none. -/
def setDefault (d : Descriptor) (default : Option Default) : Descriptor :=
  mk d.shape default d.nullable

/-- The descriptor with a default. -/
def withDefault (d : Descriptor) (default : Default) : Descriptor :=
  d.setDefault (some default)

/-- The descriptor, accepting null or not. -/
def setNullable (d : Descriptor) (nullable : Bool) : Descriptor :=
  mk d.shape d.default nullable

/-- The descriptor, accepting null. -/
def orNull (d : Descriptor) : Descriptor :=
  d.setNullable true

end Descriptor

/-! ## Equality -/

/-- Equality of lists, item by item. -/
def equalLists {α : Type} (equal : α → α → Bool) : List α → List α → Bool
  | [], [] => true
  | a :: as, b :: bs => equal a b && equalLists equal as bs
  | _, _ => false

/-- Equality of patterns: the same text. -/
def TextPattern.equal (a b : TextPattern) : Bool :=
  a.source == b.source

/-- Equality of references to validators: the same name or the same token. -/
def ValidatorRef.equal : ValidatorRef → ValidatorRef → Bool
  | named a, named b => a == b
  | inline a, inline b => a.token == b.token
  | _, _ => false

/-- Equality of defaults: the same value, the same name or the same token. -/
def Default.equal : Default → Default → Bool
  | static a, static b => a.equal b
  | named a, named b => a == b
  | inline a, inline b => a.token == b.token
  | _, _ => false

/-- Equality of what may be absent. -/
def equalOptions {α : Type} (equal : α → α → Bool) : Option α → Option α → Bool
  | none, none => true
  | some a, some b => equal a b
  | _, _ => false

mutual

/-- Equality of descriptors. -/
def Descriptor.equal : Descriptor → Descriptor → Bool
  | .mk shape default nullable, .mk shape' default' nullable' =>
    Shape.equal shape shape' && equalOptions Default.equal default default' &&
      nullable == nullable'
termination_by structural x => x

/-- Equality of shapes. -/
def Shape.equal : Shape → Shape → Bool
  | .any, .any => true
  | .bool, .bool => true
  | .int a, .int b => equalLists NumericRange.equal a b
  | .float a, .float b => equalLists NumericRange.equal a b
  | .str a, .str b => equalOptions TextPattern.equal a b
  | .bytes, .bytes => true
  | .temporal k a, .temporal l b => k == l && a == b
  | .email a, .email b => a == b
  | .webUri a, .webUri b => a == b
  | .mailUri a, .mailUri b => a == b
  | .telUri a, .telUri b => a == b
  | .phone a, .phone b => a == b
  | .ip, .ip => true
  | .id, .id => true
  | .geoPoint, .geoPoint => true
  | .file, .file => true
  | .locale, .locale => true
  | .localeCode, .localeCode => true
  | .literal a, .literal b => equalLists Value.equal a b
  | .list a m, .list b n => equalDescriptors a b && m == n
  | .union a, .union b => equalDescriptors a b
  | .dict k v r m, .dict k' v' r' n =>
    Descriptor.equal k k' && Descriptor.equal v v' && r == r' && m == n
  | .record a, .record b => equalFields a b
  | .descriptor, .descriptor => true
  | .custom a, .custom b => a.equal b
  | _, _ => false
termination_by structural x => x

/-- Equality of lists of descriptors. -/
def equalDescriptors : List Descriptor → List Descriptor → Bool
  | [], [] => true
  | a :: as, b :: bs => Descriptor.equal a b && equalDescriptors as bs
  | _, _ => false
termination_by structural x => x

/-- Equality of fields, in the order of their names. -/
def equalFields : List (String × Descriptor) → List (String × Descriptor) → Bool
  | [], [] => true
  | (k, a) :: as, (l, b) :: bs => k == l && Descriptor.equal a b && equalFields as bs
  | _, _ => false
termination_by structural x => x

end

/-! ## Fixed descriptors -/

/-- A text without further conditions, which every entry of a localised text is. -/
def Descriptor.plainText : Descriptor :=
  .ofShape (.str none)

/-- One of the two forms of a file: its name, type, size and date of change, and one field more. -/
def fileVariant (name : String) (shape : Shape) : Descriptor :=
  .ofShape <| .record <| Entries.ofList
    [("name", .ofShape (.str none)), ("lastModified", .ofShape (.int [])),
      ("type", .ofShape (.str none)), ("size", .ofShape (.int [])), (name, .ofShape shape)]

/-- The form of a file: a reference to one that is stored, or its content. -/
def Descriptor.fileForm : Descriptor :=
  .ofShape (.union [fileVariant "ref" .id, fileVariant "content" .bytes])

end DocumentSchema

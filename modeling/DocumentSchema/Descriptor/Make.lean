import DocumentSchema.Descriptor.Basic
import DocumentSchema.Pattern.Places

/-!
Descriptors of each kind.

Kinds without conditions on their arguments need no function of their own. Each of the others has
one here that refuses arguments which make no sense; records and schemas are built through these
functions alone.
-/

namespace DocumentSchema

/-- The error of a malformed descriptor of a kind. -/
def malformedKind (kind : Kind) (flaw : Flaw) : SchemaError :=
  malformed (.kind kind) flaw

/-! ## Parts -/

/-- The pattern of a text: the text between an anchor at the start, a group, and an anchor at the
end, read as one pattern. -/
def TextPattern.make (source : String) : Except SchemaError TextPattern :=
  match Pattern.regexOfText ("^(?:" ++ source ++ ")$") with
  | .ok regex => .ok ⟨source, regex⟩
  | .error fault => .error (malformedKind .str (.badPattern source fault))

/-- Whether a pattern matches a text. -/
def TextPattern.isMatch (pattern : TextPattern) (text : String) : Bool :=
  pattern.regex.matchesWithin text

namespace DomainFilter

/-- The filter that admits every domain. -/
def any : DomainFilter := ⟨[], [], false⟩

/-- Refuses a filter that both allows and refuses domains, or names an empty one. -/
def check (filter : DomainFilter) (kind : Kind) : Except SchemaError Unit :=
  if !filter.allowed.isEmpty && !filter.refused.isEmpty then
    .error (malformedKind kind .exclusiveDomainLists)
  else if (filter.allowed ++ filter.refused).any String.isEmpty then
    .error (malformedKind kind .emptyDomain)
  else .ok ()

end DomainFilter

/-- Refuses dial codes that are not numeric, the first one by name. -/
def checkDialCodes (kind : Kind) (codes : List String) : Except SchemaError Unit :=
  match codes.find? fun code => !Text.Format.isDialCode code with
  | some code => .error (malformedKind kind (.nonNumericDialCode code))
  | none => .ok ()

/-- Refuses names of attributes and fields that are empty or hold a dot. -/
def checkName (subject : Subject) (name : String) : Except SchemaError Unit :=
  if name.isEmpty || name.contains '.' then .error (malformed subject (.badName name)) else .ok ()

/-- The ranges of pairs of bounds. -/
def numericRanges (bounds : List (Binary64 × Binary64)) : Except SchemaError (List NumericRange) :=
  bounds.mapM fun (lo, hi) => NumericRange.make lo hi

/-- The ranges of pairs of texts. -/
def temporalRanges (kind : TemporalKind) (bounds : List (String × String)) :
    Except SchemaError (List TemporalRange) :=
  bounds.mapM fun (lo, hi) => TemporalRange.parse kind lo hi

mutual

/-- Whether the canonical values of a shape can be keys of a dictionary: texts and identifiers, and
what a custom validator, a literal set or a value of any type may turn out to be. -/
def Shape.yieldsKey : Shape → Bool
  | .any => true
  | .str _ => true
  | .temporal _ _ => true
  | .email _ => true
  | .webUri _ => true
  | .mailUri _ => true
  | .telUri _ => true
  | .phone _ => true
  | .ip => true
  | .id => true
  | .localeCode => true
  | .literal _ => true
  | .custom _ => true
  | .union alternatives => allYieldKeys alternatives
  | _ => false
termination_by structural x => x

/-- Whether the canonical values of a descriptor can be keys of a dictionary. -/
def Descriptor.yieldsKey : Descriptor → Bool
  | .mk shape _ _ => shape.yieldsKey
termination_by structural x => x

/-- Whether the canonical values of all descriptors can be keys. -/
def allYieldKeys : List Descriptor → Bool
  | [] => true
  | d :: rest => d.yieldsKey && allYieldKeys rest
termination_by structural x => x

end

namespace Descriptor

/-! ## Scalars -/

/-- Integers in some of the ranges, or in any when there is none. -/
def intRanged (bounds : List (Binary64 × Binary64)) : Except SchemaError Descriptor := do
  return .ofShape (.int (← numericRanges bounds))

/-- Floats in some of the ranges, or in any when there is none. -/
def floatRanged (bounds : List (Binary64 × Binary64)) : Except SchemaError Descriptor := do
  return .ofShape (.float (← numericRanges bounds))

/-- Texts that match a pattern. -/
def strPattern (source : String) : Except SchemaError Descriptor := do
  return .ofShape (.str (some (← TextPattern.make source)))

/-- Dates or times in some of the ranges, or in any when there is none. -/
def temporalRanged (kind : TemporalKind) (bounds : List (String × String)) :
    Except SchemaError Descriptor := do
  return .ofShape (.temporal kind (← temporalRanges kind bounds))

/-- Mail addresses under a filter. -/
def email (filter : DomainFilter) : Except SchemaError Descriptor := do
  filter.check .email
  return .ofShape (.email filter)

/-- Web addresses under a filter. -/
def webUri (filter : DomainFilter) : Except SchemaError Descriptor := do
  filter.check .webUri
  return .ofShape (.webUri filter)

/-- Mail links under a filter; their domains are always compared as a whole. -/
def mailUri (filter : DomainFilter) : Except SchemaError Descriptor := do
  filter.check .mailUri
  return .ofShape (.mailUri { filter with strict := false })

/-- Telephone links under a filter. -/
def telUri (filter : CodeFilter) : Except SchemaError Descriptor := do
  checkDialCodes .telUri (filter.allowed ++ filter.refused)
  return .ofShape (.telUri filter)

/-- Telephone numbers with one of the dial codes, or with any when there is none. -/
def phone (codes : List String) : Except SchemaError Descriptor := do
  checkDialCodes .phone codes
  return .ofShape (.phone codes)

/-- One of a set of values, which is not empty. -/
def literal (members : List Value) : Except SchemaError Descriptor :=
  if members.isEmpty then .error (malformedKind .literal .emptyLiteralSet)
  else .ok (.ofShape (.literal members))

/-! ## Composites -/

/-- Lists whose items each match one of the alternatives, of which there is one at least. -/
def list (alternatives : List Descriptor) (length : Option LengthRange) :
    Except SchemaError Descriptor :=
  if alternatives.isEmpty then .error (malformedKind .list .noElementTypes)
  else .ok (.ofShape (.list alternatives length))

/-- Values that match one of the alternatives, of which there is one at least. -/
def union (alternatives : List Descriptor) : Except SchemaError Descriptor :=
  if alternatives.isEmpty then .error (malformedKind .union .noAlternatives)
  else .ok (.ofShape (.union alternatives))

/-- Dictionaries whose keys and values match a descriptor each; the one of the keys must yield
keys. -/
def dict (key val : Descriptor) (required : List String) (length : Option LengthRange) :
    Except SchemaError Descriptor :=
  if key.yieldsKey then .ok (.ofShape (.dict key val required length))
  else .error (malformedKind .dict (.notAKey key.kind))

/-- Adds a field to others; its name is new, not empty, and holds no dot. -/
def addField (fields : Entries Descriptor) (name : String) (d : Descriptor) :
    Except SchemaError (Entries Descriptor) := do
  checkName (.kind .record) name
  if Entries.hasKey fields name then .error (malformedKind .record (.duplicateKey name))
  else .ok (Entries.insert name d fields)

/-- Records with a fixed set of fields. -/
def record (fields : List (String × Descriptor)) : Except SchemaError Descriptor := do
  let fields ← fields.foldlM (fun done (name, d) => addField done name d) []
  return .ofShape (.record fields)

/-- Values that a registered validator accepts; its name is not empty. -/
def customNamed (name : String) : Except SchemaError Descriptor :=
  if name.isEmpty then .error (malformedKind .custom .emptyCallbackName)
  else .ok (.ofShape (.custom (.named name)))

end Descriptor

end DocumentSchema

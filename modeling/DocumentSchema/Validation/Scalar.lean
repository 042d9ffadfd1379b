import DocumentSchema.Descriptor.Basic
import DocumentSchema.Pattern.Places
import DocumentSchema.Schema.Config

/-!
Acceptance of scalar values.

Each function answers the canonical form of a value that its kind accepts. Numbers may come as
digits, and identifiers as their text or inside a map; all other values are accepted as they are.
-/

namespace DocumentSchema.Scalar

/-! ## Numbers -/

/-- Whether a number lies in some range; without ranges every number does. -/
def inRanges (ranges : List NumericRange) (x : Binary64) : Bool :=
  ranges.isEmpty || ranges.any (·.contains x)

/-- A boolean. -/
def acceptBool (value : Value) : Option Value :=
  value.bool?.map .bool

/-- The integer that digits write, if 64 signed bits hold it. -/
def intOfText? (text : String) : Option Int64 :=
  let n := Text.decimalValue text.toList
  if Text.Format.isInteger text ∧ n < 2 ^ 63 then some (Int64.ofInt n) else none

/-- The float nearest the decimal that digits, and maybe a point among them, write. -/
def floatOfText? (text : String) : Option Binary64 :=
  let cs := text.toList
  let whole := cs.takeWhile Text.isDigit
  let fraction := (cs.dropWhile Text.isDigit).drop 1
  if Text.Format.isDecimal text then
    some (.ofRatio false (Text.decimalValue (whole ++ fraction)) (10 ^ fraction.length))
  else none

/-- An integer, or the text of one without sign, whose nearest float lies in some range. -/
def acceptInt (ranges : List NumericRange) (value : Value) : Option Value := do
  let n ←
    match value with
    | .int n => some n
    | .str text => intOfText? text
    | _ => none
  if inRanges ranges (Binary64.ofInt n.toInt) then some (.int n) else none

/-- A float other than NaN, an integer, or the text of a decimal without sign, in some range. -/
def acceptFloat (ranges : List NumericRange) (value : Value) : Option Value := do
  let x ←
    match value with
    | .float x => if x.isNaN then none else some x
    | .int n => some (Binary64.ofInt n.toInt)
    | .str text => floatOfText? text
    | _ => none
  if inRanges ranges x then some (.float x) else none

/-! ## Texts and bytes -/

/-- A text that passes a test. -/
def acceptText (test : String → Bool) (value : Value) : Option Value :=
  match value with
  | .str text => if test text then some value else none
  | _ => none

/-- A text that matches a pattern, if there is one. -/
def acceptStr (pattern : Option TextPattern) (value : Value) : Option Value :=
  acceptText (fun text => pattern.all fun p => p.regex.matchesWithin text) value

/-- Bytes. -/
def acceptBytes (value : Value) : Option Value :=
  match value with
  | .bytes _ => some value
  | _ => none

/-- A date or time in some range at an instant; without ranges, any date or time. -/
def acceptTemporal (kind : TemporalKind) (ranges : List TemporalRange) (now : Instant)
    (value : Value) : Option Value :=
  acceptText (fun text => kind.isFormat text &&
    (ranges.isEmpty || ranges.any (·.contains kind text now))) value

/-! ## Addresses -/

/-- Whether a text ends in another. -/
def endsIn (text ending : String) : Bool :=
  ending.toList.isSuffixOf text.toList

/-- Whether a filter admits what its entries are compared with: some allowed entry matches, or
where none is given, no refused one does. -/
def admits (filter : DomainFilter) (isMatch : String → Bool) : Bool :=
  if filter.allowed.isEmpty then !filter.refused.any isMatch else filter.allowed.any isMatch

/-- A mail address; an entry matches its end, or for a strict filter all that follows the `@`. -/
def acceptEmail (filter : DomainFilter) (value : Value) : Option Value :=
  acceptText (fun text => Text.Format.isEmail text &&
    admits filter fun domain => endsIn text (if filter.strict then "@" ++ domain else domain)) value

/-- The part of a web address between its second and third slash. -/
def hostPart (text : String) : String :=
  String.ofList (((Text.parts '/' text.toList)[2]?).getD [])

/-- A web address; an entry matches the end of the host part, or for a strict filter all of it. -/
def acceptWebUri (filter : DomainFilter) (value : Value) : Option Value :=
  acceptText (fun text => Text.Format.isWebUri text &&
    admits filter fun domain =>
      if filter.strict then hostPart text == domain else endsIn (hostPart text) domain) value

/-- The part of a mail link behind its last `@`. -/
def domainPart (text : String) : String :=
  String.ofList (((Text.parts '@' text.toList).getLast?).getD [])

/-- A mail link; an entry matches its whole domain. -/
def acceptMailUri (filter : DomainFilter) (value : Value) : Option Value :=
  acceptText (fun text => Text.Format.isMailUri text &&
    admits filter fun domain => domain == domainPart text) value

/-- Whether digits start with a dial code and go on behind it. -/
def hasCode (digits : List Char) (code : String) : Bool :=
  code.toList.length < digits.length && code.toList.isPrefixOf digits

/-- A telephone link with an allowed dial code, where some are given, and with no refused one. -/
def acceptTelUri (filter : CodeFilter) (value : Value) : Option Value :=
  acceptText (fun text => Text.Format.isTelUri text &&
    let digits := text.toList.drop 5
    (filter.allowed.isEmpty || filter.allowed.any (hasCode digits)) &&
      !filter.refused.any (hasCode digits)) value

/-- A telephone number with one of the dial codes, where some are given. -/
def acceptPhone (codes : List String) (value : Value) : Option Value :=
  acceptText (fun text => Text.Format.isPhone text &&
    (codes.isEmpty || codes.any (hasCode (text.toList.drop 1)))) value

/-- An address of four octets. -/
def acceptIp (value : Value) : Option Value :=
  acceptText Text.Format.isIpv4 value

/-! ## Identifiers, places and literals -/

/-- The identifier that a value is or writes. -/
def idOf? : Value → Option ObjectId
  | .id i => some i
  | .str text => ObjectId.ofText? text
  | _ => none

/-- The identifier that a value is, writes, or holds under the key `_id`. -/
def documentId? (value : Value) : Option ObjectId :=
  match value with
  | .map entries => (Entries.get? entries "_id").bind idOf?
  | _ => idOf? value

/-- An identifier; it stays one in attributes whose name starts with `_id`, and is written as text
in all others. -/
def acceptId (name : String) (value : Value) : Option Value :=
  (documentId? value).map fun i =>
    if "_id".toList.isPrefixOf name.toList then .id i else .str i.hex

/-- A point: a map with the type `Point` and two numeric coordinates, and nothing else. -/
def acceptGeoPoint (value : Value) : Option Value := do
  let entries ← value.map?
  guard (entries.length == 2)
  guard (((Entries.get? entries "type").bind Value.str?) == some "Point")
  let coordinates ← (Entries.get? entries "coordinates").bind Value.list?
  guard (coordinates.length == 2 && coordinates.all fun c => c.number?.isSome)
  return value

/-- The code of a registered locale. -/
def acceptLocaleCode (config : Config) (value : Value) : Option Value :=
  acceptText config.isRegistered value

/-- The first member of a set that equals the value. -/
def acceptLiteral (members : List Value) (value : Value) : Option Value :=
  members.find? (·.equal value)

end DocumentSchema.Scalar

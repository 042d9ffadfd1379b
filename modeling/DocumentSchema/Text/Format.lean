import DocumentSchema.Text.Digits
import DocumentSchema.Text.Parts
import DocumentSchema.Text.Unicode.Word

/-!
The text formats of the scalar kinds.

Each format is decided on the characters of a text. Digits are the ASCII digits throughout; word
characters are those of all scripts. No format says more than its doc comment: a date is not looked
up in a calendar, and an address is not taken apart beyond its `@` and its dots.
-/

namespace DocumentSchema.Text.Format

/-- Four digits, two digits and two digits, hyphens between them. -/
def isDateChars (cs : List Char) : Bool :=
  match cs with
  | [a, b, c, d, '-', e, f, '-', g, h] => [a, b, c, d, e, f, g, h].all isDigit
  | _ => false

/-- What may follow the minutes of a time: nothing, or a colon and two digits for the seconds,
which a point and six digits may follow. -/
def isSecondsTail (cs : List Char) : Bool :=
  match cs with
  | [] => true
  | ':' :: a :: b :: rest =>
    isDigit a && isDigit b &&
      match rest with
      | [] => true
      | '.' :: fraction => isDigitsOfLength 6 fraction
      | _ => false
  | _ => false

/-- Two digits, a colon and two digits, and what may follow the minutes. -/
def isTimeChars (cs : List Char) : Bool :=
  match cs with
  | a :: b :: ':' :: c :: d :: rest => [a, b, c, d].all isDigit && isSecondsTail rest
  | _ => false

/-- A date, for instance `2024-02-29`. -/
def isDate (text : String) : Bool :=
  isDateChars text.toList

/-- A time, for instance `23:59`, `23:59:59` or `23:59:59.000001`. -/
def isTime (text : String) : Bool :=
  isTimeChars text.toList

/-- A date and a time with a `T` between them. -/
def isDateTime (text : String) : Bool :=
  let cs := text.toList
  isDateChars (cs.take 10) &&
    match cs.drop 10 with
    | 'T' :: time => isTimeChars time
    | _ => false

/-- One digit or more. -/
def isInteger (text : String) : Bool :=
  isDigits text.toList

/-- Digits, and maybe a point and further digits. -/
def isDecimal (text : String) : Bool :=
  let cs := text.toList
  let whole := cs.takeWhile isDigit
  !whole.isEmpty &&
    match cs.dropWhile isDigit with
    | [] => true
    | '.' :: fraction => isDigits fraction
    | _ => false

/-- One or more characters other than `@`, an `@`, and again such characters, of which one that is
neither first nor last is a dot. -/
def isAddress (cs : List Char) : Bool :=
  let user := cs.takeWhile (· != '@')
  !user.isEmpty &&
    match cs.dropWhile (· != '@') with
    | '@' :: domain => !domain.contains '@' && (domain.tail.dropLast).contains '.'
    | _ => false

/-- A mail address. -/
def isEmail (text : String) : Bool :=
  isAddress text.toList

/-- The characters behind a beginning, if a text has it. -/
def dropStart? (start cs : List Char) : Option (List Char) :=
  match start, cs with
  | [], cs => some cs
  | _ :: _, [] => none
  | s :: start, c :: cs => if s = c then dropStart? start cs else none

/-- `mailto:` and a mail address. -/
def isMailUri (text : String) : Bool :=
  match dropStart? "mailto:".toList text.toList with
  | some address => isAddress address
  | none => false

/-- The dot-separated labels of a host behind its first one: at least two word characters each, the
first one possibly empty in front of others. -/
def isLabels : List (List Char) → Bool
  | [] => false
  | [] :: rest => !rest.isEmpty && rest.all isLabel
  | labels => labels.all isLabel
where
  isLabel (label : List Char) : Bool := 2 ≤ label.length && label.all Unicode.isWord

/-- A host: a first label of word characters and hyphens, and further labels. -/
def isHost (host : List Char) : Bool :=
  match parts '.' host with
  | [] => false
  | first :: others =>
    !first.isEmpty && first.all (fun c => c == '-' || Unicode.isWord c) && isLabels others

/-- A web address behind its two slashes: a host, and maybe a `/` or a `?` with further characters
on the same line. -/
def isAfterScheme (cs : List Char) : Bool :=
  let inHost (c : Char) := c != '/' && c != '?'
  isHost (cs.takeWhile inHost) && !(cs.dropWhile inHost).contains '\n'

/-- A web address: `http://` or `https://`, a host, and maybe a path or a query. -/
def isWebUri (text : String) : Bool :=
  match dropStart? "http".toList text.toList with
  | some ('s' :: ':' :: '/' :: '/' :: rest) => isAfterScheme rest
  | some (':' :: '/' :: '/' :: rest) => isAfterScheme rest
  | _ => false

/-- A plus sign and digits. -/
def isPhone (text : String) : Bool :=
  match text.toList with
  | '+' :: digits => isDigits digits
  | _ => false

/-- `tel:`, a plus sign and digits. -/
def isTelUri (text : String) : Bool :=
  match dropStart? "tel:+".toList text.toList with
  | some digits => isDigits digits
  | none => false

/-- One to three digits that write a number below 256. -/
def isOctet (cs : List Char) : Bool :=
  isDigits cs && cs.length ≤ 3 && decimalValue cs ≤ 255

/-- Four octets with dots between them. -/
def isIpv4 (text : String) : Bool :=
  match parts '.' text.toList with
  | [a, b, c, d] => [a, b, c, d].all isOctet
  | _ => false

/-- The sign, the digits and the unit of an offset such as `+3d`: a sign, one digit or more, and one
of the five unit letters. -/
def offsetParts? (text : String) : Option (Bool × List Char × Char) :=
  match text.toList with
  | sign :: rest =>
    let digits := rest.takeWhile isDigit
    match rest.dropWhile isDigit with
    | [unit] =>
      if (sign = '+' ∨ sign = '-') ∧ !digits.isEmpty ∧ ['s', 'm', 'h', 'd', 'w'].contains unit then
        some (sign == '-', digits, unit)
      else none
    | _ => none
  | [] => none

/-- An offset. -/
def isOffset (text : String) : Bool :=
  (offsetParts? text).isSome

/-- A dial code: one digit or more. -/
def isDialCode (text : String) : Bool :=
  isDigits text.toList

end DocumentSchema.Text.Format

/-!
The kinds of attribute.

Every attribute is of one of twenty-seven kinds. `Kind.tag` is the name under which records and
messages know a kind, and `Kind.ofTag?` reads that name back.
-/

namespace DocumentSchema

/-- The kind of an attribute. -/
inductive Kind where
  | any
  | bool
  | int
  | float
  | str
  | bytes
  | date
  | time
  | dateTime
  | email
  | webUri
  | mailUri
  | telUri
  | phone
  | ip
  | id
  | geoPoint
  | file
  | locale
  | localeCode
  | literal
  | list
  | union
  | dict
  | record
  | descriptor
  | custom
  deriving DecidableEq, Repr

namespace Kind

/-- All kinds, in the order in which they are listed to users. -/
def all : List Kind :=
  [any, bool, int, float, str, bytes, date, time, dateTime, email, webUri, mailUri, telUri, phone,
    ip, id, geoPoint, file, locale, localeCode, literal, list, union, dict, record, descriptor,
    custom]

/-- The name of a kind in records and messages. -/
def tag : Kind → String
  | any => "ANY"
  | bool => "BOOL"
  | int => "INT"
  | float => "FLOAT"
  | str => "STR"
  | bytes => "BYTES"
  | date => "DATE"
  | time => "TIME"
  | dateTime => "DATETIME"
  | email => "EMAIL"
  | webUri => "URI_WEB"
  | mailUri => "URI_EMAIL"
  | telUri => "URI_TEL"
  | phone => "PHONE"
  | ip => "IP"
  | id => "ID"
  | geoPoint => "GEO_POINT"
  | file => "FILE"
  | locale => "LOCALE"
  | localeCode => "LOCALES"
  | literal => "LITERAL"
  | list => "LIST"
  | union => "UNION"
  | dict => "KV_DICT"
  | record => "TYPED_DICT"
  | descriptor => "ATTR"
  | custom => "TYPE"

/-- The kind of a name. -/
def ofTag? (tag : String) : Option Kind :=
  all.find? fun kind => kind.tag == tag

/-- A kind is found under its name. -/
theorem ofTag?_tag (kind : Kind) : ofTag? kind.tag = some kind := by
  cases kind <;> decide

end Kind

end DocumentSchema

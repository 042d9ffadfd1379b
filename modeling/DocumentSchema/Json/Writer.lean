import DocumentSchema.Json.Basic
import DocumentSchema.Numeric.Shortest

/-!
JSON text.

`Json.compact` writes a value without any blank, `Json.pretty` writes one member or item a line,
indented by two blanks a level. Only the quote, the backslash and the control characters are
escaped in strings.
-/

namespace DocumentSchema.Json

/-- One character of a string: escaped when it is a quote, a backslash or a control character. -/
def escapeChar (c : Char) : List Char :=
  if c = '"' then ['\\', '"']
  else if c = '\\' then ['\\', '\\']
  else if c = '\x08' then ['\\', 'b']
  else if c = '\x0c' then ['\\', 'f']
  else if c = '\n' then ['\\', 'n']
  else if c = '\r' then ['\\', 'r']
  else if c = '\t' then ['\\', 't']
  else if c.toNat < 0x20 then
    ['\\', 'u', '0', '0', Text.hexDigit (c.toNat / 16), Text.hexDigit (c.toNat % 16)]
  else [c]

/-- A text between quotes. -/
def quote (text : String) : String :=
  String.ofList ('"' :: text.toList.flatMap escapeChar ++ ['"'])

/-- The texts one after another, commas between them. -/
def commaSeparated : List String → String
  | [] => ""
  | [one] => one
  | one :: rest => one ++ "," ++ commaSeparated rest

mutual

/-- The text of a value, without blanks. -/
def compact : Json → String
  | .null => "null"
  | .bool flag => if flag then "true" else "false"
  | .int n => toString n
  | .float x => x.jsonText
  | .str text => quote text
  | .array items => "[" ++ commaSeparated (compactItems items) ++ "]"
  | .object members => "\x7b" ++ commaSeparated (compactMembers members) ++ "\x7d"
termination_by structural x => x

/-- The texts of the items. -/
def compactItems : List Json → List String
  | [] => []
  | item :: rest => compact item :: compactItems rest
termination_by structural x => x

/-- The texts of the members. -/
def compactMembers : List (String × Json) → List String
  | [] => []
  | (name, member) :: rest => (quote name ++ ":" ++ compact member) :: compactMembers rest
termination_by structural x => x

end

/-- A line break and the indentation of a level. -/
def newline (level : Nat) : String :=
  String.ofList ('\n' :: List.replicate (2 * level) ' ')

/-- Lines between an opening and a closing bracket, one level further in; nothing between the
brackets when there are no lines. -/
def block (opening closing : String) (level : Nat) (lines : List String) : String :=
  match lines with
  | [] => opening ++ closing
  | first :: rest =>
    opening ++ rest.foldl (fun text line => text ++ "," ++ newline (level + 1) ++ line)
      (newline (level + 1) ++ first) ++ newline level ++ closing

mutual

/-- The text of a value on several lines, its first line standing at a level. -/
def pretty (level : Nat) : Json → String
  | .array items => block "[" "]" level (prettyItems (level + 1) items)
  | .object members => block "\x7b" "\x7d" level (prettyMembers (level + 1) members)
  | .null => "null"
  | .bool flag => if flag then "true" else "false"
  | .int n => toString n
  | .float x => x.jsonText
  | .str text => quote text
termination_by structural x => x

/-- The texts of the items. -/
def prettyItems (level : Nat) : List Json → List String
  | [] => []
  | item :: rest => pretty level item :: prettyItems level rest
termination_by structural x => x

/-- The texts of the members. -/
def prettyMembers (level : Nat) : List (String × Json) → List String
  | [] => []
  | (name, member) :: rest =>
    (quote name ++ ": " ++ pretty level member) :: prettyMembers level rest
termination_by structural x => x

end

end DocumentSchema.Json

import DocumentSchema.Text.Hex
import DocumentSchema.Value.Basic

/-!
JSON values, and their exchange with document values.

JSON has neither bytes nor identifiers nor infinite numbers: `Value.toJson` writes bytes in base
sixty-four, identifiers in hexadecimal, and an infinity or a NaN as null. `Json.toValue` reads the
other way; an integer that 64 signed bits cannot hold becomes the nearest float.
-/

namespace DocumentSchema

/-- A JSON value. An object that is read from a text or made from a document value has its members
in ascending order of their names. -/
inductive Json where
  | null
  | bool (flag : Bool)
  | int (number : Int)
  | float (number : Binary64)
  | str (text : String)
  | array (items : List Json)
  | object (members : List (String × Json))

namespace Json

instance : Inhabited Json := ⟨null⟩

/-- The integers that 64 signed bits hold. -/
def fitsInt64 (n : Int) : Bool :=
  -(2 ^ 63 : Int) ≤ n && n < (2 ^ 63 : Int)

mutual

/-- The document value that a JSON value denotes. -/
def toValue : Json → Value
  | .null => .null
  | .bool flag => .bool flag
  | .int n => if fitsInt64 n then .int (Int64.ofInt n) else .float (Binary64.ofInt n)
  | .float x => .float x
  | .str text => .str text
  | .array items => .list (toValues items)
  | .object members => .map (toEntries members)
termination_by structural x => x

/-- Item by item. -/
def toValues : List Json → List Value
  | [] => []
  | item :: rest => toValue item :: toValues rest
termination_by structural x => x

/-- Member by member. -/
def toEntries : List (String × Json) → List (String × Value)
  | [] => []
  | (name, member) :: rest => (name, toValue member) :: toEntries rest
termination_by structural x => x

end

end Json

namespace Value

mutual

/-- The JSON form of a document value. -/
def toJson : Value → Json
  | .null => .null
  | .bool flag => .bool flag
  | .int n => .int n.toInt
  | .float x => if x.isFinite then .float x else .null
  | .str text => .str text
  | .bytes content => .str (String.ofList (Text.base64OfBytes content))
  | .id identifier => .str identifier.hex
  | .list items => .array (toJsonItems items)
  | .map entries => .object (toJsonMembers entries)
termination_by structural x => x

/-- Item by item. -/
def toJsonItems : List Value → List Json
  | [] => []
  | item :: rest => toJson item :: toJsonItems rest
termination_by structural x => x

/-- Entry by entry. -/
def toJsonMembers : List (String × Value) → List (String × Json)
  | [] => []
  | (name, value) :: rest => (name, toJson value) :: toJsonMembers rest
termination_by structural x => x

end

end Value

end DocumentSchema

import DocumentSchema.Numeric.Binary64
import DocumentSchema.Value.Entries
import DocumentSchema.Value.ObjectId

/-!
The values that documents are made of.

A value tells raw bytes and document identifiers from text, and integers from floating-point
numbers. Two equalities are in use. `Value.sameBits` is identity, floats compared by their bits.
`Value.equal` is the equality of the program: there a NaN differs from itself and the two zeros are
equal, at every depth.
-/

namespace DocumentSchema

/-- A document value. The entries of a map are in ascending order of their keys. -/
inductive Value where
  | null
  | bool (flag : Bool)
  | int (number : Int64)
  | float (number : Binary64)
  | str (text : String)
  | bytes (content : List UInt8)
  | id (identifier : ObjectId)
  | list (items : List Value)
  | map (entries : List (String × Value))

/-- A dictionary of values: a document, or a nested dictionary in one. -/
abbrev Document := Entries Value

namespace Value

instance : Inhabited Value := ⟨null⟩

/-! ## Two equalities -/

mutual

/-- Identity: the same value, floats with the same bits. -/
def sameBits : Value → Value → Bool
  | .null, .null => true
  | .bool a, .bool b => a == b
  | .int a, .int b => a == b
  | .float a, .float b => a == b
  | .str a, .str b => a == b
  | .bytes a, .bytes b => a == b
  | .id a, .id b => a == b
  | .list a, .list b => sameBitsList a b
  | .map a, .map b => sameBitsEntries a b
  | _, _ => false
termination_by structural x => x

/-- Identity of lists, item by item. -/
def sameBitsList : List Value → List Value → Bool
  | [], [] => true
  | a :: as, b :: bs => sameBits a b && sameBitsList as bs
  | _, _ => false
termination_by structural x => x

/-- Identity of dictionaries, entry by entry. -/
def sameBitsEntries : List (String × Value) → List (String × Value) → Bool
  | [], [] => true
  | (k, a) :: as, (l, b) :: bs => k == l && sameBits a b && sameBitsEntries as bs
  | _, _ => false
termination_by structural x => x

end

mutual

/-- Equality of values, floats compared as numbers. -/
def equal : Value → Value → Bool
  | .null, .null => true
  | .bool a, .bool b => a == b
  | .int a, .int b => a == b
  | .float a, .float b => a.eqNumber b
  | .str a, .str b => a == b
  | .bytes a, .bytes b => a == b
  | .id a, .id b => a == b
  | .list a, .list b => equalList a b
  | .map a, .map b => equalEntries a b
  | _, _ => false
termination_by structural x => x

/-- Equality of lists, item by item. -/
def equalList : List Value → List Value → Bool
  | [], [] => true
  | a :: as, b :: bs => equal a b && equalList as bs
  | _, _ => false
termination_by structural x => x

/-- Equality of dictionaries, entry by entry. -/
def equalEntries : List (String × Value) → List (String × Value) → Bool
  | [], [] => true
  | (k, a) :: as, (l, b) :: bs => k == l && equal a b && equalEntries as bs
  | _, _ => false
termination_by structural x => x

end

/-! ## Views -/

/-- The name of a value's type in messages. -/
def typeName : Value → String
  | .null => "null"
  | .bool _ => "bool"
  | .int _ => "int"
  | .float _ => "float"
  | .str _ => "str"
  | .bytes _ => "bytes"
  | .id _ => "id"
  | .list _ => "list"
  | .map _ => "map"

/-- Whether a value is null. -/
def isNull : Value → Bool
  | .null => true
  | _ => false

/-- The text of a string. -/
def str? : Value → Option String
  | .str text => some text
  | _ => none

/-- The number of an integer. -/
def int? : Value → Option Int64
  | .int number => some number
  | _ => none

/-- The flag of a boolean. -/
def bool? : Value → Option Bool
  | .bool flag => some flag
  | _ => none

/-- The items of a list. -/
def list? : Value → Option (List Value)
  | .list items => some items
  | _ => none

/-- The entries of a map. -/
def map? : Value → Option Document
  | .map entries => some entries
  | _ => none

/-- Integers and floats as a float, an integer rounded to the nearest one. -/
def number? : Value → Option Binary64
  | .int number => some (Binary64.ofInt number.toInt)
  | .float number => some number
  | _ => none

/-- A list of texts. -/
def ofTexts (texts : List String) : Value :=
  .list (texts.map .str)

/-! ## Order of keys -/

mutual

/-- At every depth, the keys of a map ascend strictly. -/
def Ordered : Value → Prop
  | .list items => OrderedList items
  | .map entries => Entries.Ascending entries ∧ OrderedEntries entries
  | _ => True
termination_by structural x => x

/-- Every item of a list is ordered. -/
def OrderedList : List Value → Prop
  | [] => True
  | item :: rest => Ordered item ∧ OrderedList rest
termination_by structural x => x

/-- Every value of a dictionary is ordered. -/
def OrderedEntries : List (String × Value) → Prop
  | [] => True
  | (_, value) :: rest => Ordered value ∧ OrderedEntries rest
termination_by structural x => x

end

end Value

end DocumentSchema

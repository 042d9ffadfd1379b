import DocumentSchema.Value.Basic

/-!
Update operators.

In an update, a map with one of six reserved keys is a request to change a value rather than a
value. `UpdateOperator.ofValue?` reads a request: exactly one reserved key, and otherwise only the
keys that belong to it. `UpdateOperator.toValue` writes its canonical form, in which those keys are
always present.
-/

namespace DocumentSchema

/-- What `$del_index` deletes: an element of a list by its position, or an entry of a dictionary by
its key. -/
inductive OperatorTarget where
  | position (index : Int64)
  | key (name : String)
  deriving DecidableEq

/-- A request to change a value. -/
inductive UpdateOperator where
  | add (value : Value) (field : Option String)
  | multiply (value : Value) (field : Option String)
  | append (value : Value) (unique : Bool)
  | setIndex (value : Value) (index : Int64)
  | deleteValues (values : List Value)
  | deleteIndex (target : OperatorTarget)

/-- The reserved keys without what belongs to them. -/
inductive OperatorKey where
  | add
  | multiply
  | append
  | setIndex
  | deleteValues
  | deleteIndex
  deriving DecidableEq

namespace OperatorKey

/-- All reserved keys. -/
def all : List OperatorKey :=
  [add, multiply, append, setIndex, deleteValues, deleteIndex]

/-- A reserved key as text. -/
def text : OperatorKey → String
  | add => "$add"
  | multiply => "$multiply"
  | append => "$append"
  | setIndex => "$set_index"
  | deleteValues => "$del_val"
  | deleteIndex => "$del_index"

/-- The keys that belong to a reserved key. -/
def auxiliaries : OperatorKey → List String
  | add => ["$field"]
  | multiply => ["$field"]
  | append => ["$unique"]
  | setIndex => ["$index"]
  | deleteValues => []
  | deleteIndex => []

/-- The reserved key of a text. -/
def ofText? (text : String) : Option OperatorKey :=
  all.find? fun key => key.text == text

end OperatorKey

/-- Whether a map has a reserved key, and so is a request whether or not it is well formed. -/
def Document.hasOperator (entries : Document) : Bool :=
  (Entries.keys entries).any fun key => (OperatorKey.ofText? key).isSome

namespace UpdateOperator

/-- The reserved key of a request. -/
def key : UpdateOperator → OperatorKey
  | add _ _ => .add
  | multiply _ _ => .multiply
  | append _ _ => .append
  | setIndex _ _ => .setIndex
  | deleteValues _ => .deleteValues
  | deleteIndex _ => .deleteIndex

/-- The name of a field, which may be absent or null. -/
def field? (entries : Document) : Option (Option String) :=
  match Entries.get? entries "$field" with
  | none => some none
  | some .null => some none
  | some (.str name) => some (some name)
  | some _ => none

/-- The flag for unique elements, which may be absent or null. -/
def unique? (entries : Document) : Option Bool :=
  match Entries.get? entries "$unique" with
  | none => some false
  | some .null => some false
  | some (.bool flag) => some flag
  | some _ => none

/-- The request of a reserved key with its payload. -/
def ofPayload? (entries : Document) (payload : Value) : OperatorKey → Option UpdateOperator
  | .add => (field? entries).map (.add payload)
  | .multiply => (field? entries).map (.multiply payload)
  | .append => (unique? entries).map (.append payload)
  | .setIndex => ((Entries.get? entries "$index").bind Value.int?).map (.setIndex payload)
  | .deleteValues => payload.list?.map .deleteValues
  | .deleteIndex =>
    match payload with
    | .int index => some (.deleteIndex (.position index))
    | .str name => some (.deleteIndex (.key name))
    | _ => none

/-- The request that a map writes. -/
def ofMap? (entries : Document) : Option UpdateOperator :=
  match (Entries.keys entries).filterMap OperatorKey.ofText? with
  | [key] =>
    if (Entries.keys entries).all fun k => k == key.text || key.auxiliaries.contains k then
      (Entries.get? entries key.text).bind fun payload => ofPayload? entries payload key
    else none
  | _ => none

/-- The request that a value writes. -/
def ofValue? (value : Value) : Option UpdateOperator :=
  value.map?.bind ofMap?

/-- The canonical form of a request. -/
def toValue : UpdateOperator → Value
  | add value field => .map [("$add", value), ("$field", field.elim .null .str)]
  | multiply value field => .map [("$field", field.elim .null .str), ("$multiply", value)]
  | append value unique => .map [("$append", value), ("$unique", .bool unique)]
  | setIndex value index => .map [("$index", .int index), ("$set_index", value)]
  | deleteValues values => .map [("$del_val", .list values)]
  | deleteIndex (.position index) => .map [("$del_index", .int index)]
  | deleteIndex (.key name) => .map [("$del_index", .str name)]

/-- Equality of requests. -/
def equal : UpdateOperator → UpdateOperator → Bool
  | add a f, add b g => a.equal b && f == g
  | multiply a f, multiply b g => a.equal b && f == g
  | append a f, append b g => a.equal b && f == g
  | setIndex a i, setIndex b j => a.equal b && i == j
  | deleteValues a, deleteValues b => Value.equalList a b
  | deleteIndex a, deleteIndex b => a == b
  | _, _ => false

end UpdateOperator

end DocumentSchema

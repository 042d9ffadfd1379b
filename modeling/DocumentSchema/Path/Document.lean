import DocumentSchema.Path.Segments
import DocumentSchema.Value.Basic

/-!
Paths into values.

A segment names a key of a map or an element of a list. `Value.getAt?` looks a value up; `assign`,
`exchange` and `remove` edit a value in its place, and answer what stood there before or fail.
`setAt`, `replaceAt?` and `removeAt?` are the same edits for those who need the changed value only
where nothing fails. A leading dollar sign, which one dot may follow, stands for the whole value and
is left out.
-/

namespace DocumentSchema

/-- Why there is nothing at a path: a segment that selects nothing, or one that is left where there
is neither a map nor a list. -/
inductive PathError where
  | notFound (path segment : String)
  | notContainer (path segment found : String)
  deriving DecidableEq

/-- The wording of a failure. -/
def PathError.message : PathError → String
  | notFound path segment =>
    "Segment '" ++ segment ++ "' of path '" ++ path ++ "' does not exist"
  | notContainer path segment found =>
    "Segment '" ++ segment ++ "' of path '" ++ path ++ "' descends into a " ++ found

namespace Path

/-- A path without the sign for the whole value. -/
def dropRoot (cs : List Char) : List Char :=
  match cs with
  | '$' :: '.' :: rest => rest
  | '$' :: rest => rest
  | _ => cs

/-- The segments of a path into a value. -/
def valueSegments (path : String) : List String :=
  segments (String.ofList (dropRoot path.toList))

end Path

/-- What comes of editing a value in its place: an answer or a failure, and in both cases the value
that is left. -/
@[ext]
structure Edited (α : Type) where
  answer : Except PathError α
  left : Value

namespace Value

/-- The value that a segment selects. -/
def child? (value : Value) (segment : String) : Option Value :=
  match value with
  | .map entries => Entries.get? entries segment
  | .list items => (Path.index? segment).bind fun i => items[i]?
  | _ => none

/-- Puts a value in the place of the one that a segment selects. -/
def setChild (value : Value) (segment : String) (new : Value) : Value :=
  match value with
  | .map entries => .map (Entries.replace segment new entries)
  | .list items =>
    match Path.index? segment with
    | some i => .list (items.set i new)
    | none => value
  | _ => value

/-- The failure of a segment that selects nothing in a value. -/
def missingChild (value : Value) (path segment : String) : PathError :=
  match value with
  | .map _ => .notFound path segment
  | .list _ => .notFound path segment
  | _ => .notContainer path segment value.typeName

/-! ## Along segments -/

/-- The value that segments lead to. -/
def get? : Value → List String → Option Value
  | value, [] => some value
  | value, segment :: rest => (value.child? segment).bind fun inner => get? inner rest

/-- Edits the value that segments lead to, in its place. -/
def update {α : Type} (path : String) (edit : Value → Edited α) :
    Value → List String → Edited α
  | value, [] => edit value
  | value, segment :: rest =>
    match value.child? segment with
    | none => ⟨.error (value.missingChild path segment), value⟩
    | some inner =>
      let edited := update path edit inner rest
      ⟨edited.answer, value.setChild segment edited.left⟩

/-- Sets what the last segment selects in a map or a list, and answers what stood there. The
position right behind the last element of a list can be set too. -/
def setLast (path segment : String) (new value : Value) : Edited (Option Value) :=
  match value with
  | .map entries =>
    match Entries.get? entries segment with
    | some old => ⟨.ok (some old), .map (Entries.replace segment new entries)⟩
    | none => ⟨.ok none, .map (Entries.insert segment new entries)⟩
  | .list items =>
    match Path.index? segment with
    | none => ⟨.error (.notFound path segment), value⟩
    | some i =>
      match items[i]? with
      | some old => ⟨.ok (some old), .list (items.set i new)⟩
      | none =>
        if i = items.length then ⟨.ok none, .list (items ++ [new])⟩
        else ⟨.error (.notFound path segment), value⟩
  | _ => ⟨.error (.notContainer path segment value.typeName), value⟩

/-- Takes out what the last segment selects in a map or a list, and answers it; later elements of a
list move down. -/
def removeLast (path segment : String) (value : Value) : Edited Value :=
  match value with
  | .map entries =>
    match Entries.get? entries segment with
    | some old => ⟨.ok old, .map (Entries.erase segment entries)⟩
    | none => ⟨.error (.notFound path segment), value⟩
  | .list items =>
    match Path.index? segment with
    | none => ⟨.error (.notFound path segment), value⟩
    | some i =>
      match items[i]? with
      | some old => ⟨.ok old, .list (items.eraseIdx i)⟩
      | none => ⟨.error (.notFound path segment), value⟩
  | _ => ⟨.error (.notContainer path segment value.typeName), value⟩

/-! ## Along paths -/

/-- The value at a path. -/
def getAt? (root : Value) (path : String) : Option Value :=
  root.get? (Path.valueSegments path)

/-- Puts a value at a path where there is one, and answers that one. -/
def exchange (root : Value) (path : String) (new : Value) : Edited Value :=
  root.update path (fun old => ⟨.ok old, new⟩) (Path.valueSegments path)

/-- Puts a value at a path whose parent exists, and answers the replaced value, if any. -/
def assign (root : Value) (path : String) (new : Value) : Edited (Option Value) :=
  let segments := Path.valueSegments path
  match segments.getLast? with
  | none => ⟨.ok (some root), new⟩
  | some last => root.update path (setLast path last new) segments.dropLast

/-- Takes the value at a path out and answers it. -/
def remove (root : Value) (path : String) : Option Value × Value :=
  let segments := Path.valueSegments path
  match segments.getLast? with
  | none => (none, root)
  | some last =>
    let edited := root.update path (removeLast path last) segments.dropLast
    (edited.answer.toOption, edited.left)

/-- Puts a value at a path where there is one; the old value comes with the changed whole. -/
def replaceAt? (root : Value) (path : String) (new : Value) : Option (Value × Value) :=
  let edited := root.exchange path new
  edited.answer.toOption.map fun old => (old, edited.left)

/-- Puts a value at a path whose parent exists; the replaced value, if any, comes with the changed
whole. -/
def setAt (root : Value) (path : String) (new : Value) : Except PathError (Option Value × Value) :=
  let edited := root.assign path new
  edited.answer.map fun replaced => (replaced, edited.left)

/-- Takes the value at a path out; it comes with the changed whole. -/
def removeAt? (root : Value) (path : String) : Option (Value × Value) :=
  let (removed, left) := root.remove path
  removed.map fun old => (old, left)

end Value

end DocumentSchema

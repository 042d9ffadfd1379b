import DocumentSchema.Path.Descriptor
import DocumentSchema.Validation.Value

/-!
Validation of a document.

Every declared attribute is validated on its own, and all failures are gathered: those of declared
attributes first, then those of dotted keys, each in the order of their names. A dotted key is one
that is not declared while its part before the first dot is; updates use them to reach into a
value. All other keys pass as they are.
-/

namespace DocumentSchema

/-- The part of a key before its first dot and the part behind it. -/
def splitKey? (key : String) : Option (String × String) :=
  let cs := key.toList
  match cs.dropWhile (· != '.') with
  | _ :: rest => some (String.ofList (cs.takeWhile (· != '.')), String.ofList rest)
  | [] => none

namespace Context

/-- The answer of the first descriptor, among those a dotted key may lead to, that accepts the
value. -/
def validateFirst (context : Context) (key : String) (root : Kind) (value : Value)
    (doc : Document) : List Descriptor → Except ValidationError Value
  | [] => .error (.ofValue key root value)
  | d :: rest =>
    match context.validate .update key d value doc with
    | .ok canonical => .ok canonical
    | .error _ => validateFirst context key root value doc rest

/-- Validates the value of a dotted key in an update. -/
def validateDotted (context : Context) (key : String) (root : Descriptor) (rest : String)
    (value : Value) (doc : Document) : Except ValidationError Value :=
  context.validateFirst key root.kind value doc
    (root.updateCandidates context.config (Path.segments rest))

/-- The answer for a declared attribute; none where the mode does not ask for it. -/
def declaredAnswer? (context : Context) (mode : Mode) (doc : Document)
    (name : String) (d : Descriptor) : Option (Except ValidationError Value) :=
  match Entries.get? doc name with
  | some value => some (context.validate mode name d value doc)
  | none => if mode = .create then some (context.validate mode name d .null doc) else none

/-- The answer for a key that is not declared. -/
def otherAnswer (context : Context) (mode : Mode) (schema : Schema) (doc : Document)
    (key : String) (value : Value) : Except ValidationError Value :=
  match (splitKey? key).bind fun (root, rest) => (schema.get? root).map fun d => (d, rest) with
  | none => .ok value
  | some (d, rest) =>
    if mode = .update then context.validateDotted key d rest value doc
    else .error (.ofValue key d.kind value)

/-- The answers for all names that are asked for: declared attributes, then the other keys of the
document. -/
def answers (context : Context) (mode : Mode) (schema : Schema) (doc : Document) :
    List (String × Except ValidationError Value) :=
  (schema.attributes.filterMap fun (name, d) =>
    (context.declaredAnswer? mode doc name d).map fun answer => (name, answer)) ++
  (doc.filter fun entry => !schema.declares entry.1).map fun (key, value) =>
    (key, context.otherAnswer mode schema doc key value)

/-- The failures among answers. -/
def failures (answers : List (String × Except ValidationError Value)) : List ValidationError :=
  answers.filterMap fun answer =>
    match answer.2 with
    | .ok _ => none
    | .error error => some error

/-- The canonical values among answers. -/
def successes (answers : List (String × Except ValidationError Value)) : List (String × Value) :=
  answers.filterMap fun answer =>
    match answer.2 with
    | .ok value => some (answer.1, value)
    | .error _ => none

/-- The canonical form of a document. -/
def validateDocument (context : Context) (mode : Mode) (schema : Schema) (doc : Document) :
    Except DocumentError Document :=
  let answers := context.answers mode schema doc
  match failures answers with
  | [] => .ok (Entries.ofList (successes answers))
  | errors => .error ⟨errors⟩

end Context

end DocumentSchema

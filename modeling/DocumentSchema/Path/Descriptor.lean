import DocumentSchema.Path.Segments
import DocumentSchema.Schema.Builder
import DocumentSchema.Schema.Config

/-!
Paths into descriptors.

A segment names a field of a record, a locale, or by its index an alternative of a list or a union;
any segment leads to the values of a dictionary, and whatever lies below a value of any type is of
any type. `Descriptor.updateCandidates` follows the keys of updates instead: there the index of a
list names an element, which may be of any alternative.
-/

namespace DocumentSchema

namespace Descriptor

/-- The descriptor that segments of a path lead to. -/
def resolve (config : Config) (path : String) :
    Descriptor → List String → Except SchemaError Descriptor
  | d, [] => .ok d
  | d, segment :: rest =>
    let missing : Except SchemaError Descriptor := .error (pathNotFound path segment)
    match d.shape with
    | .any => .ok d
    | .record fields =>
      match Entries.get? fields segment with
      | some field => resolve config path field rest
      | none => missing
    | .dict _ val _ _ => resolve config path val rest
    | .list alternatives _ =>
      match (Path.index? segment).bind fun i => alternatives[i]? with
      | some alternative => resolve config path alternative rest
      | none => missing
    | .union alternatives =>
      match (Path.index? segment).bind fun i => alternatives[i]? with
      | some alternative => resolve config path alternative rest
      | none => missing
    | .locale =>
      if config.isRegistered segment then resolve config path plainText rest else missing
    | _ => missing

/-- The descriptor at a path; the empty path leads to the descriptor itself. -/
def resolveAt (d : Descriptor) (config : Config) (path : String) : Except SchemaError Descriptor :=
  d.resolve config path (Path.segments path)

/-- The descriptors that segments of an update key may lead to, in the order in which they are
declared. -/
def updateCandidates (config : Config) : Descriptor → List String → List Descriptor
  | d, [] => [d]
  | d, segment :: rest =>
    match d.shape with
    | .any => [d]
    | .record fields =>
      match Entries.get? fields segment with
      | some field => updateCandidates config field rest
      | none => []
    | .dict _ val _ _ => updateCandidates config val rest
    | .locale =>
      if config.isRegistered segment then updateCandidates config plainText rest else []
    | .list alternatives _ =>
      if (Path.index? segment).isSome then
        alternatives.flatMap fun alternative => updateCandidates config alternative rest
      else []
    | .union alternatives =>
      match (Path.index? segment).bind fun i => alternatives[i]? with
      | some alternative => updateCandidates config alternative rest
      | none => []
    | _ => []

end Descriptor

/-- The descriptor at a path whose first segment names an attribute. -/
def Schema.resolveAt (schema : Schema) (config : Config) (path : String) :
    Except SchemaError Descriptor :=
  match Path.segments path with
  | [] => .error (pathNotFound path "")
  | first :: rest =>
    match schema.get? first with
    | some d => d.resolve config path rest
    | none => .error (pathNotFound path first)

end DocumentSchema

import DocumentSchema.Numeric.Power
import DocumentSchema.Text.Digits
import DocumentSchema.Text.Parts

/-!
Segments of dotted paths.

A path is a text whose segments are separated by dots. A segment that is a run of digits may serve
as an index.
-/

namespace DocumentSchema.Path

/-- The texts between the dots of a path; a path without dots has one segment. -/
def dotted (path : String) : List String :=
  (Text.parts '.' path.toList).map String.ofList

/-- The segments of a path; the empty path has none. -/
def segments (path : String) : List String :=
  if path.isEmpty then [] else dotted path

/-- The index that a segment writes: digits only, and no more than 64 bits hold. -/
def index? (segment : String) : Option Nat :=
  let cs := segment.toList
  if Text.isDigits cs ∧ Text.decimalValue cs < 2 ^ 64 then some (Text.decimalValue cs) else none

end DocumentSchema.Path

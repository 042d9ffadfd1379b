import DocumentSchema.Numeric.Power

/-!
Why a text cannot be used as a pattern: it is not written like one, or its meaning would take too
much room.
-/

namespace DocumentSchema.Pattern

/-- The greatest number of bytes that a matching machine may take. -/
def maxMachineSize : Nat := 10 * 2 ^ 20

/-- Why a text cannot be used as a pattern. -/
inductive Fault where
  | unreadable
  | tooLarge
  deriving DecidableEq, Repr

/-- The wording of a fault. -/
def Fault.text : Fault → String
  | unreadable => "regex parse error: malformed pattern"
  | tooLarge => "Compiled regex exceeds size limit of " ++ toString maxMachineSize ++ " bytes."

end DocumentSchema.Pattern

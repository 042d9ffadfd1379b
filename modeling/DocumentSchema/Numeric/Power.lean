/-!
Powers.

The powers of natural numbers and of integers are those of the core library, also beside libraries
that bring a more general power of their own. A module that writes a power imports this one.
-/

universe u

namespace DocumentSchema

/-- The powers of the core library, before all others. -/
@[default_instance 20000]
instance (priority := 2000) power {α : Type u} [NatPow α] : Pow α Nat :=
  instPowNat

end DocumentSchema

import DocumentSchema.Value.Basic

/-!
The parts of values.

A value occurs in another one when it is that one or occurs in an item of a list or in the value of
an entry. `Value.byParts` is induction along parts.
-/

namespace DocumentSchema.Value

/-! ## Induction -/

/-- The values that a value is made of. -/
def parts : Value → List Value
  | .list items => items
  | .map entries => Entries.values entries
  | _ => []

theorem sizeOf_lt_of_mem_parts {part v : Value} (member : part ∈ v.parts) :
    sizeOf part < sizeOf v := by
  cases v with
  | list items =>
    have smaller := List.sizeOf_lt_of_mem (show part ∈ items from member)
    simp only [Value.list.sizeOf_spec]
    omega
  | map entries =>
    obtain ⟨⟨key, value⟩, held, rfl⟩ := List.mem_map.1 (show part ∈ entries.map (·.2) from member)
    have smaller := List.sizeOf_lt_of_mem held
    simp only [Prod.mk.sizeOf_spec] at smaller
    simp only [Value.map.sizeOf_spec]
    omega
  | _ => cases member

/-- What holds of a value whenever it holds of the values it is made of holds of every value. -/
theorem byParts {motive : Value → Prop}
    (step : ∀ v, (∀ part ∈ v.parts, motive part) → motive v) (v : Value) : motive v :=
  step v fun part _ => byParts step part
termination_by sizeOf v
decreasing_by exact sizeOf_lt_of_mem_parts ‹_›

/-! ## Occurrences -/

/-- A value at some depth of another one, which occurs in itself. -/
inductive Occurs (part : Value) : Value → Prop
  | here : Occurs part part
  | inside {inner v : Value} : inner ∈ v.parts → Occurs part inner → Occurs part v

variable {part inner v : Value}

theorem Occurs.trans (first : Occurs inner part) (second : Occurs part v) : Occurs inner v := by
  induction second with
  | here => exact first
  | inside member _ ih => exact .inside member ih

theorem Occurs.ofItem {items : List Value} (member : part ∈ items) : Occurs part (.list items) :=
  .inside (show part ∈ (Value.list items).parts from member) .here

theorem Occurs.ofEntry {entries : Document} {entry : String × Value} (member : entry ∈ entries) :
    Occurs entry.2 (.map entries) :=
  .inside (show entry.2 ∈ (Value.map entries).parts from List.mem_map_of_mem member) .here

end DocumentSchema.Value

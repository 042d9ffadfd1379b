import DocumentSchema.Validation.Value

/-!
Names in validation.

The name of an attribute matters to identifiers alone, which stay what they are under names that
start with `_id`. The names of the parts of a value start so exactly when its own name does.
-/

namespace DocumentSchema

/-- Whether a name is one under which identifiers are not turned into texts. -/
def isIdName (name : String) : Bool :=
  "_id".toList.isPrefixOf name.toList

theorem isPrefixOf_append_cons (mark : Char) {sought cs rest : List Char} (absent : mark ∉ sought) :
    sought.isPrefixOf (cs ++ mark :: rest) = sought.isPrefixOf cs := by
  induction sought generalizing cs with
  | nil => rfl
  | cons c sought ih =>
    obtain ⟨different, absent⟩ := List.ne_and_not_mem_of_not_mem_cons absent
    cases cs with
    | nil => simp [List.isPrefixOf, Ne.symm different]
    | cons first others => simp only [List.cons_append, List.isPrefixOf, ih absent]

theorem isIdName_partName (name part : String) :
    isIdName (Context.partName name part) = isIdName name := by
  have letters : (Context.partName name part).toList = name.toList ++ '.' :: part.toList := by
    simp [Context.partName]
  rw [isIdName, letters, isIdName, isPrefixOf_append_cons '.' (by decide)]

theorem isIdName_partName_congr {name name' : String} (same : isIdName name = isIdName name')
    (part part' : String) :
    isIdName (Context.partName name part) = isIdName (Context.partName name' part') := by
  rw [isIdName_partName, isIdName_partName, same]

end DocumentSchema

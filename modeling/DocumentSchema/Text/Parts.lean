/-!
Texts that a character cuts into parts.
-/

namespace DocumentSchema.Text

/-- The parts of a text between the occurrences of a character; a text without it is one part. -/
def parts (mark : Char) : List Char → List (List Char)
  | [] => [[]]
  | c :: rest =>
    if c = mark then [] :: parts mark rest
    else match parts mark rest with
      | [] => [[c]]
      | first :: others => (c :: first) :: others

/-- There is always a first part. -/
theorem parts_ne_nil (mark : Char) (cs : List Char) : parts mark cs ≠ [] := by
  cases cs with
  | nil => simp [parts]
  | cons c rest =>
    unfold parts
    split
    · simp
    · split <;> simp

end DocumentSchema.Text

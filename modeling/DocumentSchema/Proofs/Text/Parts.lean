import DocumentSchema.Text.Parts
import Mathlib.Data.List.Basic

/-!
Cutting texts into parts.

A text that starts with a run free of the mark, and then has the mark, has that run as its first
part (`Text.parts_append`); the first part of any text is what stands before its first mark
(`Text.head?_parts`). Nothing is lost, since the text is its parts with the marks between them
(`Text.intercalate_parts`).
-/

namespace DocumentSchema.Text

variable {mark : Char}

/-- The parts of a text that starts with a run free of the mark, and then has the mark. -/
theorem parts_append {first rest : List Char} (free : mark ∉ first) :
    parts mark (first ++ mark :: rest) = first :: parts mark rest := by
  induction first with
  | nil => simp [parts]
  | cons c first ih =>
    obtain ⟨different, free⟩ := List.ne_and_not_mem_of_not_mem_cons free
    rw [List.cons_append, parts, if_neg different.symm, ih free]

theorem parts_of_free {cs : List Char} (free : mark ∉ cs) : parts mark cs = [cs] := by
  induction cs with
  | nil => rfl
  | cons c rest ih =>
    obtain ⟨different, free⟩ := List.ne_and_not_mem_of_not_mem_cons free
    rw [parts, if_neg different.symm, ih free]

/-- The parts of a text whose last mark stands before the last part. -/
theorem parts_concat {first last : List Char} (free : mark ∉ last) :
    parts mark (first ++ mark :: last) = parts mark first ++ [last] := by
  induction first with
  | nil =>
    have marked : parts mark (mark :: last) = [] :: parts mark last := if_pos rfl
    rw [List.nil_append, marked, parts_of_free free]
    rfl
  | cons c rest ih =>
    by_cases same : c = mark
    · rw [List.cons_append, parts, if_pos same, ih, parts, if_pos same, List.cons_append]
    · obtain ⟨part, others, split⟩ := List.exists_cons_of_ne_nil (parts_ne_nil mark rest)
      rw [List.cons_append, parts, if_neg same, ih, parts, if_neg same, split]
      rfl

/-- The parts with the marks between them are the text. -/
theorem intercalate_parts (mark : Char) (cs : List Char) :
    [mark].intercalate (parts mark cs) = cs := by
  induction cs with
  | nil => rfl
  | cons c rest ih =>
    obtain ⟨part, others, split⟩ := List.exists_cons_of_ne_nil (parts_ne_nil mark rest)
    rw [split] at ih
    by_cases same : c = mark
    · rw [parts, if_pos same, split, List.intercalate_cons_cons, ih, same]
      rfl
    · simp only [parts, if_neg same, split]
      cases others with
      | nil => simpa using ih
      | cons other others =>
        rw [List.intercalate_cons_cons] at ih ⊢
        simpa using ih

theorem head?_parts (mark : Char) (cs : List Char) :
    (parts mark cs).head? = some (cs.takeWhile (· != mark)) := by
  induction cs with
  | nil => rfl
  | cons c rest ih =>
    by_cases same : c = mark
    · simp [parts, same]
    · obtain ⟨part, others, split⟩ := List.exists_cons_of_ne_nil (parts_ne_nil mark rest)
      rw [split, List.head?_cons, Option.some.injEq] at ih
      simp [parts, same, split, ih]

end DocumentSchema.Text

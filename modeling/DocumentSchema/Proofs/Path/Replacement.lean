import DocumentSchema.Path.Document
import DocumentSchema.Proofs.Text.Parts
import DocumentSchema.Proofs.Value.Dictionary

/-!
Replacement of a value inside another one.

`Value.Replaced` says that a value turns into another one when what segments lead to is replaced.
Setting a path in which every segment selects something is such a replacement
(`Value.replaced_of_setAt`).
-/

namespace DocumentSchema

namespace Path

/-- The segments of a dotted key: the name before the first dot, and those of what is behind it. -/
theorem valueSegments_dotted {root rest : String} (noDot : '.' ∉ root.toList)
    (noSign : root.toList.head? ≠ some '$') :
    valueSegments (root ++ "." ++ rest) = root :: dotted rest := by
  have letters : (root ++ "." ++ rest).toList = root.toList ++ '.' :: rest.toList := by simp
  have whole : dropRoot (root.toList ++ '.' :: rest.toList) =
      root.toList ++ '.' :: rest.toList := by
    unfold dropRoot
    cases chars : root.toList with
    | nil => rfl
    | cons c others =>
      rw [chars] at noSign
      have different : c ≠ '$' := fun same => noSign (by rw [same]; rfl)
      rw [List.cons_append]
      split
      · next same => exact absurd (List.cons.inj same).1 different
      · next same => exact absurd (List.cons.inj same).1 different
      · rfl
  have notEmpty : (String.ofList (root.toList ++ '.' :: rest.toList)).isEmpty = false := by
    apply String.isEmpty_eq_false_iff.2
    intro empty
    have none := congrArg String.toList empty
    simp at none
  rw [valueSegments, letters, whole, segments, notEmpty]
  simp only [Bool.false_eq_true, if_false, dotted, String.toList_ofList, Text.parts_append noDot,
    List.map_cons, String.ofList_toList]

end Path

namespace Value

/-- What becomes of a value when a new one takes the place of what segments lead to. -/
def Replaced : Value → List String → Value → Value → Prop
  | _, [], new, after => after = new
  | value, segment :: rest, new, after => ∃ inner inner', value.child? segment = some inner ∧
      Replaced inner rest new inner' ∧ after = value.setChild segment inner'

variable {value new after old : Value} {path last : String} {segments : List String}

theorem ne_null_of_child? {segment : String} {inner : Value}
    (found : value.child? segment = some inner) (inner' : Value) :
    value ≠ .null ∧ value.setChild segment inner' ≠ .null := by
  cases value with
  | map entries => exact ⟨Value.noConfusion, Value.noConfusion⟩
  | list items =>
    refine ⟨Value.noConfusion, ?_⟩
    unfold setChild
    dsimp only
    split <;> exact Value.noConfusion
  | _ => cases found

/-- A child of a map is set as an entry is inserted. -/
theorem setChild_map {entries : Document} {segment : String} {inner : Value}
    (ordered : (map entries).Ordered) (found : Entries.get? entries segment = some inner)
    (new : Value) :
    (map entries).setChild segment new = .map (Entries.insert segment new entries) :=
  congrArg map (Entries.replace_eq_insert ordered.1 found new)

/-- Where the last segment replaces a part, it puts the new one in its place. -/
theorem child?_of_setLast
    (set : setLast path last new value = ⟨.ok (some old), after⟩) :
    value.child? last = some old ∧ after = value.setChild last new := by
  cases value with
  | map entries =>
    unfold setLast at set
    dsimp only at set
    split at set
    · next found =>
      cases set
      exact ⟨found, rfl⟩
    · cases set
  | list items =>
    unfold setLast at set
    cases index : Path.index? last with
    | none =>
      rw [index] at set
      cases set
    | some i =>
      rw [index] at set
      dsimp only at set
      split at set
      · next held =>
        cases set
        exact ⟨by rw [child?, index, Option.bind_some, held], by rw [setChild, index]⟩
      · split at set <;> cases set
  | _ => cases set

/-- Where an edit replaces a part, segments lead to it and nothing else changes. -/
theorem replaced_of_update
    (set : value.update path (setLast path last new) segments = ⟨.ok (some old), after⟩) :
    Replaced value (segments ++ [last]) new after := by
  induction segments generalizing value after with
  | nil =>
    obtain ⟨found, rfl⟩ := child?_of_setLast set
    exact ⟨old, new, found, rfl, rfl⟩
  | cons segment rest ih =>
    unfold update at set
    split at set
    · cases set
    · next inner found =>
      obtain ⟨answer, rfl⟩ := Edited.mk.inj set
      exact ⟨inner, _, found, ih (Edited.ext answer rfl), rfl⟩

/-- Setting a path is assigning to it, for those who need the changed value. -/
theorem setAt_eq_ok_iff {replaced : Option Value} :
    value.setAt path new = .ok (replaced, after) ↔
      value.assign path new = ⟨.ok replaced, after⟩ := by
  unfold setAt
  rcases value.assign path new with ⟨_ | former, left⟩ <;> simp [Except.map]

/-- Setting a path fails as assigning to it does. -/
theorem setAt_eq_error_iff {error : PathError} :
    value.setAt path new = .error error ↔ (value.assign path new).answer = .error error := by
  unfold setAt
  rcases value.assign path new with ⟨_ | former, left⟩ <;> simp [Except.map]

/-- Setting a path at which a value stands replaces that value. -/
theorem replaced_of_setAt (set : value.setAt path new = .ok (some old, after)) :
    Replaced value (Path.valueSegments path) new after := by
  have set := setAt_eq_ok_iff.1 set
  unfold assign at set
  dsimp only at set
  split at set
  · next empty =>
    cases set
    rw [List.getLast?_eq_none_iff.1 empty]
    rfl
  · next last found =>
    obtain ⟨before, split⟩ := List.getLast?_eq_some_iff.1 found
    rw [split, List.dropLast_concat] at set
    rw [split]
    exact replaced_of_update set

end Value

end DocumentSchema

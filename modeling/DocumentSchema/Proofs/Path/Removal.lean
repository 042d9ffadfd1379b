import DocumentSchema.Proofs.Path.Setting
import DocumentSchema.Proofs.Value.Order

/-!
Removing values at paths, and undoing edits.

Removing a path takes out the child that its last segment selects (`Value.removeAt?_cases`): a map
loses that key, and the later elements of a list move down (`Value.TakesOut`). Nothing else changes,
so whatever stood at the end of a walk can be put back there (`Value.Replaced.restores`). Hence an
edit is undone by one more: removing a path takes out what was added there, and setting it again
puts back what was replaced, or what was removed from a map (`Value.removal_lawful`).
-/

namespace DocumentSchema

namespace Value

variable {value inner inner' old new after container root : Value} {path last a : String}
  {p segments : List String}

/-! ## Children taken out -/

/-- A value without the child that a segment selects; later elements of a list move down. -/
def withoutChild (value : Value) (segment : String) : Value :=
  match value with
  | .map entries => .map (Entries.erase segment entries)
  | .list items =>
    match Path.index? segment with
    | some i => .list (items.eraseIdx i)
    | none => value
  | _ => value

/-- What is left when the child that a segment selects is taken out: a map with all other entries
as they were, or a list in which the elements behind it have moved down by one. -/
inductive TakesOut (segment : String) : Value → Value → Prop
  | entry {entries left : Document} : Entries.get? left segment = none →
      (∀ other, other ≠ segment → Entries.get? left other = Entries.get? entries other) →
      TakesOut segment (.map entries) (.map left)
  | item {items left : List Value} {i : Nat} : Path.index? segment = some i → i < items.length →
      left.length + 1 = items.length → (∀ j, j < i → left[j]? = items[j]?) →
      (∀ j, i ≤ j → left[j]? = items[j + 1]?) → TakesOut segment (.list items) (.list left)

theorem takesOut_withoutChild (found : value.child? a = some old) :
    TakesOut a value (value.withoutChild a) := by
  cases value with
  | map entries =>
    exact .entry (Entries.get?_erase_self a entries) fun other different =>
      Entries.get?_erase_of_ne different entries
  | list items =>
    obtain ⟨i, index, held⟩ := Option.bind_eq_some_iff.1 found
    obtain ⟨bound, -⟩ := List.getElem?_eq_some_iff.1 held
    have left : (list items).withoutChild a = .list (items.eraseIdx i) := by
      simp only [withoutChild, index]
    rw [left]
    refine .item index bound ?_ (fun j before => ?_) fun j behind => ?_
    · rw [List.length_eraseIdx_of_lt bound]
      omega
    · rw [List.getElem?_eraseIdx, if_pos before]
    · rw [List.getElem?_eraseIdx, if_neg (Nat.not_lt.2 behind)]
  | _ => cases found

/-- The last segment takes a child out, or selects nothing and leaves the value as it is. -/
theorem removeLast_cases (path a : String) (value : Value) :
    (∃ old, value.child? a = some old ∧
        removeLast path a value = ⟨.ok old, value.withoutChild a⟩) ∨
      (value.child? a = none ∧
        removeLast path a value = ⟨.error (value.missingChild path a), value⟩) := by
  cases value with
  | map entries =>
    cases held : Entries.get? entries a with
    | some old => exact .inl ⟨old, held, by simp only [removeLast, held, withoutChild]⟩
    | none => exact .inr ⟨held, by simp only [removeLast, held, missingChild]⟩
  | list items =>
    cases index : Path.index? a with
    | none =>
      exact .inr ⟨by rw [child?, index, Option.bind_none], by
        simp only [removeLast, index, missingChild]⟩
    | some i =>
      cases held : items[i]? with
      | some old =>
        exact .inl ⟨old, by rw [child?, index, Option.bind_some, held], by
          simp only [removeLast, index, held, withoutChild]⟩
      | none =>
        exact .inr ⟨by rw [child?, index, Option.bind_some, held], by
          simp only [removeLast, index, held, missingChild]⟩
  | _ => exact .inr ⟨rfl, rfl⟩

/-- What stands at a path is the child that its last segment selects. -/
theorem getAt?_eq_child? (split : Path.valueSegments path = p ++ [last])
    (there : root.get? p = some container) : root.getAt? path = container.child? last := by
  rw [getAt?, split, get?_append, there, Option.bind_some, get?]
  cases container.child? last <;> rfl

/-- What removing a path comes to: the child that its last segment selects is taken out, or there is
nothing at the path and the value stays what it was. -/
theorem remove_cases (root : Value) (path : String) :
    (∃ parents last container old after, Path.valueSegments path = parents ++ [last] ∧
        root.get? parents = some container ∧ container.child? last = some old ∧
        Replaced root parents (container.withoutChild last) after ∧
        root.remove path = (some old, after)) ∨
      ((Path.valueSegments path ≠ [] → root.getAt? path = none) ∧
        root.remove path = (none, root)) := by
  rcases List.eq_nil_or_concat' (Path.valueSegments path) with whole | ⟨parents, last, split⟩
  · exact .inr ⟨fun parted => absurd whole parted, by simp [remove, whole]⟩
  · have answer : root.remove path =
        ((root.update path (removeLast path last) parents).answer.toOption,
          (root.update path (removeLast path last) parents).left) := by
      simp only [remove, split, List.getLast?_append, List.getLast?_singleton,
        List.dropLast_concat, Option.some_or]
    rw [answer]
    rcases update_cases path (removeLast path last) root parents with
      ⟨container, after, there, replaced, updated⟩ | ⟨_, _, _, stops, updated⟩
    · rcases removeLast_cases path last container with ⟨_, found, removed⟩ | ⟨nothing, removed⟩
      · rw [removed] at replaced updated
        exact .inl ⟨parents, last, container, _, after, split, there, found, replaced,
          by rw [updated]; rfl⟩
      · rw [removed] at replaced updated
        rw [replaced.unique (.self there)] at updated
        exact .inr ⟨fun _ => (getAt?_eq_child? split there).trans nothing, by rw [updated]; rfl⟩
    · refine .inr ⟨fun _ => ?_, by rw [updated]; rfl⟩
      rw [getAt?, split, get?_append, get?_eq_none_of_stop? stops, Option.bind_none]

/-- Taking out a path is editing it in place, for those who need the changed value. -/
theorem removeAt?_eq_some_iff :
    root.removeAt? path = some (old, after) ↔ root.remove path = (some old, after) := by
  unfold removeAt?
  rcases root.remove path with ⟨_ | removed, left⟩ <;> simp

/-- Nothing is taken out exactly if the edit answers nothing. -/
theorem removeAt?_eq_none_iff : root.removeAt? path = none ↔ (root.remove path).1 = none := by
  unfold removeAt?
  rcases root.remove path with ⟨_ | removed, left⟩ <;> simp

/-- What comes of removing a path for those who need the changed value, in the same cases. -/
theorem removeAt?_cases (root : Value) (path : String) :
    (∃ parents last container old after, Path.valueSegments path = parents ++ [last] ∧
        root.get? parents = some container ∧ container.child? last = some old ∧
        Replaced root parents (container.withoutChild last) after ∧
        root.removeAt? path = some (old, after)) ∨
      ((Path.valueSegments path ≠ [] → root.getAt? path = none) ∧
        root.removeAt? path = none) := by
  rcases remove_cases root path with
    ⟨parents, last, container, old, after, split, there, found, replaced, removed⟩ |
      ⟨nothing, removed⟩
  · exact .inl ⟨parents, last, container, old, after, split, there, found, replaced,
      removeAt?_eq_some_iff.2 removed⟩
  · exact .inr ⟨nothing, removeAt?_eq_none_iff.2 (by rw [removed])⟩

/-! ## What is put back -/

/-- Parts of a value in order are in order. -/
theorem Ordered.child? (ordered : value.Ordered) (found : value.child? a = some inner) :
    inner.Ordered := by
  cases value with
  | map entries => exact ordered.ofEntry (Entries.mem_of_get? found)
  | list items =>
    obtain ⟨i, -, held⟩ := Option.bind_eq_some_iff.1 found
    exact ordered.ofItem (List.mem_of_getElem? held)
  | _ => cases found

/-- What a path leads to in a value in order is in order. -/
theorem Ordered.get? (ordered : value.Ordered) (there : value.get? segments = some inner) :
    inner.Ordered := by
  induction segments generalizing value with
  | nil =>
    cases there
    exact ordered
  | cons segment rest ih =>
    obtain ⟨child, found, below⟩ := Option.bind_eq_some_iff.1 there
    exact ih (ordered.child? found) below

/-- Putting the old part back undoes putting another in its place. -/
theorem setChild_setChild (found : value.child? a = some old) (new : Value) :
    (value.setChild a new).setChild a old = value := by
  cases value with
  | map entries => simp only [setChild, Entries.replace_replace, Entries.replace_self found]
  | list items =>
    obtain ⟨i, index, held⟩ := Option.bind_eq_some_iff.1 found
    obtain ⟨bound, rfl⟩ := List.getElem?_eq_some_iff.1 held
    simp only [setChild, index, List.set_set, List.set_getElem_self]
  | _ => cases found

/-- What stood at the end of a walk takes its place again, and the whole is what it was. -/
theorem Replaced.restores (replaced : Replaced root p new after)
    (there : root.get? p = some old) : Replaced after p old root := by
  induction p generalizing root after with
  | nil =>
    cases there
    rfl
  | cons segment rest ih =>
    obtain ⟨child, child', found, below, rfl⟩ := replaced
    rw [Value.get?, found, Option.bind_some] at there
    exact ⟨child', child, child?_setChild_self found, ih below there,
      (setChild_setChild found child').symm⟩

theorem get?_of_replaced_self (replaced : Replaced root p new after) : after.get? p = some new := by
  have there := get?_of_replaced (q := []) replaced
  rwa [List.append_nil] at there

/-- Taking out a part undoes adding it. -/
theorem withoutChild_addChild (ordered : value.Ordered) (room : value.HasRoom a) (new : Value) :
    (value.addChild a new).withoutChild a = value := by
  cases value with
  | map entries => simp only [addChild, withoutChild, Entries.erase_insert ordered.ascending room]
  | list items =>
    have index : Path.index? a = some items.length := room
    simp [addChild, withoutChild, index, List.eraseIdx_append_of_length_le]
  | _ => exact room.elim

/-! ## Edits undone -/

/-- Setting a path where a value stands puts the new one in its place. -/
theorem setAt_of_replaced (there : root.getAt? path = some old)
    (replaced : Replaced root (Path.valueSegments path) new after) :
    root.setAt path new = .ok (some old, after) := by
  rcases setAt_cases root path new with ⟨_, _, there', replaced', set⟩ | added | refused
  · cases there.symm.trans there'
    rw [set, replaced.unique replaced']
  · obtain ⟨parents, last, container, _, split, there', room, -, -⟩ := added
    rw [getAt?_eq_child? split there', child?_of_hasRoom room] at there
    cases there
  · obtain ⟨_, _, _, stops, -, -⟩ := refused
    cases there.symm.trans (get?_eq_none_of_stop? stops)

/-- Setting a path behind which there is room adds a part. -/
theorem setAt_of_hasRoom (split : Path.valueSegments path = p ++ [last])
    (there : root.get? p = some container) (room : container.HasRoom last)
    (replaced : Replaced root p (container.addChild last new) after) :
    root.setAt path new = .ok (none, after) := by
  have nothing : root.getAt? path = none :=
    (getAt?_eq_child? split there).trans (child?_of_hasRoom room)
  rcases setAt_cases root path new with ⟨_, _, there', -, -⟩ | added | refused
  · cases nothing.symm.trans there'
  · obtain ⟨_, _, _, _, split', there', -, replaced', set⟩ := added
    obtain ⟨rfl, same⟩ := List.append_inj' (split.symm.trans split') rfl
    cases same
    cases there.symm.trans there'
    rw [set, replaced.unique replaced']
  · obtain ⟨_, _, _, stops, noRoom, -⟩ := refused
    have stops' := stop?_eq_some_iff.2 ⟨p, split, there, child?_of_hasRoom room⟩
    cases stops.symm.trans stops'
    exact absurd room (noRoom rfl)

/-- Taking out a path takes its last part out of what is around it. -/
theorem removeAt?_of_child? (split : Path.valueSegments path = p ++ [last])
    (there : root.get? p = some container) (found : container.child? last = some old)
    (replaced : Replaced root p (container.withoutChild last) after) :
    root.removeAt? path = some (old, after) := by
  rcases removeAt?_cases root path with
    ⟨_, _, _, _, _, split', there', found', replaced', removed⟩ | ⟨nothing, -⟩
  · obtain ⟨rfl, same⟩ := List.append_inj' (split.symm.trans split') rfl
    cases same
    cases there.symm.trans there'
    cases found.symm.trans found'
    rw [removed, replaced.unique replaced']
  · have nothing := nothing (by simp [split])
    rw [getAt?_eq_child? split there, found] at nothing
    cases nothing

/-- Removing what setting a path has added restores the value. -/
theorem removeAt?_of_added (ordered : root.Ordered)
    (set : root.setAt path new = .ok (none, after)) :
    after.removeAt? path = some (new, root) := by
  rcases setAt_cases root path new with ⟨_, _, -, -, set'⟩ | added | ⟨_, _, _, -, -, set'⟩
  · cases set.symm.trans set'
  · obtain ⟨parents, last, container, _, split, there, room, replaced, set'⟩ := added
    cases set.symm.trans set'
    refine removeAt?_of_child? split (get?_of_replaced_self replaced)
      (child?_addChild_self room) ?_
    rw [withoutChild_addChild (ordered.get? there) room]
    exact replaced.restores there
  · cases set.symm.trans set'

/-- Setting a path to what was replaced there restores the value. -/
theorem setAt_of_set (set : root.setAt path new = .ok (some old, after)) :
    after.setAt path old = .ok (some new, root) := by
  rcases setAt_cases root path new with ⟨_, _, there, replaced, set'⟩ | added | refused
  · cases set.symm.trans set'
    exact setAt_of_replaced (get?_of_replaced_self replaced) (replaced.restores there)
  · obtain ⟨_, _, _, _, -, -, -, -, set'⟩ := added
    cases set.symm.trans set'
  · obtain ⟨_, _, _, -, -, set'⟩ := refused
    cases set.symm.trans set'

/-- Setting a path to what was removed there from a map restores the value. -/
theorem setAt_of_removed (ordered : root.Ordered) {entries : Document}
    (removed : root.removeAt? path = some (old, after))
    (split : Path.valueSegments path = p ++ [last]) (there : root.get? p = some (.map entries)) :
    after.setAt path old = .ok (none, root) := by
  rcases removeAt?_cases root path with
    ⟨_, _, _, _, _, split', there', found, replaced, removed'⟩ | ⟨-, none⟩
  · obtain ⟨rfl, same⟩ := List.append_inj' (split.symm.trans split') rfl
    cases same
    cases there.symm.trans there'
    cases removed.symm.trans removed'
    have whole : ((map entries).withoutChild last).addChild last old = .map entries :=
      congrArg map (Entries.insert_erase (ordered.get? there).ascending found)
    refine setAt_of_hasRoom split (get?_of_replaced_self replaced)
      (Entries.get?_erase_self last entries) ?_
    rw [whole]
    exact replaced.restores there
  · cases removed.symm.trans none

/-- What is left of a value after removing a path of it, whether or not something stands there. -/
def afterRemoving (root : Value) (path : String) : Value :=
  (root.remove path).2

/-- Where nothing is removed, the value stays what it was. -/
theorem afterRemoving_of_none (nothing : root.removeAt? path = none) :
    root.afterRemoving path = root := by
  rw [removeAt?_eq_none_iff] at nothing
  rcases remove_cases root path with ⟨_, _, _, _, _, -, -, -, -, removed⟩ | ⟨-, removed⟩
  · rw [removed] at nothing
    cases nothing
  · rw [afterRemoving, removed]

/-- Removing a path answers what stands at it, unless the path is that of the whole value, and
takes it out of the map or list around it, the rest of the value staying as it is. Where nothing is
removed, the value stays what it was. Edits are undone exactly: what was added is removed again,
and what was replaced, or removed from a map, is set again. -/
theorem removal_lawful (ordered : root.Ordered) (path : String) :
    (∀ old, (∃ after, root.removeAt? path = some (old, after)) ↔
      Path.valueSegments path ≠ [] ∧ root.getAt? path = some old) ∧
    (root.removeAt? path = none → root.afterRemoving path = root) ∧
    (∀ old after, root.removeAt? path = some (old, after) → root.afterRemoving path = after ∧
      ∃ parents last container left, Path.valueSegments path = parents ++ [last] ∧
        root.get? parents = some container ∧ after.get? parents = some left ∧
        TakesOut last container left ∧ Replaced root parents left after) ∧
    (∀ new after, root.setAt path new = .ok (none, after) →
      after.removeAt? path = some (new, root)) ∧
    (∀ new old after, root.setAt path new = .ok (some old, after) →
      after.setAt path old = .ok (some new, root)) ∧
    ∀ old after, root.removeAt? path = some (old, after) →
      ∀ parents last entries, Path.valueSegments path = parents ++ [last] →
        root.get? parents = some (.map entries) → after.setAt path old = .ok (none, root) := by
  refine ⟨fun old => ?_, afterRemoving_of_none, fun old after removed => ?_,
    fun new after => removeAt?_of_added ordered, fun new old after => setAt_of_set,
    fun old after removed parents last entries => setAt_of_removed ordered removed⟩
  · rcases removeAt?_cases root path with
      ⟨parents, last, container, x, after, split, there, found, -, removed⟩ | ⟨nothing, none⟩
    · have stands : root.getAt? path = some x := (getAt?_eq_child? split there).trans found
      simp [removed, stands, split]
    · simp only [none, reduceCtorEq, exists_false, false_iff, not_and]
      intro parted there
      cases (nothing parted).symm.trans there
  · refine ⟨by rw [afterRemoving, removeAt?_eq_some_iff.1 removed], ?_⟩
    rcases removeAt?_cases root path with
      ⟨parents, last, container, _, _, split, there, found, replaced, removed'⟩ | ⟨-, none⟩
    · cases removed.symm.trans removed'
      exact ⟨parents, last, container, _, split, there, get?_of_replaced_self replaced,
        takesOut_withoutChild found, replaced⟩
    · cases removed.symm.trans none

/-- An element that is added to a list, one that is replaced, and a list that is taken out of a
map, are all undone. -/
theorem removal_lawful_table :
    table.Ordered ∧
      table.removeAt? "rows.0" = some (.int 1, .map [("rows", .list [.int 2])]) ∧
      table.setAt "rows.2" .null =
        .ok (none, .map [("rows", .list [.int 1, .int 2, .null])]) ∧
      removeAt? (.map [("rows", .list [.int 1, .int 2, .null])]) "rows.2" = some (.null, table) ∧
      table.setAt "rows.0" .null =
        .ok (some (.int 1), .map [("rows", .list [.null, .int 2])]) ∧
      setAt (.map [("rows", .list [.null, .int 2])]) "rows.0" (.int 1) = .ok (some .null, table) ∧
      table.removeAt? "$.rows" = some (.list [.int 1, .int 2], .map []) ∧
      setAt (.map []) "$.rows" (.list [.int 1, .int 2]) = .ok (none, table) := by
  have ordered : table.Ordered := by
    simp [table, Ordered, OrderedEntries, OrderedList, Entries.Ascending]
  exact ⟨ordered, rfl, rfl, (removal_lawful ordered "rows.2").2.2.2.1 _ _ rfl, rfl,
    (removal_lawful ordered "rows.0").2.2.2.2.1 _ _ _ rfl, rfl,
    (removal_lawful ordered "$.rows").2.2.2.2.2 _ _ rfl [] "rows" _ rfl rfl⟩

end Value

end DocumentSchema

import DocumentSchema.Proofs.Path.Replacement

/-!
Reading and setting values at paths.

A walk along segments stops at the first one that selects nothing (`Value.stop?`). Setting a path
replaces what stands at it, adds a child where only the last segment selects nothing and there is
room for it (`Value.HasRoom`), and fails otherwise (`Value.setAt_cases`). It changes what stands at
the path and nothing else: a path whose walk enters some map or list through another child leads to
the same value as before (`Value.WalksPart`). `Value.setAt_lawful` puts this together.
-/

namespace DocumentSchema.Value

variable {value inner inner' new after old stop container root : Value}
  {path a b last segment : String} {p q segments behind rest : List String}

/-! ## Children -/

/-- Maps and lists have children. -/
def IsContainer : Value → Prop
  | .map _ => True
  | .list _ => True
  | _ => False

/-- Two segments stand for different children of a map or a list: for different keys, or not for
the same index. -/
def Separates (value : Value) (a b : String) : Prop :=
  match value with
  | .map _ => a ≠ b
  | .list _ => Path.index? a ≠ Path.index? b
  | _ => False

/-- A child can be added under a segment: a new key of a map, or the element behind the last one of
a list. -/
def HasRoom (value : Value) (segment : String) : Prop :=
  match value with
  | .map entries => Entries.get? entries segment = none
  | .list items => Path.index? segment = some items.length
  | _ => False

/-- Adds a child where there is room for it. -/
def addChild (value : Value) (segment : String) (new : Value) : Value :=
  match value with
  | .map entries => .map (Entries.insert segment new entries)
  | .list items => .list (items ++ [new])
  | _ => value

/-- Segments that do not stand for different children select the same. -/
theorem child?_eq_of_not_separates (same : ¬value.Separates a b) :
    value.child? b = value.child? a := by
  cases value with
  | map entries => rw [Decidable.not_not.1 (show ¬a ≠ b from same)]
  | list items =>
    have same : Path.index? a = Path.index? b := Decidable.not_not.1 same
    rw [child?, child?, same]
  | _ => rfl

/-- What is put in the place of a part is found there. -/
theorem child?_setChild_self (found : value.child? a = some inner) :
    (value.setChild a new).child? a = some new := by
  cases value with
  | map entries => exact Entries.get?_replace_self found new
  | list items =>
    obtain ⟨i, index, held⟩ := Option.bind_eq_some_iff.1 found
    obtain ⟨bound, -⟩ := List.getElem?_eq_some_iff.1 held
    simp only [setChild, index, child?, Option.bind_some, List.getElem?_set_self bound]
  | _ => cases found

/-- Other parts stay when one is put in its place. -/
theorem child?_setChild_of_separates (apart : value.Separates a b) :
    (value.setChild a new).child? b = value.child? b := by
  cases value with
  | map entries => exact Entries.get?_replace_of_ne (Ne.symm apart) new entries
  | list items =>
    cases index : Path.index? a with
    | none => simp only [setChild, index]
    | some i =>
      have other : Path.index? b ≠ some i := fun same => apart (index.trans same.symm)
      cases index' : Path.index? b with
      | none => simp only [setChild, index, child?, index', Option.bind_none]
      | some j =>
        have different : i ≠ j := fun same => other (by rw [index', same])
        simp only [setChild, index, child?, index', Option.bind_some,
          List.getElem?_set_ne different]
  | _ => exact apart.elim

/-- A child in its own place changes nothing. -/
theorem setChild_child? (found : value.child? a = some inner) : value.setChild a inner = value := by
  cases value with
  | map entries => exact congrArg map (Entries.replace_self found)
  | list items =>
    obtain ⟨i, index, held⟩ := Option.bind_eq_some_iff.1 found
    obtain ⟨bound, rfl⟩ := List.getElem?_eq_some_iff.1 held
    simp only [setChild, index, List.set_getElem_self]
  | _ => cases found

/-- A segment that stands for the same child selects what is put there. -/
theorem child?_setChild_of_not_separates (found : value.child? a = some inner)
    (same : ¬value.Separates a b) : (value.setChild a new).child? b = some new := by
  cases value with
  | map entries =>
    rw [← Decidable.not_not.1 (show ¬a ≠ b from same)]
    exact child?_setChild_self found
  | list items =>
    have selected : ((list items).setChild a new).child? a = some new := child?_setChild_self found
    obtain ⟨i, index, -⟩ := Option.bind_eq_some_iff.1 found
    have index' : Path.index? b = some i := (Decidable.not_not.1 same).symm.trans index
    simp only [setChild, child?, index, index'] at selected ⊢
    exact selected
  | _ => cases found

theorem child?_of_hasRoom (room : value.HasRoom a) : value.child? a = none := by
  cases value with
  | map entries => exact room
  | list items =>
    have index : Path.index? a = some items.length := room
    simp only [child?, index, Option.bind_some, List.getElem?_eq_none (Nat.le_refl _)]
  | _ => exact room.elim

theorem isContainer_of_hasRoom (room : value.HasRoom a) : value.IsContainer := by
  cases value with
  | map entries => trivial
  | list items => trivial
  | _ => exact room.elim

/-- A part that is added is found where it was added. -/
theorem child?_addChild_self (room : value.HasRoom a) :
    (value.addChild a new).child? a = some new := by
  cases value with
  | map entries => exact Entries.get?_insert_self a new entries
  | list items =>
    have index : Path.index? a = some items.length := room
    simp only [addChild, child?, index, Option.bind_some, List.getElem?_concat_length]
  | _ => exact room.elim

/-- Other parts stay when one is added. -/
theorem child?_addChild_of_separates (room : value.HasRoom a) (apart : value.Separates a b) :
    (value.addChild a new).child? b = value.child? b := by
  cases value with
  | map entries => exact Entries.get?_insert_of_ne (Ne.symm apart) new entries
  | list items =>
    have index : Path.index? a = some items.length := room
    cases index' : Path.index? b with
    | none => simp only [addChild, child?, index', Option.bind_none]
    | some j =>
      have notLast : j ≠ items.length := fun same => apart (by rw [index, index', same])
      simp only [addChild, child?, index', Option.bind_some]
      rcases Nat.lt_or_gt_of_ne notLast with before | behind
      · exact List.getElem?_append_left before
      · rw [List.getElem?_eq_none (Nat.le_of_lt behind), List.getElem?_eq_none]
        rw [List.length_append, List.length_singleton]
        exact behind
  | _ => exact room.elim

theorem missingChild_of_isContainer (isContainer : value.IsContainer) :
    value.missingChild path a = .notFound path a := by
  cases value <;> first | rfl | exact isContainer.elim

theorem missingChild_of_not_isContainer (notContainer : ¬value.IsContainer) :
    value.missingChild path a = .notContainer path a value.typeName := by
  cases value <;> first | rfl | exact absurd trivial notContainer

/-- Only maps and lists have parts. -/
theorem child?_of_not_isContainer (notContainer : ¬value.IsContainer) : value.child? a = none := by
  cases value <;> first | rfl | exact absurd trivial notContainer

/-- The last segment replaces a child, adds one, or selects nothing and changes nothing. -/
theorem setLast_cases (path a : String) (new value : Value) :
    (∃ old, value.child? a = some old ∧
        setLast path a new value = ⟨.ok (some old), value.setChild a new⟩) ∨
      (value.HasRoom a ∧ setLast path a new value = ⟨.ok none, value.addChild a new⟩) ∨
      (value.child? a = none ∧ ¬value.HasRoom a ∧
        setLast path a new value = ⟨.error (value.missingChild path a), value⟩) := by
  cases value with
  | map entries =>
    cases held : Entries.get? entries a with
    | some old => exact .inl ⟨old, held, by simp only [setLast, held, setChild]⟩
    | none => exact .inr (.inl ⟨held, by simp only [setLast, held, addChild]⟩)
  | list items =>
    cases index : Path.index? a with
    | none =>
      refine .inr (.inr ⟨by rw [child?, index, Option.bind_none], fun room => ?_, ?_⟩)
      · cases index.symm.trans room
      · simp only [setLast, index, missingChild]
    | some i =>
      cases held : items[i]? with
      | some old =>
        refine .inl ⟨old, by rw [child?, index, Option.bind_some, held], ?_⟩
        simp only [setLast, index, held, setChild]
      | none =>
        by_cases isNext : i = items.length
        · subst isNext
          exact .inr (.inl ⟨index, by simp only [setLast, index, held, if_true, addChild]⟩)
        · refine .inr (.inr ⟨by rw [child?, index, Option.bind_some, held], fun room => ?_, ?_⟩)
          · exact isNext (Option.some.inj (index.symm.trans room))
          · simp only [setLast, index, held, if_neg isNext, missingChild]
  | _ => exact .inr (.inr ⟨rfl, False.elim, rfl⟩)

/-! ## Walks -/

/-- Where a walk stops short: the value in which a segment selects nothing, that segment, and those
behind it. -/
def stop? : Value → List String → Option (Value × String × List String)
  | _, [] => none
  | value, segment :: rest =>
    match value.child? segment with
    | some inner => stop? inner rest
    | none => some (value, segment, rest)

/-- Two walks from a value part: they enter a map or a list through different children, this one or
one to which both lead. -/
inductive WalksPart : Value → List String → List String → Prop
  | here {value : Value} {a b : String} {p q : List String} :
      value.Separates a b → WalksPart value (a :: p) (b :: q)
  | further {value inner : Value} {a b : String} {p q : List String} : ¬value.Separates a b →
      value.child? a = some inner → WalksPart inner p q → WalksPart value (a :: p) (b :: q)

/-- Segments stop at the first one that selects nothing. -/
theorem stop?_eq_some_iff :
    value.stop? segments = some (stop, segment, behind) ↔
      ∃ before, segments = before ++ segment :: behind ∧ value.get? before = some stop ∧
        stop.child? segment = none := by
  induction segments generalizing value with
  | nil => simp [stop?]
  | cons first rest ih =>
    rw [stop?]
    cases found : value.child? first with
    | none =>
      constructor
      · rintro ⟨⟩
        exact ⟨[], rfl, rfl, found⟩
      · rintro ⟨before, split, there, nothing⟩
        cases before with
        | nil =>
          cases split
          cases there
          rfl
        | cons _ _ =>
          cases split
          simp only [get?, found, Option.bind_none, reduceCtorEq] at there
    | some inner =>
      refine ih.trans ⟨?_, ?_⟩
      · rintro ⟨before, rfl, there, nothing⟩
        exact ⟨first :: before, rfl, by rw [get?, found, Option.bind_some, there], nothing⟩
      · rintro ⟨before, split, there, nothing⟩
        cases before with
        | nil =>
          cases split
          cases there
          cases found.symm.trans nothing
        | cons _ others =>
          cases split
          rw [get?, found, Option.bind_some] at there
          exact ⟨others, rfl, there, nothing⟩

/-- Segments lead on from where those before them led. -/
theorem get?_append (value : Value) (p q : List String) :
    value.get? (p ++ q) = (value.get? p).bind fun inner => inner.get? q := by
  induction p generalizing value with
  | nil => rfl
  | cons segment rest ih =>
    rw [List.cons_append, get?, get?]
    cases value.child? segment with
    | none => rfl
    | some inner => exact ih inner

/-- A walk leads somewhere unless it stops short. -/
theorem get?_eq_none_of_stop? (stops : value.stop? segments = some (stop, segment, behind)) :
    value.get? segments = none := by
  induction segments generalizing value with
  | nil => cases stops
  | cons first rest ih =>
    rw [stop?] at stops
    rw [get?]
    cases found : value.child? first with
    | none => rfl
    | some inner =>
      rw [found] at stops
      exact ih stops

/-- What is left by putting a value in its place is determined. -/
theorem Replaced.unique {after' : Value} (replaced : Replaced value p new after)
    (replaced' : Replaced value p new after') : after = after' := by
  induction p generalizing value after after' with
  | nil => exact Eq.trans replaced (Eq.symm replaced')
  | cons segment rest ih =>
    obtain ⟨inner, whole, found, below, rfl⟩ := replaced
    obtain ⟨inner', whole', found', below', rfl⟩ := replaced'
    cases found.symm.trans found'
    rw [ih below below']

/-- What stands at the end of a walk, put there again, changes nothing. -/
theorem Replaced.self (there : value.get? p = some inner) : Replaced value p inner value := by
  induction p generalizing value with
  | nil =>
    cases there
    rfl
  | cons segment rest ih =>
    obtain ⟨child, found, below⟩ := Option.bind_eq_some_iff.1 there
    exact ⟨child, child, found, ih below, (setChild_child? found).symm⟩

/-- What is put at the end of a walk is found there. -/
theorem get?_of_replaced (replaced : Replaced value p new after) :
    after.get? (p ++ q) = new.get? q := by
  induction p generalizing value after with
  | nil =>
    cases replaced
    rfl
  | cons segment rest ih =>
    obtain ⟨inner, inner', found, below, rfl⟩ := replaced
    rw [List.cons_append, get?, child?_setChild_self found, Option.bind_some, ih below]

/-- Where what is put at the end of a walk keeps what some further segments do not lead to, so does
the whole. -/
theorem get?_of_walksPart (replaced : Replaced value p inner' after)
    (there : value.get? p = some inner)
    (kept : ∀ q, WalksPart inner rest q → inner'.get? q = inner.get? q)
    (apart : WalksPart value (p ++ rest) q) : after.get? q = value.get? q := by
  induction p generalizing value after q with
  | nil =>
    cases replaced
    cases there
    exact kept q apart
  | cons segment others ih =>
    obtain ⟨child, child', found, below, rfl⟩ := replaced
    rw [get?, found, Option.bind_some] at there
    cases apart with
    | here separates => rw [get?, get?, child?_setChild_of_separates separates]
    | further same found' part =>
      cases found.symm.trans found'
      rw [get?, get?, child?_setChild_of_not_separates found same,
        child?_eq_of_not_separates same, found, Option.bind_some, Option.bind_some,
        ih below there part]

/-- An edit is made at the end of a walk, or the walk stops short and changes nothing. -/
theorem update_cases {α : Type} (path : String) (edit : Value → Edited α) (value : Value)
    (p : List String) :
    (∃ inner after, value.get? p = some inner ∧ Replaced value p (edit inner).left after ∧
        value.update path edit p = ⟨(edit inner).answer, after⟩) ∨
      ∃ stop segment behind, value.stop? p = some (stop, segment, behind) ∧
        value.update path edit p = ⟨.error (stop.missingChild path segment), value⟩ := by
  induction p generalizing value with
  | nil => exact .inl ⟨value, _, rfl, rfl, rfl⟩
  | cons segment rest ih =>
    rw [get?, stop?, update]
    cases found : value.child? segment with
    | none => exact .inr ⟨value, segment, rest, rfl, rfl⟩
    | some child =>
      rcases ih child with ⟨inner, after, there, replaced, edited⟩ |
        ⟨stop, left, behind, stops, edited⟩
      · exact .inl ⟨inner, value.setChild segment after, there,
          ⟨child, after, found, replaced, rfl⟩, by simp only [edited]⟩
      · exact .inr ⟨stop, left, behind, stops, by simp only [edited, setChild_child? found]⟩

/-! ## Paths -/

/-- What assigning to a path comes to: the child that its segments lead to is replaced, or one is
added under the last of them, or a segment selects nothing and the value stays what it was. -/
theorem assign_cases (root : Value) (path : String) (new : Value) :
    (∃ old after, root.getAt? path = some old ∧
        Replaced root (Path.valueSegments path) new after ∧
        root.assign path new = ⟨.ok (some old), after⟩) ∨
      (∃ parents last container after, Path.valueSegments path = parents ++ [last] ∧
        root.get? parents = some container ∧ container.HasRoom last ∧
        Replaced root parents (container.addChild last new) after ∧
        root.assign path new = ⟨.ok none, after⟩) ∨
      ∃ stop segment behind,
        root.stop? (Path.valueSegments path) = some (stop, segment, behind) ∧
        (behind = [] → ¬stop.HasRoom segment) ∧
        root.assign path new = ⟨.error (stop.missingChild path segment), root⟩ := by
  rcases List.eq_nil_or_concat' (Path.valueSegments path) with whole | ⟨parents, last, split⟩
  · refine .inl ⟨root, new, by rw [getAt?, whole, get?], by rw [whole, Replaced], ?_⟩
    simp only [assign, whole, List.getLast?_nil]
  · have answer : root.assign path new = root.update path (setLast path last new) parents := by
      simp only [assign, split, List.getLast?_append, List.getLast?_singleton,
        List.dropLast_concat, Option.some_or]
    rw [answer]
    rcases update_cases path (setLast path last new) root parents with
      ⟨container, after, there, replaced, updated⟩ | ⟨stop, segment, behind, stops, updated⟩
    · rcases setLast_cases path last new container with
        ⟨old, found, set⟩ | ⟨room, set⟩ | ⟨nothing, noRoom, set⟩
      · rw [set] at updated
        refine .inl ⟨old, after, ?_, ?_, updated⟩
        · rw [getAt?, split, get?_append, there]
          simp only [Option.bind_some, get?, found]
        · rw [split]
          exact replaced_of_update updated
      · rw [set] at replaced updated
        exact .inr (.inl ⟨parents, last, container, after, split, there, room, replaced, updated⟩)
      · rw [set] at replaced updated
        rw [replaced.unique (.self there)] at updated
        refine .inr (.inr ⟨container, last, [], ?_, fun _ => noRoom, updated⟩)
        exact stop?_eq_some_iff.2 ⟨parents, split, there, nothing⟩
    · obtain ⟨before, cut, there, nothing⟩ := stop?_eq_some_iff.1 stops
      refine .inr (.inr ⟨stop, segment, behind ++ [last], ?_, fun empty => ?_, updated⟩)
      · refine stop?_eq_some_iff.2 ⟨before, ?_, there, nothing⟩
        rw [split, cut, List.append_assoc, List.cons_append]
      · exact absurd empty (by simp)

/-- What setting a path comes to, in the same cases. -/
theorem setAt_cases (root : Value) (path : String) (new : Value) :
    (∃ old after, root.getAt? path = some old ∧
        Replaced root (Path.valueSegments path) new after ∧
        root.setAt path new = .ok (some old, after)) ∨
      (∃ parents last container after, Path.valueSegments path = parents ++ [last] ∧
        root.get? parents = some container ∧ container.HasRoom last ∧
        Replaced root parents (container.addChild last new) after ∧
        root.setAt path new = .ok (none, after)) ∨
      ∃ stop segment behind,
        root.stop? (Path.valueSegments path) = some (stop, segment, behind) ∧
        (behind = [] → ¬stop.HasRoom segment) ∧
        root.setAt path new = .error (stop.missingChild path segment) := by
  rcases assign_cases root path new with ⟨old, after, there, replaced, assigned⟩ |
    ⟨parents, last, container, after, split, there, room, replaced, assigned⟩ |
      ⟨stop, segment, behind, stops, noRoom, assigned⟩
  · exact .inl ⟨old, after, there, replaced, setAt_eq_ok_iff.2 assigned⟩
  · exact .inr (.inl ⟨parents, last, container, after, split, there, room, replaced,
      setAt_eq_ok_iff.2 assigned⟩)
  · exact .inr (.inr ⟨stop, segment, behind, stops, noRoom,
      setAt_eq_error_iff.2 (by rw [assigned])⟩)

/-- Replacing what stands at a path is setting the path where something stands at it. -/
theorem replaceAt?_eq_some_iff :
    root.replaceAt? path new = some (old, after) ↔ root.setAt path new = .ok (some old, after) := by
  have exchanged := update_cases path (fun old => ⟨.ok old, new⟩) root (Path.valueSegments path)
  rcases setAt_cases root path new with ⟨old', after', there, replaced, set⟩ | added | refused
  · rcases exchanged with ⟨inner, whole, found, replaced', updated⟩ | ⟨_, _, _, stops, -⟩
    · cases there.symm.trans found
      rw [replaceAt?, exchange, set, updated, replaced.unique replaced']
      simp [Except.toOption]
    · cases there.symm.trans (get?_eq_none_of_stop? stops)
  · obtain ⟨parents, last, container, after', split, there, room, -, set⟩ := added
    have stops : root.stop? (Path.valueSegments path) = some (container, last, []) :=
      stop?_eq_some_iff.2 ⟨parents, split, there, child?_of_hasRoom room⟩
    rcases exchanged with ⟨inner, _, found, -⟩ | ⟨_, _, _, -, updated⟩
    · cases (get?_eq_none_of_stop? stops).symm.trans found
    · rw [replaceAt?, exchange, set, updated]
      simp [Except.toOption]
  · obtain ⟨stop, segment, behind, stops, -, set⟩ := refused
    rcases exchanged with ⟨inner, _, found, -⟩ | ⟨_, _, _, -, updated⟩
    · cases (get?_eq_none_of_stop? stops).symm.trans found
    · rw [replaceAt?, exchange, set, updated]
      simp [Except.toOption]

/-- What is left of a value after assigning to a path of it, whether or not that fails. -/
def afterSetting (root : Value) (path : String) (new : Value) : Value :=
  (root.assign path new).left

/-- Where assigning fails, the value stays what it was. -/
theorem afterSetting_of_error {error : PathError} (failed : root.setAt path new = .error error) :
    root.afterSetting path new = root := by
  rw [setAt_eq_error_iff] at failed
  rcases assign_cases root path new with
    ⟨_, _, -, -, assigned⟩ | ⟨_, _, _, _, -, -, -, -, assigned⟩ | ⟨_, _, _, -, -, assigned⟩
  · rw [assigned] at failed
    cases failed
  · rw [assigned] at failed
    cases failed
  · rw [afterSetting, assigned]

/-- The last of some segments adds a child to the value that those before it lead to. -/
def Adds (value : Value) (segments : List String) : Prop :=
  ∃ parents last container, segments = parents ++ [last] ∧
    value.get? parents = some container ∧ container.HasRoom last

/-- A segment is left where a walk has come to neither a map nor a list. -/
def Blocked (value : Value) (segments : List String) : Prop :=
  ∃ before segment behind stop, segments = before ++ segment :: behind ∧
    value.get? before = some stop ∧ ¬stop.IsContainer

/-- A walk is blocked if it stops short and does so in neither a map nor a list. -/
theorem blocked_iff : value.Blocked segments ↔
    ∃ stop segment behind, value.stop? segments = some (stop, segment, behind) ∧
      ¬stop.IsContainer := by
  simp only [stop?_eq_some_iff]
  constructor
  · rintro ⟨before, segment, behind, stop, split, there, notContainer⟩
    exact ⟨stop, segment, behind, ⟨before, split, there, child?_of_not_isContainer notContainer⟩,
      notContainer⟩
  · rintro ⟨stop, segment, behind, ⟨before, split, there, -⟩, notContainer⟩
    exact ⟨before, segment, behind, stop, split, there, notContainer⟩

/-- A walk that ends in a new child stops short at its last segment, where there is room. -/
theorem adds_iff : value.Adds segments ↔
    ∃ stop segment, value.stop? segments = some (stop, segment, []) ∧ stop.HasRoom segment := by
  simp only [stop?_eq_some_iff]
  constructor
  · rintro ⟨parents, last, container, split, there, room⟩
    exact ⟨container, last, ⟨parents, split, there, child?_of_hasRoom room⟩, room⟩
  · rintro ⟨stop, segment, ⟨before, split, there, -⟩, room⟩
    exact ⟨before, segment, stop, split, there, room⟩

/-- The four outcomes of setting a path, and when each comes about. -/
theorem setAt_outcome (root : Value) (path : String) (new : Value) :
    (∃ old after, root.getAt? path = some old ∧ ¬root.Adds (Path.valueSegments path) ∧
        ¬root.Blocked (Path.valueSegments path) ∧ root.setAt path new = .ok (some old, after)) ∨
      (∃ after, root.getAt? path = none ∧ root.Adds (Path.valueSegments path) ∧
        ¬root.Blocked (Path.valueSegments path) ∧ root.setAt path new = .ok (none, after)) ∨
      (∃ segment found, root.getAt? path = none ∧ ¬root.Adds (Path.valueSegments path) ∧
        root.Blocked (Path.valueSegments path) ∧
        root.setAt path new = .error (.notContainer path segment found)) ∨
      ∃ segment, root.getAt? path = none ∧ ¬root.Adds (Path.valueSegments path) ∧
        ¬root.Blocked (Path.valueSegments path) ∧
        root.setAt path new = .error (.notFound path segment) := by
  rw [adds_iff, blocked_iff]
  rcases setAt_cases root path new with ⟨old, after, there, -, set⟩ | added | refused
  · have goesOn (stop segment behind) :
        root.stop? (Path.valueSegments path) ≠ some (stop, segment, behind) := by
      intro stops
      cases there.symm.trans (get?_eq_none_of_stop? stops)
    exact .inl ⟨old, after, there, fun ⟨_, _, stops, _⟩ => goesOn _ _ _ stops,
      fun ⟨_, _, _, stops, _⟩ => goesOn _ _ _ stops, set⟩
  · obtain ⟨parents, last, container, after, split, there, room, -, set⟩ := added
    have stops : root.stop? (Path.valueSegments path) = some (container, last, []) :=
      stop?_eq_some_iff.2 ⟨parents, split, there, child?_of_hasRoom room⟩
    refine .inr (.inl ⟨after, get?_eq_none_of_stop? stops, ⟨_, _, stops, room⟩, ?_, set⟩)
    rintro ⟨_, _, _, stops', notContainer⟩
    cases stops.symm.trans stops'
    exact notContainer (isContainer_of_hasRoom room)
  · obtain ⟨stop, segment, behind, stops, noRoom, set⟩ := refused
    have nothing : root.getAt? path = none := get?_eq_none_of_stop? stops
    have notAdds : ¬∃ stop segment, root.stop? (Path.valueSegments path) =
        some (stop, segment, []) ∧ stop.HasRoom segment := by
      rintro ⟨_, _, stops', room⟩
      cases stops.symm.trans stops'
      exact noRoom rfl room
    by_cases isContainer : stop.IsContainer
    · rw [missingChild_of_isContainer isContainer] at set
      refine .inr (.inr (.inr ⟨segment, nothing, notAdds, ?_, set⟩))
      rintro ⟨_, _, _, stops', notContainer⟩
      cases stops.symm.trans stops'
      exact notContainer isContainer
    · rw [missingChild_of_not_isContainer isContainer] at set
      exact .inr (.inr (.inl ⟨segment, _, nothing, notAdds, ⟨_, _, _, stops, isContainer⟩, set⟩))

/-- Setting a path stores the value there, and parting walks lead to what they led to before. -/
theorem getAt?_of_setAt {replaced : Option Value}
    (set : root.setAt path new = .ok (replaced, after)) :
    after.getAt? path = some new ∧
      ∀ other, WalksPart root (Path.valueSegments path) (Path.valueSegments other) →
        after.getAt? other = root.getAt? other := by
  unfold getAt?
  rcases setAt_cases root path new with ⟨old, after', there, stored, set'⟩ | added | refused
  · cases set.symm.trans set'
    have here := get?_of_replaced (q := []) stored
    rw [List.append_nil] at here
    refine ⟨here, fun other apart => ?_⟩
    have nowhere : ∀ q, WalksPart old [] q → new.get? q = old.get? q := fun q part => by cases part
    refine get?_of_walksPart stored there nowhere ?_
    rwa [List.append_nil]
  · obtain ⟨parents, last, container, after', split, there, room, stored, set'⟩ := added
    cases set.symm.trans set'
    rw [split]
    constructor
    · rw [get?_of_replaced stored, get?, child?_addChild_self room, Option.bind_some, get?]
    · refine fun other apart => get?_of_walksPart stored there (fun q part => ?_) apart
      cases part with
      | here separates => rw [get?, get?, child?_addChild_of_separates room separates]
      | further _ found _ => cases (child?_of_hasRoom room).symm.trans found
  · obtain ⟨_, _, _, -, -, set'⟩ := refused
    cases set.symm.trans set'

/-- What stands at a path is what setting that path replaces, also where the path is only set if
something stands there. Nothing is replaced exactly if the last segment adds a child. In both cases
the new value stands at the path afterwards, and every path whose walk parts from it leads to what
it led to before. All else fails and leaves the value as it was: either a segment is left in a value
that is neither a map nor a list, or a segment selects nothing. -/
theorem setAt_lawful (root : Value) (path : String) (new : Value) :
    (∀ old, (∃ after, root.replaceAt? path new = some (old, after)) ↔
      root.getAt? path = some old) ∧
    (∀ old after, root.replaceAt? path new = some (old, after) →
      after = root.afterSetting path new) ∧
    (∀ old, (∃ after, root.setAt path new = .ok (some old, after)) ↔
      root.getAt? path = some old) ∧
    ((∃ after, root.setAt path new = .ok (none, after)) ↔
      root.Adds (Path.valueSegments path)) ∧
    ((∃ replaced after, root.setAt path new = .ok (replaced, after)) →
      (root.afterSetting path new).getAt? path = some new ∧
      ∀ other, WalksPart root (Path.valueSegments path) (Path.valueSegments other) →
        (root.afterSetting path new).getAt? other = root.getAt? other) ∧
    ((∃ error, root.setAt path new = .error error) → root.afterSetting path new = root) ∧
    ((∃ segment found, root.setAt path new = .error (.notContainer path segment found)) ↔
      root.Blocked (Path.valueSegments path)) ∧
    ((∃ segment, root.setAt path new = .error (.notFound path segment)) ↔
      root.getAt? path = none ∧ ¬root.Adds (Path.valueSegments path) ∧
        ¬root.Blocked (Path.valueSegments path)) := by
  have stored {replaced : Option Value} {after : Value}
      (set : root.setAt path new = .ok (replaced, after)) :
      root.afterSetting path new = after ∧ after.getAt? path = some new ∧
        ∀ other, WalksPart root (Path.valueSegments path) (Path.valueSegments other) →
          after.getAt? other = root.getAt? other :=
    ⟨by rw [afterSetting, setAt_eq_ok_iff.1 set], getAt?_of_setAt set⟩
  simp only [replaceAt?_eq_some_iff]
  rcases setAt_outcome root path new with ⟨old, after, there, notAdds, goesOn, set⟩ |
    ⟨after, nothing, adds, goesOn, set⟩ | ⟨segment, found, nothing, notAdds, blocked, set⟩ |
      ⟨segment, nothing, notAdds, goesOn, set⟩
  · obtain ⟨same, here, others⟩ := stored set
    simp only [set, there, notAdds, goesOn, same, here]
    simpa using others
  · obtain ⟨same, here, others⟩ := stored set
    simp only [set, nothing, adds, goesOn, same, here]
    simpa using others
  · simp [set, nothing, notAdds, blocked, afterSetting_of_error set]
  · simp [set, nothing, notAdds, goesOn, afterSetting_of_error set]

/-- A table with a list of two numbers. -/
def table : Value :=
  .map [("rows", .list [.int 1, .int 2])]

example : table.setAt "rows.02" (.int 3) =
    .ok (none, .map [("rows", .list [.int 1, .int 2, .int 3])]) := rfl

example : table.setAt "$.rows.1.x" (.int 3) =
    .error (.notContainer "$.rows.1.x" "x" "int") := rfl

end DocumentSchema.Value

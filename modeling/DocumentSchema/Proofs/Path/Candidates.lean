import DocumentSchema.Path.Descriptor
import DocumentSchema.Proofs.Descriptor.Parts
import DocumentSchema.Proofs.Range.Bound

/-!
The descriptors that update keys may lead to.

Below a list, resolution takes a segment for the index of an alternative, while the key of an update
means an element there, which may be of any alternative. `Descriptor.rewritings` puts the indices of
all alternatives in the place of such a segment, and leaves the others as they are. An update key
may lead to just what its rewritings resolve to (`Descriptor.updateCandidates_eq_resolved`).
-/

namespace DocumentSchema

/-! ## Indices -/

/-- A number is read back from the segment that writes it, if 64 bits hold it. -/
theorem Path.index?_toString {i : Nat} (small : i < 2 ^ 64) : index? (toString i) = some i := by
  have letters : (toString i).toList = Nat.toDigits 10 i := Nat.toList_repr
  have digits : Text.isDigits (Nat.toDigits 10 i) = true := by
    rw [Text.isDigits, Bool.and_eq_true, Bool.not_eq_true', List.isEmpty_eq_false_iff,
      List.all_eq_true]
    exact ⟨Nat.toDigits_ne_nil, fun c => Text.isDigit_of_mem_toDigits⟩
  rw [index?, letters, Text.decimalValue_toDigits]
  exact if_pos ⟨digits, small⟩

namespace Descriptor

variable {config : Config} {path segment : String} {d found : Descriptor}
  {segments : List String} {scopeAt : List String → Except SchemaError Descriptor}

/-! ## Rewritings -/

/-- What may stand for a segment below a descriptor, if one is reached: in a list, where the segment
must be an index, the index of every alternative in turn, and otherwise the segment itself. -/
def choices (scope : Except SchemaError Descriptor) (segment : String) : List String :=
  match scope with
  | .ok (.mk (.list alternatives _) _ _) =>
    if (Path.index? segment).isSome then (List.range alternatives.length).map toString else []
  | _ => [segment]

/-- The segments rewritten in every way that `choices` offers, those of an earlier segment varying
more slowly. `scopeAt` tells what the segments rewritten so far lead to. -/
def rewritingsBelow (scopeAt : List String → Except SchemaError Descriptor) :
    List String → List (List String)
  | [] => [[]]
  | segment :: rest =>
    (choices (scopeAt []) segment).flatMap fun choice =>
      (rewritingsBelow (fun behind => scopeAt (choice :: behind)) rest).map (choice :: ·)

/-- The segments of an update key with the indices of alternatives in place of the indices of
elements, in every way. -/
def rewritings (config : Config) (path : String) (d : Descriptor) (segments : List String) :
    List (List String) :=
  rewritingsBelow (d.resolve config path) segments

/-- What segments resolve to when they are rewritten, where they resolve. -/
def resolvedBelow (scopeAt : List String → Except SchemaError Descriptor)
    (segments : List String) : List Descriptor :=
  (rewritingsBelow scopeAt segments).filterMap fun rewritten => (scopeAt rewritten).toOption

/-- A descriptor is one of lists. -/
def IsList (d : Descriptor) : Prop :=
  ∃ alternatives length, d.shape = .list alternatives length

/-- One of the segments stands below a list. -/
def PassesList (scopeAt : List String → Except SchemaError Descriptor) (segments : List String) :
    Prop :=
  ∃ before segment after scope, segments = before ++ segment :: after ∧
    scopeAt before = .ok scope ∧ scope.IsList

/-- No list at any depth has more alternatives than a segment can number. -/
def Numberable : Descriptor → Prop :=
  Throughout fun part => ∀ alternatives length,
    part.shape = .list alternatives length → alternatives.length ≤ 2 ^ 64

theorem choices_of_not_list {scope : Except SchemaError Descriptor}
    (noList : ∀ d, scope = .ok d → ¬d.IsList) (segment : String) :
    choices scope segment = [segment] := by
  unfold choices
  split
  · next alternatives length default nullable =>
    exact absurd ⟨alternatives, length, rfl⟩ (noList _ rfl)
  · rfl

/-- Where no segment stands below a list, nothing is rewritten. -/
theorem rewritingsBelow_eq_singleton (noList : ¬PassesList scopeAt segments) :
    rewritingsBelow scopeAt segments = [segments] := by
  induction segments generalizing scopeAt with
  | nil => rfl
  | cons segment rest ih =>
    have here : choices (scopeAt []) segment = [segment] :=
      choices_of_not_list (fun scope reached isList =>
        noList ⟨[], segment, rest, scope, rfl, reached, isList⟩) segment
    have below : rewritingsBelow (fun behind => scopeAt (segment :: behind)) rest = [rest] := by
      apply ih
      rintro ⟨before, next, after, scope, rfl, reached, isList⟩
      exact noList ⟨segment :: before, next, after, scope, rfl, reached, isList⟩
    rw [rewritingsBelow, here, List.flatMap_singleton, below, List.map_singleton]

/-! ## One segment -/

/-- What one segment does to both walks outside of lists: it ends them, leads both on to the same
descriptor, or leads both nowhere. -/
theorem step_cases (config : Config) (path segment : String)
    (noList : ¬d.IsList) :
    (∀ rest, d.resolve config path (segment :: rest) = .ok d ∧
        d.updateCandidates config (segment :: rest) = [d]) ∨
      (∃ child, (child ∈ d.children ∨ child = plainText) ∧ ∀ rest,
        d.resolve config path (segment :: rest) = child.resolve config path rest ∧
          d.updateCandidates config (segment :: rest) = child.updateCandidates config rest) ∨
      ∀ rest, d.resolve config path (segment :: rest) = .error (pathNotFound path segment) ∧
        d.updateCandidates config (segment :: rest) = [] := by
  obtain ⟨shape, default, nullable⟩ := d
  cases shape with
  | list alternatives length => exact absurd ⟨alternatives, length, rfl⟩ noList
  | any => exact .inl fun rest => ⟨rfl, rfl⟩
  | record fields =>
    cases held : Entries.get? fields segment with
    | some field =>
      have isChild : field ∈ (mk (.record fields) default nullable).children :=
        List.mem_map_of_mem (Entries.mem_of_get? held)
      refine .inr (.inl ⟨field, .inl isChild, fun rest => ?_⟩)
      simp only [resolve, updateCandidates, Descriptor.shape, held, and_self]
    | none =>
      refine .inr (.inr fun rest => ?_)
      simp only [resolve, updateCandidates, Descriptor.shape, held, and_self]
  | dict key val required length =>
    have isChild : val ∈ (mk (.dict key val required length) default nullable).children := by
      simp [children, Descriptor.shape, Shape.children]
    exact .inr (.inl ⟨val, .inl isChild, fun rest => ⟨rfl, rfl⟩⟩)
  | union alternatives =>
    cases held : (Path.index? segment).bind fun i => alternatives[i]? with
    | some alternative =>
      obtain ⟨i, -, there⟩ := Option.bind_eq_some_iff.1 held
      have isChild : alternative ∈ (mk (.union alternatives) default nullable).children :=
        List.mem_of_getElem? there
      refine .inr (.inl ⟨alternative, .inl isChild, fun rest => ?_⟩)
      simp only [resolve, updateCandidates, Descriptor.shape, held, and_self]
    | none =>
      refine .inr (.inr fun rest => ?_)
      simp only [resolve, updateCandidates, Descriptor.shape, held, and_self]
  | locale =>
    by_cases registered : config.isRegistered segment = true
    · refine .inr (.inl ⟨plainText, .inr rfl, fun rest => ?_⟩)
      simp only [resolve, updateCandidates, Descriptor.shape, registered, if_true, and_self]
    · refine .inr (.inr fun rest => ?_)
      simp only [resolve, updateCandidates, Descriptor.shape, registered, if_false,
        Bool.false_eq_true, and_self]
  | _ => exact .inr (.inr fun rest => ⟨rfl, rfl⟩)

/-! ## Whole keys -/

theorem resolvedBelow_cons (scopeAt : List String → Except SchemaError Descriptor)
    (segment : String) (rest : List String) :
    resolvedBelow scopeAt (segment :: rest) = (choices (scopeAt []) segment).flatMap fun choice =>
      resolvedBelow (fun behind => scopeAt (choice :: behind)) rest := by
  simp only [resolvedBelow, rewritingsBelow, List.filterMap_flatMap, List.filterMap_map,
    Function.comp_def]

/-- A list is entered by the index of each of its alternatives. -/
theorem resolvedBelow_of_list {alternatives : List Descriptor} {length : Option LengthRange}
    {default : Option Default} {nullable : Bool} {rest : List String}
    (few : alternatives.length ≤ 2 ^ 64) (isIndex : (Path.index? segment).isSome = true) :
    resolvedBelow ((mk (.list alternatives length) default nullable).resolve config path)
        (segment :: rest) =
      alternatives.flatMap fun alternative =>
        resolvedBelow (alternative.resolve config path) rest := by
  have indices : List.range alternatives.length = alternatives.zipIdx.map (·.2) := by
    rw [List.zipIdx_map_snd, List.range_eq_range']
  have members : alternatives = alternatives.zipIdx.map (·.1) := (List.zipIdx_map_fst 0 _).symm
  rw [resolvedBelow_cons, resolve, choices, if_pos isIndex, indices, List.map_map,
    List.flatMap_map]
  conv_rhs => rw [members, List.flatMap_map]
  refine List.flatMap_congr fun numbered member => ?_
  obtain ⟨alternative, i⟩ := numbered
  have held : alternatives[i]? = some alternative := List.mem_zipIdx_iff_getElem?.1 member
  have small : i < 2 ^ 64 := Nat.lt_of_lt_of_le (List.getElem?_eq_some_iff.1 held).1 few
  congr 1
  funext behind
  simp only [Function.comp, resolve, Descriptor.shape, Path.index?_toString small,
    Option.bind_some, held]

theorem numberable_of_children (few : d.children.length ≤ 2 ^ 64)
    (each : ∀ child ∈ d.children, child.Numberable) : d.Numberable := by
  refine throughout_iff.2 ⟨fun alternatives length isList => ?_, each⟩
  rwa [children, isList, Shape.children] at few

theorem numberable_of_leaf (leaf : d.children = []) : d.Numberable :=
  numberable_of_children (by simp [leaf]) (by simp [leaf])

/-- Outside of lists a segment is kept. -/
theorem resolvedBelow_of_not_list (noList : ¬d.IsList) (segment : String) (rest : List String) :
    resolvedBelow (d.resolve config path) (segment :: rest) =
      resolvedBelow (fun behind => d.resolve config path (segment :: behind)) rest := by
  have kept : choices (d.resolve config path []) segment = [segment] := by
    refine choices_of_not_list (fun scope reached => ?_) segment
    cases reached
    exact noList
  rw [resolvedBelow_cons, kept, List.flatMap_singleton]

/-- Where no segment stands below a list, the segments themselves are all that is resolved. -/
theorem resolvedBelow_eq (noList : ¬PassesList scopeAt segments) :
    resolvedBelow scopeAt segments = (scopeAt segments).toOption.toList := by
  rw [resolvedBelow, rewritingsBelow_eq_singleton noList, List.filterMap_cons, List.filterMap_nil]
  cases (scopeAt segments).toOption <;> rfl

/-- Where the walk has ended, what it has come to is all that is resolved. -/
theorem resolvedBelow_const {scope : Except SchemaError Descriptor}
    (noList : ∀ d, scope = .ok d → ¬d.IsList) (segments : List String) :
    resolvedBelow (fun _ => scope) segments = scope.toOption.toList := by
  apply resolvedBelow_eq
  rintro ⟨before, segment, after, d, -, reached, isList⟩
  exact noList d reached isList

/-- An update key may lead to just what its rewritings resolve to. -/
theorem updateCandidates_eq_resolvedBelow (path : String) (numberable : d.Numberable)
    (segments : List String) :
    d.updateCandidates config segments = resolvedBelow (d.resolve config path) segments := by
  induction segments generalizing d with
  | nil => simp [updateCandidates, resolvedBelow, rewritingsBelow, resolve, Except.toOption]
  | cons segment rest ih =>
    by_cases isList : d.IsList
    · obtain ⟨alternatives, length, isList⟩ := isList
      obtain ⟨shape, default, nullable⟩ := d
      cases (show shape = .list alternatives length from isList)
      rw [updateCandidates]
      by_cases isIndex : (Path.index? segment).isSome = true
      · rw [resolvedBelow_of_list (numberable.here alternatives length rfl) isIndex]
        simp only [Descriptor.shape, isIndex, if_true]
        exact List.flatMap_congr fun alternative member => ih (numberable.ofChild member)
      · simp [Descriptor.shape, isIndex, resolvedBelow_cons, choices, resolve]
    · rw [resolvedBelow_of_not_list isList]
      rcases step_cases config path segment isList with ends | ⟨child, isChild, leads⟩ | missing
      · simp only [ends]
        have noList : ∀ scope, (.ok d : Except SchemaError Descriptor) = .ok scope →
            ¬scope.IsList := by
          rintro _ ⟨⟩
          exact isList
        exact (resolvedBelow_const noList rest).symm
      · have below : child.Numberable := by
          rcases isChild with member | rfl
          · exact numberable.ofChild member
          · exact numberable_of_leaf rfl
        simp only [leads]
        exact ih below
      · simp only [missing]
        have nothing : ∀ scope, (.error (pathNotFound path segment) :
            Except SchemaError Descriptor) = .ok scope → ¬scope.IsList := by
          rintro _ ⟨⟩
        exact (resolvedBelow_const nothing rest).symm

/-- What segments resolve to is one of the descriptors that they may lead to in an update. -/
theorem mem_updateCandidates_of_resolve
    (there : d.resolve config path segments = .ok found) :
    found ∈ d.updateCandidates config segments := by
  induction segments generalizing d with
  | nil =>
    cases there
    exact List.mem_singleton_self _
  | cons segment rest ih =>
    by_cases isList : d.IsList
    · obtain ⟨alternatives, length, isList⟩ := isList
      simp only [resolve, isList] at there
      simp only [updateCandidates, isList]
      cases held : (Path.index? segment).bind fun i => alternatives[i]? with
      | some alternative =>
        simp only [held] at there
        obtain ⟨i, isIndex, member⟩ := Option.bind_eq_some_iff.1 held
        rw [if_pos (Option.isSome_iff_exists.2 ⟨i, isIndex⟩)]
        exact List.mem_flatMap.2 ⟨alternative, List.mem_of_getElem? member, ih there⟩
      | none =>
        simp only [held] at there
        cases there
    · rcases step_cases config path segment isList with ends | ⟨child, isChild, leads⟩ | missing
      · rw [(ends rest).1] at there
        cases there
        rw [(ends rest).2]
        exact List.mem_singleton_self _
      · rw [(leads rest).1] at there
        rw [(leads rest).2]
        exact ih there
      · rw [(missing rest).1] at there
        cases there

/-- An update key may lead to just what resolution makes of its rewritings, in their order and as
often. Where it leads through no list, that is what the key itself resolves to, if it does; and it
always is among them. -/
theorem updateCandidates_eq_resolved (config : Config) (path : String) (segments : List String)
    (numberable : d.Numberable) :
    d.updateCandidates config segments =
        (d.rewritings config path segments).filterMap (fun rewritten =>
          (d.resolve config path rewritten).toOption) ∧
      (¬PassesList (d.resolve config path) segments →
        d.updateCandidates config segments =
          match d.resolve config path segments with
          | .ok found => [found]
          | .error _ => []) ∧
      ∀ found, d.resolve config path segments = .ok found →
        found ∈ d.updateCandidates config segments := by
  have whole : d.updateCandidates config segments =
      resolvedBelow (d.resolve config path) segments :=
    updateCandidates_eq_resolvedBelow path numberable segments
  refine ⟨whole, fun noList => ?_, fun found => mem_updateCandidates_of_resolve⟩
  rw [whole, resolvedBelow_eq noList]
  cases d.resolve config path segments <;> rfl

/-- Lists of integers, or else of texts and flags. -/
def rows : Descriptor :=
  .ofShape (.list [.ofShape (.list [.ofShape (.int [])] none),
    .ofShape (.list [.ofShape (.str none), .ofShape .bool] none)] none)

theorem numberable_rows : rows.Numberable := by
  refine numberable_of_children (by decide) fun row member => ?_
  rcases List.mem_pair.1 (show row ∈ [_, _] from member) with rfl | rfl
  · refine numberable_of_children (by decide) fun item held => ?_
    cases List.mem_singleton.1 (show item ∈ [_] from held)
    exact numberable_of_leaf rfl
  · refine numberable_of_children (by decide) fun item held => ?_
    rcases List.mem_pair.1 (show item ∈ [_, _] from held) with rfl | rfl
    · exact numberable_of_leaf rfl
    · exact numberable_of_leaf rfl

/-- An item of a row may be of any of the three kinds, each of which is an alternative of its own,
while the same segments name no alternatives themselves. -/
theorem updateCandidates_eq_resolved_rows :
    rows.Numberable ∧
      rows.rewritings .initial "7.07" ["7", "07"] = [["0", "0"], ["1", "0"], ["1", "1"]] ∧
      rows.updateCandidates .initial ["7", "07"] =
        (rows.rewritings .initial "7.07" ["7", "07"]).filterMap (fun rewritten =>
          (rows.resolve .initial "7.07" rewritten).toOption) ∧
      rows.updateCandidates .initial ["7", "07"] =
        [.ofShape (.int []), .ofShape (.str none), .ofShape .bool] ∧
      rows.resolve .initial "7.07" ["7", "07"] = .error (pathNotFound "7.07" "7") :=
  ⟨numberable_rows, rfl, (updateCandidates_eq_resolved _ _ _ numberable_rows).1, rfl, rfl⟩

end Descriptor

end DocumentSchema

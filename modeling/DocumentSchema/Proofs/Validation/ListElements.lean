import DocumentSchema.Proofs.Validation.Alternatives
import DocumentSchema.Proofs.Validation.Congruence

/-!
Elements that requests add to lists.

A value is validated alike under all names that treat identifiers alike, as long as no custom
validator is told the name (`Context.validate_of_name`); only the errors say the name. So it makes
no difference that an element in a list has the name of its place, and one that a request adds the
name of the list: a request adds an element exactly if the list of this element alone is accepted,
and adds what is made of the element there (`Context.elements_checked_as_lists`).
-/

namespace DocumentSchema

/-- The same failure under another name. -/
def ValidationError.withName (name : String) : ValidationError → ValidationError
  | .missing _ kind => .missing name kind
  | .invalid _ kind observed => .invalid name kind observed

namespace Context

variable {context : Context} {name name' : String} {doc entries : Document}
  {d : Descriptor} {v c payload : Value} {alternatives : List Descriptor} {mode : Mode}
  {length : Option LengthRange} {request : Value → UpdateOperator}

/-! ## Names -/

theorem acceptFirst_of_name (customFree : ∀ d ∈ alternatives, d.CustomFree)
    (same : isIdName name = isIdName name') (v : Value) (doc : Document) :
    context.acceptFirst context.acceptFile name alternatives v doc =
      context.acceptFirst context.acceptFile name' alternatives v doc :=
  acceptFirst_congr fun d member c => validatePart_congr (filesAgree_acceptFile context doc doc)
    (customFree d member) (defaultsAgree_self context doc d) name name' same v c

theorem acceptElement_of_name (customFree : d.CustomFree) (same : isIdName name = isIdName name')
    (v : Value) (doc : Document) :
    context.acceptElement name d v doc = context.acceptElement name' d v doc := by
  obtain ⟨shape, default, nullable⟩ := d
  cases shape with
  | list alternatives length =>
    have first : context.acceptFirst context.acceptFile name alternatives v doc =
        context.acceptFirst context.acceptFile name' alternatives v doc :=
      acceptFirst_of_name (fun _ member => customFree.ofChild member) same v doc
    simp only [acceptElement, Descriptor.shape, first]
  | _ => rfl

theorem absent_of_name (context : Context) (name name' : String) (kind : Kind)
    (default : Option Default) (nullable : Bool) (doc : Document) :
    context.absent name' kind default nullable doc =
      (context.absent name kind default nullable doc).mapError (.withName name') := by
  unfold absent
  split
  · rfl
  · split <;> rfl

theorem refused_of_name (context : Context) (name name' : String) (kind : Kind)
    (default : Option Default) (v : Value) (doc : Document) :
    context.refused name' kind default v doc =
      (context.refused name kind default v doc).mapError (.withName name') := by
  unfold refused
  split <;> rfl

section Renamed

variable (accepted : ∀ mode v, context.accept mode name' d v doc = context.accept mode name d v doc)
  (elements : ∀ v, context.acceptElement name' d v doc = context.acceptElement name d v doc)

include accepted elements

theorem validateOperator_of_accepted (entries : Document) :
    context.validateOperator name' d entries doc =
      (context.validateOperator name d entries doc).mapError (.withName name') := by
  have operated (operator : UpdateOperator) : context.acceptOperator name' d operator doc =
      context.acceptOperator name d operator doc := by
    cases operator <;> simp only [acceptOperator, accepted, elements]
  simp only [validateOperator, operated]
  split <;> rfl

theorem validateUpdate_of_accepted (v : Value) :
    context.validateUpdate name' d v doc =
      (context.validateUpdate name d v doc).mapError (.withName name') := by
  have operated := validateOperator_of_accepted accepted elements
  simp only [validateUpdate, accepted, operated]
  split
  · rfl
  · cases v with
    | map entries =>
      dsimp only
      split
      · rfl
      · split <;> rfl
    | _ =>
      dsimp only
      split <;> rfl

end Renamed

/-- Without custom validators, the outcome for a value depends on the name only as far as
identifiers do, but for the name in an error. -/
theorem validate_of_name (customFree : d.CustomFree) (same : isIdName name = isIdName name')
    (mode : Mode) (v : Value) (doc : Document) :
    context.validate mode name' d v doc =
      (context.validate mode name d v doc).mapError (.withName name') := by
  have accepted (mode : Mode) (v : Value) : context.accept mode name' d v doc =
      context.accept mode name d v doc :=
    accept_of_defaultsAgree customFree (defaultsAgree_self context doc d) same.symm
  have elements (v : Value) : context.acceptElement name' d v doc =
      context.acceptElement name d v doc :=
    acceptElement_of_name customFree same.symm v doc
  simp only [validate, accepted]
  split
  · exact validateUpdate_of_accepted accepted elements v
  · split
    · exact absent_of_name context name name' _ _ _ doc
    · split
      · rfl
      · exact refused_of_name context name name' _ _ v doc

/-! ## Elements -/

/-- The kind check of a list accepts a list of one element exactly if an alternative accepts the
element, and a list of one is allowed. -/
theorem accept_singleton_iff (isList : d.shape = .list alternatives length)
    (customFree : ∀ d ∈ alternatives, d.CustomFree) :
    context.accept mode name d (.list [payload]) doc = some c ↔
      lengthFits length 1 = true ∧ ∃ part,
        context.acceptFirst context.acceptFile name alternatives payload doc = some part ∧
          c = .list [part] := by
  have named : context.acceptFirst context.acceptFile (partName name (toString 0)) alternatives
      payload doc = context.acceptFirst context.acceptFile name alternatives payload doc :=
    acceptFirst_of_name customFree (isIdName_partName name (toString 0)) payload doc
  rw [accept, isList, acceptShape_list_eq_some_iff]
  constructor
  · intro listed
    obtain ⟨_, parts, ⟨⟩, fits, rfl, one, each⟩ := listed
    obtain ⟨part, rfl⟩ := List.length_eq_one_iff.1 one
    exact ⟨fits, part, named.symm.trans (each 0 payload part rfl rfl), rfl⟩
  · intro alone
    obtain ⟨fits, part, first, rfl⟩ := alone
    refine ⟨[payload], [part], rfl, fits, rfl, rfl, fun i item canonical left right => ?_⟩
    cases i with
    | zero =>
      cases left
      cases right
      exact named.trans first
    | succ i => cases left

/-- A request adds an element as the list of this element is checked: it is accepted exactly if the
list is, and what it adds is the one element of the canonical list. -/
structure AddsAsList (context : Context) (name : String) (d : Descriptor) (doc entries : Document)
    (payload : Value) (request : Value → UpdateOperator) : Prop where
  accepted : ∀ mode, (∃ c, context.validate .update name d (.map entries) doc = .ok c) ↔
    ∃ c, context.accept mode name d (.list [payload]) doc = some c
  canonical : ∀ mode c, context.validate .update name d (.map entries) doc = .ok c ↔
    ∃ part, context.accept mode name d (.list [payload]) doc = some (.list [part]) ∧
      c = (request part).toValue

theorem addsAsList_of_read (isList : d.shape = .list alternatives length)
    (customFree : ∀ d ∈ alternatives, d.CustomFree) (adds : AddsElement request)
    (read : UpdateOperator.ofMap? entries = some (request payload)) :
    context.AddsAsList name d doc entries payload request := by
  have canonical (mode : Mode) (c : Value) :
      context.validate .update name d (.map entries) doc = .ok c ↔
        ∃ part, context.accept mode name d (.list [payload]) doc = some (.list [part]) ∧
          c = (request part).toValue := by
    simp only [validate_addsElement isList adds read, accept_singleton_iff isList customFree]
    by_cases fits : lengthFits length 1 = true
    · cases context.acceptFirst context.acceptFile name alternatives payload doc <;>
        simp [fits, eq_comm]
    · simp [fits]
  refine ⟨fun mode => ?_, canonical⟩
  simp only [canonical mode, accept_singleton_iff isList customFree]
  constructor
  · intro added
    obtain ⟨_, part, checked, -⟩ := added
    exact ⟨.list [part], checked⟩
  · intro checked
    obtain ⟨_, fits, part, first, rfl⟩ := checked
    exact ⟨_, part, ⟨fits, part, first, rfl⟩, rfl⟩

/-- A request to append an element to a list, or to put one in the place of another, checks it as
the list of this element is checked, whatever the element, as long as no custom validator occurs in
the alternatives of the list. For no custom validator being told the name, the outcome of a
validation depends on the name only as far as it starts with `_id` or does not, but for the name in
an error. -/
theorem elements_checked_as_lists (context : Context) (doc : Document) :
    (∀ name d alternatives length, d.shape = .list alternatives length →
      (∀ alternative ∈ alternatives, alternative.CustomFree) →
      (∀ payload, context.AddsAsList name d doc [("$append", payload)] payload fun part =>
        .append part false) ∧
      ∀ payload i, context.AddsAsList name d doc [("$index", .int i), ("$set_index", payload)]
        payload fun part => .setIndex part i) ∧
    ∀ d : Descriptor, d.CustomFree → ∀ mode name name' v, isIdName name = isIdName name' →
      context.validate mode name' d v doc =
        (context.validate mode name d v doc).mapError (.withName name') := by
  refine ⟨fun name d alternatives length isList customFree => ⟨fun payload => ?_,
    fun payload i => ?_⟩, fun d customFree mode name name' v same => ?_⟩
  · exact addsAsList_of_read isList customFree (.inl ⟨false, rfl⟩) rfl
  · exact addsAsList_of_read isList customFree (.inr ⟨i, rfl⟩) rfl
  · exact validate_of_name customFree same mode v doc

theorem customFree_words : words.CustomFree :=
  Descriptor.throughout_of_leaf rfl fun same => by cases same

/-- Words are appended to a list of words as they are, and a number is refused under any name. -/
theorem elements_checked_as_lists_words :
    (∀ alternative ∈ [words], alternative.CustomFree) ∧
      initial.accept .deep "lines" (.ofShape (.list [words] none)) (.list [.str "first"]) [] =
        some (.list [.str "first"]) ∧
      initial.validate .update "lines" (.ofShape (.list [words] none))
        (.map [("$append", .str "first")]) [] =
          .ok (UpdateOperator.append (.str "first") false).toValue ∧
      isIdName "title" = isIdName "lines.0" ∧
      initial.validate .create "lines.0" words (.int 3) [] =
        .error (.invalid "lines.0" .str "int") := by
  have customFree : ∀ alternative ∈ [words], alternative.CustomFree :=
    List.forall_mem_singleton.2 customFree_words
  obtain ⟨elements, names⟩ := elements_checked_as_lists initial []
  have append := (elements "lines" (.ofShape (.list [words] none)) [words] none rfl customFree).1
    (.str "first")
  have checked : initial.accept .deep "lines" (.ofShape (.list [words] none))
      (.list [.str "first"]) [] = some (.list [.str "first"]) := rfl
  have named : isIdName "title" = isIdName "lines.0" := by decide
  exact ⟨customFree, checked, (append.canonical .deep _).2 ⟨.str "first", checked, rfl⟩, named,
    names words customFree_words .create "title" "lines.0" (.int 3) named⟩

end Context

end DocumentSchema

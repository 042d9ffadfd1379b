import DocumentSchema.Proofs.Descriptor.Built
import DocumentSchema.Proofs.Validation.Outcome
import DocumentSchema.Proofs.Validation.Requests

/-!
Defaults of alternatives.

The first alternative to answer a value settles it, and an alternative with a default answers every
value: with the canonical form of what its kind accepts, and with its default otherwise. So the
default of an alternative stands in for a value that no earlier alternative answers, and hides every
later one (`Context.StandsIn`). Only where none does, the first alternative whose kind accepts the
value gives its canonical form, and a value that no kind accepts is refused. Unions, elements of
lists and what requests add to lists are settled alike, in updates as well
(`Context.alternatives_settled`).
-/

namespace DocumentSchema.Context

variable {context : Context} {mode : Mode} {name : String} {doc entries : Document}
  {d : Descriptor} {v c : Value} {alternatives rest : List Descriptor}

/-- The canonical form that the first alternative gives a value whose kind accepts it. -/
def firstOfKinds? (context : Context) (name : String) (alternatives : List Descriptor) (v : Value)
    (doc : Document) : Option Value :=
  alternatives.findSome? fun d => context.accept .deep name d v doc

theorem firstOfKinds?_cons : context.firstOfKinds? name (d :: rest) v doc =
    (context.accept .deep name d v doc).or (context.firstOfKinds? name rest v doc) := by
  rw [firstOfKinds?, List.findSome?_cons]
  cases context.accept .deep name d v doc <;> rfl

/-- The default that stands in for a value: the first one among alternatives whose kinds refuse the
value, before the first one whose kind accepts it. -/
def standIn? (context : Context) (name : String) :
    List Descriptor → Value → Document → Option Value
  | [], _, _ => none
  | d :: rest, v, doc =>
    match context.accept .deep name d v doc with
    | some _ => none
    | none => (context.defaultValue? d.default doc).or (standIn? context name rest v doc)

/-- What alternatives make of a value: the default that stands in for it, or else what the first
kind to accept it makes of it. -/
def settled? (context : Context) (name : String) (alternatives : List Descriptor) (v : Value)
    (doc : Document) : Option Value :=
  (context.standIn? name alternatives v doc).or (context.firstOfKinds? name alternatives v doc)

/-- The default of an alternative stands in for a value: its kind refuses the value, and earlier
alternatives neither accept it nor have a default for it. -/
def StandsIn (context : Context) (name : String) (alternatives : List Descriptor) (v : Value)
    (doc : Document) (c : Value) : Prop :=
  ∃ before d after, alternatives = before ++ d :: after ∧
    (∀ other ∈ before, context.accept .deep name other v doc = none ∧
      context.defaultValue? other.default doc = none) ∧
    context.accept .deep name d v doc = none ∧ context.defaultValue? d.default doc = some c

theorem standIn?_eq_some_iff :
    context.standIn? name alternatives v doc = some c ↔
      context.StandsIn name alternatives v doc c := by
  induction alternatives with
  | nil => simp [standIn?, StandsIn]
  | cons d rest ih =>
    rw [standIn?]
    constructor
    · intro found
      cases accepted : context.accept .deep name d v doc with
      | some c' =>
        rw [accepted] at found
        cases found
      | none =>
        simp only [accepted, Option.or_eq_some_iff, ih] at found
        rcases found with default | ⟨noDefault, before, d', after, rfl, passed, refused, default⟩
        · exact ⟨[], d, rest, rfl, by simp, accepted, default⟩
        · exact ⟨d :: before, d', after, rfl,
            List.forall_mem_cons.2 ⟨⟨accepted, noDefault⟩, passed⟩, refused, default⟩
    · rintro ⟨before, d', after, split, passed, refused, default⟩
      cases before with
      | nil =>
        cases split
        simp only [refused, default, Option.some_or]
      | cons first others =>
        cases split
        obtain ⟨⟨accepted, noDefault⟩, passed⟩ := List.forall_mem_cons.1 passed
        simp only [accepted, noDefault, Option.none_or]
        exact ih.2 ⟨others, d', after, rfl, passed, refused, default⟩

/-- Alternatives are tried in their order, each by its kind first and then by its default. -/
theorem acceptFirst_eq_settled? (notNull : v ≠ .null) :
    context.acceptFirst context.acceptFile name alternatives v doc =
      context.settled? name alternatives v doc := by
  induction alternatives with
  | nil => rfl
  | cons d rest ih =>
    have answer : (context.validatePart context.acceptFile name d v doc).toOption =
        (context.accept .deep name d v doc).or (context.defaultValue? d.default doc) := by
      ext c
      rw [toOption_eq_some_iff, validatePart_eq_ok_iff, Answers, Option.or_eq_some_iff, accept]
      simp [notNull]
    have tried : context.acceptFirst context.acceptFile name (d :: rest) v doc =
        (context.validatePart context.acceptFile name d v doc).toOption.or
          (context.acceptFirst context.acceptFile name rest v doc) := by
      rw [acceptFirst]
      cases context.validatePart context.acceptFile name d v doc <;> rfl
    rw [tried, answer, ih, settled?, settled?, standIn?, firstOfKinds?_cons]
    cases context.accept .deep name d v doc with
    | some c => simp
    | none => simp [Option.or_assoc]

/-- What a kind accepts settles a value where no default of its own is at hand. -/
theorem validate_eq_of_no_default (noDefault : d.default = none) (notNull : v ≠ .null)
    (plain : mode = .update → ¬IsRequest v) :
    context.validate mode name d v doc =
      (context.accept mode name d v doc).elim (.error (.ofValue name d.kind v)) .ok := by
  have settles (c : Value) : context.validate mode name d v doc = .ok c ↔
      context.accept mode name d v doc = some c := by
    by_cases update : mode = .update
    · subst update
      exact validate_update_eq_ok_iff notNull (plain rfl)
    · rw [validate_eq_ok_iff update, Answers, noDefault]
      simp [notNull, defaultValue?]
  cases accepted : context.accept mode name d v doc with
  | some c => exact (settles c).2 accepted
  | none =>
    cases answer : context.validate mode name d v doc with
    | ok c => cases accepted.symm.trans ((settles c).1 answer)
    | error e =>
      rcases validate_eq_error answer with ⟨-, null, -⟩ | ⟨isInvalid, -⟩
      · exact absurd null notNull
      · rw [isInvalid, Option.elim_none]

/-- A request adds an element to a list or puts it in the place of another one. -/
def AddsElement (request : Value → UpdateOperator) : Prop :=
  (∃ unique, request = fun c => .append c unique) ∨ ∃ index, request = fun c => .setIndex c index

/-- What a request adds to a list is what the alternatives of the list make of it. -/
theorem validate_addsElement {length : Option LengthRange} {request : Value → UpdateOperator}
    {payload : Value} (isList : d.shape = .list alternatives length)
    (adds : AddsElement request)
    (read : UpdateOperator.ofMap? entries = some (request payload)) :
    context.validate .update name d (.map entries) doc =
      (if lengthFits length 1 = true then
          context.acceptFirst context.acceptFile name alternatives payload doc
        else none).elim
        (.error (.ofValue name .list (.map entries))) fun c => .ok (request c).toValue := by
  have isRequest : Document.hasOperator entries = true :=
    Document.hasOperator_iff.2 ⟨_, (UpdateOperator.reserved_of_ofMap? read _).2 rfl⟩
  have isListKind : d.kind = .list := by rw [Descriptor.kind, isList, Shape.kind]
  have element : context.acceptElement name d payload doc =
      if lengthFits length 1 = true then
        context.acceptFirst context.acceptFile name alternatives payload doc
      else none := by
    rw [acceptElement, isList]
  have made : context.acceptOperator name d (request payload) doc =
      (context.acceptElement name d payload doc).map request := by
    rcases adds with ⟨unique, rfl⟩ | ⟨index, rfl⟩ <;>
      · dsimp only [acceptOperator]
        cases context.acceptElement name d payload doc <;> rfl
  rw [validate_update_map isRequest, validateOperator, read, Option.bind_some, made, element,
    isListKind]
  generalize (if lengthFits length 1 = true then _ else none : Option Value) = added
  cases added <;> rfl

/-- Unions, lists and requests settle values other than null by the same rule: the first alternative
to accept a value by its kind gives its canonical form, unless the default of an earlier one stands
in for the value. That rule leaves the defaults of alternatives out of account exactly where none
stands in for a value but by what the kinds make of it as well. -/
theorem alternatives_settled (context : Context) (name : String) (doc : Document)
    (alternatives : List Descriptor) :
    (∀ v, context.settled? name alternatives v doc = context.firstOfKinds? name alternatives v doc ↔
      ∀ c, context.StandsIn name alternatives v doc c →
        context.firstOfKinds? name alternatives v doc = some c) ∧
    (∀ mode d v, d.shape = .union alternatives → d.default = none → v ≠ .null →
      (mode = .update → ¬IsRequest v) →
      context.validate mode name d v doc = (context.settled? name alternatives v doc).elim
        (.error (.ofValue name .union v)) .ok) ∧
    (∀ mode d length items c, d.shape = .list alternatives length →
      (context.accept mode name d (.list items) doc = some c ↔
        ∃ parts, c = .list parts ∧ lengthFits length items.length = true ∧
          parts.length = items.length ∧
          ∀ (i : Nat) item part, items[i]? = some item → parts[i]? = some part →
            (item ≠ .null →
              context.settled? (partName name (toString i)) alternatives item doc = some part) ∧
            (item = .null → context.acceptFirst context.acceptFile (partName name (toString i))
              alternatives .null doc = some part))) ∧
    (∀ d length entries payload request, d.shape = .list alternatives length → payload ≠ .null →
      AddsElement request → UpdateOperator.ofMap? entries = some (request payload) →
      context.validate .update name d (.map entries) doc =
        (if lengthFits length 1 = true then context.settled? name alternatives payload doc
          else none).elim
          (.error (.ofValue name .list (.map entries))) fun c => .ok (request c).toValue) := by
  refine ⟨fun v => ?_, ?_, ?_, ?_⟩
  · simp only [← standIn?_eq_some_iff, settled?]
    cases context.standIn? name alternatives v doc <;> simp [eq_comm]
  · intro mode d v isUnion noDefault notNull plain
    have isUnionKind : d.kind = .union := by rw [Descriptor.kind, isUnion, Shape.kind]
    rw [validate_eq_of_no_default noDefault notNull plain, accept, isUnion, acceptShape,
      acceptFirst_eq_settled? notNull, isUnionKind]
  · intro mode d length items c isList
    have element (i : Nat) (item part : Value) :
        context.acceptFirst context.acceptFile (partName name (toString i)) alternatives item doc =
            some part ↔
          (item ≠ .null →
            context.settled? (partName name (toString i)) alternatives item doc = some part) ∧
          (item = .null → context.acceptFirst context.acceptFile (partName name (toString i))
            alternatives .null doc = some part) := by
      by_cases null : item = .null
      · simp [null]
      · simp [null, acceptFirst_eq_settled? null]
    rw [accept, isList, acceptShape_list_eq_some_iff]
    constructor
    · rintro ⟨_, parts, ⟨⟩, fits, rfl, length, each⟩
      exact ⟨parts, rfl, fits, length, fun i item part left right =>
        (element i item part).1 (each i item part left right)⟩
    · rintro ⟨parts, rfl, fits, length, each⟩
      exact ⟨items, parts, rfl, fits, rfl, length, fun i item part left right =>
        (element i item part).2 (each i item part left right)⟩
  · intro d length entries payload request isList notNull adds read
    rw [validate_addsElement isList adds read, acceptFirst_eq_settled? notNull]

/-- A number, which is zero where there is none. -/
def amount : Descriptor :=
  .mk (.int []) (some (.static (.int 0))) false

/-- A text. -/
def words : Descriptor :=
  .ofShape (.str none)

theorem built_amount : amount.Built := by
  have number : (Descriptor.ofShape (.int [])).Built := .plain (by simp [Descriptor.plainShapes])
  exact number.withDefault _

theorem built_words : words.Built :=
  .plain (by simp [Descriptor.plainShapes])

/-- No default stands in for words before an amount, nor for a number in a list of amounts. -/
theorem alternatives_settled_words :
    (Descriptor.ofShape (.union [words, amount])).shape = .union [words, amount] ∧
      ¬IsRequest (.str "some") ∧
      initial.validate .update "amount" (.ofShape (.union [words, amount])) (.str "some") [] =
        .ok (.str "some") ∧
      UpdateOperator.ofMap? [("$append", .str "7")] = some (.append (.str "7") false) ∧
      initial.validate .update "amounts" (.ofShape (.list [amount] none))
        (.map [("$append", .str "7")]) [] =
          .ok (UpdateOperator.append (.int 7) false).toValue := by
  have plain : ¬IsRequest (.str "some") := by
    rintro ⟨entries, ⟨⟩, -⟩
  have read : UpdateOperator.ofMap? [("$append", .str "7")] =
      some (.append (.str "7") false) := rfl
  have union := (alternatives_settled initial "amount" [] [words, amount]).2.1
    .update (.ofShape (.union [words, amount])) (.str "some") rfl rfl Value.noConfusion
    fun _ => plain
  have list := (alternatives_settled initial "amounts" [] [amount]).2.2.2
    (.ofShape (.list [amount] none)) none [("$append", .str "7")] (.str "7")
    (fun c => .append c false) rfl Value.noConfusion (.inl ⟨false, rfl⟩) read
  exact ⟨rfl, plain, union, read, list⟩

/-- The default of an amount hides the words that stand behind it, in an update as well, and is
added to a list in place of a value that no kind accepts. -/
theorem default_stands_in :
    (Descriptor.ofShape (.union [amount, words])).Built ∧
      (Descriptor.ofShape (.list [amount] none)).Built ∧
      initial.firstOfKinds? "amount" [amount, words] (.str "some") [] = some (.str "some") ∧
      (∀ mode, initial.validate mode "amount" (.ofShape (.union [amount, words])) (.str "some") [] =
        .ok (.int 0)) ∧
      initial.firstOfKinds? "amount" [amount, words] (.bool true) [] = none ∧
      (∀ mode, initial.validate mode "amount" (.ofShape (.union [amount, words])) (.bool true) [] =
        .ok (.int 0)) ∧
      initial.firstOfKinds? "amounts" [amount] (.str "some") [] = none ∧
      initial.validate .create "amounts" (.ofShape (.list [amount] none))
        (.list [.str "some"]) [] = .ok (.list [.int 0]) ∧
      initial.validate .update "amounts" (.ofShape (.list [amount] none))
        (.map [("$append", .str "some")]) [] =
          .ok (UpdateOperator.append (.int 0) false).toValue := by
  refine ⟨?_, ?_, rfl, ?_, rfl, ?_, rfl, rfl, rfl⟩
  · have each : ∀ d ∈ [amount, words], d.Built := by
      simp only [List.forall_mem_cons, List.not_mem_nil, false_imp_iff, implies_true, and_true]
      exact ⟨built_amount, built_words⟩
    exact .union each rfl
  · have each : ∀ d ∈ [amount], d.Built := List.forall_mem_singleton.2 built_amount
    have range : ∀ range ∈ (none : Option LengthRange), range.Built := by simp
    exact .list each range rfl
  · intro mode
    cases mode <;> rfl
  · intro mode
    cases mode <;> rfl

end DocumentSchema.Context

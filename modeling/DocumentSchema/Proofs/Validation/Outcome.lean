import DocumentSchema.Proofs.Validation.Acceptance
import DocumentSchema.Proofs.Validation.Documents

/-!
What comes of the validation of a document.

A document is accepted when each attribute that the mode asks for has an answer, and each key that
leads on from an attribute has one too, which only an update gives
(`Context.validateDocument_outcome`). The canonical document holds these answers beside the keys
that belong to no attribute (`Context.CanonicalDocument`); a report holds the failures, each once
and in order (`Context.Report`).
-/

namespace DocumentSchema

/-- The value of a key of a document; an absent value is null. -/
def Document.valueAt (doc : Document) (key : String) : Value :=
  (Entries.get? doc key).getD .null

/-- A mode asks for an attribute of a document: in a creation for every one, and otherwise for one
that the document has. -/
structure Schema.Asks (schema : Schema) (mode : Mode) (doc : Document) (name : String)
    (d : Descriptor) : Prop where
  declared : schema.get? name = some d
  present : mode = .create ∨ Entries.hasKey doc name = true

/-- A key of a document leads on from an attribute: it is not declared itself, while its part before
the first dot is. -/
structure Schema.Dotted (schema : Schema) (doc : Document) (key : String) (root : Descriptor)
    (rest : String) : Prop where
  held : Entries.hasKey doc key = true
  undeclared : schema.declares key = false
  leads : ∃ name, key = Context.partName name rest ∧ '.' ∉ name.toList ∧
    schema.get? name = some root

/-! ## Codes -/

/-- The code of an error tells whether a value is missing. -/
theorem ValidationError.code_eq_missing_iff {e : ValidationError} :
    e.code = "ATTR_MISSING" ↔ e.isMissing = true := by
  cases e <;> simp [code, isMissing]

/-- The code of a document tells whether anything is missing. -/
theorem DocumentError.code_eq_missing_iff {error : DocumentError} :
    error.code = "ATTR_MISSING" ↔ ∃ e ∈ error.errors, e.isMissing = true := by
  have listed : (∃ e ∈ error.errors, e.isMissing = true) ↔ ∃ e, e ∈ error.missing := by
    simp [missing]
  rw [listed, code]
  cases found : error.missing with
  | cons first rest =>
    have isMissing : first.isMissing = true :=
      (List.mem_filter.1 (show first ∈ error.missing from found ▸ List.mem_cons_self)).2
    exact iff_of_true (ValidationError.code_eq_missing_iff.2 isMissing) ⟨first, List.mem_cons_self⟩
  | nil =>
    refine iff_of_false ?_ (by simp)
    cases errors : error.errors with
    | nil => simp
    | cons first rest =>
      have member : first ∈ error.errors := errors ▸ List.mem_cons_self
      have notMissing : ¬first.isMissing = true := by
        intro isMissing
        have listed : first ∈ error.missing := List.mem_filter.2 ⟨member, isMissing⟩
        rw [found] at listed
        cases listed
      exact mt ValidationError.code_eq_missing_iff.1 notMissing

namespace Context

variable {context : Context} {mode : Mode} {schema : Schema} {doc out : Document}
  {name key rest : String} {d root : Descriptor} {v c : Value} {e : ValidationError}
  {answer : Except ValidationError Value} {answers : List (String × Except ValidationError Value)}

/-- The failure of an attribute that the mode asks for. -/
def AttributeFailure (context : Context) (mode : Mode) (schema : Schema) (doc : Document)
    (name : String) (e : ValidationError) : Prop :=
  ∃ d, schema.Asks mode doc name d ∧
    context.validate mode name d (doc.valueAt name) doc = .error e

/-- The failure of a key that leads on from an attribute: one that no candidate accepts in an
update, and any outside of updates. -/
def DottedFailure (context : Context) (mode : Mode) (schema : Schema) (doc : Document)
    (key : String) (e : ValidationError) : Prop :=
  ∃ root rest, schema.Dotted doc key root rest ∧ e = .ofValue key root.kind (doc.valueAt key) ∧
    (mode = .update → ∀ candidate ∈ root.updateCandidates context.config (Path.segments rest),
      ∀ c, context.validate .update key candidate (doc.valueAt key) doc ≠ .ok c)

/-- The canonical form of a document. -/
structure CanonicalDocument (context : Context) (mode : Mode) (schema : Schema)
    (doc out : Document) : Prop where
  ascending : Entries.Ascending out
  keys : ∀ key, Entries.hasKey out key = true ↔
    Entries.hasKey doc key = true ∨ mode = .create ∧ schema.declares key = true
  attributes : ∀ name d, schema.Asks mode doc name d → ∃ c, Entries.get? out name = some c ∧
    context.validate mode name d (doc.valueAt name) doc = .ok c
  dotted : ∀ key root rest, schema.Dotted doc key root rest →
    ∃ c, Entries.get? out key = some c ∧
      context.FirstAnswer key (root.updateCandidates context.config (Path.segments rest))
        (doc.valueAt key) doc c
  others : ∀ key, schema.declares key = false → (∀ root rest, ¬schema.Dotted doc key root rest) →
    Entries.get? out key = Entries.get? doc key

/-- The failures of a document: those of attributes in the order of their names, then those of keys
that lead on from attributes in the order of the keys. -/
structure Report (context : Context) (mode : Mode) (schema : Schema) (doc : Document)
    (errors : List ValidationError) : Prop where
  nonempty : errors ≠ []
  distinct : (errors.map (·.name)).Nodup
  parts : ∃ attributes dotted, errors = attributes ++ dotted ∧
    (attributes.map (·.name)).Pairwise (· < ·) ∧ (dotted.map (·.name)).Pairwise (· < ·) ∧
    (∀ name e, e ∈ attributes ∧ e.name = name ↔ context.AttributeFailure mode schema doc name e) ∧
    ∀ key e, e ∈ dotted ∧ e.name = key ↔ context.DottedFailure mode schema doc key e
  missing : ∀ name kind, .missing name kind ∈ errors ↔ ∃ d, schema.Asks mode doc name d ∧
    kind = d.kind ∧ doc.valueAt name = .null ∧ mode ≠ .update ∧ d.nullable = false ∧
    context.defaultValue? d.default doc = none
  invalid : ∀ name kind observed, .invalid name kind observed ∈ errors →
    observed = (doc.valueAt name).typeName ∧
      ((∃ d, schema.Asks mode doc name d ∧ kind = d.kind ∧ doc.valueAt name ≠ .null) ∨
        ∃ root rest, schema.Dotted doc name root rest ∧ kind = root.kind)
  code : DocumentError.code ⟨errors⟩ = "ATTR_MISSING" ↔ ∃ e ∈ errors, e.isMissing = true

/-! ## Failures of values -/

/-- An attribute fails for want of a value, or by the value that it has. -/
theorem validate_eq_error (failed : context.validate mode name d v doc = .error e) :
    (e = .missing name d.kind ∧ v = .null ∧ mode ≠ .update ∧ d.nullable = false ∧
      context.defaultValue? d.default doc = none) ∨
    (e = .ofValue name d.kind v ∧ v ≠ .null) := by
  by_cases update : mode = .update
  · subst update
    obtain ⟨notNull, isInvalid⟩ := validate_update_eq_error failed
    exact .inr ⟨isInvalid, notNull⟩
  · rw [validate, if_neg update] at failed
    split at failed
    · next null =>
      obtain ⟨noDefault, required, isMissing⟩ := absent_eq_error_iff.1 failed
      exact .inl ⟨isMissing, Value.isNull_iff.1 null, update, required, noDefault⟩
    · next notNull =>
      split at failed
      · cases failed
      · exact .inr ⟨(refused_eq_error_iff.1 failed).2, mt Value.isNull_iff.2 notNull⟩

/-- Null is missing where it is neither accepted nor replaced by a default. -/
theorem validate_eq_missing (create : mode ≠ .update) (required : d.nullable = false)
    (noDefault : context.defaultValue? d.default doc = none) :
    context.validate mode name d .null doc = .error (.missing name d.kind) := by
  rw [validate, if_neg create, if_pos (Value.isNull_iff.2 rfl)]
  exact absent_eq_error_iff.2 ⟨noDefault, required, rfl⟩

/-- An error names what was validated. -/
theorem name_of_validate (failed : context.validate mode name d v doc = .error e) :
    e.name = name := by
  rcases validate_eq_error failed with ⟨rfl, -⟩ | ⟨rfl, -⟩ <;> rfl

/-! ## Answers for attributes and other keys -/

/-- A declared attribute is answered if it is asked for, by validating its value. -/
theorem declaredAnswer?_eq_some_iff (declared : schema.get? name = some d) :
    context.declaredAnswer? mode doc name d = some answer ↔
      schema.Asks mode doc name d ∧
        answer = context.validate mode name d (doc.valueAt name) doc := by
  have asks : schema.Asks mode doc name d ↔ mode = .create ∨ Entries.hasKey doc name = true :=
    ⟨fun asks => asks.present, fun present => ⟨declared, present⟩⟩
  rw [asks, declaredAnswer?, Document.valueAt, Entries.hasKey]
  cases Entries.get? doc name with
  | some value => simp [eq_comm]
  | none => by_cases create : mode = .create <;> simp [create, eq_comm]

/-- The place which a key leads on from. -/
theorem leads_iff : ((splitKey? key).bind fun (name, rest) =>
      (schema.get? name).map fun d => (d, rest)) = some (root, rest) ↔
    ∃ name, key = partName name rest ∧ '.' ∉ name.toList ∧ schema.get? name = some root := by
  simp only [Option.bind_eq_some_iff, Option.map_eq_some_iff, Prod.exists, Prod.mk.injEq,
    splitKey?_eq_some_iff]
  constructor
  · rintro ⟨name, rest, ⟨isKey, noDot⟩, root, declared, rfl, rfl⟩
    exact ⟨name, isKey, noDot, declared⟩
  · rintro ⟨name, isKey, noDot, declared⟩
    exact ⟨name, rest, ⟨isKey, noDot⟩, root, declared, rfl, rfl⟩

/-- A dotted key leads on from one attribute only. -/
theorem dotted_unique {root' : Descriptor} {rest' : String}
    (dotted : schema.Dotted doc key root rest) (other : schema.Dotted doc key root' rest') :
    root' = root ∧ rest' = rest := by
  have same := (leads_iff.2 other.leads).symm.trans (leads_iff.2 dotted.leads)
  cases same
  exact ⟨rfl, rfl⟩

/-- A dotted key is validated in an update, and refused otherwise. -/
theorem otherAnswer_of_dotted (dotted : schema.Dotted doc key root rest) :
    context.otherAnswer mode schema doc key v =
      if mode = .update then context.validateDotted key root rest v doc
      else .error (.ofValue key root.kind v) := by
  rw [otherAnswer, leads_iff.2 dotted.leads]

/-- A key that leads on from no attribute is kept as it is. -/
theorem otherAnswer_of_not_dotted (held : Entries.hasKey doc key = true)
    (undeclared : schema.declares key = false)
    (notDotted : ∀ root rest, ¬schema.Dotted doc key root rest) :
    context.otherAnswer mode schema doc key v = .ok v := by
  unfold otherAnswer
  split
  · rfl
  · next root rest leads =>
    exact absurd ⟨held, undeclared, leads_iff.1 leads⟩ (notDotted root rest)

/-- The failure of a dotted key is the answer to it. -/
theorem dottedFailure_iff (dotted : schema.Dotted doc key root rest) :
    context.DottedFailure mode schema doc key e ↔
      context.otherAnswer mode schema doc key (doc.valueAt key) = .error e := by
  have here : context.DottedFailure mode schema doc key e ↔
      e = .ofValue key root.kind (doc.valueAt key) ∧
        (mode = .update → ∀ candidate ∈ root.updateCandidates context.config (Path.segments rest),
          ∀ c, context.validate .update key candidate (doc.valueAt key) doc ≠ .ok c) := by
    constructor
    · rintro ⟨root', rest', other, failure⟩
      obtain ⟨rfl, rfl⟩ := dotted_unique dotted other
      exact failure
    · exact fun failure => ⟨root, rest, dotted, failure⟩
  rw [here, otherAnswer_of_dotted dotted]
  by_cases update : mode = .update
  · rw [if_pos update, validateDotted, validateFirst_eq_error_iff, and_comm]
    simp only [update, forall_const]
  · simp [update, eq_comm]

/-- Among the undeclared keys, dotted ones alone can fail. -/
theorem otherAnswer_eq_error_iff :
    Entries.hasKey doc key = true ∧ schema.declares key = false ∧
        context.otherAnswer mode schema doc key (doc.valueAt key) = .error e ↔
      context.DottedFailure mode schema doc key e := by
  by_cases dotted : ∃ root rest, schema.Dotted doc key root rest
  · obtain ⟨root, rest, dotted⟩ := dotted
    rw [dottedFailure_iff dotted]
    simp only [dotted.held, dotted.undeclared, true_and]
  · have notDotted root rest : ¬schema.Dotted doc key root rest :=
      fun isDotted => dotted ⟨root, rest, isDotted⟩
    constructor
    · rintro ⟨held, undeclared, failed⟩
      rw [otherAnswer_of_not_dotted held undeclared notDotted] at failed
      cases failed
    · rintro ⟨root, rest, isDotted, -⟩
      exact absurd isDotted (notDotted root rest)

/-! ## Failures of documents -/

/-- The answers for the attributes that the mode asks for. -/
def attributeAnswers (context : Context) (mode : Mode) (schema : Schema) (doc : Document) :
    List (String × Except ValidationError Value) :=
  schema.attributes.filterMap fun entry =>
    (context.declaredAnswer? mode doc entry.1 entry.2).map fun answer => (entry.1, answer)

/-- The answers for the keys of a document that are not declared. -/
def otherAnswers (context : Context) (mode : Mode) (schema : Schema) (doc : Document) :
    List (String × Except ValidationError Value) :=
  (doc.filter fun entry => !schema.declares entry.1).map fun entry =>
    (entry.1, context.otherAnswer mode schema doc entry.1 entry.2)

/-- What is answered for the attributes. -/
theorem mem_attributeAnswers_iff (attributes : Entries.Ascending schema.attributes) :
    (name, answer) ∈ context.attributeAnswers mode schema doc ↔
      ∃ d, schema.Asks mode doc name d ∧
        answer = context.validate mode name d (doc.valueAt name) doc := by
  rw [attributeAnswers, List.mem_filterMap]
  constructor
  · rintro ⟨⟨k, d⟩, member, made⟩
    obtain ⟨answer, answered, ⟨⟩⟩ := Option.map_eq_some_iff.1 made
    exact ⟨d, (declaredAnswer?_eq_some_iff (attributes.get?_of_mem member)).1 answered⟩
  · rintro ⟨d, asks, isAnswer⟩
    refine ⟨(name, d), Entries.mem_of_get? asks.declared, ?_⟩
    rw [(declaredAnswer?_eq_some_iff asks.declared).2 ⟨asks, isAnswer⟩]
    rfl

/-- What is answered for the other keys. -/
theorem mem_otherAnswers_iff (ascending : Entries.Ascending doc) :
    (key, answer) ∈ context.otherAnswers mode schema doc ↔
      Entries.hasKey doc key = true ∧ schema.declares key = false ∧
        answer = context.otherAnswer mode schema doc key (doc.valueAt key) := by
  simp only [otherAnswers, List.mem_map, List.mem_filter, Prod.exists, Prod.mk.injEq,
    Bool.not_eq_true', Entries.hasKey_iff_exists, Document.valueAt]
  constructor
  · rintro ⟨k, v, ⟨member, undeclared⟩, rfl, rfl⟩
    have found := ascending.get?_of_mem member
    exact ⟨⟨v, found⟩, undeclared, by rw [found]; rfl⟩
  · rintro ⟨⟨v, found⟩, undeclared, rfl⟩
    exact ⟨key, v, ⟨Entries.mem_of_get? found, undeclared⟩, rfl, by rw [found]; rfl⟩

/-- Every failure among answers is named by the key that it answers. -/
def Named (answers : List (String × Except ValidationError Value)) : Prop :=
  ∀ key e, (key, .error e) ∈ answers → e.name = key

/-- The failure under a name is the answer to it. -/
theorem Named.mem_failures_iff (named : Named answers) :
    e ∈ failures answers ∧ e.name = key ↔ (key, .error e) ∈ answers := by
  have isMember : e ∈ failures answers ↔ ∃ key, (key, .error e) ∈ answers := by
    simp only [failures, List.mem_filterMap, Prod.exists]
    constructor
    · rintro ⟨key, answer, member, isError⟩
      cases answer <;> cases isError
      exact ⟨key, member⟩
    · rintro ⟨key, member⟩
      exact ⟨key, _, member, rfl⟩
  rw [isMember]
  constructor
  · rintro ⟨⟨key, member⟩, rfl⟩
    rwa [named key e member]
  · exact fun member => ⟨⟨key, member⟩, named key e member⟩

/-- Failures come in the order of the answers. -/
theorem Named.names_sublist (named : Named answers) :
    ((failures answers).map (·.name)).Sublist (Entries.keys answers) := by
  induction answers with
  | nil => exact List.Sublist.slnil
  | cons entry rest ih =>
    obtain ⟨key, answer⟩ := entry
    have below := ih fun key e member => named key e (List.mem_cons_of_mem _ member)
    cases answer with
    | ok c => exact below.cons key
    | error e =>
      have isName : e.name = key := named key e List.mem_cons_self
      subst isName
      exact below.cons_cons e.name

/-- Failures of answers in order ascend by name. -/
theorem Named.ascending {α : Type} {m : Entries α} (named : Named answers)
    (listed : (Entries.keys answers).Sublist (Entries.keys m)) (ascending : Entries.Ascending m) :
    ((failures answers).map (·.name)).Pairwise (· < ·) :=
  (Entries.ascending_iff_keys.1 ascending).sublist (named.names_sublist.trans listed)

/-- The errors of attributes name them. -/
theorem named_attributeAnswers (attributes : Entries.Ascending schema.attributes) :
    Named (context.attributeAnswers mode schema doc) := by
  intro name e member
  obtain ⟨d, -, failed⟩ := (mem_attributeAnswers_iff attributes).1 member
  exact name_of_validate failed.symm

/-- The errors of other keys name them. -/
theorem named_otherAnswers (ascending : Entries.Ascending doc) :
    Named (context.otherAnswers mode schema doc) := by
  intro key e member
  obtain ⟨held, undeclared, failed⟩ := (mem_otherAnswers_iff ascending).1 member
  obtain ⟨root, rest, -, rfl, -⟩ := otherAnswer_eq_error_iff.1 ⟨held, undeclared, failed.symm⟩
  rfl

/-- Every error names what it was answered to. -/
theorem named_answers (attributes : Entries.Ascending schema.attributes)
    (ascending : Entries.Ascending doc) : Named (context.answers mode schema doc) := by
  intro key e member
  rcases List.mem_append.1 (answers_eq context mode schema doc ▸ member) with member | member
  · exact named_attributeAnswers attributes key e member
  · exact named_otherAnswers ascending key e member

/-- The failures of attributes come first. -/
theorem failures_answers (context : Context) (mode : Mode) (schema : Schema) (doc : Document) :
    failures (context.answers mode schema doc) =
      failures (context.attributeAnswers mode schema doc) ++
        failures (context.otherAnswers mode schema doc) := by
  rw [answers_eq, failures, List.filterMap_append]
  rfl

/-- What fails among the attributes. -/
theorem mem_attributeFailures_iff (attributes : Entries.Ascending schema.attributes) :
    e ∈ failures (context.attributeAnswers mode schema doc) ∧ e.name = name ↔
      context.AttributeFailure mode schema doc name e := by
  rw [(named_attributeAnswers attributes).mem_failures_iff, mem_attributeAnswers_iff attributes]
  simp only [AttributeFailure, eq_comm]

/-- What fails among the other keys. -/
theorem mem_otherFailures_iff (ascending : Entries.Ascending doc) :
    e ∈ failures (context.otherAnswers mode schema doc) ∧ e.name = key ↔
      context.DottedFailure mode schema doc key e := by
  rw [(named_otherAnswers ascending).mem_failures_iff, mem_otherAnswers_iff ascending,
    ← otherAnswer_eq_error_iff]
  simp only [eq_comm]

/-- Attributes are answered in their order. -/
theorem keys_attributeAnswers_sublist :
    (Entries.keys (context.attributeAnswers mode schema doc)).Sublist
      (Entries.keys schema.attributes) :=
  Entries.keys_filterMap_sublist _ _

/-- Other keys are answered in their order. -/
theorem keys_otherAnswers_sublist :
    (Entries.keys (context.otherAnswers mode schema doc)).Sublist (Entries.keys doc) := by
  rw [otherAnswers, Entries.keys, List.map_map]
  exact List.filter_sublist.map _

/-- A document is rejected with all failures, if there are any. -/
theorem validateDocument_eq_error_iff {error : DocumentError} :
    context.validateDocument mode schema doc = .error error ↔
      failures (context.answers mode schema doc) = error.errors ∧ error.errors ≠ [] := by
  obtain ⟨errors⟩ := error
  unfold validateDocument
  dsimp only
  cases failures (context.answers mode schema doc) with
  | nil => simp [eq_comm]
  | cons first rest => simp +contextual [eq_comm]

/-- What fails in a document. -/
theorem mem_failures_answers_iff (attributes : Entries.Ascending schema.attributes)
    (ascending : Entries.Ascending doc) :
    e ∈ failures (context.answers mode schema doc) ∧ e.name = key ↔
      context.AttributeFailure mode schema doc key e ∨
        context.DottedFailure mode schema doc key e := by
  rw [failures_answers, List.mem_append, or_and_right, mem_attributeFailures_iff attributes,
    mem_otherFailures_iff ascending]

/-- A document is accepted when nothing fails. -/
theorem exists_validateDocument_iff (attributes : Entries.Ascending schema.attributes)
    (ascending : Entries.Ascending doc) :
    (∃ out, context.validateDocument mode schema doc = .ok out) ↔
      ∀ key e, ¬context.AttributeFailure mode schema doc key e ∧
        ¬context.DottedFailure mode schema doc key e := by
  have noFailure : (∃ out, context.validateDocument mode schema doc = .ok out) ↔
      failures (context.answers mode schema doc) = [] := by
    unfold validateDocument
    dsimp only
    cases failures (context.answers mode schema doc) <;> simp
  rw [noFailure, List.eq_nil_iff_forall_not_mem]
  simp only [← not_or, ← mem_failures_answers_iff attributes ascending, not_and]
  exact ⟨fun none _ e member => absurd member (none e),
    fun none e member => none e.name e member rfl⟩

/-- What is reported as missing. -/
theorem mem_missing_iff (attributes : Entries.Ascending schema.attributes)
    (ascending : Entries.Ascending doc) {kind : Kind} :
    .missing name kind ∈ failures (context.answers mode schema doc) ↔
      ∃ d, schema.Asks mode doc name d ∧ kind = d.kind ∧ doc.valueAt name = .null ∧
        mode ≠ .update ∧ d.nullable = false ∧ context.defaultValue? d.default doc = none := by
  have failure : .missing name kind ∈ failures (context.answers mode schema doc) ↔
      context.AttributeFailure mode schema doc name (.missing name kind) ∨
        context.DottedFailure mode schema doc name (.missing name kind) := by
    rw [← mem_failures_answers_iff attributes ascending]
    exact (and_iff_left rfl).symm
  rw [failure]
  constructor
  · rintro (⟨d, asks, failed⟩ | ⟨root, rest, -, isInvalid, -⟩)
    · rcases validate_eq_error failed with ⟨isMissing, condition⟩ | ⟨isInvalid, -⟩
      · cases isMissing
        exact ⟨d, asks, rfl, condition⟩
      · cases isInvalid
    · cases isInvalid
  · rintro ⟨d, asks, rfl, null, create, required, noDefault⟩
    refine .inl ⟨d, asks, ?_⟩
    rw [null]
    exact validate_eq_missing create required noDefault

/-- What is reported as invalid is there, or belongs to a dotted key. -/
theorem invalid_of_mem (attributes : Entries.Ascending schema.attributes)
    (ascending : Entries.Ascending doc) {kind : Kind} {observed : String}
    (member : .invalid name kind observed ∈ failures (context.answers mode schema doc)) :
    observed = (doc.valueAt name).typeName ∧
      ((∃ d, schema.Asks mode doc name d ∧ kind = d.kind ∧ doc.valueAt name ≠ .null) ∨
        ∃ root rest, schema.Dotted doc name root rest ∧ kind = root.kind) := by
  rcases (mem_failures_answers_iff attributes ascending).1 ⟨member, (rfl : _ = name)⟩ with
    ⟨d, asks, failed⟩ | ⟨root, rest, dotted, isInvalid, -⟩
  · rcases validate_eq_error failed with ⟨isMissing, -⟩ | ⟨isInvalid, notNull⟩
    · cases isMissing
    · cases isInvalid
      exact ⟨rfl, .inl ⟨d, asks, rfl, notNull⟩⟩
  · cases isInvalid
    exact ⟨rfl, .inr ⟨root, rest, dotted, rfl⟩⟩

/-- A rejected document has a report. -/
theorem report_of_validateDocument (attributes : Entries.Ascending schema.attributes)
    (ascending : Entries.Ascending doc) {error : DocumentError}
    (rejected : context.validateDocument mode schema doc = .error error) :
    context.Report mode schema doc error.errors := by
  obtain ⟨errors⟩ := error
  obtain ⟨rfl, nonempty⟩ := validateDocument_eq_error_iff.1 rejected
  exact {
    nonempty := nonempty
    distinct := (nodup_keys_answers context mode attributes.nodup_keys ascending).sublist
      (named_answers attributes ascending).names_sublist
    parts := ⟨_, _, failures_answers context mode schema doc,
      (named_attributeAnswers attributes).ascending keys_attributeAnswers_sublist attributes,
      (named_otherAnswers ascending).ascending keys_otherAnswers_sublist ascending,
      fun _ _ => mem_attributeFailures_iff attributes, fun _ _ => mem_otherFailures_iff ascending⟩
    missing := fun _ _ => mem_missing_iff attributes ascending
    invalid := fun _ _ _ => invalid_of_mem attributes ascending
    code := DocumentError.code_eq_missing_iff }

/-! ## Canonical documents -/

/-- An attribute that is asked for is answered by validating its value. -/
theorem answer?_of_asks (asks : schema.Asks mode doc name d) :
    context.answer? mode schema doc name =
      some (context.validate mode name d (doc.valueAt name) doc) := by
  rw [answer?, asks.declared]
  exact (declaredAnswer?_eq_some_iff asks.declared).2 ⟨asks, rfl⟩

/-- Keys of the document are answered, and all attributes of a new one. -/
theorem isSome_answer?_iff : (context.answer? mode schema doc key).isSome = true ↔
    Entries.hasKey doc key = true ∨ mode = .create ∧ schema.declares key = true := by
  rw [answer?, Schema.declares, Schema.get?, Entries.hasKey, Entries.hasKey]
  cases Entries.get? schema.attributes key <;> cases given : Entries.get? doc key <;>
    simp [declaredAnswer?, given]

/-- An undeclared key is answered by what is answered for it. -/
theorem answer?_of_undeclared (undeclared : schema.declares key = false) :
    context.answer? mode schema doc key =
      (Entries.get? doc key).map (context.otherAnswer mode schema doc key) := by
  have absent : schema.get? key = none := by
    simpa [Schema.declares, Entries.hasKey, Schema.get?] using undeclared
  rw [answer?, absent]

/-- An accepted document has a canonical form. -/
theorem canonicalDocument_of_validateDocument (attributes : Entries.Ascending schema.attributes)
    (ascending : Entries.Ascending doc)
    (accepted : context.validateDocument mode schema doc = .ok out) :
    context.CanonicalDocument mode schema doc out := by
  obtain ⟨outAscending, each⟩ :=
    (validateDocument_eq_ok_iff attributes.nodup_keys ascending).1 accepted
  have found {key : String} {answer : Except ValidationError Value}
      (answered : context.answer? mode schema doc key = some answer) :
      ∃ c, Entries.get? out key = some c ∧ answer = .ok c := by
    rw [each] at answered
    obtain ⟨c, held, rfl⟩ := Option.map_eq_some_iff.1 answered
    exact ⟨c, held, rfl⟩
  have other {key : String} {v : Value} (undeclared : schema.declares key = false)
      (given : Entries.get? doc key = some v) : ∃ c, Entries.get? out key = some c ∧
        context.otherAnswer mode schema doc key v = .ok c :=
    found (by rw [answer?_of_undeclared undeclared, given, Option.map_some])
  refine ⟨outAscending, fun key => ?_, fun name d asks => found (answer?_of_asks asks),
    fun key root rest dotted => ?_, fun key undeclared notDotted => ?_⟩
  · have same : Entries.hasKey out key = (context.answer? mode schema doc key).isSome := by
      rw [each, Option.isSome_map, Entries.hasKey]
    rw [same]
    exact isSome_answer?_iff
  · obtain ⟨v, given⟩ := Entries.hasKey_iff_exists.1 dotted.held
    obtain ⟨c, held, answer⟩ := other dotted.undeclared given
    rw [otherAnswer_of_dotted dotted] at answer
    split at answer
    · rw [Document.valueAt, given]
      exact ⟨c, held, validateFirst_eq_ok_iff.1 answer⟩
    · cases answer
  · cases given : Entries.get? doc key with
    | some v =>
      obtain ⟨c, held, answer⟩ := other undeclared given
      rw [otherAnswer_of_not_dotted (Entries.hasKey_iff_exists.2 ⟨v, given⟩) undeclared notDotted]
        at answer
      cases answer
      exact held
    | none =>
      have answer := each key
      rw [answer?_of_undeclared undeclared, given] at answer
      exact Option.map_eq_none_iff.1 answer.symm

/-! ## The outcome -/

/-- A document is accepted exactly when every attribute that the mode asks for has an answer, and
either every key that leads on from an attribute is accepted by a candidate, in an update, or there
is no such key. It is answered by its canonical form, or by a report of its failures. -/
theorem validateDocument_outcome (context : Context) (mode : Mode)
    (attributes : Entries.Ascending schema.attributes) (ascending : Entries.Ascending doc) :
    ((∃ out, context.validateDocument mode schema doc = .ok out) ↔
      (∀ name d, schema.Asks mode doc name d →
        ∃ c, context.validate mode name d (doc.valueAt name) doc = .ok c) ∧
      (mode = .update → ∀ key root rest, schema.Dotted doc key root rest →
        ∃ candidate ∈ root.updateCandidates context.config (Path.segments rest),
          ∃ c, context.validate .update key candidate (doc.valueAt key) doc = .ok c) ∧
      (mode ≠ .update → ∀ key root rest, ¬schema.Dotted doc key root rest)) ∧
    (∀ out, context.validateDocument mode schema doc = .ok out →
      context.CanonicalDocument mode schema doc out) ∧
    ∀ error, context.validateDocument mode schema doc = .error error →
      context.Report mode schema doc error.errors := by
  refine ⟨?_, fun out => canonicalDocument_of_validateDocument attributes ascending,
    fun error => report_of_validateDocument attributes ascending⟩
  rw [exists_validateDocument_iff attributes ascending]
  constructor
  · intro none
    refine ⟨fun name d asks => ?_, fun _ key root rest dotted => ?_,
      fun create key root rest dotted => ?_⟩
    · cases answer : context.validate mode name d (doc.valueAt name) doc with
      | ok c => exact ⟨c, rfl⟩
      | error e => exact absurd ⟨d, asks, answer⟩ (none name e).1
    · by_contra refused
      exact (none key _).2 ⟨root, rest, dotted, rfl, fun _ candidate member c answer =>
        refused ⟨candidate, member, c, answer⟩⟩
    · exact (none key _).2 ⟨root, rest, dotted, rfl, fun update => absurd update create⟩
  · rintro ⟨accepted, updated, created⟩ key e
    constructor
    · rintro ⟨d, asks, failed⟩
      obtain ⟨c, answer⟩ := accepted key d asks
      rw [answer] at failed
      cases failed
    · rintro ⟨root, rest, dotted, -, refused⟩
      by_cases update : mode = .update
      · obtain ⟨candidate, member, c, answer⟩ := updated update key root rest dotted
        exact refused update candidate member c answer
      · exact created update key root rest dotted

/-- A level that is required, and a list of levels. -/
def readings : Schema :=
  ⟨"Readings", [("level", .ofShape (.int [])),
    ("levels", .ofShape (.list [.ofShape (.int [])] none))]⟩

/-- What is an update of one level is no document to create. -/
theorem validateDocument_outcome_readings :
    Entries.Ascending readings.attributes ∧
      initial.validateDocument .update readings [("levels.1", .str "5"), ("note", .bool true)] =
        .ok [("levels.1", .int 5), ("note", .bool true)] ∧
      initial.CanonicalDocument .update readings [("levels.1", .str "5"), ("note", .bool true)]
        [("levels.1", .int 5), ("note", .bool true)] ∧
      initial.validateDocument .create readings [("levels.1", .str "5"), ("note", .bool true)] =
        .error ⟨[.missing "level" .int, .missing "levels" .list,
          .invalid "levels.1" .list "str"]⟩ ∧
      initial.Report .create readings [("levels.1", .str "5"), ("note", .bool true)]
        [.missing "level" .int, .missing "levels" .list, .invalid "levels.1" .list "str"] := by
  have attributes : Entries.Ascending readings.attributes := List.pairwise_pair.2 (by decide)
  have ascending : Entries.Ascending [("levels.1", Value.str "5"), ("note", .bool true)] :=
    List.pairwise_pair.2 (by decide)
  exact ⟨attributes, rfl, (validateDocument_outcome _ _ attributes ascending).2.1 _ rfl, rfl,
    (validateDocument_outcome _ _ attributes ascending).2.2 _ rfl⟩

end Context

end DocumentSchema

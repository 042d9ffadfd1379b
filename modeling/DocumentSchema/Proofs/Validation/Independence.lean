import DocumentSchema.Proofs.Validation.Congruence
import DocumentSchema.Proofs.Validation.DottedUpdate
import DocumentSchema.Proofs.Validation.Outcome

/-!
Keys of a document do not influence each other.

A document reaches validation as a whole only to be given to generators of defaults. Without these,
the answer of a descriptor to a value is the same in all documents
(`Context.validate_of_generatorFree`), and so the answer for a key of a document depends on the
value of that key alone. What is reported for the key, and its canonical value, are the same in two
documents that agree on it (`Context.validateDocument_independent`).
-/

namespace DocumentSchema.Context

variable {context : Context} {file : String → Value → Document → Option Value} {mode : Mode}
  {schema : Schema} {d : Descriptor} {doc doc' : Document} {name key : String} {v c : Value}
  {answers : List (String × Except ValidationError Value)}

/-! ## Values in different documents -/

theorem defaultValue?_of_generatorFree (free : d.GeneratorFree) (doc doc' : Document) :
    context.defaultValue? d.default doc = context.defaultValue? d.default doc' := by
  cases held : d.default with
  | none => rfl
  | some default =>
    obtain ⟨value, rfl⟩ := free.here default held
    rfl

/-- What the kind of a descriptor accepts, when its children answer alike in both documents. -/
theorem acceptShape_of_generatorFree (files : FilesAgree file doc doc')
    (children : ∀ child ∈ d.children, ∀ name v c,
      context.validatePart file name child v doc = .ok c ↔
        context.validatePart file name child v doc' = .ok c)
    (custom : ValidatorRef → Value → Option Value) (name : String) (v : Value) :
    context.acceptShape file custom name d.shape v doc =
      context.acceptShape file custom name d.shape v doc' :=
  acceptShape_eq_of_children rfl rfl rfl (fun _ => files name name rfl v) (fun _ => rfl)
    (fun _ _ => rfl) (fun child member => children child member name v)
    (fun child member part => children child member (partName name part))

theorem validatePart_of_generatorFree (files : FilesAgree file doc doc') (free : d.GeneratorFree)
    (name : String) (v c : Value) :
    context.validatePart file name d v doc = .ok c ↔
      context.validatePart file name d v doc' = .ok c := by
  induction d using Descriptor.byChildren generalizing name v c with
  | step d ih =>
    have accepted := acceptShape_of_generatorFree files
      (fun child member => ih child member (free.ofChild member))
      (context.acceptCustom .deep name d) name v
    rw [validatePart_eq_ok_iff, validatePart_eq_ok_iff, Answers, Answers, accepted,
      defaultValue?_of_generatorFree free doc doc']

/-- Without generators the answer of a descriptor, failures included, is the same in all
documents. -/
theorem validate_of_generatorFree (context : Context) (mode : Mode) (name : String)
    (free : d.GeneratorFree) (v : Value) (doc doc' : Document) :
    context.validate mode name d v doc = context.validate mode name d v doc' := by
  have files : FilesAgree context.acceptFile doc doc' := filesAgree_acceptFile context doc doc'
  have children : ∀ child ∈ d.children, ∀ name v c,
      context.validatePart context.acceptFile name child v doc = .ok c ↔
        context.validatePart context.acceptFile name child v doc' = .ok c :=
    fun child member => validatePart_of_generatorFree files (free.ofChild member)
  apply validate_eq_of_accepted
  · exact fun mode v => acceptShape_of_generatorFree files children _ name v
  · exact fun v => acceptElement_eq_of_children fun child member => children child member name v
  · exact defaultValue?_of_generatorFree free doc doc'

/-! ## Answers for a key -/

/-- Every descriptor that a dotted key may lead to is free of generators, if the attribute is. -/
theorem generatorFree_of_mem_updateCandidates {config : Config} {candidate : Descriptor}
    {segments : List String} (free : d.GeneratorFree)
    (member : candidate ∈ d.updateCandidates config segments) : candidate.GeneratorFree := by
  rcases Descriptor.occurs_of_mem_updateCandidates member with occurs | rfl
  · exact free.part occurs
  · exact Descriptor.DefaultFree.generatorFree (Descriptor.throughout_of_leaf rfl rfl)

/-- What several candidates answer depends on the answer of each alone. -/
theorem validateFirst_congr {kind : Kind} {candidates : List Descriptor}
    (same : ∀ candidate ∈ candidates, context.validate .update key candidate v doc =
      context.validate .update key candidate v doc') :
    context.validateFirst key kind v doc candidates =
      context.validateFirst key kind v doc' candidates := by
  induction candidates with
  | nil => rfl
  | cons candidate rest ih =>
    have below := ih fun other member => same other (List.mem_cons_of_mem _ member)
    rw [validateFirst, validateFirst, same candidate List.mem_cons_self, below]

theorem validateDotted_of_generatorFree (free : d.GeneratorFree) (key rest : String) (v : Value)
    (doc doc' : Document) :
    context.validateDotted key d rest v doc = context.validateDotted key d rest v doc' :=
  validateFirst_congr fun _ member => validate_of_generatorFree context .update key
    (generatorFree_of_mem_updateCandidates free member) v doc doc'

section Attributes

variable (free : ∀ field ∈ schema.attributes, field.2.GeneratorFree)
include free

theorem otherAnswer_of_generatorFree (key : String) (v : Value) (doc doc' : Document) :
    context.otherAnswer mode schema doc key v = context.otherAnswer mode schema doc' key v := by
  unfold otherAnswer
  cases leads : (splitKey? key).bind fun parts =>
    (schema.get? parts.1).map fun d => (d, parts.2) with
  | none => rfl
  | some found =>
    obtain ⟨root, rest⟩ := found
    obtain ⟨⟨first, _⟩, -, declared⟩ := Option.bind_eq_some_iff.1 leads
    obtain ⟨_, held, ⟨⟩⟩ := Option.map_eq_some_iff.1 declared
    have ofRoot : root.GeneratorFree := free (first, root) (Entries.mem_of_get? held)
    simp only [validateDotted_of_generatorFree ofRoot key _ v doc doc']

/-- The answer for a key depends on the value of the key alone. -/
theorem answer?_of_agree (agree : Entries.get? doc key = Entries.get? doc' key) :
    context.answer? mode schema doc key = context.answer? mode schema doc' key := by
  unfold answer?
  cases declared : schema.get? key with
  | none =>
    have same : context.otherAnswer mode schema doc key =
        context.otherAnswer mode schema doc' key :=
      funext fun v => otherAnswer_of_generatorFree free key v doc doc'
    simp only [agree, same]
  | some d =>
    have ofAttribute : d.GeneratorFree := free (key, d) (Entries.mem_of_get? declared)
    simp only [declaredAnswer?, agree, validate_of_generatorFree context mode key ofAttribute _
      doc doc']

end Attributes

/-! ## What is reported for a key -/

/-- The failure that an answer is, if it is one. -/
def failure? : Except ValidationError Value → Option ValidationError
  | .ok _ => none
  | .error e => some e

/-- The failures that validation of a document reports for a key. -/
def reportedFor (outcome : Except DocumentError Document) (key : String) : List ValidationError :=
  match outcome with
  | .ok _ => []
  | .error error => error.errors.filter fun e => e.name = key

/-- Of failures that are named by the keys they answer, a key has the one that is its answer. -/
theorem Named.filter_failures (named : Named answers) (distinct : (Entries.keys answers).Nodup)
    (key : String) :
    ((failures answers).filter fun e => e.name = key) =
      ((Entries.get? answers key).bind failure?).toList := by
  induction answers with
  | nil => rfl
  | cons entry rest ih =>
    obtain ⟨k, answer⟩ := entry
    have namedRest : Named rest := fun key e member => named key e (List.mem_cons_of_mem _ member)
    obtain ⟨fresh, distinctRest⟩ := List.nodup_cons.1 distinct
    have below := ih namedRest distinctRest
    have failuresOf : failures ((k, answer) :: rest) =
        (failure? answer).toList ++ failures rest := by
      cases answer <;> rfl
    rw [failuresOf, List.filter_append, below, Entries.get?]
    by_cases same : k = key
    · subst same
      have absent : Entries.get? rest k = none := Entries.get?_eq_none_iff.2 fresh
      rw [absent, if_pos rfl]
      cases answer with
      | ok c => rfl
      | error e =>
        have isName : e.name = k := named k e List.mem_cons_self
        simp [failure?, isName]
    · rw [if_neg same]
      cases answer with
      | ok c => rfl
      | error e =>
        have isName : e.name = k := named k e List.mem_cons_self
        simp [failure?, isName, same]

/-- What is reported for a key is the failure that its answer is. -/
theorem reportedFor_validateDocument (attributes : Entries.Ascending schema.attributes)
    (ascending : Entries.Ascending doc) :
    reportedFor (context.validateDocument mode schema doc) key =
      ((context.answer? mode schema doc key).bind failure?).toList := by
  have all : reportedFor (context.validateDocument mode schema doc) key =
      (failures (context.answers mode schema doc)).filter fun e => e.name = key := by
    unfold validateDocument reportedFor
    dsimp only
    cases failures (context.answers mode schema doc) <;> rfl
  rw [all, (named_answers attributes ascending).filter_failures
    (nodup_keys_answers context mode attributes.nodup_keys ascending) key,
    get?_answers attributes.nodup_keys]

/-- Without generators, two documents that agree on a key have the same failure reported for it, or
none, and if both are accepted, their canonical forms agree on the key. -/
theorem validateDocument_independent (context : Context) (mode : Mode)
    (attributes : Entries.Ascending schema.attributes)
    (free : ∀ field ∈ schema.attributes, field.2.GeneratorFree)
    (ascending : Entries.Ascending doc) (ascending' : Entries.Ascending doc')
    (agree : Entries.get? doc key = Entries.get? doc' key) :
    (reportedFor (context.validateDocument mode schema doc) key).length ≤ 1 ∧
      reportedFor (context.validateDocument mode schema doc) key =
        reportedFor (context.validateDocument mode schema doc') key ∧
      ∀ out out', context.validateDocument mode schema doc = .ok out →
        context.validateDocument mode schema doc' = .ok out' →
          Entries.get? out key = Entries.get? out' key := by
  have answer : context.answer? mode schema doc key = context.answer? mode schema doc' key :=
    answer?_of_agree free agree
  refine ⟨?_, ?_, fun out out' accepted accepted' => ?_⟩
  · rw [reportedFor_validateDocument attributes ascending]
    cases (context.answer? mode schema doc key).bind failure? <;> simp
  · rw [reportedFor_validateDocument attributes ascending,
      reportedFor_validateDocument attributes ascending', answer]
  · obtain ⟨-, each⟩ := (validateDocument_eq_ok_iff attributes.nodup_keys ascending).1 accepted
    obtain ⟨-, each'⟩ := (validateDocument_eq_ok_iff attributes.nodup_keys ascending').1 accepted'
    have same : (Entries.get? out key).map (Except.ok : Value → Except ValidationError Value) =
        (Entries.get? out' key).map .ok := by
      rw [← each, ← each', answer]
    exact Option.map_injective (fun _ _ => Except.ok.inj) same

theorem generatorFree_readings : ∀ field ∈ readings.attributes, field.2.GeneratorFree := by
  intro field member
  apply Descriptor.DefaultFree.generatorFree
  rcases List.mem_pair.1 (show field ∈ [_, _] from member) with rfl | rfl
  · exact Descriptor.throughout_of_leaf rfl rfl
  · refine Descriptor.throughout_iff.2 ⟨rfl, fun item held => ?_⟩
    cases List.mem_singleton.1 (show item ∈ [_] from held)
    exact Descriptor.throughout_of_leaf rfl rfl

/-- A level that is no integer is reported whether or not another level fails beside it. -/
theorem validateDocument_independent_readings :
    Entries.Ascending readings.attributes ∧
      (∀ field ∈ readings.attributes, field.2.GeneratorFree) ∧
      initial.validateDocument .update readings [("level", .str "low"), ("levels.1", .bool true)] =
        .error ⟨[.invalid "level" .int "str", .invalid "levels.1" .list "bool"]⟩ ∧
      reportedFor (initial.validateDocument .update readings
          [("level", .str "low"), ("levels.1", .bool true)]) "level" =
        reportedFor (initial.validateDocument .update readings
          [("level", .str "low"), ("note", .null)]) "level" ∧
      reportedFor (initial.validateDocument .update readings
          [("level", .str "low"), ("note", .null)]) "level" = [.invalid "level" .int "str"] := by
  have attributes : Entries.Ascending readings.attributes := List.pairwise_pair.2 (by decide)
  have ascending : Entries.Ascending [("level", Value.str "low"), ("levels.1", .bool true)] :=
    List.pairwise_pair.2 (by decide)
  have ascending' : Entries.Ascending [("level", Value.str "low"), ("note", .null)] :=
    List.pairwise_pair.2 (by decide)
  exact ⟨attributes, generatorFree_readings, rfl,
    (validateDocument_independent initial .update attributes generatorFree_readings ascending
      ascending' rfl).2.1, rfl⟩

end DocumentSchema.Context

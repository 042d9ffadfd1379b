import DocumentSchema.Proofs.Descriptor.Parts
import DocumentSchema.Proofs.Traversal
import DocumentSchema.Validation.Value

/-!
What validation does with each kind of value.

One statement for each function of validation says when it answers what: `validatePart_eq_ok_iff`
for the parts of values, `acceptFirst_eq_some_iff` for alternatives, and one for each kind with
children. Proofs about validation use these and do not open the functions themselves.
-/

namespace DocumentSchema

theorem Value.isNull_iff {v : Value} : v.isNull = true ↔ v = .null := by
  cases v <;> simp [isNull]

namespace Context

/-- The context of the initial configuration, without callbacks and at the epoch. -/
def initial : Context :=
  ⟨.initial, .empty, ⟨0, 0⟩⟩

variable {context : Context} {file : String → Value → Document → Option Value}
  {custom : ValidatorRef → Value → Option Value} {mode : Mode} {name : String}
  {doc : Document} {d : Descriptor} {v c : Value}

/-! ## Null and refused values -/

/-- An absent value is replaced by the default, or stays null where that is accepted. -/
theorem absent_eq_ok_iff {kind : Kind} {default : Option Default} {nullable : Bool} :
    context.absent name kind default nullable doc = .ok c ↔
      context.defaultValue? default doc = some c ∨
        context.defaultValue? default doc = none ∧ nullable = true ∧ c = .null := by
  unfold absent
  cases context.defaultValue? default doc with
  | some value => simp
  | none => cases nullable <;> simp [eq_comm]

/-- An absent value is missing where there is no default and null is not accepted. -/
theorem absent_eq_error_iff {kind : Kind} {default : Option Default} {nullable : Bool}
    {error : ValidationError} :
    context.absent name kind default nullable doc = .error error ↔
      context.defaultValue? default doc = none ∧ nullable = false ∧ error = .missing name kind := by
  unfold absent
  cases context.defaultValue? default doc with
  | some value => simp
  | none => cases nullable <;> simp [eq_comm]

/-- A refused value is replaced by the default. -/
theorem refused_eq_ok_iff {kind : Kind} {default : Option Default} :
    context.refused name kind default v doc = .ok c ↔
      context.defaultValue? default doc = some c := by
  unfold refused
  cases context.defaultValue? default doc <;> simp

/-- A refused value is invalid where there is no default. -/
theorem refused_eq_error_iff {kind : Kind} {default : Option Default} {error : ValidationError} :
    context.refused name kind default v doc = .error error ↔
      context.defaultValue? default doc = none ∧ error = .ofValue name kind v := by
  unfold refused
  cases context.defaultValue? default doc <;> simp [eq_comm]

/-- The answer of a descriptor to a value, of which its kind makes `accepted`: a default or null for
null, and otherwise what the kind makes of the value, or else a default. -/
def Answers (context : Context) (d : Descriptor) (doc : Document) (v : Value)
    (accepted : Option Value) (c : Value) : Prop :=
  (v = .null ∧ (context.defaultValue? d.default doc = some c ∨
    context.defaultValue? d.default doc = none ∧ d.nullable = true ∧ c = .null)) ∨
  (v ≠ .null ∧ (accepted = some c ∨
    accepted = none ∧ context.defaultValue? d.default doc = some c))

/-- What a part is answered. -/
theorem validatePart_eq_ok_iff :
    context.validatePart file name d v doc = .ok c ↔
      context.Answers d doc v
        (context.acceptShape file (context.acceptCustom .deep name d) name d.shape v doc) c := by
  obtain ⟨shape, default, nullable⟩ := d
  rw [validatePart, Answers]
  by_cases null : v = .null
  · rw [if_pos (Value.isNull_iff.2 null), absent_eq_ok_iff]
    simp [null, Descriptor.default, Descriptor.nullable]
  · rw [if_neg (mt Value.isNull_iff.1 null)]
    simp only [null, not_false_eq_true, ne_eq, true_and, false_and, false_or, Descriptor.default,
      Descriptor.shape]
    cases context.acceptShape file (context.acceptCustom .deep name (.mk shape default nullable))
      name shape v doc with
    | some canonical => simp
    | none => simp [refused_eq_ok_iff]

/-- Outside updates a whole value is answered as its parts are, but for custom validators, which are
told the mode. -/
theorem validate_eq_ok_iff (create : mode ≠ .update) :
    context.validate mode name d v doc = .ok c ↔
      context.Answers d doc v (context.accept mode name d v doc) c := by
  rw [validate, if_neg create, Answers]
  by_cases null : v = .null
  · rw [if_pos (Value.isNull_iff.2 null), absent_eq_ok_iff]
    simp [null]
  · rw [if_neg (mt Value.isNull_iff.1 null)]
    simp only [null, not_false_eq_true, ne_eq, true_and, false_and, false_or]
    cases context.accept mode name d v doc with
    | some canonical => simp
    | none => simp [refused_eq_ok_iff]

/-- A request to change a value: a map with a reserved key. -/
def IsRequest (v : Value) : Prop :=
  ∃ entries, v = .map entries ∧ Document.hasOperator entries = true

/-- In an update, null is accepted by every descriptor. -/
theorem validate_update_null (context : Context) (name : String) (d : Descriptor) (doc : Document) :
    context.validate .update name d .null doc = .ok .null :=
  rfl

/-- A refused request is reported as invalid. -/
theorem eq_of_validateOperator_eq_error {entries : Document} {error : ValidationError}
    (failed : context.validateOperator name d entries doc = .error error) :
    error = .ofValue name d.kind (.map entries) := by
  unfold validateOperator at failed
  split at failed
  · cases failed
  · cases failed
    rfl

/-- What fails in an update is a value other than null. -/
theorem validate_update_eq_error {error : ValidationError}
    (failed : context.validate .update name d v doc = .error error) :
    v ≠ .null ∧ error = .ofValue name d.kind v := by
  have notNull : v ≠ .null := by
    rintro rfl
    rw [validate_update_null] at failed
    cases failed
  refine ⟨notNull, ?_⟩
  rw [validate, if_pos rfl, validateUpdate, if_neg (mt Value.isNull_iff.1 notNull)] at failed
  dsimp only at failed
  split at failed
  · next entries =>
    split at failed
    · exact eq_of_validateOperator_eq_error failed
    · split at failed <;> cases failed
      rfl
  · split at failed <;> cases failed
    rfl

/-- In an update there are no defaults. -/
theorem validate_update_eq_ok_iff (notNull : v ≠ .null) (plain : ¬IsRequest v) :
    context.validate .update name d v doc = .ok c ↔
      context.accept .update name d v doc = some c := by
  rw [validate, if_pos rfl, validateUpdate, if_neg (mt Value.isNull_iff.1 notNull)]
  cases v with
  | map entries =>
    dsimp only
    rw [if_neg fun request => plain ⟨entries, rfl, request⟩]
    cases context.accept .update name d (.map entries) doc <;> simp
  | _ => cases context.accept .update name d _ doc <;> simp

/-! ## Alternatives -/

/-- The first alternative that passes is chosen. -/
theorem acceptFirst_eq_some_iff {alternatives : List Descriptor} :
    context.acceptFirst file name alternatives v doc = some c ↔
      ∃ before chosen after, alternatives = before ++ chosen :: after ∧
        (∀ d ∈ before, ∀ canonical, context.validatePart file name d v doc ≠ .ok canonical) ∧
        context.validatePart file name chosen v doc = .ok c := by
  induction alternatives with
  | nil => simp [acceptFirst]
  | cons d rest ih =>
    rw [acceptFirst]
    cases answer : context.validatePart file name d v doc with
    | ok canonical =>
      constructor
      · intro held
        cases held
        exact ⟨[], d, rest, rfl, by simp, answer⟩
      · intro h
        obtain ⟨before, chosen, after, split, passed, chosenAnswer⟩ := h
        cases before with
        | nil =>
          cases split
          rw [answer] at chosenAnswer
          exact congrArg some (Except.ok.inj chosenAnswer)
        | cons first others =>
          cases split
          exact absurd answer (passed _ (by simp) canonical)
    | error e =>
      rw [ih]
      constructor
      · intro h
        obtain ⟨before, chosen, after, rfl, passed, chosenAnswer⟩ := h
        refine ⟨d :: before, chosen, after, rfl, fun other member canonical => ?_, chosenAnswer⟩
        rcases List.mem_cons.1 member with rfl | later
        · simp [answer]
        · exact passed other later canonical
      · intro h
        obtain ⟨before, chosen, after, split, passed, chosenAnswer⟩ := h
        cases before with
        | nil =>
          cases split
          rw [answer] at chosenAnswer
          cases chosenAnswer
        | cons first others =>
          cases split
          exact ⟨others, chosen, after, rfl, fun other member => passed other (by simp [member]),
            chosenAnswer⟩

/-- Some alternative accepts a value exactly when there is a first one to do so. -/
theorem exists_acceptFirst_iff {alternatives : List Descriptor} :
    (∃ c, context.acceptFirst file name alternatives v doc = some c) ↔
      ∃ d ∈ alternatives, ∃ c, context.validatePart file name d v doc = .ok c := by
  induction alternatives with
  | nil => simp [acceptFirst]
  | cons d rest ih =>
    rw [acceptFirst]
    cases answer : context.validatePart file name d v doc with
    | ok canonical => simp [answer]
    | error e => simp [answer, ih]

/-- What is accepted is accepted by some alternative. -/
theorem exists_mem_of_acceptFirst {alternatives : List Descriptor}
    (accepted : context.acceptFirst file name alternatives v doc = some c) :
    ∃ d ∈ alternatives, context.validatePart file name d v doc = .ok c := by
  obtain ⟨before, chosen, after, rfl, -, answer⟩ := acceptFirst_eq_some_iff.1 accepted
  exact ⟨chosen, by simp, answer⟩

/-- What alternatives answer depends on the answer of each alone. -/
theorem acceptFirst_congr {context' : Context} {file' : String → Value → Document → Option Value}
    {name' : String} {v' : Value} {doc' : Document} {alternatives : List Descriptor}
    (same : ∀ d ∈ alternatives, ∀ c, context.validatePart file name d v doc = .ok c ↔
      context'.validatePart file' name' d v' doc' = .ok c) :
    context.acceptFirst file name alternatives v doc =
      context'.acceptFirst file' name' alternatives v' doc' := by
  induction alternatives with
  | nil => rfl
  | cons d rest ih =>
    have here := same d (by simp)
    have there := ih fun other member => same other (by simp [member])
    rw [acceptFirst, acceptFirst]
    cases answer : context.validatePart file name d v doc with
    | ok canonical =>
      rw [(here canonical).1 answer]
    | error e =>
      cases answer' : context'.validatePart file' name' d v' doc' with
      | ok canonical =>
        rw [(here canonical).2 answer'] at answer
        cases answer
      | error e' => exact there

/-- A single alternative is chosen if it passes. -/
theorem acceptFirst_singleton :
    context.acceptFirst file name [d] v doc = some c ↔
      context.validatePart file name d v doc = .ok c := by
  rw [acceptFirst]
  cases context.validatePart file name d v doc <;> simp [acceptFirst]

/-! ## Kinds with children -/

/-- What a list accepts. -/
theorem acceptShape_list_eq_some_iff {alternatives : List Descriptor}
    {length : Option LengthRange} :
    context.acceptShape file custom name (.list alternatives length) v doc = some c ↔
      ∃ items canonical, v = .list items ∧ lengthFits length items.length = true ∧
        c = .list canonical ∧ canonical.length = items.length ∧
        ∀ (i : Nat) item part, items[i]? = some item → canonical[i]? = some part →
          context.acceptFirst file (partName name (toString i)) alternatives item doc =
            some part := by
  rw [acceptShape]
  cases v with
  | list items =>
    simp only [Value.list?, Option.bind_eq_bind, Option.bind_some, Option.bind_eq_some_iff,
      guard_eq_some_iff, Option.pure_def, option_mapM_eq_some_iff, forall₂_zipIdx_iff,
      Option.some.injEq, Value.list.injEq]
    constructor
    · intro h
      obtain ⟨-, fits, canonical, each, rfl⟩ := h
      exact ⟨items, canonical, rfl, fits, rfl, each⟩
    · intro h
      obtain ⟨_, canonical, rfl, fits, rfl, each⟩ := h
      exact ⟨(), fits, canonical, each, rfl⟩
  | _ => simp [Value.list?]

/-- A canonical entry of a dictionary beside the entry that it comes from. -/
def EntryAccepted (context : Context) (file : String → Value → Document → Option Value)
    (name : String) (key val : Descriptor) (doc : Document) (entry canonical : String × Value) :
    Prop :=
  (∃ canonicalKey,
    context.validatePart file (partName name entry.1) key (.str entry.1) doc = .ok canonicalKey ∧
      keyText? canonicalKey = some canonical.1) ∧
  context.validatePart file (partName name entry.1) val entry.2 doc = .ok canonical.2

theorem entryAccepted_iff {key val : Descriptor} {entry canonical : String × Value} :
    (∃ canonicalKey,
      (context.validatePart file (partName name entry.1) key (.str entry.1) doc).toOption =
        some canonicalKey ∧
      ∃ text, keyText? canonicalKey = some text ∧ ∃ canonicalValue,
        (context.validatePart file (partName name entry.1) val entry.2 doc).toOption =
          some canonicalValue ∧ (text, canonicalValue) = canonical) ↔
      context.EntryAccepted file name key val doc entry canonical := by
  simp only [toOption_eq_some_iff, EntryAccepted]
  constructor
  · intro h
    obtain ⟨canonicalKey, keyAnswer, text, written, canonicalValue, valueAnswer, rfl⟩ := h
    exact ⟨⟨canonicalKey, keyAnswer, written⟩, valueAnswer⟩
  · intro h
    obtain ⟨⟨canonicalKey, keyAnswer, written⟩, valueAnswer⟩ := h
    exact ⟨canonicalKey, keyAnswer, _, written, _, valueAnswer, rfl⟩

/-- What a dictionary accepts. -/
theorem acceptShape_dict_eq_some_iff {key val : Descriptor} {required : List String}
    {length : Option LengthRange} :
    context.acceptShape file custom name (.dict key val required length) v doc = some c ↔
      ∃ entries canonical, v = .map entries ∧ lengthFits length entries.length = true ∧
        (∀ k ∈ required, Entries.hasKey entries k = true) ∧
        c = .map (Entries.ofList canonical) ∧
        List.Forall₂ (context.EntryAccepted file name key val doc) entries canonical := by
  rw [acceptShape]
  cases v with
  | map entries =>
    simp only [Value.map?, Option.bind_eq_bind, Option.bind_some, Option.bind_eq_some_iff,
      guard_eq_some_iff, Option.pure_def, option_mapM_eq_some_iff, Option.some.injEq,
      Value.map.injEq, List.all_eq_true, entryAccepted_iff]
    constructor
    · intro h
      obtain ⟨-, fits, -, present, canonical, each, rfl⟩ := h
      exact ⟨entries, canonical, rfl, fits, present, rfl, each⟩
    · intro h
      obtain ⟨_, canonical, rfl, fits, present, rfl, each⟩ := h
      exact ⟨(), fits, (), present, canonical, each, rfl⟩
  | _ => simp [Value.map?]

/-- Fields are accepted one by one; an absent one counts as null. -/
theorem acceptFields_eq_some_iff {fields : List (String × Descriptor)} {entries out : Document} :
    context.acceptFields file name fields entries doc = some out ↔
      List.Forall₂ (fun field canonical => field.1 = canonical.1 ∧
        context.validatePart file (partName name field.1) field.2
          ((Entries.get? entries field.1).getD .null) doc = .ok canonical.2) fields out := by
  induction fields generalizing out with
  | nil => cases out <;> simp [acceptFields]
  | cons field rest ih =>
    rw [acceptFields]
    simp only [Option.bind_eq_bind, Option.pure_def, Option.bind_eq_some_iff, toOption_eq_some_iff,
      Option.some.injEq, ih, List.forall₂_cons_left_iff]
    constructor
    · intro h
      obtain ⟨canonical, answer, others, each, rfl⟩ := h
      exact ⟨(field.1, canonical), others, ⟨rfl, answer⟩, each, rfl⟩
    · intro h
      obtain ⟨⟨_, canonical⟩, others, ⟨rfl, answer⟩, each, rfl⟩ := h
      exact ⟨canonical, answer, others, each, rfl⟩

/-- What is made of fields depends on the answer for each alone. -/
theorem acceptFields_congr {context' : Context} {file' : String → Value → Document → Option Value}
    {name' : String} {fields : List (String × Descriptor)} {entries entries' doc' : Document}
    (same : ∀ field ∈ fields, ∀ c,
      context.validatePart file (partName name field.1) field.2
          ((Entries.get? entries field.1).getD .null) doc = .ok c ↔
        context'.validatePart file' (partName name' field.1) field.2
          ((Entries.get? entries' field.1).getD .null) doc' = .ok c) :
    context.acceptFields file name fields entries doc =
      context'.acceptFields file' name' fields entries' doc' := by
  ext out
  rw [acceptFields_eq_some_iff, acceptFields_eq_some_iff]
  exact forall₂_congr_of_mem fun field member canonical =>
    and_congr_right fun _ => same field member canonical.2

/-- What a record accepts. -/
theorem acceptShape_record_eq_some_iff {fields : List (String × Descriptor)} :
    context.acceptShape file custom name (.record fields) v doc = some c ↔
      ∃ entries canonical, v = .map entries ∧
        context.acceptFields file name fields entries doc = some canonical ∧
        (∀ k ∈ Entries.keys entries, Entries.hasKey fields k = true) ∧ c = .map canonical := by
  rw [acceptShape]
  cases v with
  | map entries =>
    simp only [Value.map?, Option.bind_eq_bind, Option.bind_some, Option.bind_eq_some_iff,
      guard_eq_some_iff, Option.pure_def, Option.some.injEq, Value.map.injEq, List.all_eq_true]
    constructor
    · intro h
      obtain ⟨canonical, accepted, -, declared, rfl⟩ := h
      exact ⟨entries, canonical, rfl, accepted, declared, rfl⟩
    · intro h
      obtain ⟨_, canonical, rfl, accepted, declared, rfl⟩ := h
      exact ⟨canonical, accepted, (), declared, rfl⟩
  | _ => simp [Value.map?]

/-! ## Files -/

/-- What a value stands for as a file: the item of a list of one, or else itself. -/
def fileOf : Value → Value
  | .list [item] => item
  | v => v

/-- A file is accepted in the form of files. -/
theorem acceptFile_eq_some_iff :
    context.acceptFile name v doc = some c ↔
      context.validatePart (fun _ _ _ => none) name .fileForm (fileOf v) doc = .ok c := by
  rw [← toOption_eq_some_iff]
  cases v with
  | list items => rcases items with _ | ⟨item, _ | ⟨_, _⟩⟩ <;> rfl
  | _ => rfl

end Context

end DocumentSchema

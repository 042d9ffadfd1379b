import DocumentSchema.Proofs.Validation.Congruence
import DocumentSchema.Proofs.Validation.Keys
import DocumentSchema.Proofs.Validation.Localised
import DocumentSchema.Proofs.Validation.Operators

/-!
Requests and data in updates.

In an update, a map with a reserved key is a request and every other value is data. What validation
answers stays on the same side: a request is answered by its canonical form, which acts on what the
request acts on, or else is refused, and data is never answered by a request
(`Context.validate_update_separates`).
-/

namespace DocumentSchema

/-- No field of a record that occurs is a reserved key. -/
def Descriptor.OperatorFree : Descriptor → Prop :=
  Throughout fun part => ∀ fields, part.shape = .record fields →
    ∀ key : OperatorKey, key.text ∉ Entries.keys fields

namespace Context

variable {context : Context} {file : String → Value → Document → Option Value}
  {custom : ValidatorRef → Value → Option Value} {name : String} {doc entries : Document}
  {d : Descriptor} {v c : Value}

/-- A map is a request if it has the key of an operator. -/
theorem isRequest_map_iff :
    IsRequest (.map entries) ↔ ∃ key : OperatorKey, key.text ∈ Entries.keys entries := by
  rw [← Document.hasOperator_iff]
  constructor
  · rintro ⟨_, ⟨⟩, held⟩
    exact held
  · exact fun held => ⟨entries, rfl, held⟩

/-! ## Requests -/

/-- The canonical form of a request: an operand is what the kind makes of it, a new element what
the list makes of it, and the rest stays. Values are deleted from lists, positions in lists, and
keys in dictionaries. -/
inductive CanonicalRequest (context : Context) (name : String) (d : Descriptor) (doc : Document) :
    UpdateOperator → UpdateOperator → Prop
  | add {value c field} : context.accept .update name d value doc = some c →
      CanonicalRequest context name d doc (.add value field) (.add c field)
  | multiply {value c field} : context.accept .update name d value doc = some c →
      CanonicalRequest context name d doc (.multiply value field) (.multiply c field)
  | append {value c unique} : context.acceptElement name d value doc = some c →
      CanonicalRequest context name d doc (.append value unique) (.append c unique)
  | setIndex {value c index} : context.acceptElement name d value doc = some c →
      CanonicalRequest context name d doc (.setIndex value index) (.setIndex c index)
  | deleteValues {alternatives length values} : d.shape = .list alternatives length →
      CanonicalRequest context name d doc (.deleteValues values) (.deleteValues values)
  | deletePosition {alternatives length index} : d.shape = .list alternatives length →
      CanonicalRequest context name d doc (.deleteIndex (.position index))
        (.deleteIndex (.position index))
  | deleteKey {key val required length text} : d.shape = .dict key val required length →
      CanonicalRequest context name d doc (.deleteIndex (.key text)) (.deleteIndex (.key text))

variable {request checked : UpdateOperator}

/-- The canonical form of a request has its operator. -/
theorem CanonicalRequest.key_eq (canonical : context.CanonicalRequest name d doc request checked) :
    checked.key = request.key := by
  cases canonical <;> rfl

/-- A request is accepted exactly with its canonical form. -/
theorem acceptOperator_eq_some_iff :
    context.acceptOperator name d request doc = some checked ↔
      context.CanonicalRequest name d doc request checked := by
  constructor
  · intro accepted
    unfold acceptOperator at accepted
    cases request with
    | add value field =>
      obtain ⟨c, made, ⟨⟩⟩ := Option.bind_eq_some_iff.1 accepted
      exact .add made
    | multiply value field =>
      obtain ⟨c, made, ⟨⟩⟩ := Option.bind_eq_some_iff.1 accepted
      exact .multiply made
    | append value unique =>
      obtain ⟨c, made, ⟨⟩⟩ := Option.bind_eq_some_iff.1 accepted
      exact .append made
    | setIndex value index =>
      obtain ⟨c, made, ⟨⟩⟩ := Option.bind_eq_some_iff.1 accepted
      exact .setIndex made
    | deleteValues values =>
      simp only at accepted
      split at accepted
      · next isList =>
        cases accepted
        exact .deleteValues isList
      · cases accepted
    | deleteIndex target =>
      simp only at accepted
      split at accepted
      · next isList =>
        cases accepted
        exact .deletePosition isList
      · next isDict =>
        cases accepted
        exact .deleteKey isDict
      · cases accepted
  · intro canonical
    cases canonical with
    | add made => rw [acceptOperator, made]; rfl
    | multiply made => rw [acceptOperator, made]; rfl
    | append made => rw [acceptOperator, made]; rfl
    | setIndex made => rw [acceptOperator, made]; rfl
    | deleteValues isList => rw [acceptOperator, isList]
    | deletePosition isList => simp only [acceptOperator, isList]
    | deleteKey isDict => simp only [acceptOperator, isDict]

/-- In an update, a map with an operator is taken for a request. -/
theorem validate_update_map (request : Document.hasOperator entries = true) :
    context.validate .update name d (.map entries) doc =
      context.validateOperator name d entries doc := by
  rw [validate, if_pos rfl, validateUpdate, if_neg (by simp [Value.isNull])]
  simp only [request, if_pos]

/-- A request is validated exactly to its canonical form. -/
theorem validateOperator_eq_ok_iff :
    context.validateOperator name d entries doc = .ok c ↔
      ∃ request checked, UpdateOperator.ofMap? entries = some request ∧
        context.CanonicalRequest name d doc request checked ∧ checked.toValue = c := by
  simp only [← acceptOperator_eq_some_iff]
  unfold validateOperator
  constructor
  · intro answer
    split at answer
    · next checked found =>
      obtain ⟨request, read, accepted⟩ := Option.bind_eq_some_iff.1 found
      cases answer
      exact ⟨request, checked, read, accepted, rfl⟩
    · cases answer
  · rintro ⟨request, checked, read, accepted, rfl⟩
    rw [read, Option.bind_some, accepted]

/-- A request is refused, or answered by its canonical form. -/
theorem validateOperator_cases (context : Context) (name : String) (d : Descriptor)
    (entries doc : Document) :
    context.validateOperator name d entries doc = .error (.invalid name d.kind "map") ∨
      ∃ request checked, UpdateOperator.ofMap? entries = some request ∧
        context.CanonicalRequest name d doc request checked ∧
        context.validateOperator name d entries doc = .ok checked.toValue := by
  cases answer : context.validateOperator name d entries doc with
  | error error => exact .inl (eq_of_validateOperator_eq_error answer ▸ rfl)
  | ok c =>
    obtain ⟨request, checked, read, canonical, rfl⟩ := validateOperator_eq_ok_iff.1 answer
    exact .inr ⟨request, checked, read, canonical, rfl⟩

/-- A descriptor with another default or another flag for null, which the custom validator of the
kind, if it is one, does not tell from the given descriptor in an update. -/
structure Indistinct (context : Context) (name : String) (d d' : Descriptor) : Prop where
  shape : d'.shape = d.shape
  custom : ∀ ref, d.shape = .custom ref → ∀ v,
    context.acceptCustom .update name d' ref v = context.acceptCustom .update name d ref v

/-- Only custom validators are told of defaults and null. -/
theorem indistinct_of_kind (noCustom : d.kind ≠ .custom) (default : Option Default)
    (nullable : Bool) : context.Indistinct name d (.mk d.shape default nullable) where
  shape := rfl
  custom _ isCustom := absurd (congrArg Shape.kind isCustom) noCustom

/-- Descriptors that callbacks cannot tell apart accept the same. -/
theorem accept_of_indistinct {d' : Descriptor} (indistinct : context.Indistinct name d d')
    (v : Value) : context.accept .update name d' v doc = context.accept .update name d v doc := by
  rw [accept, accept, indistinct.shape]
  exact acceptShape_eq_of_children rfl rfl rfl (fun _ => rfl) (fun _ => rfl)
    (fun ref isCustom => indistinct.custom ref isCustom v) (fun _ _ _ => Iff.rfl)
    fun _ _ _ _ _ => Iff.rfl

/-- Defaults and null have no part in the answer to a request, but for what a custom validator makes
of them. -/
theorem validateOperator_of_indistinct {d' : Descriptor}
    (indistinct : context.Indistinct name d d') (entries : Document) :
    context.validateOperator name d' entries doc =
      context.validateOperator name d entries doc := by
  have element (v : Value) : context.acceptElement name d' v doc =
      context.acceptElement name d v doc := by
    rw [acceptElement, acceptElement, indistinct.shape]
  have operated (operator : UpdateOperator) : context.acceptOperator name d' operator doc =
      context.acceptOperator name d operator doc := by
    cases operator <;>
      simp only [acceptOperator, accept_of_indistinct indistinct, element, indistinct.shape]
  simp only [validateOperator, operated, Descriptor.kind, indistinct.shape]

/-! ## Data -/

/-- A record without such fields does not accept requests. -/
theorem not_isRequest_of_record {fields : List (String × Descriptor)}
    (free : ∀ key : OperatorKey, key.text ∉ Entries.keys fields)
    (accepted : context.acceptShape file custom name (.record fields) v doc = some c) :
    ¬IsRequest c := by
  obtain ⟨entries, canonical, rfl, answers, -, rfl⟩ := acceptShape_record_eq_some_iff.1 accepted
  have keys := Entries.keys_eq_of_forall₂ (acceptFields_eq_some_iff.1 answers)
    fun _ _ both => both.1
  rw [isRequest_map_iff, keys]
  rintro ⟨key, member⟩
  exact free key member

/-- The canonical form of a file is no request, whatever it comes from. -/
theorem not_isRequest_of_acceptFile (accepted : context.acceptFile name v doc = some c) :
    ¬IsRequest c := by
  obtain ⟨-, found⟩ := fileForm_eq_ok_iff.1 (acceptFile_eq_some_iff.1 accepted)
  obtain ⟨variant, member, answer⟩ := exists_mem_of_acceptFirst found
  have free (field : String) (shape : Shape)
      (names : ∀ key : OperatorKey, key.text ∉ Entries.keys (fileFields field shape))
      (answer : context.validatePart (fun _ _ _ => none) name (fileVariant field shape) (fileOf v)
        doc = .ok c) : ¬IsRequest c := by
    rcases validatePart_eq_ok_iff.1 answer with
      ⟨-, value | ⟨-, nullable, -⟩⟩ | ⟨-, accepted | ⟨-, value⟩⟩
    · cases value
    · cases nullable
    · refine not_isRequest_of_record (fun key held => names key ?_) accepted
      rwa [← Entries.hasKey_ofList, Entries.hasKey_iff_mem]
    · cases value
  rcases List.mem_pair.1 member with rfl | rfl
  · exact free "ref" .id (fun key => by cases key <;> decide) answer
  · exact free "content" .bytes (fun key => by cases key <;> decide) answer

section Kinds

variable (locales : ∀ key : OperatorKey, key.text ∉ context.config.locales)
  (customFree : d.CustomFree) (defaultFree : d.DefaultFree) (operatorFree : d.OperatorFree)
  (plain : ¬IsRequest v)

include locales customFree defaultFree operatorFree plain

/-- What the kind of a descriptor makes of data is data, if what its alternatives make of it is. -/
theorem not_isRequest_of_acceptShape
    (files : ∀ name c, file name v doc = some c → ¬IsRequest c)
    (texts : ∀ name k, file name (.str k) doc = none)
    (children : ∀ child ∈ d.children, ∀ name c,
      context.validatePart file name child v doc = .ok c → ¬IsRequest c)
    (accepted : context.acceptShape file custom name d.shape v doc = some c) : ¬IsRequest c := by
  obtain ⟨shape, default, nullable⟩ := d
  by_cases verbatim : shape.isVerbatim = true
  · rwa [eq_of_acceptShape verbatim accepted]
  cases shape with
  | int ranges =>
    obtain ⟨_, -, -, rfl⟩ := Scalar.acceptInt_eq_some_iff.1 accepted
    rintro ⟨_, ⟨⟩, -⟩
  | float ranges =>
    obtain ⟨_, -, -, rfl⟩ := Scalar.acceptFloat_eq_some_iff.1 accepted
    rintro ⟨_, ⟨⟩, -⟩
  | id =>
    obtain ⟨_, -, rfl⟩ := Scalar.acceptId_eq_some_iff.1 accepted
    split <;> rintro ⟨_, ⟨⟩, -⟩
  | file =>
    rw [Descriptor.shape, acceptShape] at accepted
    exact files name c accepted
  | locale =>
    obtain ⟨entries, rfl, -, registered, -⟩ := Localised.canonical_of_accept accepted
    rw [isRequest_map_iff]
    rintro ⟨key, member⟩
    exact locales key ((registered key.text).1 (Entries.hasKey_iff_mem.2 member))
  | literal members =>
    obtain ⟨-, same⟩ := Scalar.acceptLiteral_eq_some accepted
    rintro ⟨entries, rfl, request⟩
    cases v with
    | map others =>
      have keys := Entries.keys_eq_of_forall₂ (Value.equalEntries_iff.1 same) fun _ _ both => both.1
      rw [isRequest_map_iff, keys, ← isRequest_map_iff] at plain
      exact plain ⟨entries, rfl, request⟩
    | _ => simp [Value.equal] at same
  | list alternatives length =>
    obtain ⟨_, _, -, -, rfl, -⟩ := acceptShape_list_eq_some_iff.1 accepted
    rintro ⟨_, ⟨⟩, -⟩
  | union alternatives =>
    rw [Descriptor.shape, acceptShape] at accepted
    obtain ⟨child, member, answer⟩ := exists_mem_of_acceptFirst accepted
    exact children child member name c answer
  | dict key val required length =>
    obtain ⟨entries, canonical, rfl, -, -, rfl, each⟩ := acceptShape_dict_eq_some_iff.1 accepted
    have member : key ∈ (Descriptor.mk (.dict key val required length) default nullable).children :=
      List.mem_cons_self
    have keys := keys_unchanged texts (defaultFree.ofChild member) (customFree.ofChild member) each
    rw [isRequest_map_iff] at plain ⊢
    rintro ⟨operator, held⟩
    refine plain ⟨operator, ?_⟩
    rwa [← keys, ← Entries.hasKey_ofList, Entries.hasKey_iff_mem]
  | record fields => exact not_isRequest_of_record (operatorFree.here fields rfl) accepted
  | custom ref => exact absurd rfl customFree.here
  | _ => exact absurd rfl verbatim

/-- What a part makes of data other than null is data. -/
theorem not_isRequest_of_validatePart (notNull : v ≠ .null)
    (files : ∀ name c, file name v doc = some c → ¬IsRequest c)
    (texts : ∀ name k, file name (.str k) doc = none)
    (answer : context.validatePart file name d v doc = .ok c) : ¬IsRequest c := by
  induction d using Descriptor.byChildren generalizing name c with
  | step d ih =>
    rcases validatePart_eq_ok_iff.1 answer with ⟨null, -⟩ | ⟨-, accepted | ⟨-, value⟩⟩
    · exact absurd null notNull
    · exact not_isRequest_of_acceptShape locales customFree defaultFree operatorFree plain files
        texts (fun child member _ _ childAnswer => ih child member (customFree.ofChild member)
          (defaultFree.ofChild member) (operatorFree.ofChild member) childAnswer) accepted
    · rw [show d.default = none from defaultFree.here] at value
      cases value

/-- An update answers data with data. -/
theorem not_isRequest_of_update (notNull : v ≠ .null)
    (answer : context.validate .update name d v doc = .ok c) : ¬IsRequest c := by
  have files (name : String) (c : Value) (accepted : context.acceptFile name v doc = some c) :
      ¬IsRequest c := not_isRequest_of_acceptFile accepted
  have texts (name k : String) : context.acceptFile name (.str k) doc = none := acceptFile_str
  refine not_isRequest_of_acceptShape locales customFree defaultFree operatorFree plain files texts
    (fun child member _ _ childAnswer => ?_) ((validate_update_eq_ok_iff notNull plain).1 answer)
  exact not_isRequest_of_validatePart locales (customFree.ofChild member)
    (defaultFree.ofChild member) (operatorFree.ofChild member) plain notNull files texts childAnswer

end Kinds

/-! ## Both sides -/

/-- Requests and data do not mix in an update.

A map with a reserved key is refused, or it writes a request with that reserved key alone and is
answered by what the canonical form of that request writes. Nothing of the map but the request it
writes has a part in this, nor have the default of the attribute and its flag for null, of which
only a custom validator is told.

Where no descriptor has a custom validator or a default, no field of a record is a reserved key, and
no locale is one, data other than null is never answered by a map with a reserved key. -/
theorem validate_update_separates (context : Context) (name : String) (d : Descriptor)
    (doc : Document) :
    (∀ entries, Document.hasOperator entries = true →
      (context.validate .update name d (.map entries) doc = .error (.invalid name d.kind "map") ∨
        ∃ request checked, UpdateOperator.ofMap? entries = some request ∧
          (∀ key : OperatorKey, key.text ∈ Entries.keys entries ↔ key = checked.key) ∧
          context.CanonicalRequest name d doc request checked ∧
          context.validate .update name d (.map entries) doc = .ok checked.toValue ∧
          UpdateOperator.ofValue? checked.toValue = some checked) ∧
      (∀ others, Document.hasOperator others = true →
        UpdateOperator.ofMap? others = UpdateOperator.ofMap? entries →
        context.validate .update name d (.map others) doc =
          context.validate .update name d (.map entries) doc) ∧
      ∀ d', context.Indistinct name d d' →
        context.validate .update name d' (.map entries) doc =
          context.validate .update name d (.map entries) doc) ∧
    (d.CustomFree → d.DefaultFree → d.OperatorFree →
      (∀ key : OperatorKey, key.text ∉ context.config.locales) →
      ∀ v c, v ≠ .null → ¬IsRequest v → context.validate .update name d v doc = .ok c →
        ¬IsRequest c) := by
  constructor
  · intro entries isRequest
    rw [validate_update_map isRequest]
    refine ⟨?_, ?_, ?_⟩
    · rcases validateOperator_cases context name d entries doc with
        refused | ⟨request, checked, read, canonical, answer⟩
      · exact .inl refused
      · refine .inr ⟨request, checked, read, ?_, canonical, answer, checked.ofValue?_toValue⟩
        rw [canonical.key_eq]
        exact UpdateOperator.reserved_of_ofMap? read
    · intro others otherRequest same
      rw [validate_update_map otherRequest, validateOperator, validateOperator, same]
      rfl
    · intro d' indistinct
      rw [validate_update_map isRequest]
      exact validateOperator_of_indistinct indistinct entries
  · intro customFree defaultFree operatorFree locales v c notNull plain answer
    exact not_isRequest_of_update locales customFree defaultFree operatorFree plain notNull answer

/-- Counts under names. -/
def counts : Descriptor :=
  .ofShape (.dict (.ofShape (.str none)) (.ofShape (.int [])) [] none)

/-- One count is deleted by a request, with a default beside the counts as well, and all are set by
data. -/
theorem validate_update_separates_counts :
    (Document.hasOperator [("$del_index", .str "one")] = true ∧
      (∃ checked : UpdateOperator, checked.key = .deleteIndex ∧
        initial.validate .update "counts" counts (.map [("$del_index", .str "one")]) [] =
          .ok checked.toValue) ∧
      initial.Indistinct "counts" counts (.mk counts.shape (some (.static (.map []))) true) ∧
      initial.validate .update "counts" (.mk counts.shape (some (.static (.map []))) true)
          (.map [("$del_index", .str "one")]) [] =
        initial.validate .update "counts" counts (.map [("$del_index", .str "one")]) []) ∧
    counts.CustomFree ∧ counts.DefaultFree ∧ counts.OperatorFree ∧
      (∀ key : OperatorKey, key.text ∉ initial.config.locales) ∧
      ¬IsRequest (.map [("one", .str "1")]) ∧
      initial.validate .update "counts" counts (.map [("one", .str "1")]) [] =
        .ok (.map [("one", .int 1)]) ∧
      ¬IsRequest (.map [("one", .int 1)]) := by
  have throughout {property : Descriptor → Prop} (whole : property counts)
      (key : property (.ofShape (.str none))) (val : property (.ofShape (.int []))) :
      counts.Throughout property :=
    Descriptor.throughout_iff.2 ⟨whole, fun child member => by
      rcases List.mem_pair.1 (show child ∈ [_, _] from member) with rfl | rfl
      · exact Descriptor.throughout_of_leaf rfl key
      · exact Descriptor.throughout_of_leaf rfl val⟩
  have customFree : counts.CustomFree := throughout (by decide) (by decide) (by decide)
  have defaultFree : counts.DefaultFree := throughout rfl rfl rfl
  have operatorFree : counts.OperatorFree :=
    throughout (fun _ isRecord => by cases isRecord) (fun _ isRecord => by cases isRecord)
      (fun _ isRecord => by cases isRecord)
  have locales (key : OperatorKey) : key.text ∉ initial.config.locales := by
    cases key <;> decide
  have plain : ¬IsRequest (.map [("one", .str "1")]) := by
    rw [isRequest_map_iff]
    rintro ⟨key, member⟩
    revert member
    cases key <;> decide
  have separates := validate_update_separates initial "counts" counts []
  have requested := separates.1 [("$del_index", .str "one")] (by decide)
  have indistinct : initial.Indistinct "counts" counts
      (.mk counts.shape (some (.static (.map []))) true) := indistinct_of_kind (by decide) _ _
  refine ⟨⟨by decide, ?_, indistinct, requested.2.2 _ indistinct⟩, customFree, defaultFree,
    operatorFree, locales, plain, rfl,
    separates.2 customFree defaultFree operatorFree locales _ _ Value.noConfusion plain rfl⟩
  rcases requested.1 with refused | ⟨request, checked, -, reserved, -, answer, -⟩
  · cases refused
  · exact ⟨checked, ((reserved .deleteIndex).1 (by decide)).symm, answer⟩

end Context

end DocumentSchema

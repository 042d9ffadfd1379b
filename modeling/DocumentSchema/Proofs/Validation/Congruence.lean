import DocumentSchema.Proofs.Descriptor.Parts
import DocumentSchema.Proofs.Validation.Acceptance
import DocumentSchema.Proofs.Validation.Scalars

/-!
What validation depends on.

What a kind makes of a value depends on the answers of its children, on the configuration and the
instant, and on whatever accepts files, locales and custom values
(`Context.acceptShape_eq_of_children`). Without custom validators, the answer of a descriptor to a
value does not depend on the mode; it depends on the document around the value only as far as
defaults do, and on its name only as far as identifiers do (`Context.validatePart_congr`).
-/

namespace DocumentSchema.Context

variable {context context' : Context} {file file' : String → Value → Document → Option Value}
  {custom custom' : ValidatorRef → Value → Option Value} {mode mode' : Mode} {name name' : String}
  {doc doc' : Document} {d : Descriptor} {shape : Shape} {v c : Value}

/-- Values of files are accepted alike under names that treat identifiers alike, whatever the
document. -/
def FilesAgree (file : String → Value → Document → Option Value) (doc doc' : Document) : Prop :=
  ∀ name name', isIdName name = isIdName name' → ∀ v, file name v doc = file name' v doc'

/-- A descriptor answers alike under names that treat identifiers alike, in both documents. -/
def AnswersAgree (context : Context) (file : String → Value → Document → Option Value)
    (doc doc' : Document) (d : Descriptor) : Prop :=
  ∀ name name', isIdName name = isIdName name' → ∀ v c,
    context.validatePart file name d v doc = .ok c ↔
      context.validatePart file name' d v doc' = .ok c

/-- At every depth, defaults are the same in both documents. -/
def DefaultsAgree (context : Context) (doc doc' : Document) : Descriptor → Prop :=
  Descriptor.Throughout fun part =>
    context.defaultValue? part.default doc = context.defaultValue? part.default doc'

/-- Defaults agree in the same document. -/
theorem defaultsAgree_self (context : Context) (doc : Document) (d : Descriptor) :
    context.DefaultsAgree doc doc d :=
  fun _ _ => rfl

/-- Fixed defaults agree in all documents. -/
theorem defaultsAgree_of_static (static : d.StaticDefaults) (context : Context)
    (doc doc' : Document) : context.DefaultsAgree doc doc' d := by
  intro part occurs
  cases held : part.default with
  | none => rfl
  | some default =>
    obtain ⟨value, rfl, -⟩ := static part occurs default held
    rfl

/-- Fixed defaults do not depend on the document. -/
theorem defaultValue?_congr (static : d.StaticDefaults) (doc doc' : Document) :
    context.defaultValue? d.default doc = context.defaultValue? d.default doc' :=
  (defaultsAgree_of_static static context doc doc').here

/-- What a shape accepts depends on the answers of its children, on whatever accepts files, and on
what custom validators and callbacks for locales make of the value. -/
theorem acceptShape_eq_of_children (config : context.config = context'.config)
    (now : context.now = context'.now) (names : isIdName name = isIdName name')
    (files : shape = .file → file name v doc = file' name' v doc')
    (locales : shape = .locale → Localised.accept context.config context.registry v =
      Localised.accept context'.config context'.registry v)
    (customs : ∀ ref, shape = .custom ref → custom ref v = custom' ref v)
    (whole : ∀ child ∈ shape.children, ∀ c, context.validatePart file name child v doc = .ok c ↔
      context'.validatePart file' name' child v doc' = .ok c)
    (parts : ∀ child ∈ shape.children, ∀ part inner c,
      context.validatePart file (partName name part) child inner doc = .ok c ↔
        context'.validatePart file' (partName name' part) child inner doc' = .ok c) :
    context.acceptShape file custom name shape v doc =
      context'.acceptShape file' custom' name' shape v doc' := by
  cases shape with
  | id =>
    ext c
    rw [acceptShape, acceptShape, Scalar.acceptId_eq_some_iff, Scalar.acceptId_eq_some_iff, names]
  | file =>
    rw [acceptShape, acceptShape, files rfl]
  | locale =>
    rw [acceptShape, acceptShape, locales rfl]
  | list alternatives length =>
    ext c
    rw [acceptShape_list_eq_some_iff, acceptShape_list_eq_some_iff]
    have agree (i : Nat) (item : Value) :
        context.acceptFirst file (partName name (toString i)) alternatives item doc =
          context'.acceptFirst file' (partName name' (toString i)) alternatives item doc' :=
      acceptFirst_congr fun child member c => parts child member (toString i) item c
    simp only [agree]
  | union alternatives =>
    rw [acceptShape, acceptShape]
    exact acceptFirst_congr whole
  | dict key val required length =>
    ext c
    rw [acceptShape_dict_eq_some_iff, acceptShape_dict_eq_some_iff]
    have agree : context.EntryAccepted file name key val doc =
        context'.EntryAccepted file' name' key val doc' := by
      funext entry canonical
      have ofKey := parts key (by simp [Shape.children]) entry.1
      have ofVal := parts val (by simp [Shape.children]) entry.1
      simp only [EntryAccepted, ofKey, ofVal]
    rw [agree]
  | record fields =>
    ext c
    rw [acceptShape_record_eq_some_iff, acceptShape_record_eq_some_iff]
    have agree (entries : Document) : context.acceptFields file name fields entries doc =
        context'.acceptFields file' name' fields entries doc' :=
      acceptFields_congr fun field member c =>
        parts field.2 (List.mem_map_of_mem member) field.1 _ c
    simp only [agree]
  | temporal kind ranges => rw [acceptShape, acceptShape, now]
  | localeCode => rw [acceptShape, acceptShape, config]
  | custom ref => rw [acceptShape, acceptShape, customs ref rfl]
  | _ => rfl

/-- Shapes accept the same where their parts answer the same. -/
theorem acceptShape_congr (files : FilesAgree file doc doc') (noCustom : shape.kind ≠ .custom)
    (children : ∀ child ∈ shape.children, context.AnswersAgree file doc doc' child)
    (same : isIdName name = isIdName name') :
    context.acceptShape file custom name shape v doc =
      context.acceptShape file custom' name' shape v doc' :=
  acceptShape_eq_of_children rfl rfl same (fun _ => files name name' same v) (fun _ => rfl)
    (fun _ isCustom => absurd (congrArg Shape.kind isCustom) noCustom)
    (fun child member => children child member name name' same v)
    (fun child member part => children child member _ _ (isIdName_partName_congr same part part))

/-- The answer to a part of a value depends on its name as far as identifiers do, and on the
document as far as defaults do. -/
theorem validatePart_congr (files : FilesAgree file doc doc') (customFree : d.CustomFree)
    (defaults : context.DefaultsAgree doc doc' d) : context.AnswersAgree file doc doc' d := by
  induction d using Descriptor.byChildren with
  | step d ih =>
    intro name name' same v c
    have accepted :
        context.acceptShape file (context.acceptCustom .deep name d) name d.shape v doc =
        context.acceptShape file (context.acceptCustom .deep name' d) name' d.shape v doc' :=
      acceptShape_congr files customFree.here
        (fun child member => ih child member (customFree.ofChild member) (defaults.ofChild member))
        same
    rw [validatePart_eq_ok_iff, validatePart_eq_ok_iff, Answers, Answers, accepted, defaults.here]

/-- What is made of a new element of a list depends on the answers of the alternatives. -/
theorem acceptElement_eq_of_children
    (children : ∀ child ∈ d.children, ∀ c,
      context.validatePart context.acceptFile name child v doc = .ok c ↔
        context'.validatePart context'.acceptFile name child v doc' = .ok c) :
    context.acceptElement name d v doc = context'.acceptElement name d v doc' := by
  obtain ⟨shape, default, nullable⟩ := d
  cases shape with
  | list alternatives length =>
    have first : context.acceptFirst context.acceptFile name alternatives v doc =
        context'.acceptFirst context'.acceptFile name alternatives v doc' :=
      acceptFirst_congr children
    simp only [acceptElement, Descriptor.shape, first]
  | _ => rfl

/-- The answer to a whole value, failures included, depends on what the kind accepts, on what is
made of new elements, and on the default. -/
theorem validate_eq_of_accepted
    (accepted : ∀ mode v, context.accept mode name d v doc = context'.accept mode name d v doc')
    (elements : ∀ v, context.acceptElement name d v doc = context'.acceptElement name d v doc')
    (default : context.defaultValue? d.default doc = context'.defaultValue? d.default doc')
    (mode : Mode) (v : Value) :
    context.validate mode name d v doc = context'.validate mode name d v doc' := by
  have operated (operator : UpdateOperator) : context.acceptOperator name d operator doc =
      context'.acceptOperator name d operator doc' := by
    cases operator <;> simp only [acceptOperator, accepted, elements]
  simp only [validate, validateUpdate, validateOperator, absent, refused, accepted, operated,
    default]

/-! ## Files -/

theorem filesAgree_none : FilesAgree (fun _ _ _ => none) doc doc' :=
  fun _ _ _ _ => rfl

/-- Files are accepted whatever the document. -/
theorem filesAgree_acceptFile (context : Context) (doc doc' : Document) :
    FilesAgree context.acceptFile doc doc' := by
  intro name name' same v
  ext c
  rw [acceptFile_eq_some_iff, acceptFile_eq_some_iff]
  exact validatePart_congr filesAgree_none Descriptor.customFree_fileForm
    (defaultsAgree_of_static Descriptor.defaultFree_fileForm.staticDefaults context doc doc')
    name name' same _ c

/-- Descriptors without callbacks accept the same where their defaults agree. -/
theorem accept_of_defaultsAgree (customFree : d.CustomFree)
    (defaults : context.DefaultsAgree doc doc' d) (same : isIdName name = isIdName name') :
    context.accept mode name d v doc = context.accept mode' name' d v doc' :=
  acceptShape_congr (filesAgree_acceptFile context doc doc') customFree.here
    (fun _ member => validatePart_congr (filesAgree_acceptFile context doc doc')
      (customFree.ofChild member) (defaults.ofChild member)) same

/-- Without custom validators, what the kind of a descriptor accepts does not depend on the mode. -/
theorem accept_congr (customFree : d.CustomFree) (static : d.StaticDefaults)
    (same : isIdName name = isIdName name') :
    context.accept mode name d v doc = context.accept mode' name' d v doc' :=
  accept_of_defaultsAgree customFree (defaultsAgree_of_static static context doc doc') same

/-- Outside updates and without custom validators, a whole value is answered as a part is. -/
theorem validate_eq_ok_iff_validatePart (create : mode ≠ .update) (customFree : d.CustomFree)
    (static : d.StaticDefaults) (doc' : Document) :
    context.validate mode name d v doc = .ok c ↔
      context.validatePart context.acceptFile name d v doc' = .ok c := by
  have accepted : context.accept mode name d v doc = context.accept .deep name d v doc' :=
    accept_congr customFree static rfl
  rw [validate_eq_ok_iff create, validatePart_eq_ok_iff, Answers, Answers,
    defaultValue?_congr static doc doc', accepted]
  rfl

end DocumentSchema.Context

import DocumentSchema.Proofs.Validation.Congruence
import DocumentSchema.Proofs.Validation.Files

/-!
Registered callbacks.

A descriptor is verified against a registry when every callback that it names at any depth is
registered (`Registry.verify_eq_ok_iff`), and a configuration when its locale fallback is. What is
verified is validated in the same way under every larger registry, so validation never comes to a
callback that is missing (`Context.validate_of_verify`). Registering a callback makes a registry
larger, as no name is taken twice.
-/

namespace DocumentSchema

/-! ## Verification -/

namespace Registry

variable {registry : Registry} {config : Config} {d : Descriptor} {shape : Shape}

/-- The callbacks that a single descriptor names are registered. -/
structure Resolves (registry : Registry) (part : Descriptor) : Prop where
  generator : ∀ name, part.default = some (.named name) →
    ∃ generator, registry.generator? name = some generator
  validator : ∀ name, part.shape = .custom (.named name) →
    ∃ validator, registry.validator? name = some validator

/-- A default passes if its generator is registered. -/
theorem verifyDefault_eq_ok_iff {default : Option Default} :
    registry.verifyDefault default = .ok () ↔ ∀ name, default = some (.named name) →
      ∃ generator, registry.generator? name = some generator := by
  rcases default with _ | value | name | callback
  · simp [verifyDefault]
  · simp [verifyDefault]
  · cases found : registry.generator? name <;> simp [verifyDefault, found]
  · simp [verifyDefault]

/-- Descriptors pass one by one. -/
theorem verifyAll_eq_ok_iff {ds : List Descriptor} :
    registry.verifyAll ds = .ok () ↔ ∀ d ∈ ds, registry.verify d = .ok () := by
  induction ds with
  | nil => simp [verifyAll]
  | cons d rest ih =>
    rw [verifyAll, except_bind_unit_eq_ok_iff, ih, List.forall_mem_cons]

theorem verifyFields_eq_verifyAll (registry : Registry) (fields : List (String × Descriptor)) :
    registry.verifyFields fields = registry.verifyAll (Entries.values fields) := by
  induction fields with
  | nil => rfl
  | cons field rest ih =>
    rw [verifyFields, ih]
    rfl

/-- A shape is verified when its own validator is registered and its children are verified. -/
theorem verifyShape_eq_ok_iff :
    registry.verifyShape shape = .ok () ↔
      (∀ name, shape = .custom (.named name) →
        ∃ validator, registry.validator? name = some validator) ∧
      ∀ child ∈ shape.children, registry.verify child = .ok () := by
  cases shape with
  | list alternatives length => simp [verifyShape, verifyAll_eq_ok_iff, Shape.children]
  | union alternatives => simp [verifyShape, verifyAll_eq_ok_iff, Shape.children]
  | dict key val required length =>
    simp [verifyShape, except_bind_unit_eq_ok_iff, Shape.children]
  | record fields =>
    simp [verifyShape, verifyFields_eq_verifyAll, verifyAll_eq_ok_iff, Shape.children]
  | custom ref =>
    cases ref with
    | named name =>
      cases found : registry.validator? name <;> simp [verifyShape, found, Shape.children]
    | inline callback => simp [verifyShape, Shape.children]
  | _ => simp [verifyShape, Shape.children]

/-- A descriptor is verified exactly when all callbacks that occur in it by name are registered. -/
theorem verify_eq_ok_iff : registry.verify d = .ok () ↔ d.Throughout registry.Resolves := by
  induction d using Descriptor.byChildren with
  | step d ih =>
    obtain ⟨shape, default, nullable⟩ := d
    have self : registry.Resolves (.mk shape default nullable) ↔
        registry.verifyDefault default = .ok () ∧ ∀ name, shape = .custom (.named name) →
          ∃ validator, registry.validator? name = some validator :=
      ⟨fun resolves => ⟨verifyDefault_eq_ok_iff.2 resolves.generator, resolves.validator⟩,
        fun both => ⟨verifyDefault_eq_ok_iff.1 both.1, both.2⟩⟩
    rw [verify, except_bind_unit_eq_ok_iff, verifyShape_eq_ok_iff, Descriptor.throughout_iff, self,
      and_assoc]
    exact and_congr_right fun _ => and_congr_right fun _ => forall₂_congr ih

/-- A configuration passes if its fallback is registered. -/
theorem verifyConfig_eq_ok_iff :
    registry.verifyConfig config = .ok () ↔ ∀ name, config.strategy = .fallback name →
      ∃ fallback, registry.fallback? name = some fallback := by
  unfold verifyConfig
  cases config.strategy with
  | fallback name => cases found : registry.fallback? name <;> simp [found]
  | _ => simp

/-- Every callback of a registry is one of another registry, under the same name. -/
structure Within (registry registry' : Registry) : Prop where
  generator : ∀ name generator, registry.generator? name = some generator →
    registry'.generator? name = some generator
  validator : ∀ name validator, registry.validator? name = some validator →
    registry'.validator? name = some validator
  fallback : ∀ name fallback, registry.fallback? name = some fallback →
    registry'.fallback? name = some fallback

/-- A callback that is added under a name that is not taken replaces none. -/
theorem get?_of_insertNew {α : Type} {table table' : Entries α} {role : CallbackRole}
    {name other : String} {callback found : α}
    (added : insertNew table role name callback = .ok table')
    (held : Entries.get? table other = some found) : Entries.get? table' other = some found := by
  unfold insertNew at added
  split at added
  · cases added
  · next free =>
    cases added
    have different : other ≠ name := by
      rintro rfl
      exact free (Entries.hasKey_iff_exists.2 ⟨found, held⟩)
    rw [Entries.get?_insert_of_ne different, held]

/-- Registering a generator makes a registry larger. -/
theorem within_of_addGenerator {registry' : Registry} {name : String} {generator : Generator}
    (added : registry.addGenerator name generator = .ok registry') : registry.Within registry' := by
  obtain ⟨table, inserted, same⟩ := except_bind_eq_ok_iff.1 added
  cases same
  exact ⟨fun _ _ => get?_of_insertNew inserted, fun _ _ => id, fun _ _ => id⟩

/-- Registering a validator makes a registry larger. -/
theorem within_of_addValidator {registry' : Registry} {name : String} {validator : Validator}
    (added : registry.addValidator name validator = .ok registry') : registry.Within registry' := by
  obtain ⟨table, inserted, same⟩ := except_bind_eq_ok_iff.1 added
  cases same
  exact ⟨fun _ _ => id, fun _ _ => get?_of_insertNew inserted, fun _ _ => id⟩

/-- Registering a locale fallback makes a registry larger. -/
theorem within_of_addFallback {registry' : Registry} {name : String} {fallback : Fallback}
    (added : registry.addFallback name fallback = .ok registry') : registry.Within registry' := by
  obtain ⟨table, inserted, same⟩ := except_bind_eq_ok_iff.1 added
  cases same
  exact ⟨fun _ _ => id, fun _ _ => id, fun _ _ => get?_of_insertNew inserted⟩

end Registry

/-! ## Larger registries -/

/-- More callbacks do not change how locales are filled. -/
theorem Localised.accept_of_within {config : Config} {registry registry' : Registry}
    (within : registry.Within registry') (verified : registry.verifyConfig config = .ok ())
    (v : Value) : accept config registry' v = accept config registry v := by
  have same (given : Document) (locale : String) :
      fill? config registry' given locale = fill? config registry given locale := by
    unfold fill?
    cases strategy : config.strategy with
    | fallback name =>
      obtain ⟨fallback, found⟩ := Registry.verifyConfig_eq_ok_iff.1 verified name strategy
      simp only [found, within.fallback name fallback found]
    | _ => rfl
  simp only [accept, localeValue?, same]

namespace Context

variable {config : Config} {registry registry' : Registry} {now : Instant} {mode : Mode}
  {name : String} {d : Descriptor} {v : Value} {doc : Document}
  {file file' : String → Value → Document → Option Value}

/-- More callbacks do not change defaults that are there. -/
theorem defaultValue?_of_within (within : registry.Within registry')
    (resolves : registry.Resolves d) :
    defaultValue? ⟨config, registry', now⟩ d.default doc =
      defaultValue? ⟨config, registry, now⟩ d.default doc := by
  cases held : d.default with
  | none => rfl
  | some default =>
    cases default with
    | named name =>
      obtain ⟨generator, found⟩ := resolves.generator name held
      simp only [defaultValue?, found, within.generator name generator found]
    | _ => rfl

/-- More callbacks do not change what registered validators accept. -/
theorem acceptCustom_of_within (within : registry.Within registry')
    (resolves : registry.Resolves d) {ref : ValidatorRef} (isCustom : d.shape = .custom ref) :
    acceptCustom ⟨config, registry', now⟩ mode name d ref v =
      acceptCustom ⟨config, registry, now⟩ mode name d ref v := by
  cases ref with
  | named callback =>
    obtain ⟨validator, found⟩ := resolves.validator callback isCustom
    simp only [acceptCustom, found, within.validator callback validator found]
  | inline callback => rfl

/-- A generator that is registered makes the default. -/
theorem exists_generator (resolves : registry.Resolves d) {callback : String}
    (held : d.default = some (.named callback)) :
    ∃ generator, registry.generator? callback = some generator ∧ ∀ now doc,
      defaultValue? ⟨config, registry, now⟩ d.default doc = some (generator doc) := by
  obtain ⟨generator, found⟩ := resolves.generator callback held
  refine ⟨generator, found, fun now doc => ?_⟩
  simp only [held, defaultValue?, found, Option.map_some]

/-- A custom validator that is registered is asked. -/
theorem exists_validator (resolves : registry.Resolves d) {callback : String}
    (isCustom : d.shape = .custom (.named callback)) :
    ∃ validator, registry.validator? callback = some validator ∧ ∀ now mode name v,
      acceptCustom ⟨config, registry, now⟩ mode name d (.named callback) v =
        (validator ⟨mode, name, .named callback, d.default, d.nullable, v⟩).toOption := by
  obtain ⟨validator, found⟩ := resolves.validator callback isCustom
  refine ⟨validator, found, fun now mode name v => ?_⟩
  simp only [acceptCustom, found, Option.bind_some, ValidatorRef.id]

/-- What the kind of a verified descriptor accepts, when its children answer alike. -/
theorem acceptShape_of_within (within : registry.Within registry')
    (verified : registry.verifyConfig config = .ok ()) (resolves : registry.Resolves d)
    (files : ∀ name v, file' name v doc = file name v doc)
    (children : ∀ child ∈ d.children, ∀ name v c,
      validatePart ⟨config, registry', now⟩ file' name child v doc = .ok c ↔
        validatePart ⟨config, registry, now⟩ file name child v doc = .ok c)
    (mode : Mode) (name : String) (v : Value) :
    acceptShape ⟨config, registry', now⟩ file' (acceptCustom ⟨config, registry', now⟩ mode name d)
        name d.shape v doc =
      acceptShape ⟨config, registry, now⟩ file (acceptCustom ⟨config, registry, now⟩ mode name d)
        name d.shape v doc :=
  acceptShape_eq_of_children rfl rfl rfl (fun _ => files name v)
    (fun _ => Localised.accept_of_within within verified v)
    (fun _ isCustom => acceptCustom_of_within within resolves isCustom)
    (fun child member => children child member name v)
    (fun child member part => children child member (partName name part))

/-- More callbacks do not change how parts are validated. -/
theorem validatePart_of_within (within : registry.Within registry')
    (verified : registry.verifyConfig config = .ok ()) (resolves : d.Throughout registry.Resolves)
    (files : ∀ name v, file' name v doc = file name v doc) (name : String) (v c : Value) :
    validatePart ⟨config, registry', now⟩ file' name d v doc = .ok c ↔
      validatePart ⟨config, registry, now⟩ file name d v doc = .ok c := by
  induction d using Descriptor.byChildren generalizing name v c with
  | step d ih =>
    have accepted := acceptShape_of_within within verified resolves.here files
      (fun child member => ih child member (resolves.ofChild member)) .deep name v
    rw [validatePart_eq_ok_iff, validatePart_eq_ok_iff, Answers, Answers, accepted,
      defaultValue?_of_within within resolves.here]

/-- A descriptor that names no callback has them all registered. -/
theorem resolves_of_free (customFree : d.CustomFree) (defaultFree : d.DefaultFree) :
    d.Throughout registry.Resolves := by
  intro part occurs
  constructor
  · intro name held
    rw [defaultFree part occurs] at held
    cases held
  · intro name isCustom
    exact absurd (congrArg Shape.kind isCustom) (customFree part occurs)

theorem resolves_fileForm : Descriptor.fileForm.Throughout registry.Resolves :=
  resolves_of_free Descriptor.customFree_fileForm Descriptor.defaultFree_fileForm

/-- More callbacks do not change which files are accepted. -/
theorem acceptFile_of_within (within : registry.Within registry')
    (verified : registry.verifyConfig config = .ok ()) (name : String) (v : Value) :
    acceptFile ⟨config, registry', now⟩ name v doc =
      acceptFile ⟨config, registry, now⟩ name v doc := by
  ext c
  rw [acceptFile_eq_some_iff, acceptFile_eq_some_iff]
  exact validatePart_of_within within verified resolves_fileForm (fun _ _ => rfl) name (fileOf v) c

section Whole

variable (within : registry.Within registry') (verified : registry.verifyConfig config = .ok ())
  (resolves : d.Throughout registry.Resolves)

include within verified resolves

/-- More callbacks do not change what is accepted. -/
theorem accept_of_within (mode : Mode) (name : String) (v : Value) :
    accept ⟨config, registry', now⟩ mode name d v doc =
      accept ⟨config, registry, now⟩ mode name d v doc :=
  acceptShape_of_within within verified resolves.here (acceptFile_of_within within verified)
    (fun _ member => validatePart_of_within within verified (resolves.ofChild member)
      (acceptFile_of_within within verified)) mode name v

/-- What is verified is answered alike under every larger registry, failures included. -/
theorem validate_of_within (mode : Mode) (name : String) (v : Value) :
    validate ⟨config, registry', now⟩ mode name d v doc =
      validate ⟨config, registry, now⟩ mode name d v doc :=
  validate_eq_of_accepted (fun mode => accept_of_within within verified resolves mode name)
    (fun v => acceptElement_eq_of_children fun _ member =>
      validatePart_of_within within verified (resolves.ofChild member)
        (acceptFile_of_within within verified) name v)
    (defaultValue?_of_within within resolves.here) mode v

end Whole

/-! ## Verified descriptors -/

/-- Verification passes exactly when every callback that is named at any depth is registered. Then
validation answers as under every larger registry, and whatever it looks up is there: every
generator and every custom validator that it comes to by name is registered and called, and so is
the fallback for every locale. -/
theorem validate_of_verify (registry : Registry) (d : Descriptor) :
    (registry.verify d = .ok () ↔ d.Throughout registry.Resolves) ∧
      ∀ config, registry.verify d = .ok () → registry.verifyConfig config = .ok () →
        (∀ registry', registry.Within registry' → ∀ now mode name v doc,
          validate ⟨config, registry', now⟩ mode name d v doc =
            validate ⟨config, registry, now⟩ mode name d v doc) ∧
        (∀ part, Descriptor.Occurs part d ∨ Descriptor.Occurs part .fileForm →
          (∀ callback, part.default = some (.named callback) →
            ∃ generator, registry.generator? callback = some generator ∧ ∀ now doc,
              defaultValue? ⟨config, registry, now⟩ part.default doc = some (generator doc)) ∧
          ∀ callback, part.shape = .custom (.named callback) →
            ∃ validator, registry.validator? callback = some validator ∧ ∀ now mode name v,
              acceptCustom ⟨config, registry, now⟩ mode name part (.named callback) v =
                (validator ⟨mode, name, .named callback, part.default, part.nullable,
                  v⟩).toOption) ∧
        ∀ name, config.strategy = .fallback name →
          ∃ fallback, registry.fallback? name = some fallback ∧ ∀ given locale,
            Localised.fill? config registry given locale = some (fallback given locale) := by
  refine ⟨Registry.verify_eq_ok_iff, fun config descriptorVerified configVerified => ?_⟩
  have resolves := Registry.verify_eq_ok_iff.1 descriptorVerified
  refine ⟨fun registry' within now mode name v doc =>
    validate_of_within within configVerified resolves mode name v, fun part occurs => ?_,
    fun name strategy => ?_⟩
  · have here : registry.Resolves part := occurs.elim (resolves part) (resolves_fileForm part)
    exact ⟨fun callback held => exists_generator here held,
      fun callback isCustom => exists_validator here isCustom⟩
  · obtain ⟨fallback, found⟩ := Registry.verifyConfig_eq_ok_iff.1 configVerified name strategy
    refine ⟨fallback, found, fun given locale => ?_⟩
    simp only [Localised.fill?, strategy, found, Option.map_some]

/-- One callback of each role. The validator tells whether its descriptor accepts null. -/
def oneOfEach : Registry :=
  ⟨[("five", fun _ => .int 5)],
    [("known", fun call => .ok (.list [.bool call.nullable, call.value]))],
    [("code", fun _ locale => .str locale)]⟩

/-- The same callbacks and further ones. -/
def twoOfEach : Registry :=
  ⟨oneOfEach.generators ++ [("six", fun _ => .int 6)],
    oneOfEach.validators ++ [("never", fun call => .error (.missing call.name .custom))],
    oneOfEach.fallbacks ++ [("nothing", fun _ _ => .null)]⟩

theorem within_twoOfEach : oneOfEach.Within twoOfEach := by
  constructor <;> intro name callback found <;> refine (Entries.get?_append _ _ name).trans ?_
  · rw [show Entries.get? oneOfEach.generators name = some callback from found, Option.some_or]
  · rw [show Entries.get? oneOfEach.validators name = some callback from found, Option.some_or]
  · rw [show Entries.get? oneOfEach.fallbacks name = some callback from found, Option.some_or]

/-- Localised titles or whatever a validator knows, with a generated default. -/
def titles : Descriptor :=
  .mk (.list [.ofShape .locale, .mk (.custom (.named "known")) none true] none)
    (some (.named "five")) false

/-- A missing locale is filled in under either registry. -/
theorem validate_of_verify_titles :
    oneOfEach.verify titles = .ok () ∧
      oneOfEach.verifyConfig ⟨["en", "fr"], "en", .fallback "code"⟩ = .ok () ∧
      oneOfEach.Within twoOfEach ∧
      validate ⟨⟨["en", "fr"], "en", .fallback "code"⟩, oneOfEach, ⟨0, 0⟩⟩ .create "titles" titles
        (.list [.map [("en", .str "one")], .bool true]) [] =
          .ok (.list [.map [("en", .str "one"), ("fr", .str "fr")],
            .list [.bool true, .bool true]]) ∧
      validate ⟨⟨["en", "fr"], "en", .fallback "code"⟩, twoOfEach, ⟨0, 0⟩⟩ .create "titles" titles
        (.list [.map [("en", .str "one")], .bool true]) [] =
          validate ⟨⟨["en", "fr"], "en", .fallback "code"⟩, oneOfEach, ⟨0, 0⟩⟩ .create "titles"
            titles (.list [.map [("en", .str "one")], .bool true]) [] :=
  ⟨rfl, rfl, within_twoOfEach, rfl,
    ((validate_of_verify oneOfEach titles).2 _ rfl rfl).1 twoOfEach within_twoOfEach _ _ _ _ _⟩

end Context

end DocumentSchema

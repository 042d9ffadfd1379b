import DocumentSchema.Proofs.Descriptor.FieldDefaults
import DocumentSchema.Proofs.Descriptor.WellFormed
import DocumentSchema.Proofs.Text.Parts

/-!
Schemas that are built step by step.

A builder is begun and takes steps, each of which declares an attribute or sets a default at a path.
What is wrong with it is told by the names alone that are declared (`SchemaBuilder.error_run`), and
as long as nothing is wrong, its attributes are those that were declared, in which the fields that
paths lead to have the defaults that were set last (`SchemaBuilder.get?_run`).
`SchemaBuilder.run_lawful` puts together what follows for the schema that is built.
-/

namespace DocumentSchema

/-! ## Paths and names -/

/-- The parts of a path tell the path. -/
theorem Path.dotted_injective {path path' : String} (same : dotted path = dotted path') :
    path = path' := by
  have parts := List.map_injective_iff.2 (fun _ _ => String.ofList_injective) same
  have whole := congrArg (['.'].intercalate) parts
  rw [Text.intercalate_parts, Text.intercalate_parts] at whole
  exact String.toList_inj.1 whole

/-- Every path has a first part, which may be empty. -/
theorem Path.exists_dotted (path : String) : ∃ first rest, dotted path = first :: rest := by
  obtain ⟨first, rest, split⟩ := List.exists_cons_of_ne_nil (Text.parts_ne_nil '.' path.toList)
  exact ⟨_, _, by rw [dotted, split, List.map_cons]⟩

/-- Proper names pass. -/
theorem checkName_of_isFieldName {subject : Subject} {name : String} (proper : IsFieldName name) :
    checkName subject name = .ok () := by
  simp [checkName, proper.1, proper.2]

/-- No other name passes, and it is told which one does not. -/
theorem checkName_of_not_isFieldName {subject : Subject} {name : String}
    (improper : ¬IsFieldName name) :
    checkName subject name = .error (malformed subject (.badName name)) := by
  refine if_pos ?_
  simpa [IsFieldName, or_iff_not_imp_left] using improper

/-! ## Steps -/

namespace SchemaBuilder

/-- What may be asked of a builder: to declare an attribute, or to set the default at a path. -/
inductive Step where
  | declare (name : String) (d : Descriptor)
  | setDefault (path : String) (default : Option Default)

/-- The builder after a step, also after one that fails. -/
def after (builder : SchemaBuilder) : Step → SchemaBuilder
  | .declare name d => builder.declare name d
  | .setDefault path default => (builder.assignDefault path default).2

/-- The builder after steps. -/
def run (builder : SchemaBuilder) (steps : List Step) : SchemaBuilder :=
  steps.foldl after builder

/-- The attribute that a step declares. -/
def Step.declared? : Step → Option (String × Descriptor)
  | .declare name d => some (name, d)
  | .setDefault _ _ => none

/-- The attributes that steps declare, in the order of the steps. -/
def declarations (steps : List Step) : List (String × Descriptor) :=
  steps.filterMap Step.declared?

/-- The default that a step sets at segments, if it can. -/
def setAt? (builder : SchemaBuilder) : Step → List String → Option (Option Default)
  | .declare _ _, _ => none
  | .setDefault path default, segments =>
    match builder.setDefault path default with
    | .ok _ => Descriptor.onlyAt (Path.dotted path) default segments
    | .error _ => none

/-- The default that steps taken one after the other set last at segments. -/
def lastSet? (builder : SchemaBuilder) : List Step → List String → Option (Option Default)
  | [], _ => none
  | step :: rest, segments =>
    (lastSet? (builder.after step) rest segments).or (builder.setAt? step segments)

/-! ## Names that can be declared -/

/-- Attributes of these names can be declared one after the other: the names are proper, and each
occurs once. -/
def Declarable (names : List String) : Prop :=
  (∀ name ∈ names, IsFieldName name) ∧ names.Nodup

/-- What is wrong with a name that is declared after others. -/
inductive NameFlaw (earlier : List String) (name : String) : Flaw → Prop
  | bad : ¬IsFieldName name → NameFlaw earlier name (.badName name)
  | twice : IsFieldName name → name ∈ earlier → NameFlaw earlier name (.declaredTwice name)

/-- What is wrong with the first step that declares a name which cannot be declared. -/
inductive FirstFlaw : List Step → Flaw → Prop
  | at (before : List Step) {name : String} (d : Descriptor) (later : List Step) {flaw : Flaw} :
    Declarable (Entries.keys (declarations before)) →
      NameFlaw (Entries.keys (declarations before)) name flaw →
      FirstFlaw (before ++ .declare name d :: later) flaw

variable {builder changed : SchemaBuilder} {name path path' : String} {d part : Descriptor}
  {default default' : Option Default} {steps before later : List Step} {step : Step}
  {segments rest : List String} {names : List String} {flaw : Flaw} {error : SchemaError}

theorem run_append (builder : SchemaBuilder) (before later : List Step) :
    builder.run (before ++ later) = (builder.run before).run later :=
  List.foldl_append

theorem declarations_append (before later : List Step) :
    declarations (before ++ later) = declarations before ++ declarations later :=
  List.filterMap_append

/-- The default that was set last is one of the later ones, if there is any. -/
theorem lastSet?_append (builder : SchemaBuilder) (before later : List Step)
    (segments : List String) :
    builder.lastSet? (before ++ later) segments =
      ((builder.run before).lastSet? later segments).or (builder.lastSet? before segments) := by
  induction before generalizing builder with
  | nil => exact Option.or_none.symm
  | cons step before ih =>
    rw [List.cons_append, lastSet?, ih, lastSet?, Option.or_assoc]
    rfl

theorem declarations_declare (steps : List Step) (name : String) (d : Descriptor) :
    declarations (steps ++ [.declare name d]) = declarations steps ++ [(name, d)] :=
  declarations_append steps [.declare name d]

theorem declarations_setDefault (steps : List Step) (path : String) (default : Option Default) :
    declarations (steps ++ [.setDefault path default]) = declarations steps :=
  (declarations_append steps [.setDefault path default]).trans (List.append_nil _)

/-- One name more can be declared if it is proper and was not declared before. -/
theorem declarable_concat :
    Declarable (names ++ [name]) ↔ Declarable names ∧ IsFieldName name ∧ name ∉ names := by
  simp only [Declarable, List.forall_mem_append, List.forall_mem_singleton, List.nodup_append,
    List.nodup_singleton, true_and]
  constructor
  · intro all
    obtain ⟨⟨proper, properToo⟩, distinct, apart⟩ := all
    exact ⟨⟨proper, distinct⟩, properToo, fun member => apart name member rfl⟩
  · intro separately
    obtain ⟨⟨proper, distinct⟩, properToo, fresh⟩ := separately
    refine ⟨⟨proper, properToo⟩, distinct, ?_⟩
    rintro other member rfl
    exact fresh member

/-- Either all names can be declared, or there is a first one that cannot. -/
theorem declarable_or_firstFlaw (steps : List Step) :
    Declarable (Entries.keys (declarations steps)) ∨ ∃ flaw, FirstFlaw steps flaw := by
  induction steps using List.reverseRecOn with
  | nil => exact .inl ⟨fun _ member => (List.not_mem_nil member).elim, .nil⟩
  | append_singleton steps step ih =>
    rcases ih with declarable | ⟨flaw, found⟩
    · cases step with
      | declare name d =>
        rw [declarations_declare, Entries.keys, List.map_append]
        by_cases proper : IsFieldName name
        · by_cases earlier : name ∈ Entries.keys (declarations steps)
          · exact .inr ⟨_, .at steps d [] declarable (.twice proper earlier)⟩
          · exact .inl (declarable_concat.2 ⟨declarable, proper, earlier⟩)
        · exact .inr ⟨_, .at steps d [] declarable (.bad proper)⟩
      | setDefault path default =>
        rw [declarations_setDefault]
        exact .inl declarable
    · obtain ⟨before, d, later, declarable, bad⟩ := found
      refine .inr ⟨flaw, ?_⟩
      rw [List.append_assoc, List.cons_append]
      exact .at before d (later ++ [step]) declarable bad

/-! ## Declaring -/

/-- Once something is wrong, nothing is declared any more. -/
theorem declare_of_error (wrong : builder.error = some error) (name : String) (d : Descriptor) :
    builder.declare name d = builder :=
  if_pos (by simp [wrong])

/-- A proper new name is declared. -/
theorem declare_of_fresh (fine : builder.error = none) (proper : IsFieldName name)
    (fresh : Entries.get? builder.attributes name = none) (d : Descriptor) :
    builder.declare name d =
      { builder with attributes := Entries.insert name d builder.attributes } := by
  simp [declare, fine, checkName_of_isFieldName proper, Entries.hasKey, fresh]

/-- A name that cannot be declared is what is wrong from then on. -/
theorem error_declare (fine : builder.error = none) (bad : NameFlaw names name flaw)
    (taken : ∀ earlier ∈ names, Entries.hasKey builder.attributes earlier = true)
    (d : Descriptor) : (builder.declare name d).error = some (malformed .schema flaw) := by
  cases bad with
  | bad improper => simp [declare, fine, checkName_of_not_isFieldName improper]
  | twice proper earlier =>
    simp [declare, fine, checkName_of_isFieldName proper, taken name earlier]

/-! ## Setting defaults -/

/-- The attributes of a builder ascend by their names, and so do the fields of all records in
them. -/
structure Ordered (builder : SchemaBuilder) : Prop where
  ascending : Entries.Ascending builder.attributes
  inside : ∀ field ∈ builder.attributes, field.2.Ordered

/-- A path leads to an attribute, or through the fields of records to a field in one. -/
def Addresses (builder : SchemaBuilder) (path : String) : Prop :=
  ∃ part, Descriptor.fieldAmong? builder.attributes (Path.dotted path) = some part

/-- A builder in whose attributes the fields that certain segments lead to have other defaults. -/
def withDefaults (builder : SchemaBuilder) (defaults : List String → Option (Option Default)) :
    SchemaBuilder :=
  { builder with attributes := Descriptor.fieldsWithDefaults defaults builder.attributes }

variable {defaults : List String → Option (Option Default)}

/-- A default that is set is set in the builder that is left. -/
theorem assignDefault_of_ok (set : builder.setDefault path default = .ok changed) :
    (builder.assignDefault path default).2 = changed := by
  obtain ⟨_, -, same⟩ := except_map_eq_ok_iff.1 set
  exact same.symm

/-- A default that cannot be set leaves the builder as it was. -/
theorem assignDefault_of_error (failed : builder.setDefault path default = .error error) :
    (builder.assignDefault path default).2 = builder := by
  have failed := except_map_eq_error_iff.1 failed
  unfold assignDefault at failed ⊢
  split at failed
  · rfl
  · next first rest split =>
    split at failed
    · rfl
    · next d found =>
      dsimp only at failed ⊢
      rw [Descriptor.assignDefault_of_error failed, Entries.replace_self found]

/-- A default is set exactly where the path leads to an attribute or a field, and changes nothing
else. -/
theorem setDefault_eq_ok_iff (ordered : builder.Ordered) :
    builder.setDefault path default = .ok changed ↔
      builder.Addresses path ∧
        changed = builder.withDefaults (Descriptor.onlyAt (Path.dotted path) default) := by
  obtain ⟨first, rest, split⟩ := Path.exists_dotted path
  cases found : Entries.get? builder.attributes first with
  | none =>
    rw [setDefault_of_missing split found]
    simp [Addresses, split, Descriptor.fieldAmong?, found]
  | some d =>
    have inside := ordered.inside _ (Entries.mem_of_get? found)
    rw [setDefault_of_dotted split found, except_map_eq_ok_iff]
    simp only [Addresses, withDefaults, split, Descriptor.fieldAmong?, found,
      Descriptor.setDefaultAt_eq_ok_iff inside, Option.bind_some, and_assoc, exists_and_left,
      exists_eq_left, Descriptor.replace_eq_fieldsWithDefaults ordered.ascending found]

/-- Other defaults do not change which paths fail, and how. -/
theorem setDefault_withDefaults_eq_error_iff :
    (builder.withDefaults defaults).setDefault path default = .error error ↔
      builder.setDefault path default = .error error := by
  obtain ⟨first, rest, split⟩ := Path.exists_dotted path
  have same := Descriptor.get?_fieldsWithDefaults defaults builder.attributes first
  cases found : Entries.get? builder.attributes first with
  | none =>
    rw [found, Option.map_none] at same
    rw [setDefault_of_missing split found, setDefault_of_missing split same]
  | some d =>
    rw [found, Option.map_some] at same
    rw [setDefault_of_dotted split found, setDefault_of_dotted split same,
      except_map_eq_error_iff, except_map_eq_error_iff,
      Descriptor.setDefaultAt_withDefaults_eq_error_iff]

/-- Paths lead where they led, whatever the defaults. -/
theorem addresses_withDefaults :
    (builder.withDefaults defaults).Addresses path ↔ builder.Addresses path := by
  simp [Addresses, withDefaults, Descriptor.fieldAmong?_fieldsWithDefaults]

/-- Defaults that are set later replace earlier ones. -/
theorem withDefaults_withDefaults (builder : SchemaBuilder)
    (earlier later : List String → Option (Option Default)) :
    (builder.withDefaults earlier).withDefaults later =
      builder.withDefaults fun segments => (later segments).or (earlier segments) := by
  simp only [withDefaults, Descriptor.fieldsWithDefaults_fieldsWithDefaults]

/-- A default that cannot be set leaves the builder as it was. -/
theorem after_setDefault_of_error (failed : builder.setDefault path default = .error error) :
    builder.after (.setDefault path default) = builder :=
  assignDefault_of_error failed

/-- A default that can be set is set where the path leads. -/
theorem after_setDefault_of_addresses (ordered : builder.Ordered)
    (addresses : builder.Addresses path) (default : Option Default) :
    builder.after (.setDefault path default) =
      builder.withDefaults (Descriptor.onlyAt (Path.dotted path) default) :=
  assignDefault_of_ok ((setDefault_eq_ok_iff ordered).2 ⟨addresses, rfl⟩)

/-- A default is set where a path leads, or it cannot be set. -/
theorem addresses_or_error (ordered : builder.Ordered) (path : String) (default : Option Default) :
    builder.Addresses path ∨ ∃ error, builder.setDefault path default = .error error := by
  cases set : builder.setDefault path default with
  | error error => exact .inr ⟨error, rfl⟩
  | ok changed => exact .inl ((setDefault_eq_ok_iff ordered).1 set).1

/-! ## Order -/

theorem ordered_new (name : String) : (new name).Ordered :=
  ⟨.nil, fun _ member => (List.not_mem_nil member).elim⟩

/-- Defaults do not change the order of attributes and fields. -/
theorem Ordered.withDefaults (ordered : builder.Ordered)
    (defaults : List String → Option (Option Default)) :
    (builder.withDefaults defaults).Ordered where
  ascending := ordered.ascending.of_keys_eq (Descriptor.keys_fieldsWithDefaults _ _)
  inside := by
    intro field member
    rw [SchemaBuilder.withDefaults, Descriptor.fieldsWithDefaults_eq] at member
    obtain ⟨former, held, rfl⟩ := List.mem_map.1 member
    exact (ordered.inside former held).withDefaults _

/-- Declaring an attribute keeps the order. -/
theorem Ordered.declare (ordered : builder.Ordered) (inside : d.Ordered) (name : String) :
    (builder.declare name d).Ordered := by
  unfold SchemaBuilder.declare
  split
  · exact ordered
  · split
    · exact ⟨ordered.ascending, ordered.inside⟩
    · refine ⟨Entries.ascending_insert name d ordered.ascending, fun field member => ?_⟩
      rcases Entries.mem_insert member with rfl | kept
      · exact inside
      · exact ordered.inside field kept

/-- Every step keeps the order. -/
theorem Ordered.after (ordered : builder.Ordered)
    (inside : ∀ field ∈ declarations [step], field.2.Ordered) : (builder.after step).Ordered := by
  cases step with
  | declare name d => exact ordered.declare (inside (name, d) List.mem_cons_self) name
  | setDefault path default =>
    rcases addresses_or_error ordered path default with addresses | ⟨error, failed⟩
    · rw [after_setDefault_of_addresses ordered addresses]
      exact ordered.withDefaults _
    · rwa [after_setDefault_of_error failed]

/-- Every run keeps the order. -/
theorem Ordered.run (ordered : builder.Ordered)
    (inside : ∀ field ∈ declarations steps, field.2.Ordered) : (builder.run steps).Ordered := by
  induction steps generalizing builder with
  | nil => exact ordered
  | cons step steps ih =>
    rw [← List.singleton_append, declarations_append, List.forall_mem_append] at inside
    exact ih (ordered.after inside.1) inside.2

/-! ## Defaults at two paths -/

/-- What becomes of a default at one path does not depend on one at another path. -/
theorem setDefault_after_eq_error_iff (ordered : builder.Ordered) :
    (builder.after (.setDefault path' default')).setDefault path default = .error error ↔
      builder.setDefault path default = .error error := by
  rcases addresses_or_error ordered path' default' with addresses | ⟨_, failed⟩
  · rw [after_setDefault_of_addresses ordered addresses]
    exact setDefault_withDefaults_eq_error_iff
  · rw [after_setDefault_of_error failed]

/-- Defaults at different places do not get into each other's way. -/
theorem or_onlyAt_comm {segments segments' : List String} (different : segments ≠ segments')
    (default default' : Option Default) (inner : List String) :
    (Descriptor.onlyAt segments default inner).or (Descriptor.onlyAt segments' default' inner) =
      (Descriptor.onlyAt segments' default' inner).or
        (Descriptor.onlyAt segments default inner) := by
  by_cases here : inner = segments
  · simp [Descriptor.onlyAt, here, different]
  · simp [Descriptor.onlyAt, here]

/-- Defaults at different paths are set in either order. -/
theorem after_after_setDefault (ordered : builder.Ordered) (different : path ≠ path') :
    (builder.after (.setDefault path default)).after (.setDefault path' default') =
      (builder.after (.setDefault path' default')).after (.setDefault path default) := by
  rcases addresses_or_error ordered path default with leads | ⟨error, failed⟩
  · rcases addresses_or_error ordered path' default' with leadsToo | ⟨error, failed⟩
    · rw [after_setDefault_of_addresses ordered leads,
        after_setDefault_of_addresses ordered leadsToo,
        after_setDefault_of_addresses (ordered.withDefaults _) (addresses_withDefaults.2 leadsToo),
        after_setDefault_of_addresses (ordered.withDefaults _) (addresses_withDefaults.2 leads),
        withDefaults_withDefaults, withDefaults_withDefaults]
      refine congrArg builder.withDefaults (funext fun inner => ?_)
      exact or_onlyAt_comm (fun same => different (Path.dotted_injective same).symm) _ _ inner
    · rw [after_setDefault_of_error failed,
        after_setDefault_of_error ((setDefault_after_eq_error_iff ordered).2 failed)]
  · rw [after_setDefault_of_error failed,
      after_setDefault_of_error ((setDefault_after_eq_error_iff ordered).2 failed)]

/-! ## Runs -/

theorem lastSet?_concat (builder : SchemaBuilder) (steps : List Step) (step : Step)
    (segments : List String) :
    builder.lastSet? (steps ++ [step]) segments =
      ((builder.run steps).setAt? step segments).or (builder.lastSet? steps segments) := by
  rw [lastSet?_append, lastSet?, lastSet?, Option.none_or]

theorem run_concat (builder : SchemaBuilder) (steps : List Step) (step : Step) :
    builder.run (steps ++ [step]) = (builder.run steps).after step :=
  run_append builder steps [step]

/-- Nothing is wrong with a builder, and its attributes are declared ones in which the fields that
certain segments lead to have other defaults. -/
structure Holds (builder : SchemaBuilder) (declared : Entries Descriptor)
    (defaults : List String → Option (Option Default)) : Prop where
  fine : builder.error = none
  attributes : ∀ name, Entries.get? builder.attributes name =
    (Entries.get? declared name).map
      (Descriptor.withDefaults fun rest => defaults (name :: rest))
  addressed : ∀ segments default, defaults segments = some default →
    ∃ part, Descriptor.fieldAmong? declared segments = some part

variable {declared : Entries Descriptor}

/-- What a path leads to is what was declared there, with the defaults that were set. -/
theorem Holds.fieldAmong? (holds : builder.Holds declared defaults) (segments : List String) :
    Descriptor.fieldAmong? builder.attributes segments =
      (Descriptor.fieldAmong? declared segments).map
        (Descriptor.withDefaults fun inner => defaults (segments ++ inner)) := by
  cases segments with
  | nil => rfl
  | cons segment rest =>
    rw [Descriptor.fieldAmong?, Descriptor.fieldAmong?, holds.attributes]
    cases Entries.get? declared segment with
    | none => rfl
    | some d => exact Descriptor.fieldAt?_withDefaults _ d rest

/-- What a builder holds after a proper new name is declared. -/
theorem Holds.declare (holds : builder.Holds declared defaults) (proper : IsFieldName name)
    (fresh : name ∉ Entries.keys declared) (d : Descriptor) :
    (builder.declare name d).Holds (declared ++ [(name, d)]) defaults := by
  have absent : Entries.get? declared name = none := Entries.get?_eq_none_iff.2 fresh
  have absentToo : Entries.get? builder.attributes name = none := by
    rw [holds.attributes, absent]
    rfl
  rw [declare_of_fresh holds.fine proper absentToo]
  refine ⟨holds.fine, fun other => ?_, fun segments default isSet => ?_⟩
  · rw [Entries.get?_insert, Entries.get?_append]
    split
    · next same =>
      -- No default has been set in an attribute that was not there.
      have unset : (fun rest => defaults (other :: rest)) = fun _ => none := by
        funext rest
        refine Option.eq_none_iff_forall_ne_some.2 fun default isSet => ?_
        obtain ⟨part, leads⟩ := holds.addressed _ default isSet
        rw [Descriptor.fieldAmong?, same, absent] at leads
        cases leads
      rw [unset, same, absent]
      simp [Entries.get?, Descriptor.withDefaults_none]
    · next different =>
      rw [holds.attributes, Entries.get?, if_neg fun same => different same.symm, Entries.get?,
        Option.or_none]
  · obtain ⟨part, leads⟩ := holds.addressed segments default isSet
    refine ⟨part, ?_⟩
    cases segments with
    | nil => cases leads
    | cons segment rest =>
      obtain ⟨field, found, below⟩ := Option.bind_eq_some_iff.1 leads
      rw [Descriptor.fieldAmong?, Entries.get?_append, found]
      exact below

/-- What a builder holds after a default is set. -/
theorem Holds.setDefault (holds : builder.Holds declared defaults)
    (addresses : builder.Addresses path) (default : Option Default) :
    (builder.withDefaults (Descriptor.onlyAt (Path.dotted path) default)).Holds declared
      fun segments => (Descriptor.onlyAt (Path.dotted path) default segments).or
        (defaults segments) := by
  refine ⟨holds.fine, fun name => ?_, fun segments later isSet => ?_⟩
  · rw [SchemaBuilder.withDefaults, Descriptor.get?_fieldsWithDefaults, holds.attributes,
      Option.map_map]
    refine congrArg (fun f => (Entries.get? declared name).map f) (funext fun d => ?_)
    exact Descriptor.withDefaults_withDefaults _ _ d
  · by_cases here : segments = Path.dotted path
    · obtain ⟨part, leads⟩ := addresses
      rw [holds.fieldAmong?, ← here] at leads
      obtain ⟨former, leads, -⟩ := Option.map_eq_some_iff.1 leads
      exact ⟨former, leads⟩
    · simp only [Descriptor.onlyAt, if_neg here, Option.none_or] at isSet
      exact holds.addressed segments later isSet

/-- As long as the names can be declared, a run of a new builder holds what was declared with the
defaults that were set last. -/
theorem holds_run (name : String) (inside : ∀ field ∈ declarations steps, field.2.Ordered)
    (declarable : Declarable (Entries.keys (declarations steps))) :
    ((new name).run steps).Holds (declarations steps) ((new name).lastSet? steps) := by
  induction steps using List.reverseRecOn with
  | nil => exact ⟨rfl, fun _ => rfl, fun _ _ isSet => by cases isSet⟩
  | append_singleton steps step ih =>
    have concat : (new name).lastSet? (steps ++ [step]) = fun segments =>
        (((new name).run steps).setAt? step segments).or ((new name).lastSet? steps segments) :=
      funext (lastSet?_concat (new name) steps step)
    rw [run_concat, concat]
    rw [declarations_append, List.forall_mem_append] at inside
    cases step with
    | declare field d =>
      rw [declarations_declare] at declarable ⊢
      rw [Entries.keys, List.map_append] at declarable
      obtain ⟨earlier, proper, fresh⟩ := declarable_concat.1 declarable
      exact (ih inside.1 earlier).declare proper fresh d
    | setDefault path default =>
      rw [declarations_setDefault] at declarable ⊢
      have holds := ih inside.1 declarable
      have ordered := (ordered_new name).run inside.1
      rcases addresses_or_error ordered path default with addresses | ⟨error, failed⟩
      · rw [after_setDefault_of_addresses ordered addresses]
        simp only [setAt?, (setDefault_eq_ok_iff ordered).2 ⟨addresses, rfl⟩]
        exact holds.setDefault addresses default
      · rw [after_setDefault_of_error failed]
        simpa only [setAt?, failed, Option.none_or] using holds

/-! ## What is built -/

/-- A builder has the attributes that were declared. -/
theorem Holds.hasKey_iff (holds : builder.Holds declared defaults) :
    Entries.hasKey builder.attributes name = true ↔ name ∈ Entries.keys declared := by
  rw [← Entries.hasKey_iff_mem, Entries.hasKey, Entries.hasKey, holds.attributes, Option.isSome_map]

/-- Setting a default changes neither the name nor what is wrong. -/
theorem name_error_assignDefault (builder : SchemaBuilder) (path : String)
    (default : Option Default) :
    (builder.assignDefault path default).2.name = builder.name ∧
      (builder.assignDefault path default).2.error = builder.error := by
  unfold assignDefault
  split
  · exact ⟨rfl, rfl⟩
  · split <;> exact ⟨rfl, rfl⟩

/-- No step changes the name. -/
theorem name_after (builder : SchemaBuilder) (step : Step) :
    (builder.after step).name = builder.name := by
  cases step with
  | declare name d =>
    rw [after, declare]
    split
    · rfl
    · split <;> rfl
  | setDefault path default => exact (name_error_assignDefault builder path default).1

theorem name_run (builder : SchemaBuilder) (steps : List Step) :
    (builder.run steps).name = builder.name := by
  induction steps generalizing builder with
  | nil => rfl
  | cons step steps ih => exact (ih (builder.after step)).trans (name_after builder step)

/-- What is wrong stays wrong. -/
theorem error_run_of_error (wrong : builder.error = some error) (steps : List Step) :
    (builder.run steps).error = some error := by
  induction steps generalizing builder with
  | nil => exact wrong
  | cons step steps ih =>
    refine ih ?_
    cases step with
    | declare name d => rwa [after, declare_of_error wrong]
    | setDefault path default =>
      exact (name_error_assignDefault builder path default).2.trans wrong

/-- The first name that cannot be declared is what is wrong after a run. -/
theorem error_run_of_firstFlaw (name : String)
    (inside : ∀ field ∈ declarations steps, field.2.Ordered) (found : FirstFlaw steps flaw) :
    ((new name).run steps).error = some (malformed .schema flaw) := by
  obtain ⟨before, d, later, declarable, bad⟩ := found
  rw [declarations_append, List.forall_mem_append] at inside
  have holds := holds_run name inside.1 declarable
  rw [run_append]
  refine error_run_of_error ?_ later
  exact error_declare holds.fine bad (fun _ member => holds.hasKey_iff.2 member) d

/-- A schema with a name that cannot be declared is not built. -/
theorem build_of_firstFlaw (name : String)
    (inside : ∀ field ∈ declarations steps, field.2.Ordered) (found : FirstFlaw steps flaw) :
    ((new name).run steps).build = .error ((malformed .schema flaw).within name) := by
  rw [build, error_run_of_firstFlaw name inside found, name_run]
  rfl

/-- Where all names can be declared, only the name of the schema can be wrong. -/
theorem build_of_declarable (name : String)
    (inside : ∀ field ∈ declarations steps, field.2.Ordered)
    (declarable : Declarable (Entries.keys (declarations steps))) :
    ((new name).run steps).build =
      if name = "" then .error (malformed .schema .emptySchemaName)
      else .ok ⟨name, ((new name).run steps).attributes⟩ := by
  have named : ((new name).run steps).name = name := name_run (new name) steps
  simp only [build, (holds_run name inside declarable).fine, named, String.isEmpty_iff]

/-- What is reported when a schema is asked for: the first name that cannot be declared, or if there
is none, that the schema has no name. -/
inductive Reports (name : String) (steps : List Step) : SchemaError → Prop
  | flawed {flaw : Flaw} : FirstFlaw steps flaw →
    Reports name steps ((malformed .schema flaw).within name)
  | unnamed : Declarable (Entries.keys (declarations steps)) → name = "" →
    Reports name steps (malformed .schema .emptySchemaName)

/-- What is reported where no schema is built. -/
theorem build_eq_error_iff (name : String)
    (inside : ∀ field ∈ declarations steps, field.2.Ordered) :
    ((new name).run steps).build = .error error ↔ Reports name steps error := by
  constructor
  · intro failed
    rcases declarable_or_firstFlaw steps with declarable | ⟨flaw, found⟩
    · rw [build_of_declarable name inside declarable] at failed
      split at failed
      · next unnamed =>
        cases failed
        exact .unnamed declarable unnamed
      · cases failed
    · rw [build_of_firstFlaw name inside found] at failed
      cases failed
      exact .flawed found
  · intro reports
    rcases reports with found | ⟨declarable, unnamed⟩
    · exact build_of_firstFlaw name inside found
    · rw [build_of_declarable name inside declarable, if_pos unnamed]

/-- When a schema is built, and which one. -/
theorem build_eq_ok_iff (name : String)
    (inside : ∀ field ∈ declarations steps, field.2.Ordered) {schema : Schema} :
    ((new name).run steps).build = .ok schema ↔
      (name ≠ "" ∧ Declarable (Entries.keys (declarations steps))) ∧
        schema = ⟨name, ((new name).run steps).attributes⟩ := by
  constructor
  · intro made
    rcases declarable_or_firstFlaw steps with declarable | ⟨flaw, found⟩
    · rw [build_of_declarable name inside declarable] at made
      split at made
      · cases made
      · next named =>
        cases made
        exact ⟨⟨named, declarable⟩, rfl⟩
    · rw [build_of_firstFlaw name inside found] at made
      cases made
  · intro whole
    obtain ⟨⟨named, declarable⟩, rfl⟩ := whole
    rw [build_of_declarable name inside declarable, if_neg named]

/-- A path that leads to a default is resolved to what it leads to. -/
theorem resolveAt_of_fieldAmong? {schema : Schema} (config : Config) (filled : path ≠ "")
    (leads : Descriptor.fieldAmong? schema.attributes (Path.dotted path) = some part) :
    schema.resolveAt config path = .ok part := by
  obtain ⟨first, rest, split⟩ := Path.exists_dotted path
  rw [split] at leads
  obtain ⟨d, found, below⟩ := Option.bind_eq_some_iff.1 leads
  have found : schema.get? first = some d := found
  have segments : Path.segments path = first :: rest := by
    rw [Path.segments, if_neg (by simpa using filled), split]
  simp only [Schema.resolveAt, segments, found]
  exact Descriptor.resolve_of_fieldAt? config path below

/-- What a schema has that was built in steps. Its attributes are those that were declared, in which
just the fields that paths lead to have other defaults, namely those that were set last. A path at
which a default was set is resolved to the field it leads to. -/
structure Yields (name : String) (steps : List Step) (schema : Schema) : Prop where
  named : schema.name = name
  ascending : Entries.Ascending schema.attributes
  declared : ∀ field, schema.declares field = true ↔ field ∈ Entries.keys (declarations steps)
  descriptors : ∀ field, schema.get? field =
    (Entries.get? (declarations steps) field).map
      (Descriptor.withDefaults fun rest => (new name).lastSet? steps (field :: rest))
  resolved : ∀ before path default later changed,
    steps = before ++ .setDefault path default :: later →
      ((new name).run before).setDefault path default = .ok changed →
      ∃ part, Descriptor.fieldAmong? schema.attributes (Path.dotted path) = some part ∧
        (new name).lastSet? steps (Path.dotted path) = some part.default ∧
        ∀ config, schema.resolveAt config path = .ok part

/-- A default that was set at a path is one of those there, whatever is set later. -/
theorem exists_lastSet? (builder : SchemaBuilder) (later : List Step)
    (set : (builder.run before).setDefault path default = .ok changed) :
    ∃ last, builder.lastSet? (before ++ .setDefault path default :: later) (Path.dotted path) =
      some last := by
  rw [← Option.isSome_iff_exists, lastSet?_append, lastSet?, setAt?, set]
  simp [Descriptor.onlyAt]

/-- A path that leads to a declared attribute or a field in one is not empty. -/
theorem ne_empty_of_fieldAmong? (declarable : Declarable (Entries.keys declared))
    (leads : Descriptor.fieldAmong? declared (Path.dotted path) = some part) : path ≠ "" := by
  rintro rfl
  obtain ⟨d, found, -⟩ := Option.bind_eq_some_iff.1 leads
  exact (declarable.1 "" (Entries.mem_keys_of_get? found)).1 rfl

/-- A schema that is built has what its steps gave it. -/
theorem yields_of_build {schema : Schema}
    (inside : ∀ field ∈ declarations steps, field.2.Ordered)
    (made : ((new name).run steps).build = .ok schema) : Yields name steps schema := by
  obtain ⟨⟨-, declarable⟩, rfl⟩ := (build_eq_ok_iff name inside).1 made
  have holds := holds_run name inside declarable
  refine ⟨rfl, ((ordered_new name).run inside).ascending, fun field => holds.hasKey_iff,
    holds.attributes, ?_⟩
  intro before path default later changed split set
  subst split
  obtain ⟨last, isSet⟩ := exists_lastSet? (new name) later set
  obtain ⟨former, leads⟩ := holds.addressed _ _ isSet
  have leadsNow := holds.fieldAmong? (Path.dotted path)
  rw [leads, Option.map_some] at leadsNow
  refine ⟨_, leadsNow, ?_, fun config => ?_⟩
  · rw [Descriptor.default_withDefaults, List.append_nil, isSet, Option.getD_some]
  · exact resolveAt_of_fieldAmong? config (ne_empty_of_fieldAmong? declarable leads) leadsNow

/-- After any steps of a new builder, in which the fields of all declared records ascend: a schema
is built exactly if it has a name and the attributes can be declared, and otherwise the first name
that cannot be declared is reported, or that the schema has no name. The schema has the attributes
that were declared, with the defaults that were set last. A default that cannot be set changes
nothing, and defaults at different paths can be set in either order. -/
theorem run_lawful (name : String) {steps : List Step}
    (inside : ∀ field ∈ declarations steps, field.2.Ordered) :
    ((∃ schema, ((new name).run steps).build = .ok schema) ↔
        name ≠ "" ∧ Declarable (Entries.keys (declarations steps))) ∧
      (∀ error, ((new name).run steps).build = .error error ↔ Reports name steps error) ∧
      (∀ schema, ((new name).run steps).build = .ok schema → Yields name steps schema) ∧
      (∀ path default error,
        ((new name).run steps).setDefault path default = .error error →
          ∀ later, (new name).run (steps ++ .setDefault path default :: later) =
            (new name).run (steps ++ later)) ∧
      ∀ path path' default default', path ≠ path' →
        (new name).run (steps ++ [.setDefault path default, .setDefault path' default']) =
            (new name).run (steps ++ [.setDefault path' default', .setDefault path default]) ∧
          ∀ error,
            ((new name).run (steps ++ [.setDefault path' default'])).setDefault path default =
                .error error ↔
              ((new name).run steps).setDefault path default = .error error := by
  have ordered := (ordered_new name).run inside
  refine ⟨?_, fun error => build_eq_error_iff name inside, fun schema => yields_of_build inside,
    fun path default error failed later => ?_,
    fun path path' default default' different => ⟨?_, fun error => ?_⟩⟩
  · simp only [build_eq_ok_iff name inside, exists_and_left, exists_eq, and_true]
  · rw [run_append, run_append]
    exact congrArg (run · later) (after_setDefault_of_error failed)
  · rw [run_append, run_append]
    exact after_after_setDefault ordered different
  · rw [run_concat]
    exact setDefault_after_eq_error_iff ordered

/-- A profile with a language. -/
def profile : Descriptor :=
  .ofShape (.record [("language", .ofShape (.str none))])

theorem ordered_profile : profile.Ordered := by
  refine Descriptor.throughout_iff.2 ⟨fun fields isRecord => ?_, fun child member => ?_⟩
  · cases isRecord
    exact List.pairwise_singleton _ _
  · cases List.mem_singleton.1 member
    exact Descriptor.throughout_of_leaf rfl fun fields isRecord => by cases isRecord

/-- The profile is declared, and then a default for its language is set. -/
def profileSteps : List Step :=
  [.declare "profile" profile, .setDefault "profile.language" (some (.static (.str "en")))]

/-- The schema of users with a profile is built, and the default for the language is found where it
was set. -/
theorem run_lawful_profile :
    (∀ field ∈ declarations profileSteps, field.2.Ordered) ∧
      ∃ schema part, ((new "users").run profileSteps).build = .ok schema ∧
        Yields "users" profileSteps schema ∧
        schema.resolveAt .initial "profile.language" = .ok part ∧
        part.default = some (.static (.str "en")) := by
  have names : declarations profileSteps = [("profile", profile)] := rfl
  have inside : ∀ field ∈ declarations profileSteps, field.2.Ordered := by
    rw [names, List.forall_mem_singleton]
    exact ordered_profile
  have proper : IsFieldName "profile" := by simp [IsFieldName]
  have declarable : Declarable (Entries.keys (declarations profileSteps)) := by
    rw [names]
    exact ⟨List.forall_mem_singleton.2 proper, List.nodup_singleton "profile"⟩
  have declared : (new "users").declare "profile" profile =
      ⟨"users", [("profile", profile)], none⟩ := declare_of_fresh rfl proper rfl profile
  have set : ((new "users").run [.declare "profile" profile]).setDefault "profile.language"
      (some (.static (.str "en"))) = .ok ((new "users").run profileSteps) := by
    rw [profileSteps, run, run, List.foldl_cons, List.foldl_cons, List.foldl_nil, after, declared]
    rfl
  obtain ⟨builds, -, yields, -⟩ := run_lawful "users" inside
  obtain ⟨schema, made⟩ := builds.2 ⟨by decide, declarable⟩
  obtain ⟨part, -, last, resolved⟩ :=
    (yields schema made).resolved [.declare "profile" profile] _ _ [] _ rfl set
  have isSet : (new "users").lastSet? profileSteps (Path.dotted "profile.language") =
      some (some (.static (.str "en"))) := by
    rw [profileSteps, lastSet?, lastSet?, after, declared]
    rfl
  exact ⟨inside, schema, part, made, yields schema made, resolved .initial,
    Option.some.inj (last.symm.trans isSet)⟩

end SchemaBuilder

end DocumentSchema

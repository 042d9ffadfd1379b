import DocumentSchema.Proofs.Descriptor.WellFormed
import DocumentSchema.Proofs.Schema.File
import DocumentSchema.Schema.Catalogue

/-!
Schema files that are loaded one after the other.

A file is that of a schema if reading it succeeds at every stage (`Schema.IsReadFrom`), and files
can be published together if they are those of schemas under fresh names (`Catalogue.Publishable`).
`Catalogue.loadFiles_eq_ok_iff` says that loading succeeds exactly for such files, and
`Catalogue.loadFiles_eq_error_iff` that it otherwise ends at the first file that is bad.
-/

namespace DocumentSchema

/-! ## Schemas in files -/

namespace SchemaFile

/-- Records that are decoded and declared one after the other lead from a built builder to one. -/
theorem built_of_foldlM {records : Entries Json} {begun builder : SchemaBuilder}
    (built : begun.Built) (declared : records.foldlM (fun builder (name, record) => do
      let d ← (Descriptor.ofJsonRecord record).mapError (SchemaError.within name)
      return builder.declare name d) begun = .ok builder) : builder.Built := by
  induction records generalizing begun with
  | nil =>
    cases declared
    exact built
  | cons record rest ih =>
    obtain ⟨next, step, later⟩ := except_bind_eq_ok_iff.1 declared
    obtain ⟨d, decoded, same⟩ := except_bind_eq_ok_iff.1 step
    cases same
    have ofRecord := Descriptor.built_of_ofRecord (except_mapError_eq_ok_iff.1 decoded)
    exact ih (built.declare record.1 ofRecord) later

variable {file : SchemaFile}

/-- The builder of a file is built. -/
theorem built_of_builder {builder : SchemaBuilder} (declared : file.builder = .ok builder) :
    builder.Built :=
  built_of_foldlM (.new file.name) declared

/-- A file holds a schema if it is built and refers to registered callbacks alone. -/
theorem schema_eq_ok_iff {registry : Registry} {schema : Schema} :
    file.schema registry = .ok schema ↔ ∃ builder, file.builder = .ok builder ∧
      builder.build = .ok schema ∧ registry.verifySchema schema = .ok () := by
  unfold SchemaFile.schema
  simp only [except_bind_eq_ok_iff, except_pure_eq_ok_iff]
  constructor
  · rintro ⟨builder, declared, made, building, ⟨⟩, verified, rfl⟩
    exact ⟨builder, declared, building, verified⟩
  · rintro ⟨builder, declared, building, verified⟩
    exact ⟨builder, declared, schema, building, (), verified, rfl⟩

end SchemaFile

namespace Schema

variable {registry : Registry} {path : String} {content : Option String} {schema : Schema}

/-- The content of a file is that of a schema: it is a text, the text is JSON, the JSON has the form
of a schema file, its records are decoded, the schema is built from them, and all callbacks in the
schema are registered. -/
def IsReadFrom (registry : Registry) (content : Option String) (schema : Schema) : Prop :=
  ∃ text, content = some text ∧ ∃ tree, Json.treeOfText? text = some tree ∧
    ∃ file, SchemaFile.ofTree? tree = some file ∧ ∃ builder, file.builder = .ok builder ∧
      builder.build = .ok schema ∧ registry.verifySchema schema = .ok ()

/-- Which schema is read from a text. -/
theorem ofFileText_eq_ok_iff :
    ofFileText registry path content = .ok schema ↔ IsReadFrom registry content schema := by
  cases content with
  | none => simp [ofFileText, IsReadFrom]
  | some text =>
    cases parsed : Json.treeOfText? text with
    | none => simp [ofFileText, IsReadFrom, parsed]
    | some tree =>
      cases shaped : SchemaFile.ofTree? tree with
      | none => simp [ofFileText, IsReadFrom, parsed, shaped]
      | some file =>
        simp [ofFileText, IsReadFrom, parsed, shaped, except_mapError_eq_ok_iff,
          SchemaFile.schema_eq_ok_iff]

/-- A schema that is read was built. -/
theorem IsReadFrom.built (read : IsReadFrom registry content schema) : schema.Built := by
  obtain ⟨_, _, _, _, file, _, builder, declared, made, _⟩ := read
  exact ⟨builder, SchemaFile.built_of_builder declared, made⟩

/-- A schema that is read refers to registered callbacks alone. -/
theorem IsReadFrom.verified (read : IsReadFrom registry content schema) :
    registry.verifySchema schema = .ok () := by
  obtain ⟨_, _, _, _, _, _, _, _, _, verified⟩ := read
  exact verified

end Schema

namespace Catalogue

variable {catalogue after : Catalogue} {registry : Registry} {schema : Schema} {name : String}
  {schemas : List Schema} {error : SchemaError}

/-! ## Adding schemas -/

/-- A catalogue with one more schema. -/
def add (catalogue : Catalogue) (schema : Schema) : Catalogue :=
  { catalogue with schemas := Entries.insert schema.name schema catalogue.schemas }

/-- A catalogue with more schemas. -/
def addAll (catalogue : Catalogue) (schemas : List Schema) : Catalogue :=
  schemas.foldl add catalogue

/-- The names of schemas differ from each other, and none is taken. -/
structure Fresh (catalogue : Catalogue) (schemas : List Schema) : Prop where
  distinct : (schemas.map Schema.name).Nodup
  free : ∀ schema ∈ schemas, catalogue.get? schema.name = none

theorem fresh_nil : Fresh catalogue [] :=
  ⟨.nil, List.forall_mem_nil _⟩

/-- A schema is found under its name. -/
theorem get?_add (catalogue : Catalogue) (schema : Schema) (name : String) :
    (catalogue.add schema).get? name =
      if name = schema.name then some schema else catalogue.get? name :=
  Entries.get?_insert schema.name name schema catalogue.schemas

theorem directory_addAll (catalogue : Catalogue) (schemas : List Schema) :
    (catalogue.addAll schemas).directory = catalogue.directory := by
  induction schemas generalizing catalogue with
  | nil => rfl
  | cons schema rest ih => exact ih (catalogue.add schema)

/-- Of fresh schemas the first one is fresh, and the others are once it is added. -/
theorem fresh_cons_iff {rest : List Schema} : Fresh catalogue (schema :: rest) ↔
    catalogue.get? schema.name = none ∧ Fresh (catalogue.add schema) rest := by
  have others (differ : schema.name ∉ rest.map Schema.name) :
      (∀ other ∈ rest, (catalogue.add schema).get? other.name = none) ↔
        ∀ other ∈ rest, catalogue.get? other.name = none := by
    refine forall₂_congr fun other member => ?_
    rw [get?_add, if_neg]
    exact fun same => differ (List.mem_map.2 ⟨other, member, same⟩)
  constructor
  · rintro ⟨distinct, free⟩
    obtain ⟨differ, distinct⟩ := List.nodup_cons.1 distinct
    obtain ⟨first, free⟩ := List.forall_mem_cons.1 free
    exact ⟨first, distinct, (others differ).2 free⟩
  · rintro ⟨first, distinct, free⟩
    have differ : schema.name ∉ rest.map Schema.name := by
      intro member
      obtain ⟨other, held, same⟩ := List.mem_map.1 member
      have absent := free other held
      rw [get?_add, if_pos same] at absent
      cases absent
    exact ⟨List.nodup_cons.2 ⟨differ, distinct⟩,
      List.forall_mem_cons.2 ⟨first, (others differ).1 free⟩⟩

/-- After fresh schemas are added, they are there under their names besides what was there. -/
theorem get?_addAll (fresh : Fresh catalogue schemas) :
    (catalogue.addAll schemas).get? name = some schema ↔
      catalogue.get? name = some schema ∨ schema ∈ schemas ∧ schema.name = name := by
  induction schemas generalizing catalogue with
  | nil => simp [addAll]
  | cons first rest ih =>
    obtain ⟨free, later⟩ := fresh_cons_iff.1 fresh
    rw [addAll, List.foldl_cons, ← addAll, ih later, get?_add, List.mem_cons]
    by_cases same : name = first.name
    · subst same
      rw [if_pos rfl, free, Option.some.injEq]
      constructor
      · rintro (rfl | ⟨member, named⟩)
        · exact .inr ⟨.inl rfl, rfl⟩
        · exact .inr ⟨.inr member, named⟩
      · rintro (absent | ⟨rfl | member, named⟩)
        · cases absent
        · exact .inl rfl
        · exact .inr ⟨member, named⟩
    · rw [if_neg same]
      refine or_congr_right ⟨fun ⟨member, named⟩ => ⟨.inr member, named⟩, ?_⟩
      rintro ⟨rfl | member, named⟩
      · exact absurd named.symm same
      · exact ⟨member, named⟩

/-- A schema is registered under a name that is not taken. -/
theorem register_eq_ok_iff : catalogue.register schema = .ok after ↔
    catalogue.get? schema.name = none ∧ after = catalogue.add schema := by
  have absent : catalogue.get? schema.name = none ↔ ¬ catalogue.holds schema.name = true := by
    rw [holds, Entries.hasKey_iff_exists, Option.eq_none_iff_forall_ne_some]
    exact not_exists.symm
  rw [absent, register]
  split
  · next held => simp [held]
  · next free => simp [free, add, eq_comm]

/-- A schema whose name is taken is refused. -/
theorem register_eq_error_iff : catalogue.register schema = .error error ↔
    catalogue.holds schema.name = true ∧ error = .ofFault (.immutable schema.name) := by
  unfold register
  split
  · next held => simp [held, eq_comm]
  · next free => simp [free]

/-! ## Loading -/

/-- Files can be published: each one is that of a schema, and the schemas are fresh. -/
structure Publishable (registry : Registry) (catalogue : Catalogue)
    (files : List (String × Option String)) (schemas : List Schema) : Prop where
  read : List.Forall₂ (fun file schema => schema.IsReadFrom registry file.2) files schemas
  fresh : Fresh catalogue schemas

/-- Why a file is bad for a catalogue: it is not that of a schema, or the name of its schema is
taken. -/
inductive Refuses (registry : Registry) (catalogue : Catalogue) (file : String × Option String) :
    SchemaError → Prop
  | unread {error : SchemaError} :
    Schema.ofFileText registry (FileTree.join catalogue.directory file.1) file.2 = .error error →
      Refuses registry catalogue file error
  | taken {schema : Schema} :
    schema.IsReadFrom registry file.2 → catalogue.holds schema.name = true →
      Refuses registry catalogue file (.ofFault (.immutable schema.name))

variable {file : String × Option String} {files : List (String × Option String)}

/-- A file is loaded if a schema is read from it whose name is not taken. -/
theorem loadFile_eq_ok_iff :
    catalogue.loadFile registry (FileTree.join catalogue.directory file.1) file.2 = .ok after ↔
      ∃ schema : Schema, schema.IsReadFrom registry file.2 ∧
        catalogue.get? schema.name = none ∧ after = catalogue.add schema := by
  rw [loadFile, except_bind_eq_ok_iff]
  simp only [Schema.ofFileText_eq_ok_iff, register_eq_ok_iff]

/-- Why a file is refused. -/
theorem loadFile_eq_error_iff :
    catalogue.loadFile registry (FileTree.join catalogue.directory file.1) file.2 = .error error ↔
      Refuses registry catalogue file error := by
  rw [loadFile, except_bind_eq_error_iff]
  simp only [Schema.ofFileText_eq_ok_iff, register_eq_error_iff]
  constructor
  · rintro (unread | ⟨schema, read, held, rfl⟩)
    · exact .unread unread
    · exact .taken read held
  · rintro (unread | ⟨read, held⟩)
    · exact .inl unread
    · exact .inr ⟨_, read, held, rfl⟩

/-- Files can be published if the first one can, and then the others. -/
theorem publishable_cons_iff : Publishable registry catalogue (file :: files) schemas ↔
    ∃ schema rest, schemas = schema :: rest ∧ schema.IsReadFrom registry file.2 ∧
      catalogue.get? schema.name = none ∧
      Publishable registry (catalogue.add schema) files rest := by
  constructor
  · rintro ⟨read, fresh⟩
    cases read with
    | cons first later =>
      obtain ⟨free, fresh⟩ := fresh_cons_iff.1 fresh
      exact ⟨_, _, rfl, first, free, later, fresh⟩
  · rintro ⟨schema, rest, rfl, first, free, later, fresh⟩
    exact ⟨.cons first later, fresh_cons_iff.2 ⟨free, fresh⟩⟩

theorem publishable_nil_iff : Publishable registry catalogue [] schemas ↔ schemas = [] := by
  constructor
  · rintro ⟨read, -⟩
    cases read
    rfl
  · rintro rfl
    exact ⟨.nil, fresh_nil⟩

/-- The first file is published and the loading goes on, or it is bad and the loading ends. -/
theorem loadFiles_cons_iff {result : Except SchemaError Unit} :
    loadFiles registry catalogue (file :: files) = (after, result) ↔
      (∃ loaded, catalogue.loadFile registry (FileTree.join catalogue.directory file.1) file.2 =
          .ok loaded ∧ loadFiles registry loaded files = (after, result)) ∨
        ∃ error, Refuses registry catalogue file error ∧ after = catalogue ∧
          result = .error error := by
  simp only [← loadFile_eq_error_iff]
  rw [loadFiles]
  cases catalogue.loadFile registry (FileTree.join catalogue.directory file.1) file.2 with
  | ok loaded => simp
  | error error => simp [eq_comm]

/-- Files are loaded without error exactly if they can be published. Then their schemas are
added. -/
theorem loadFiles_eq_ok_iff : loadFiles registry catalogue files = (after, .ok ()) ↔
    ∃ schemas, Publishable registry catalogue files schemas ∧ after = catalogue.addAll schemas := by
  induction files generalizing catalogue with
  | nil => simp [loadFiles, publishable_nil_iff, addAll, eq_comm]
  | cons file rest ih =>
    rw [loadFiles_cons_iff]
    constructor
    · rintro (⟨loaded, step, later⟩ | ⟨error, -, -, failed⟩)
      · obtain ⟨schema, read, free, rfl⟩ := loadFile_eq_ok_iff.1 step
        obtain ⟨schemas, publishable, rfl⟩ := ih.1 later
        have all := publishable_cons_iff.2 ⟨schema, schemas, rfl, read, free, publishable⟩
        exact ⟨schema :: schemas, all, rfl⟩
      · cases failed
    · rintro ⟨schemas, all, rfl⟩
      obtain ⟨schema, others, rfl, read, free, publishable⟩ := publishable_cons_iff.1 all
      have step := loadFile_eq_ok_iff.2 ⟨schema, read, free, rfl⟩
      exact .inl ⟨catalogue.add schema, step, ih.2 ⟨others, publishable, rfl⟩⟩

/-- Loading files ends with an error exactly if it is that of a file before which all files can be
published. Then the schemas of these are added. -/
theorem loadFiles_eq_error_iff : loadFiles registry catalogue files = (after, .error error) ↔
    ∃ before bad later schemas, files = before ++ bad :: later ∧
      Publishable registry catalogue before schemas ∧ after = catalogue.addAll schemas ∧
      Refuses registry after bad error := by
  induction files generalizing catalogue with
  | nil => simp [loadFiles]
  | cons file rest ih =>
    rw [loadFiles_cons_iff]
    constructor
    · rintro (⟨loaded, step, failed⟩ | ⟨error, refused, rfl, failed⟩)
      · obtain ⟨schema, read, free, rfl⟩ := loadFile_eq_ok_iff.1 step
        obtain ⟨before, bad, later, schemas, rfl, publishable, rfl, refused⟩ := ih.1 failed
        have all := publishable_cons_iff.2 ⟨schema, schemas, rfl, read, free, publishable⟩
        exact ⟨file :: before, bad, later, schema :: schemas, rfl, all, rfl, refused⟩
      · cases failed
        exact ⟨[], file, rest, [], rfl, publishable_nil_iff.2 rfl, rfl, refused⟩
    · rintro ⟨before, bad, later, schemas, split, publishable, rfl, refused⟩
      cases before with
      | nil =>
        cases split
        cases publishable_nil_iff.1 publishable
        exact .inr ⟨error, refused, rfl, rfl⟩
      | cons first before =>
        cases split
        obtain ⟨schema, others, rfl, read, free, inner⟩ := publishable_cons_iff.1 publishable
        have step := loadFile_eq_ok_iff.2 ⟨schema, read, free, rfl⟩
        have failed := ih.2 ⟨before, bad, later, others, rfl, inner, rfl, refused⟩
        exact .inl ⟨catalogue.add schema, step, failed⟩

/-- Files are loaded up to some file at least, and the schemas of those before it are added. -/
theorem exists_publishable_of_loadFiles (registry : Registry) (catalogue : Catalogue)
    (files : List (String × Option String)) :
    ∃ before later schemas, files = before ++ later ∧
      Publishable registry catalogue before schemas ∧
      (loadFiles registry catalogue files).1 = catalogue.addAll schemas := by
  rcases ended : loadFiles registry catalogue files with ⟨after, ⟨⟩ | error⟩
  · obtain ⟨before, bad, later, schemas, split, publishable, same, -⟩ :=
      loadFiles_eq_error_iff.1 ended
    exact ⟨before, bad :: later, schemas, split, publishable, same⟩
  · obtain ⟨schemas, publishable, same⟩ := loadFiles_eq_ok_iff.1 ended
    exact ⟨files, [], schemas, (List.append_nil files).symm, publishable, same⟩

end Catalogue

end DocumentSchema

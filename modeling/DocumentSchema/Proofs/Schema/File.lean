import DocumentSchema.Proofs.Descriptor.RecordText
import DocumentSchema.Schema.File

/-!
Schemas that are read back from their files.

`Schema.Built` lists the ways to build a schema; the attributes of one ascend by their names, have
names that pass, and descriptors that are checked (`Schema.Built.sound`). The file of a built schema
is read as its image, in which each value is what is read from its JSON form
(`Schema.ofFileText_toFileText`), if the records of the attributes are `Descriptor.Savable`.
-/

namespace DocumentSchema

/-! ## Attributes of built schemas -/

/-- Attributes ascend by their names, the names pass, and the descriptors are checked. -/
structure SoundAttributes (attributes : Entries Descriptor) : Prop where
  ascending : Entries.Ascending attributes
  named : ∀ field ∈ attributes, checkName .schema field.1 = .ok ()
  checked : ∀ field ∈ attributes, field.2.Checked

theorem SoundAttributes.insert {attributes : Entries Descriptor} {name : String} {d : Descriptor}
    (sound : SoundAttributes attributes) (named : checkName .schema name = .ok ())
    (checked : d.Checked) : SoundAttributes (Entries.insert name d attributes) where
  ascending := Entries.ascending_insert name d sound.ascending
  named := by
    intro field member
    rcases Entries.mem_insert member with rfl | kept
    · exact named
    · exact sound.named field kept
  checked := by
    intro field member
    rcases Entries.mem_insert member with rfl | kept
    · exact checked
    · exact sound.checked field kept

namespace SchemaBuilder

/-- A builder that was begun, and given built descriptors and defaults. -/
inductive Built : SchemaBuilder → Prop
  | new (name : String) : Built (.new name)
  | declare {builder : SchemaBuilder} {d : Descriptor} (name : String) :
    Built builder → d.Built → Built (builder.declare name d)
  | setDefault {builder changed : SchemaBuilder} {path : String} {default : Option Default} :
    Built builder → builder.setDefault path default = .ok changed → Built changed

variable {builder changed : SchemaBuilder}

theorem sound_declare {d : Descriptor} (sound : SoundAttributes builder.attributes)
    (checked : d.Checked) (name : String) :
    SoundAttributes (builder.declare name d).attributes := by
  unfold declare
  split
  · exact sound
  · split
    · exact sound
    · next passed => exact sound.insert passed checked

theorem sound_setDefault {path : String} {default : Option Default}
    (sound : SoundAttributes builder.attributes)
    (set : builder.setDefault path default = .ok changed) :
    SoundAttributes changed.attributes := by
  cases split : Path.dotted path with
  | nil =>
    simp only [setDefault, assignDefault, split] at set
    cases set
  | cons first rest =>
    cases found : Entries.get? builder.attributes first with
    | none =>
      rw [setDefault_of_missing split found] at set
      cases set
    | some d =>
      rw [setDefault_of_dotted split found, except_map_eq_ok_iff] at set
      obtain ⟨d', inner, rfl⟩ := set
      have member := Entries.mem_of_get? found
      rw [Entries.replace_eq_insert sound.ascending found]
      exact sound.insert (sound.named _ member)
        (Descriptor.checked_setDefaultAt (sound.checked _ member) inner)

theorem Built.sound (built : builder.Built) : SoundAttributes builder.attributes := by
  induction built with
  | new name =>
    exact ⟨List.Pairwise.nil, fun _ member => (List.not_mem_nil member).elim,
      fun _ member => (List.not_mem_nil member).elim⟩
  | declare name _ builtToo sound => exact sound_declare sound builtToo.checked name
  | setDefault _ set sound => exact sound_setDefault sound set

/-- An attribute behind all others is declared at the end. -/
theorem declare_eq {name field : String} {done : Entries Descriptor} {d : Descriptor}
    (named : checkName .schema field = .ok ()) (above : ∀ entry ∈ done, entry.1 < field) :
    declare ⟨name, done, none⟩ field d = ⟨name, done ++ [(field, d)], none⟩ := by
  have fresh : Entries.hasKey done field = false := by
    rw [← Bool.not_eq_true, Entries.hasKey_iff_mem]
    intro member
    obtain ⟨entry, held, same⟩ := List.mem_map.1 member
    have below := above entry held
    rw [same] at below
    exact String.lt_irrefl field below
  simp [declare, named, fresh, Entries.insert_eq_append above]

end SchemaBuilder

namespace Schema

variable {schema : Schema}

/-- A schema that was built. -/
def Built (schema : Schema) : Prop :=
  ∃ builder : SchemaBuilder, builder.Built ∧ builder.build = .ok schema

theorem eq_of_build {builder : SchemaBuilder} (made : builder.build = .ok schema) :
    builder.name ≠ "" ∧ schema = ⟨builder.name, builder.attributes⟩ := by
  unfold SchemaBuilder.build at made
  split at made
  · cases made
  · split at made
    · cases made
    · next filled =>
      cases made
      exact ⟨by simpa using filled, rfl⟩

theorem build_eq {name : String} {attributes : Entries Descriptor} (filled : name ≠ "") :
    SchemaBuilder.build ⟨name, attributes, none⟩ = .ok ⟨name, attributes⟩ := by
  simp [SchemaBuilder.build, filled]

theorem Built.sound (built : schema.Built) :
    schema.name ≠ "" ∧ SoundAttributes schema.attributes := by
  obtain ⟨builder, builderBuilt, made⟩ := built
  obtain ⟨filled, rfl⟩ := eq_of_build made
  exact ⟨filled, builderBuilt.sound⟩

/-- A schema with what is read from the JSON forms of its values. -/
def jsonImage (schema : Schema) : Schema :=
  { schema with attributes := Entries.mapValues Descriptor.jsonImage schema.attributes }

theorem sound_jsonImage (sound : SoundAttributes schema.attributes) :
    SoundAttributes schema.jsonImage.attributes where
  ascending := sound.ascending.of_keys_eq (Entries.keys_mapValues _ schema.attributes)
  named := by
    intro field member
    obtain ⟨former, held, rfl⟩ := List.mem_map.1 member
    exact sound.named former held
  checked := by
    intro field member
    obtain ⟨former, held, rfl⟩ := List.mem_map.1 member
    exact (sound.checked former held).jsonImage

end Schema

/-- The image of a schema refers to the same callbacks. -/
theorem Registry.verifySchema_jsonImage (registry : Registry) (schema : Schema) :
    registry.verifySchema schema.jsonImage = registry.verifySchema schema := by
  simp only [verifySchema, Schema.jsonImage, Entries.mapValues, List.forM_eq_forM, List.forM_map,
    verify_jsonImage]

/-! ## Files -/

/-- What the file of a schema keeps of a descriptor: it is storable, the keys in its values ascend,
the floats in its record are read back, and two more brackets may be opened around the record. -/
structure Descriptor.Savable (d : Descriptor) : Prop where
  storable : d.Storable
  ordered : d.ForValues Value.Ordered
  floats : ∀ r, d.toRecord = .ok r → r.FloatsReadBack
  shallow : ∀ r, d.toRecord = .ok r → r.toJson.depth ≤ Json.maxDepth - 2

namespace SchemaFile

variable {schema : Schema} {file : SchemaFile}

/-- The content of a file: the name and, under the names of the attributes, their records. -/
theorem records_of_ofSchema (written : ofSchema schema = .ok file) :
    file.name = schema.name ∧
      List.Forall₂ (fun field entry => field.1 = entry.1 ∧
        ∃ r, field.2.toRecord = .ok r ∧ entry.2 = r.toJson)
        schema.attributes file.attributes := by
  obtain ⟨entries, each, same⟩ := except_bind_eq_ok_iff.1 written
  cases same
  refine ⟨rfl, (except_mapM_eq_ok_iff.1 each).imp fun field entry here => ?_⟩
  obtain ⟨name, d⟩ := field
  obtain ⟨record, ofField, same⟩ := except_bind_eq_ok_iff.1 here
  cases same
  rw [except_mapError_eq_ok_iff, Descriptor.toJsonRecord] at ofField
  cases ofRecord : d.toRecord with
  | error e =>
    rw [ofRecord] at ofField
    cases ofField
  | ok r =>
    rw [ofRecord] at ofField
    cases ofField
    exact ⟨rfl, r, rfl, rfl⟩

theorem membersDepth_le_iff {members : List (String × Json)} {limit : Nat} :
    Json.membersDepth members ≤ limit ↔ ∀ member ∈ members, member.2.depth ≤ limit := by
  induction members with
  | nil => simp [Json.membersDepth]
  | cons member rest ih =>
    obtain ⟨name, value⟩ := member
    rw [Json.membersDepth, Nat.max_le, ih, List.forall_mem_cons]

/-- What is written of a file is read as the file. -/
theorem ofTree?_tree (ascending : Entries.Ascending file.attributes)
    (ordered : Json.MembersOrdered file.attributes)
    (shallow : Json.membersDepth file.attributes ≤ Json.maxDepth - 2) :
    ofTree? file.toJson.tree = some file := by
  have attributes : readAttributes? (.object (Json.memberTrees file.attributes)) =
      some file.attributes := by
    rw [readAttributes?, Json.members?_memberTrees _ _ shallow ordered, Option.map_some,
      Entries.ofList_of_ascending ascending]
  have name : readName? (.scalar (some (.str file.name))) = some file.name := rfl
  simp [toJson, Json.tree, Json.memberTrees, ofTree?, Fields.addMember?, attributes, name]

/-- Records that are read as the descriptors of attributes are declared as those attributes. -/
theorem foldlM_declare {name : String} {records : Entries Json}
    {done attributes : Entries Descriptor} (sound : SoundAttributes (done ++ attributes))
    (each : List.Forall₂ (fun record field => record.1 = field.1 ∧
      Descriptor.ofJsonRecord record.2 = .ok field.2) records attributes) :
    records.foldlM (fun builder record => do
      let d ← (Descriptor.ofJsonRecord record.2).mapError (SchemaError.within record.1)
      return builder.declare record.1 d) (⟨name, done, none⟩ : SchemaBuilder) =
      .ok ⟨name, done ++ attributes, none⟩ := by
  induction each generalizing done with
  | nil => simp [pure, Except.pure]
  | @cons record field records attributes here _ ih =>
    -- The name is above those that are declared already, so that its attribute comes at the end.
    obtain ⟨same, read⟩ := here
    have above : ∀ entry ∈ done, entry.1 < record.1 := by
      intro entry member
      have ascending := (List.pairwise_append.1 sound.ascending).2.2
      rw [same]
      exact ascending entry member field List.mem_cons_self
    have named : checkName .schema record.1 = .ok () := by
      rw [same]
      exact sound.named field (List.mem_append_right done List.mem_cons_self)
    have declared : done ++ [(record.1, field.2)] ++ attributes =
        done ++ field :: attributes := by
      rw [List.append_assoc, same]
      rfl
    have step : (do
        let d ← (Descriptor.ofJsonRecord record.2).mapError (SchemaError.within record.1)
        return SchemaBuilder.declare ⟨name, done, none⟩ record.1 d) =
        Except.ok (⟨name, done ++ [(record.1, field.2)], none⟩ : SchemaBuilder) := by
      rw [read]
      exact congrArg Except.ok (SchemaBuilder.declare_eq named above)
    have rest := ih (by rwa [declared])
    rw [declared] at rest
    exact except_bind_eq_ok_iff.2 ⟨_, step, rest⟩

end SchemaFile

namespace Schema

variable {schema : Schema} {registry : Registry} {path text : String}

/-- The file of a built schema is read as its image. -/
theorem ofFileText_toFileText (built : schema.Built)
    (savable : ∀ field ∈ schema.attributes, field.2.Savable)
    (verified : registry.verifySchema schema = .ok ()) (written : schema.toFileText = .ok text) :
    ofFileText registry path (some text) = .ok schema.jsonImage := by
  obtain ⟨filled, sound⟩ := built.sound
  obtain ⟨file, ofSchema, same⟩ := except_bind_eq_ok_iff.1 written
  cases same
  obtain ⟨name, records⟩ := SchemaFile.records_of_ofSchema ofSchema
  have ascending : Entries.Ascending file.attributes :=
    sound.ascending.of_keys_eq (Entries.keys_eq_of_forall₂ records fun _ _ here => here.1)
  have ordered : Json.MembersOrdered file.attributes := by
    rw [Json.membersOrdered_iff]
    intro entry member
    obtain ⟨field, held, -, r, ofField, same⟩ := exists_of_mem_right records member
    have wellFormed := Descriptor.throughout_wellFormed (sound.checked field held)
      (savable field held).storable (Descriptor.not_hasInline_of_toRecord ofField)
    rw [same]
    exact Value.ordered_toJson
      (Descriptor.ordered_toRecord ofField wellFormed (savable field held).ordered)
  have shallow : Json.membersDepth file.attributes ≤ Json.maxDepth - 2 := by
    rw [SchemaFile.membersDepth_le_iff]
    intro entry member
    obtain ⟨field, held, -, r, ofField, same⟩ := exists_of_mem_right records member
    rw [same]
    exact (savable field held).shallow r ofField
  have numbers : Json.MembersReadBack file.attributes := by
    rw [Json.membersReadBack_iff]
    intro entry member
    obtain ⟨field, held, -, r, ofField, same⟩ := exists_of_mem_right records member
    rw [same]
    exact Value.numbersReadBack_toJson ((savable field held).floats r ofField)
  have whole : file.toJson.NumbersReadBack := ⟨trivial, numbers, trivial⟩
  have read : (Json.treeOfText? (file.toJson.pretty 0)).bind SchemaFile.ofTree? = some file := by
    rw [Json.treeOfText?_pretty whole, Option.bind_some,
      SchemaFile.ofTree?_tree ascending ordered shallow]
  have images : List.Forall₂ (fun record field => record.1 = field.1 ∧
      Descriptor.ofJsonRecord record.2 = .ok field.2)
      file.attributes schema.jsonImage.attributes := by
    rw [jsonImage, Entries.mapValues, List.forall₂_map_right_iff]
    refine forall₂_swap_of_mem records fun field held entry here => ?_
    obtain ⟨same, r, ofField, record⟩ := here
    rw [record]
    exact ⟨same.symm, Descriptor.ofJsonRecord_jsonImage (sound.checked field held)
      (savable field held).storable ofField⟩
  have declared : file.builder = .ok ⟨schema.name, schema.jsonImage.attributes, none⟩ := by
    rw [← name]
    exact SchemaFile.foldlM_declare (sound_jsonImage sound) images
  have verifiedImage : registry.verifySchema schema.jsonImage = .ok () := by
    rw [registry.verifySchema_jsonImage, verified]
  rw [ofFileText, read]
  refine except_mapError_eq_ok_iff.2 ?_
  rw [SchemaFile.schema, declared]
  refine except_bind_eq_ok_iff.2 ⟨_, rfl, ?_⟩
  refine except_bind_eq_ok_iff.2 ⟨_, build_eq filled, ?_⟩
  exact except_bind_eq_ok_iff.2 ⟨(), verifiedImage, rfl⟩

/-- Nothing is lost of a schema exactly when the values of its attributes are JSON-faithful. -/
theorem jsonImage_eq_self_iff (built : schema.Built)
    (savable : ∀ field ∈ schema.attributes, field.2.Savable)
    (written : schema.toFileText = .ok text) :
    schema.jsonImage = schema ↔ ∀ field ∈ schema.attributes, field.2.JsonFaithful := by
  obtain ⟨-, sound⟩ := built.sound
  obtain ⟨file, ofSchema, -⟩ := except_bind_eq_ok_iff.1 written
  obtain ⟨-, records⟩ := SchemaFile.records_of_ofSchema ofSchema
  have attributes : schema.jsonImage = schema ↔
      Entries.mapValues Descriptor.jsonImage schema.attributes = schema.attributes :=
    ⟨congrArg Schema.attributes, fun same => congrArg (Schema.mk schema.name) same⟩
  rw [attributes, Entries.mapValues, Value.map_eq_self_iff]
  refine forall₂_congr fun field held => ?_
  obtain ⟨entry, -, -, r, ofField, -⟩ := exists_of_mem_left records held
  rw [Prod.ext_iff, ← Descriptor.jsonImage_eq_self_iff (sound.checked field held)
    (savable field held).storable ofField]
  exact and_iff_right rfl

end Schema

end DocumentSchema

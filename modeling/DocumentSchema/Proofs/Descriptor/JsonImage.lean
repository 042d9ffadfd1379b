import DocumentSchema.Proofs.Descriptor.JsonForm
import DocumentSchema.Schema.Registry

/-!
What is left of a descriptor in JSON.

The JSON form of a record loses something only where a value of the descriptor stands in it: a
member of a literal or a fixed default. `Descriptor.jsonImage` is the descriptor with each of these
values replaced by what is read from its JSON form. Its record is what is read from the JSON form of
the record (`Descriptor.toRecord_jsonImage`), so that it is what a checked and storable descriptor
is read back as (`Descriptor.ofJsonRecord_jsonImage`), and it is the descriptor itself exactly when
nothing is lost (`Descriptor.jsonImage_eq_self_iff`). Callbacks are referred to by the same names.
-/

namespace DocumentSchema

/-! ## Values -/

namespace Value

/-- What is read from the JSON form of a value. -/
def jsonImage (v : Value) : Value :=
  v.toJson.toValue

/-- A value that survives its JSON form is its own image. -/
theorem jsonImage_of_faithful {v : Value} (faithful : v.JsonFaithful) : v.jsonImage = v :=
  toValue_toJson_eq_iff.2 faithful

@[simp]
theorem jsonImage_bool (flag : Bool) : (Value.bool flag).jsonImage = .bool flag :=
  rfl

@[simp]
theorem jsonImage_str (text : String) : (Value.str text).jsonImage = .str text :=
  rfl

/-- The image of a list is the list of the images. -/
@[simp]
theorem jsonImage_list (items : List Value) :
    (Value.list items).jsonImage = .list (items.map jsonImage) := by
  rw [jsonImage, toJson, Json.toValue, toValues_toJsonItems]
  rfl

/-- The image of a map is the map of the images. -/
@[simp]
theorem jsonImage_map (entries : Document) :
    (Value.map entries).jsonImage = .map (Entries.mapValues jsonImage entries) := by
  rw [jsonImage, toJson, Json.toValue, toEntries_toJsonMembers]
  rfl

end Value

/-- Nothing is lost of faithful entries. -/
theorem mapValues_jsonImage {m : Document} (faithful : (Value.map m).JsonFaithful) :
    Entries.mapValues Value.jsonImage m = m := by
  have image := Value.jsonImage_of_faithful faithful
  rw [Value.jsonImage_map] at image
  exact Value.map.inj image

/-! ## Descriptors -/

/-- A default with what is read from the JSON form of its value. -/
def Default.jsonImage : Default → Default
  | .static value => .static value.jsonImage
  | default => default

mutual

/-- The descriptor with what is read from the JSON forms of its values. -/
def Descriptor.jsonImage : Descriptor → Descriptor
  | .mk shape default nullable => .mk shape.jsonImage (default.map Default.jsonImage) nullable
termination_by structural x => x

/-- The shape with what is read from the JSON forms of its values. -/
def Shape.jsonImage : Shape → Shape
  | .literal members => .literal (members.map Value.jsonImage)
  | .list alternatives length => .list (jsonImages alternatives) length
  | .union alternatives => .union (jsonImages alternatives)
  | .dict key val required length => .dict key.jsonImage val.jsonImage required length
  | .record fields => .record (jsonFieldImages fields)
  | shape => shape
termination_by structural x => x

/-- Descriptor by descriptor. -/
def jsonImages : List Descriptor → List Descriptor
  | [] => []
  | d :: rest => d.jsonImage :: jsonImages rest
termination_by structural x => x

/-- Field by field. -/
def jsonFieldImages : List (String × Descriptor) → List (String × Descriptor)
  | [] => []
  | (name, d) :: rest => (name, d.jsonImage) :: jsonFieldImages rest
termination_by structural x => x

end

theorem jsonImages_eq (ds : List Descriptor) : jsonImages ds = ds.map Descriptor.jsonImage := by
  induction ds with
  | nil => rfl
  | cons d rest ih => rw [jsonImages, ih, List.map_cons]

theorem jsonFieldImages_eq (fields : List (String × Descriptor)) :
    jsonFieldImages fields = Entries.mapValues Descriptor.jsonImage fields := by
  induction fields with
  | nil => rfl
  | cons field rest ih =>
    rw [jsonFieldImages, ih]
    rfl

namespace Shape

/-- Images have the same kind. -/
theorem kind_jsonImage (shape : Shape) : shape.jsonImage.kind = shape.kind := by
  cases shape <;> rfl

/-- Images have the same range of lengths. -/
theorem length?_jsonImage (shape : Shape) : shape.jsonImage.length? = shape.length? := by
  cases shape <;> rfl

theorem children_jsonImage (shape : Shape) :
    shape.jsonImage.children = shape.children.map Descriptor.jsonImage := by
  cases shape with
  | list alternatives length => exact jsonImages_eq alternatives
  | union alternatives => exact jsonImages_eq alternatives
  | record fields =>
    rw [jsonImage, jsonFieldImages_eq]
    exact Entries.values_mapValues _ fields
  | _ => rfl

end Shape

namespace Descriptor

variable {d : Descriptor} {shape : Shape} {property property' : Descriptor → Prop}

theorem children_jsonImage (d : Descriptor) :
    d.jsonImage.children = d.children.map jsonImage := by
  obtain ⟨shape, default, nullable⟩ := d
  exact shape.children_jsonImage

/-- The default of an image is the image of the default. -/
theorem default_jsonImage (d : Descriptor) :
    d.jsonImage.default = d.default.map Default.jsonImage := by
  obtain ⟨shape, default, nullable⟩ := d
  rfl

/-- The shape of an image is the image of the shape. -/
theorem shape_jsonImage (d : Descriptor) : d.jsonImage.shape = d.shape.jsonImage := by
  obtain ⟨shape, default, nullable⟩ := d
  rfl

/-- A generator has the name that it had. -/
theorem named_of_default_jsonImage {name : String}
    (named : d.jsonImage.default = some (.named name)) : d.default = some (.named name) := by
  rw [default_jsonImage] at named
  obtain ⟨default, held, same⟩ := Option.map_eq_some_iff.1 named
  cases default with
  | static value => cases same
  | named name =>
    cases same
    exact held
  | inline callback => cases same

/-- What holds throughout a descriptor holds throughout its image, if single descriptors keep
it. -/
theorem throughout_jsonImage (throughout : Throughout property d)
    (each : ∀ part, property part → property' part.jsonImage) :
    Throughout property' d.jsonImage := by
  induction d using byChildren with
  | step d ih =>
    refine throughout_iff.2 ⟨each d throughout.here, fun image member => ?_⟩
    rw [children_jsonImage] at member
    obtain ⟨child, held, rfl⟩ := List.mem_map.1 member
    exact ih child held (throughout.ofChild held)

/-! ## Records -/

/-- The records of images are the images of records. -/
theorem toRecords_jsonImages {ds : List Descriptor} {rs : List Value}
    (written : toRecords ds = .ok rs)
    (inner : ∀ d ∈ ds, ∀ r, d.toRecord = .ok r → d.jsonImage.toRecord = .ok r.jsonImage) :
    toRecords (jsonImages ds) = .ok (rs.map Value.jsonImage) := by
  have each := toRecords_eq_ok_iff.1 written
  rw [jsonImages_eq, toRecords_eq_ok_iff, List.forall₂_map_left_iff, List.forall₂_map_right_iff]
  exact ((List.forall₂_and_left _ _).2 ⟨inner, each⟩).imp fun d r here => here.1 r here.2

/-- The records of the images of fields are the images of the records. -/
theorem toFieldRecords_jsonFieldImages {fields : List (String × Descriptor)} {m : Document}
    (written : toFieldRecords fields = .ok m)
    (inner : ∀ field ∈ fields, ∀ r, field.2.toRecord = .ok r →
      field.2.jsonImage.toRecord = .ok r.jsonImage) :
    toFieldRecords (jsonFieldImages fields) = .ok (Entries.mapValues Value.jsonImage m) := by
  have each := toFieldRecords_eq_ok_iff.1 written
  rw [jsonFieldImages_eq, toFieldRecords_eq_ok_iff, Entries.mapValues, Entries.mapValues,
    List.forall₂_map_left_iff, List.forall₂_map_right_iff]
  exact ((List.forall₂_and_left _ _).2 ⟨inner, each⟩).imp fun field entry here =>
    ⟨here.2.1, here.1 entry.2 here.2.2⟩

/-- The record of the image of a default is the image of its record. -/
theorem ofDefault_jsonImage {default : Option Default} {value : Value}
    (written : Record.ofDefault default = .ok value) :
    Record.ofDefault (default.map Default.jsonImage) = .ok value.jsonImage := by
  rcases default with - | v | name | callback
  · cases written
    rfl
  · cases written
    simp [Record.ofDefault, Default.jsonImage, Entries.mapValues]
  · cases written
    simp [Record.ofDefault, Default.jsonImage, Entries.mapValues]
  · cases written

/-- The record of a range of lengths is its own image. -/
theorem jsonImage_ofLengthRange (length : Option LengthRange) :
    (Record.ofLengthRange length).jsonImage = Record.ofLengthRange length :=
  Value.jsonImage_of_faithful (Value.jsonClosed_jsonFaithful.ofLengthRange length)

/-- The arguments of the image of a shape are what is read from the JSON forms of the arguments, if
the records of its children are. -/
theorem toArgs_jsonImage {m : Document} (written : shape.toArgs = .ok m)
    (wellFormed : shape.WellFormed)
    (inner : ∀ child ∈ shape.children, ∀ r, child.toRecord = .ok r →
      child.jsonImage.toRecord = .ok r.jsonImage) :
    shape.jsonImage.toArgs = .ok (Entries.mapValues Value.jsonImage m) := by
  cases shape with
  | literal members =>
    cases written
    simp [Shape.jsonImage, Shape.toArgs, Entries.mapValues]
  | list alternatives length =>
    obtain ⟨records, each, same⟩ := except_bind_eq_ok_iff.1 written
    cases same
    rw [Shape.jsonImage, Shape.toArgs, toRecords_jsonImages each inner]
    simp [Entries.mapValues, jsonImage_ofLengthRange]
  | union alternatives =>
    obtain ⟨records, each, same⟩ := except_bind_eq_ok_iff.1 written
    cases same
    rw [Shape.jsonImage, Shape.toArgs, toRecords_jsonImages each inner]
    simp [Entries.mapValues]
  | dict key val required length =>
    obtain ⟨keyRecord, ofKey, written⟩ := except_bind_eq_ok_iff.1 written
    obtain ⟨valRecord, ofVal, same⟩ := except_bind_eq_ok_iff.1 written
    cases same
    have key := inner key (List.mem_pair.2 (.inl rfl)) keyRecord ofKey
    have val := inner val (List.mem_pair.2 (.inr rfl)) valRecord ofVal
    have texts := Value.jsonImage_of_faithful (Value.jsonClosed_jsonFaithful.texts required)
    rw [Shape.jsonImage, Shape.toArgs, key, val]
    simp [Entries.mapValues, jsonImage_ofLengthRange, texts]
    rfl
  | record fields =>
    obtain ⟨entries, each, same⟩ := except_bind_eq_ok_iff.1 written
    cases same
    have records := toFieldRecords_jsonFieldImages each fun field member =>
      inner field.2 (List.mem_map_of_mem member)
    rw [Shape.jsonImage, Shape.toArgs, records]
    simp [Entries.mapValues]
  | _ =>
    -- The shape is its own image, and nothing is lost of its arguments.
    have faithful := Value.jsonClosed_jsonFaithful.toArgs written wellFormed
      (fun _ same => by cases same) fun _ member => by cases member
    rw [mapValues_jsonImage (Value.jsonFaithful_map.2 faithful)]
    exact written

/-- The record of the image is what is read from the JSON form of the record. -/
theorem toRecord_jsonImage {r : Value} (wellFormed : Throughout WellFormed d)
    (written : d.toRecord = .ok r) : d.jsonImage.toRecord = .ok r.jsonImage := by
  induction d using byChildren generalizing r with
  | step d ih =>
    obtain ⟨shape, default, nullable⟩ := d
    obtain ⟨args, ofShape, value, ofDefault, rfl⟩ := toRecord_eq_ok_iff.1 written
    have arguments := toArgs_jsonImage ofShape wellFormed.here.1
      fun child member r here => ih child member (wellFormed.ofChild member) here
    refine toRecord_eq_ok_iff.2 ⟨_, arguments, _, ofDefault_jsonImage ofDefault, ?_⟩
    simp [recordOf, Entries.mapValues, Shape.kind_jsonImage]

/-! ## Well-formed images -/

mutual

/-- Images describe keys of dictionaries if the descriptors do. -/
theorem yieldsKey_jsonImage (d : Descriptor) : d.jsonImage.yieldsKey = d.yieldsKey := by
  match d with
  | .mk shape _ _ => exact shapeYieldsKey_jsonImage shape
termination_by structural d

theorem shapeYieldsKey_jsonImage (shape : Shape) :
    shape.jsonImage.yieldsKey = shape.yieldsKey := by
  match shape with
  | .union alternatives => exact allYieldKeys_jsonImages alternatives
  | .any | .bool | .int _ | .float _ | .str _ | .bytes | .temporal _ _ | .email _ | .webUri _
  | .mailUri _ | .telUri _ | .phone _ | .ip | .id | .geoPoint | .file | .locale | .localeCode
  | .literal _ | .list _ _ | .dict _ _ _ _ | .record _ | .descriptor | .custom _ => rfl
termination_by structural shape

theorem allYieldKeys_jsonImages (ds : List Descriptor) :
    allYieldKeys (jsonImages ds) = allYieldKeys ds := by
  match ds with
  | [] => rfl
  | d :: rest =>
    rw [jsonImages, allYieldKeys, allYieldKeys, yieldsKey_jsonImage d,
      allYieldKeys_jsonImages rest]
termination_by structural ds

end

/-- The arguments of the image of a shape are still ones that its functions accept. -/
theorem shapeChecked_jsonImage (checked : shape.Checked) : shape.jsonImage.Checked := by
  cases shape with
  | literal members => simpa [Shape.jsonImage, Shape.Checked] using checked
  | list alternatives length =>
    rw [Shape.jsonImage, jsonImages_eq]
    simpa [Shape.Checked] using checked
  | union alternatives =>
    rw [Shape.jsonImage, jsonImages_eq]
    simpa [Shape.Checked] using checked
  | dict key val required length =>
    rw [Shape.jsonImage, Shape.Checked, yieldsKey_jsonImage]
    exact checked
  | record fields =>
    obtain ⟨ascending, named⟩ := checked
    rw [Shape.jsonImage, jsonFieldImages_eq]
    refine ⟨ascending.of_keys_eq (Entries.keys_mapValues _ fields), fun field member => ?_⟩
    obtain ⟨former, held, rfl⟩ := List.mem_map.1 member
    exact named former held
  | _ => exact checked

/-- The image of a checked descriptor is checked. -/
theorem Checked.jsonImage (checked : d.Checked) : d.jsonImage.Checked :=
  throughout_jsonImage checked fun part here => by
    rw [shape_jsonImage]
    exact shapeChecked_jsonImage here

/-- The image of a storable descriptor is storable. -/
theorem Storable.jsonImage (storable : d.Storable) : d.jsonImage.Storable :=
  throughout_jsonImage storable fun part here => by
    refine ⟨fun name named => here.1 name (named_of_default_jsonImage named), ?_⟩
    rw [shape_jsonImage, Shape.length?_jsonImage]
    exact here.2

/-! ## There and back -/

/-- What is read from the JSON form of a record is the image of the descriptor. -/
theorem ofJsonRecord_jsonImage {r : Value} (checked : d.Checked) (storable : d.Storable)
    (written : d.toRecord = .ok r) : ofJsonRecord r.toJson = .ok d.jsonImage := by
  have wellFormed := throughout_wellFormed checked storable (not_hasInline_of_toRecord written)
  exact ofRecord_of_toRecord checked.jsonImage storable.jsonImage
    (toRecord_jsonImage wellFormed written)

/-- Nothing is lost exactly when the members of literals and the fixed defaults are faithful. -/
theorem jsonImage_eq_self_iff {r : Value} (checked : d.Checked) (storable : d.Storable)
    (written : d.toRecord = .ok r) : d.jsonImage = d ↔ d.JsonFaithful := by
  have image := ofJsonRecord_jsonImage checked storable written
  -- What is read from a JSON form is faithful, and so is a descriptor that is read from it.
  constructor
  · intro same
    rw [same] at image
    exact jsonFaithful_of_ofRecord image (Value.jsonFaithful_toValue_toJson r)
  · intro faithful
    have wellFormed := throughout_wellFormed checked storable (not_hasInline_of_toRecord written)
    have kept := jsonFaithful_toRecord written wellFormed faithful
    rw [ofJsonRecord, Value.toValue_toJson_eq_iff.2 kept,
      ofRecord_of_toRecord checked storable written] at image
    exact (Except.ok.inj image).symm

end Descriptor

/-! ## Registered callbacks -/

namespace Registry

variable (registry : Registry)

/-- The image of a default refers to the same callbacks. -/
theorem verifyDefault_jsonImage (default : Option Default) :
    registry.verifyDefault (default.map Default.jsonImage) = registry.verifyDefault default := by
  rcases default with - | v | name | callback <;> rfl

mutual

/-- The image of a descriptor refers to the same callbacks. -/
theorem verify_jsonImage (d : Descriptor) : registry.verify d.jsonImage = registry.verify d := by
  match d with
  | .mk shape default _ =>
    rw [Descriptor.jsonImage, verify, verify, verifyDefault_jsonImage,
      verifyShape_jsonImage shape]
termination_by structural d

/-- The image of a shape refers to the same callbacks. -/
theorem verifyShape_jsonImage (shape : Shape) :
    registry.verifyShape shape.jsonImage = registry.verifyShape shape := by
  match shape with
  | .list alternatives _ => exact verifyAll_jsonImages alternatives
  | .union alternatives => exact verifyAll_jsonImages alternatives
  | .dict key val _ _ =>
    rw [Shape.jsonImage, verifyShape, verifyShape, verify_jsonImage key, verify_jsonImage val]
  | .record fields => exact verifyFields_jsonFieldImages fields
  | .any | .bool | .int _ | .float _ | .str _ | .bytes | .temporal _ _ | .email _ | .webUri _
  | .mailUri _ | .telUri _ | .phone _ | .ip | .id | .geoPoint | .file | .locale | .localeCode
  | .literal _ | .descriptor | .custom _ => rfl
termination_by structural shape

theorem verifyAll_jsonImages (ds : List Descriptor) :
    registry.verifyAll (jsonImages ds) = registry.verifyAll ds := by
  match ds with
  | [] => rfl
  | d :: rest =>
    rw [jsonImages, verifyAll, verifyAll, verify_jsonImage d, verifyAll_jsonImages rest]
termination_by structural ds

theorem verifyFields_jsonFieldImages (fields : List (String × Descriptor)) :
    registry.verifyFields (jsonFieldImages fields) = registry.verifyFields fields := by
  match fields with
  | [] => rfl
  | (_, d) :: rest =>
    rw [jsonFieldImages, verifyFields, verifyFields, verify_jsonImage d,
      verifyFields_jsonFieldImages rest]
termination_by structural fields

end

end Registry

end DocumentSchema

import DocumentSchema.Path.Descriptor
import DocumentSchema.Proofs.Descriptor.Built

/-!
Defaults of fields inside records.

Segments lead through the fields of records to one of them (`Descriptor.fieldAt?`).
`Descriptor.withDefaults` gives every field that segments lead to a default of its own, and changes
nothing else. Setting the default at segments is the case of one field
(`Descriptor.setDefaultAt_eq_ok_iff`), and one after the other amounts to all at once
(`Descriptor.withDefaults_withDefaults`), so defaults at different places are set in any order.
-/

namespace DocumentSchema

namespace Descriptor

/-! ## Fields -/

/-- The field of records inside a descriptor that segments lead to. -/
def fieldAt? : Descriptor → List String → Option Descriptor
  | d, [] => some d
  | d, segment :: rest =>
    match d.shape with
    | .record fields => (Entries.get? fields segment).bind fun field => fieldAt? field rest
    | _ => none

/-- The field among others that segments lead to; the first of them is its name, or that of a record
around it. -/
def fieldAmong? (fields : Entries Descriptor) : List String → Option Descriptor
  | [] => none
  | segment :: rest => (Entries.get? fields segment).bind fun field => field.fieldAt? rest

mutual

/-- A descriptor in which the fields that certain segments lead to have other defaults. -/
def withDefaults (defaults : List String → Option (Option Default)) : Descriptor → Descriptor
  | .mk shape default nullable =>
    .mk (shapeWithDefaults defaults shape) ((defaults []).getD default) nullable
termination_by structural d => d

/-- A shape in which the fields that certain segments lead to have other defaults. -/
def shapeWithDefaults (defaults : List String → Option (Option Default)) : Shape → Shape
  | .record fields => .record (fieldsWithDefaults defaults fields)
  | shape => shape
termination_by structural d => d

/-- Fields of which those that certain segments lead to have other defaults. -/
def fieldsWithDefaults (defaults : List String → Option (Option Default)) :
    List (String × Descriptor) → List (String × Descriptor)
  | [] => []
  | (name, d) :: rest =>
    (name, withDefaults (fun segments => defaults (name :: segments)) d) ::
      fieldsWithDefaults defaults rest
termination_by structural d => d

end

/-- A default for the field that segments lead to, and for no other. -/
def onlyAt (segments : List String) (default : Option Default) (others : List String) :
    Option (Option Default) :=
  if others = segments then some default else none

variable {d d' part : Descriptor} {fields : Entries Descriptor} {path segment : String}
  {segments rest : List String} {default : Option Default} {nullable : Bool} {e : SchemaError}
  {defaults : List String → Option (Option Default)}

theorem fieldsWithDefaults_eq (defaults : List String → Option (Option Default))
    (fields : Entries Descriptor) :
    fieldsWithDefaults defaults fields = fields.map fun entry =>
      (entry.1, entry.2.withDefaults fun segments => defaults (entry.1 :: segments)) := by
  induction fields with
  | nil => rfl
  | cons entry rest ih => rw [fieldsWithDefaults, ih, List.map_cons]

/-- A field is found with the defaults for it and the fields in it. -/
theorem get?_fieldsWithDefaults (defaults : List String → Option (Option Default))
    (fields : Entries Descriptor) (name : String) :
    Entries.get? (fieldsWithDefaults defaults fields) name =
      (Entries.get? fields name).map
        (withDefaults fun segments => defaults (name :: segments)) := by
  rw [fieldsWithDefaults_eq]
  exact Entries.get?_map (fun name => withDefaults fun segments => defaults (name :: segments))
    fields name

/-- Defaults do not change the names of fields. -/
theorem keys_fieldsWithDefaults (defaults : List String → Option (Option Default))
    (fields : Entries Descriptor) :
    Entries.keys (fieldsWithDefaults defaults fields) = Entries.keys fields := by
  rw [fieldsWithDefaults_eq, Entries.keys, Entries.keys, List.map_map]
  rfl

/-- The default of a descriptor is the one for itself, if there is one. -/
theorem default_withDefaults :
    (d.withDefaults defaults).default = (defaults []).getD d.default := by
  cases d
  rfl

/-- Defaults do not change the order of fields. -/
theorem Ordered.withDefaults (ordered : d.Ordered)
    (defaults : List String → Option (Option Default)) : (d.withDefaults defaults).Ordered := by
  induction d using byChildren generalizing defaults with
  | step d ih =>
    obtain ⟨shape, default, nullable⟩ := d
    obtain ⟨here, inside⟩ := throughout_iff.1 ordered
    rw [Descriptor.withDefaults]
    cases shape with
    | record fields =>
      refine throughout_iff.2 ⟨?_, fun child member => ?_⟩
      · intro others isRecord
        cases isRecord
        exact (here fields rfl).of_keys_eq (keys_fieldsWithDefaults defaults fields)
      · obtain ⟨entry, held, rfl⟩ := List.mem_map.1 member
        rw [fieldsWithDefaults_eq] at held
        obtain ⟨former, present, rfl⟩ := List.mem_map.1 held
        have isChild := List.mem_map_of_mem (f := Prod.snd) present
        exact ih former.2 isChild (inside _ isChild) _
    | _ => exact throughout_iff.2 ⟨here, inside⟩

/-! ## Several defaults -/

/-- Without other defaults nothing changes. -/
theorem withDefaults_none (d : Descriptor) : d.withDefaults (fun _ => none) = d := by
  induction d using byChildren with
  | step d ih =>
    obtain ⟨shape, default, nullable⟩ := d
    rw [withDefaults, Option.getD_none]
    cases shape with
    | record fields =>
      rw [shapeWithDefaults, fieldsWithDefaults_eq]
      congr 2
      refine (List.map_congr_left fun entry member => ?_).trans (List.map_id fields)
      rw [ih entry.2 (List.mem_map_of_mem member)]
      rfl
    | _ => rfl

/-- Defaults that are set later replace earlier ones. -/
theorem withDefaults_withDefaults (earlier later : List String → Option (Option Default))
    (d : Descriptor) :
    (d.withDefaults earlier).withDefaults later =
      d.withDefaults fun segments => (later segments).or (earlier segments) := by
  induction d using byChildren generalizing earlier later with
  | step d ih =>
    obtain ⟨shape, default, nullable⟩ := d
    have own : (later []).getD ((earlier []).getD default) =
        ((later []).or (earlier [])).getD default := by
      cases later [] <;> rfl
    rw [withDefaults, withDefaults, withDefaults, own]
    cases shape with
    | record fields =>
      simp only [shapeWithDefaults, fieldsWithDefaults_eq, List.map_map]
      congr 2
      refine List.map_congr_left fun entry member => ?_
      exact congrArg (Prod.mk entry.1) (ih entry.2 (List.mem_map_of_mem member) _ _)
    | _ => rfl

/-- Defaults of fields that are set later replace earlier ones. -/
theorem fieldsWithDefaults_fieldsWithDefaults
    (earlier later : List String → Option (Option Default)) (fields : Entries Descriptor) :
    fieldsWithDefaults later (fieldsWithDefaults earlier fields) =
      fieldsWithDefaults (fun segments => (later segments).or (earlier segments)) fields := by
  simp only [fieldsWithDefaults_eq, List.map_map]
  refine List.map_congr_left fun entry _ => ?_
  exact congrArg (Prod.mk entry.1) (withDefaults_withDefaults _ _ entry.2)

/-- Segments lead to the same field as before, with the defaults for it and the fields in it. -/
theorem fieldAt?_withDefaults (defaults : List String → Option (Option Default)) (d : Descriptor)
    (segments : List String) :
    (d.withDefaults defaults).fieldAt? segments =
      (d.fieldAt? segments).map (withDefaults fun inner => defaults (segments ++ inner)) := by
  induction segments generalizing d defaults with
  | nil => rfl
  | cons segment rest ih =>
    obtain ⟨shape, default, nullable⟩ := d
    rw [withDefaults]
    cases shape with
    | record fields =>
      simp only [fieldAt?, Descriptor.shape, shapeWithDefaults, get?_fieldsWithDefaults]
      cases Entries.get? fields segment with
      | none => rfl
      | some field => exact ih (fun inner => defaults (segment :: inner)) field
    | _ => rfl

/-- Segments lead to the same field as before among others, with the defaults for it and the fields
in it. -/
theorem fieldAmong?_fieldsWithDefaults (defaults : List String → Option (Option Default))
    (fields : Entries Descriptor) (segments : List String) :
    fieldAmong? (fieldsWithDefaults defaults fields) segments =
      (fieldAmong? fields segments).map
        (withDefaults fun inner => defaults (segments ++ inner)) := by
  cases segments with
  | nil => rfl
  | cons segment rest =>
    rw [fieldAmong?, fieldAmong?, get?_fieldsWithDefaults]
    cases Entries.get? fields segment with
    | none => rfl
    | some field =>
      exact fieldAt?_withDefaults (fun inner => defaults (segment :: inner)) field rest

/-! ## One default -/

/-- Inside a field, its name is left behind. -/
theorem onlyAt_cons (segment : String) (segments : List String) (default : Option Default) :
    (fun inner => onlyAt (segment :: segments) default (segment :: inner)) =
      onlyAt segments default := by
  funext inner
  simp [onlyAt]

/-- Nothing is set inside other fields. -/
theorem onlyAt_cons_of_ne {name : String} (different : name ≠ segment) (segments : List String)
    (default : Option Default) :
    (fun inner => onlyAt (segment :: segments) default (name :: inner)) = fun _ => none := by
  funext inner
  simp [onlyAt, different]

/-- Replacing one field among others by itself with another default is giving that default. -/
theorem replace_eq_fieldsWithDefaults (ascending : Entries.Ascending fields)
    (found : Entries.get? fields segment = some part) (rest : List String)
    (default : Option Default) :
    Entries.replace segment (part.withDefaults (onlyAt rest default)) fields =
      fieldsWithDefaults (onlyAt (segment :: rest) default) fields := by
  rw [Entries.replace_eq_insert ascending found]
  refine Entries.eq_of_get?_eq (Entries.ascending_insert segment _ ascending)
    (ascending.of_keys_eq (keys_fieldsWithDefaults _ fields)) fun name => ?_
  rw [Entries.get?_insert, get?_fieldsWithDefaults]
  split
  · next same => rw [same, found, Option.map_some, onlyAt_cons]
  · next different =>
    rw [onlyAt_cons_of_ne different]
    cases Entries.get? fields name with
    | none => rfl
    | some field => rw [Option.map_some, withDefaults_none]

/-- The fields of a record in order are in order. -/
theorem Ordered.ofField (ordered : (mk (.record fields) default nullable).Ordered)
    (found : Entries.get? fields segment = some part) : part.Ordered :=
  ordered.ofChild (List.mem_map_of_mem (Entries.mem_of_get? found))

/-- Giving a default to the descriptor itself leaves its fields as they are. -/
theorem withDefaults_onlyAt_nil (default : Option Default) (d : Descriptor) :
    d.withDefaults (onlyAt [] default) = d.setDefault default := by
  obtain ⟨shape, own, nullable⟩ := d
  have below (name : String) :
      (fun inner => onlyAt [] default (name :: inner)) = fun _ => none := by
    funext inner
    simp [onlyAt]
  have same : shapeWithDefaults (onlyAt [] default) shape = shape := by
    cases shape with
    | record fields =>
      simp only [shapeWithDefaults, fieldsWithDefaults_eq, below, withDefaults_none, List.map_id']
    | _ => rfl
  rw [withDefaults, same]
  rfl

/-- The default at segments is set exactly if they lead to a field, and nothing else changes. -/
theorem setDefaultAt_eq_ok_iff (ordered : d.Ordered) :
    d.setDefaultAt path default segments = .ok d' ↔
      (∃ part, d.fieldAt? segments = some part) ∧
        d' = d.withDefaults (onlyAt segments default) := by
  induction segments generalizing d d' with
  | nil =>
    simp [setDefaultAt, assignDefault, Except.map, fieldAt?, withDefaults_onlyAt_nil, eq_comm]
  | cons segment rest ih =>
    obtain ⟨shape, own, nullable⟩ := d
    cases shape with
    | record fields =>
      cases found : Entries.get? fields segment with
      | none => simp [setDefaultAt, assignDefault, Except.map, fieldAt?, Descriptor.shape, found]
      | some field =>
        have whole : (mk (.record fields) own nullable).withDefaults
            (onlyAt (segment :: rest) default) = mk (.record (Entries.replace segment
              (field.withDefaults (onlyAt rest default)) fields)) own nullable := by
          rw [replace_eq_fieldsWithDefaults (ordered.here fields rfl) found]
          rfl
        rw [setDefaultAt_record found, except_map_eq_ok_iff]
        simp only [fieldAt?, Descriptor.shape, found, ih (ordered.ofField found), whole,
          Option.bind_some, and_assoc, exists_and_left, exists_eq_left]
    | _ => simp [setDefaultAt, assignDefault, Except.map, fieldAt?, Descriptor.shape]

/-- Other defaults do not change which segments fail, and how. -/
theorem setDefaultAt_withDefaults_eq_error_iff :
    (d.withDefaults defaults).setDefaultAt path default segments = .error e ↔
      d.setDefaultAt path default segments = .error e := by
  induction segments generalizing d defaults with
  | nil => simp [setDefaultAt, assignDefault, Except.map]
  | cons segment rest ih =>
    obtain ⟨shape, own, nullable⟩ := d
    rw [withDefaults]
    cases shape with
    | record fields =>
      rw [shapeWithDefaults]
      have same := get?_fieldsWithDefaults defaults fields segment
      cases found : Entries.get? fields segment with
      | none =>
        rw [found, Option.map_none] at same
        simp only [setDefaultAt, assignDefault, Descriptor.shape, found, same]
        rfl
      | some field =>
        rw [found, Option.map_some] at same
        rw [setDefaultAt_record same, setDefaultAt_record found, except_map_eq_error_iff,
          except_map_eq_error_iff, ih]
    | _ => rfl

/-! ## Resolution -/

/-- Resolution comes to the field that segments lead to, whatever the locales. -/
theorem resolve_of_fieldAt? (config : Config) (path : String)
    (leads : d.fieldAt? segments = some part) : d.resolve config path segments = .ok part := by
  induction segments generalizing d with
  | nil =>
    cases leads
    rfl
  | cons segment rest ih =>
    obtain ⟨shape, own, nullable⟩ := d
    cases shape with
    | record fields =>
      obtain ⟨field, found, below⟩ := Option.bind_eq_some_iff.1 leads
      simp only [resolve, Descriptor.shape, found]
      exact ih below
    | _ => cases leads

end Descriptor

end DocumentSchema

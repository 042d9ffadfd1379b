import DocumentSchema.Descriptor.Basic
import DocumentSchema.Proofs.Value.Dictionary

/-!
The parts of descriptors.

A descriptor occurs in another one when it is that one or occurs in one of its children.
`Descriptor.byChildren` is induction along children, and `Descriptor.Throughout` turns a property of
single descriptors into one of all descriptors at every depth. The properties that statements about
validation ask for are made from it.
-/

namespace DocumentSchema.Descriptor

/-! ## Induction -/

theorem sizeOf_lt_of_mem_children {child d : Descriptor} (member : child ∈ d.children) :
    sizeOf child < sizeOf d := by
  obtain ⟨shape, default, nullable⟩ := d
  suffices sizeOf child < sizeOf shape by
    simp only [mk.sizeOf_spec]
    omega
  cases shape with
  | list alternatives length =>
    have smaller := List.sizeOf_lt_of_mem (show child ∈ alternatives from member)
    simp only [Shape.list.sizeOf_spec]
    omega
  | union alternatives =>
    have smaller := List.sizeOf_lt_of_mem (show child ∈ alternatives from member)
    simp only [Shape.union.sizeOf_spec]
    omega
  | dict key val required length =>
    have either : child = key ∨ child = val := by simpa using (show child ∈ [key, val] from member)
    simp only [Shape.dict.sizeOf_spec]
    rcases either with rfl | rfl <;> omega
  | record fields =>
    obtain ⟨⟨name, field⟩, held, rfl⟩ :=
      List.mem_map.1 (show child ∈ fields.map (·.2) from member)
    have smaller := List.sizeOf_lt_of_mem held
    simp only [Prod.mk.sizeOf_spec] at smaller
    simp only [Shape.record.sizeOf_spec]
    omega
  | _ => cases member

/-- What holds of a descriptor whenever it holds of its children holds of every descriptor. -/
theorem byChildren {motive : Descriptor → Prop}
    (step : ∀ d, (∀ child ∈ d.children, motive child) → motive d) (d : Descriptor) : motive d :=
  step d fun child _ => byChildren step child
termination_by sizeOf d
decreasing_by exact sizeOf_lt_of_mem_children ‹_›

/-! ## Occurrences -/

/-- A descriptor at some depth of another one, which occurs in itself. -/
inductive Occurs (part : Descriptor) : Descriptor → Prop
  | here : Occurs part part
  | inside {child d : Descriptor} : child ∈ d.children → Occurs part child → Occurs part d

/-- A property of all descriptors that occur in one. -/
def Throughout (property : Descriptor → Prop) (d : Descriptor) : Prop :=
  ∀ part, Occurs part d → property part

variable {property : Descriptor → Prop} {d child : Descriptor}

theorem Throughout.here (throughout : Throughout property d) : property d :=
  throughout d .here

theorem Throughout.ofChild (throughout : Throughout property d) (member : child ∈ d.children) :
    Throughout property child :=
  fun part occurs => throughout part (.inside member occurs)

theorem Occurs.trans {part inner : Descriptor} (first : Occurs inner part)
    (second : Occurs part d) : Occurs inner d := by
  induction second with
  | here => exact first
  | inside member _ ih => exact .inside member ih

theorem Throughout.part {part : Descriptor} (throughout : Throughout property d)
    (occurs : Occurs part d) : Throughout property part :=
  fun inner deeper => throughout inner (deeper.trans occurs)

theorem throughout_iff :
    Throughout property d ↔ property d ∧ ∀ child ∈ d.children, Throughout property child := by
  constructor
  · exact fun throughout => ⟨throughout.here, fun _ member => throughout.ofChild member⟩
  · intro h part occurs
    obtain ⟨self, others⟩ := h
    cases occurs with
    | here => exact self
    | inside member deeper => exact others _ member part deeper

theorem throughout_of_leaf (leaf : d.children = []) (here : property d) : Throughout property d :=
  throughout_iff.2 ⟨here, fun child member => by rw [leaf] at member; cases member⟩

/-! ## Properties at every depth -/

/-- No custom validator occurs. -/
def CustomFree : Descriptor → Prop :=
  Throughout fun part => part.kind ≠ .custom

/-- No default occurs. -/
def DefaultFree : Descriptor → Prop :=
  Throughout fun part => part.default = none

/-- Every default that occurs is a fixed value other than null. -/
def StaticDefaults : Descriptor → Prop :=
  Throughout fun part => ∀ default, part.default = some default →
    ∃ value, default = .static value ∧ value ≠ .null

theorem DefaultFree.staticDefaults (defaultFree : d.DefaultFree) : d.StaticDefaults := by
  intro part occurs default held
  rw [defaultFree part occurs] at held
  cases held

/-- Every default that occurs is a fixed value, and none is made by a generator. -/
def GeneratorFree : Descriptor → Prop :=
  Throughout fun part => ∀ default, part.default = some default → ∃ value, default = .static value

theorem DefaultFree.generatorFree (defaultFree : d.DefaultFree) : d.GeneratorFree := by
  intro part occurs default held
  rw [defaultFree part occurs] at held
  cases held

/-- No default occurs in the keys of a dictionary. -/
def KeysDefaultFree : Descriptor → Prop :=
  Throughout fun part => ∀ key val required length,
    part.shape = .dict key val required length → key.DefaultFree

/-- The fields of every record that occurs ascend by their names. -/
def Ordered : Descriptor → Prop :=
  Throughout fun part => ∀ fields, part.shape = .record fields → Entries.Ascending fields

/-! ## The form of files -/

theorem of_mem_fileVariant {field : String} {shape : Shape}
    (member : child ∈ (fileVariant field shape).children) :
    ∃ part ∈ [.str none, .int [], shape], child = .ofShape part := by
  obtain ⟨⟨name, d⟩, held, rfl⟩ := List.mem_map.1 member
  have pair := Entries.mem_of_mem_ofList held
  simp only [List.mem_cons, List.not_mem_nil, or_false, Prod.mk.injEq] at pair
  rcases pair with ⟨-, rfl⟩ | ⟨-, rfl⟩ | ⟨-, rfl⟩ | ⟨-, rfl⟩ | ⟨-, rfl⟩ <;>
    exact ⟨_, by simp, rfl⟩

theorem throughout_fileVariant {field : String} {shape : Shape} (leaf : shape.children = [])
    (whole : property (fileVariant field shape))
    (parts : ∀ part ∈ [.str none, .int [], shape], property (.ofShape part)) :
    Throughout property (fileVariant field shape) := by
  refine throughout_iff.2 ⟨whole, fun child member => ?_⟩
  obtain ⟨part, held, rfl⟩ := of_mem_fileVariant member
  refine throughout_of_leaf ?_ (parts part held)
  simp only [List.mem_cons, List.not_mem_nil, or_false] at held
  rcases held with rfl | rfl | rfl
  · rfl
  · rfl
  · exact leaf

theorem throughout_fileForm (whole : property fileForm)
    (reference : Throughout property (fileVariant "ref" .id))
    (content : Throughout property (fileVariant "content" .bytes)) :
    Throughout property fileForm := by
  refine throughout_iff.2 ⟨whole, fun child member => ?_⟩
  rcases List.mem_pair.1 (show child ∈ [_, _] from member) with rfl | rfl
  · exact reference
  · exact content

theorem customFree_fileVariant {field : String} {shape : Shape} (leaf : shape.children = [])
    (noCustom : shape.kind ≠ .custom) : (fileVariant field shape).CustomFree := by
  refine throughout_fileVariant leaf (fun same => by cases same) fun part member => ?_
  simp only [List.mem_cons, List.not_mem_nil, or_false] at member
  rcases member with rfl | rfl | rfl
  · exact fun same => by cases same
  · exact fun same => by cases same
  · exact noCustom

theorem defaultFree_fileVariant {field : String} {shape : Shape} (leaf : shape.children = []) :
    (fileVariant field shape).DefaultFree :=
  throughout_fileVariant leaf rfl fun _ _ => rfl

theorem customFree_fileForm : fileForm.CustomFree :=
  throughout_fileForm (fun same => by cases same)
    (customFree_fileVariant rfl fun same => by cases same)
    (customFree_fileVariant rfl fun same => by cases same)

theorem defaultFree_fileForm : fileForm.DefaultFree :=
  throughout_fileForm rfl (defaultFree_fileVariant rfl) (defaultFree_fileVariant rfl)

end DocumentSchema.Descriptor

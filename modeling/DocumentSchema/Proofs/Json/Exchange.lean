import DocumentSchema.Proofs.Numeric.Rounding
import DocumentSchema.Proofs.Value.Dictionary
import DocumentSchema.Proofs.Value.JsonForm

/-!
JSON values that go through document values.

A document value has integers of 64 signed bits alone, while JSON text also writes those up to
`2 ^ 64`. `Json.toJson_toValue` says what comes back of a JSON value: the same value with such
integers rounded to floats. It is exactly the same one if and only if all of them are multiples of
2048 (`Json.same_rounded_iff`).
-/

namespace DocumentSchema.Json

/-! ## Parts -/

/-- The JSON values that a JSON value is made of. -/
def parts : Json → List Json
  | .array items => items
  | .object members => Entries.values members
  | _ => []

theorem sizeOf_lt_of_mem_parts {part j : Json} (member : part ∈ j.parts) :
    sizeOf part < sizeOf j := by
  cases j with
  | array items =>
    have smaller := List.sizeOf_lt_of_mem (show part ∈ items from member)
    simp only [array.sizeOf_spec]
    omega
  | object members =>
    obtain ⟨⟨name, value⟩, held, rfl⟩ := List.mem_map.1 (show part ∈ members.map (·.2) from member)
    have smaller := List.sizeOf_lt_of_mem held
    simp only [Prod.mk.sizeOf_spec] at smaller
    simp only [object.sizeOf_spec]
    omega
  | _ => cases member

/-- What holds of a JSON value whenever it holds of its parts holds of every JSON value. -/
theorem byParts {motive : Json → Prop}
    (step : ∀ j, (∀ part ∈ j.parts, motive part) → motive j) (j : Json) : motive j :=
  step j fun part _ => byParts step part
termination_by sizeOf j
decreasing_by exact sizeOf_lt_of_mem_parts ‹_›

/-- A JSON value at some depth of another one, which occurs in itself. -/
inductive Occurs (part : Json) : Json → Prop
  | here : Occurs part part
  | inside {inner j : Json} : inner ∈ j.parts → Occurs part inner → Occurs part j

variable {j part : Json}

theorem forall_occurs_iff {property : Json → Prop} :
    (∀ part, Occurs part j → property part) ↔
      property j ∧ ∀ inner ∈ j.parts, ∀ part, Occurs part inner → property part := by
  constructor
  · exact fun all => ⟨all j .here, fun inner member part occurs => all part (.inside member occurs)⟩
  · rintro ⟨self, others⟩ part occurs
    cases occurs with
    | here => exact self
    | inside member deeper => exact others _ member part deeper

/-! ## What JSON text writes -/

/-- JSON text writes values of this kind: integers that 64 bits hold, with or without a sign, finite
floats, and objects with each name once, kept in ascending order. -/
def InText : Json → Prop
  | .int n => -(2 ^ 63) ≤ n ∧ n < 2 ^ 64
  | .float x => x.isFinite = true
  | .object members => Entries.Ascending members
  | _ => True

/-- At every depth the value is one that JSON text writes. -/
def WellFormed (j : Json) : Prop :=
  ∀ part, Occurs part j → part.InText

theorem wellFormed_iff : j.WellFormed ↔ j.InText ∧ ∀ part ∈ j.parts, part.WellFormed :=
  forall_occurs_iff

/-! ## Exact equality -/

/-- The number that a JSON value is. -/
def number? : Json → Option ℚ
  | .int n => some n
  | .float x => if x.isFinite then some x.toRat else none
  | _ => none

mutual

/-- The same value at every depth, numbers compared as exact numbers. -/
def Same : Json → Json → Prop
  | .null, .null => True
  | .bool a, .bool b => a = b
  | .str a, .str b => a = b
  | .array as, .array bs => SameItems as bs
  | .object as, .object bs => SameMembers as bs
  | a, b => ∃ q, a.number? = some q ∧ b.number? = some q
termination_by structural x => x

/-- The same items in the same order. -/
def SameItems : List Json → List Json → Prop
  | [], [] => True
  | a :: as, b :: bs => Same a b ∧ SameItems as bs
  | _, _ => False
termination_by structural x => x

/-- The same members under the same names. -/
def SameMembers : List (String × Json) → List (String × Json) → Prop
  | [], [] => True
  | (k, a) :: as, (l, b) :: bs => k = l ∧ Same a b ∧ SameMembers as bs
  | _, _ => False
termination_by structural x => x

end

theorem sameItems_map_iff {f : Json → Json} {items : List Json} :
    SameItems (items.map f) items ↔ ∀ item ∈ items, Same (f item) item := by
  induction items with
  | nil => simp [SameItems]
  | cons item rest ih => simp [SameItems, ih]

theorem sameMembers_mapValues_iff {f : Json → Json} {members : List (String × Json)} :
    SameMembers (Entries.mapValues f members) members ↔
      ∀ member ∈ members, Same (f member.2) member.2 := by
  induction members with
  | nil => simp [Entries.mapValues, SameMembers]
  | cons member rest ih => simpa [Entries.mapValues, SameMembers] using fun _ => ih

/-! ## There and back -/

mutual

/-- The value with all integers that do not fit 64 signed bits rounded to floats. -/
def rounded : Json → Json
  | .int n => if fitsInt64 n then .int n else .float (.ofInt n)
  | .array items => .array (roundedItems items)
  | .object members => .object (roundedMembers members)
  | .null => .null
  | .bool flag => .bool flag
  | .float x => .float x
  | .str text => .str text
termination_by structural x => x

/-- Item by item. -/
def roundedItems : List Json → List Json
  | [] => []
  | item :: rest => rounded item :: roundedItems rest
termination_by structural x => x

/-- Member by member. -/
def roundedMembers : List (String × Json) → List (String × Json)
  | [] => []
  | (name, member) :: rest => (name, rounded member) :: roundedMembers rest
termination_by structural x => x

end

theorem roundedItems_eq (items : List Json) : roundedItems items = items.map rounded := by
  induction items with
  | nil => rfl
  | cons item rest ih => rw [roundedItems, ih, List.map_cons]

theorem roundedMembers_eq (members : List (String × Json)) :
    roundedMembers members = Entries.mapValues rounded members := by
  induction members with
  | nil => rfl
  | cons member rest ih =>
    rw [roundedMembers, ih]
    rfl

/-- An integer that 64 signed bits do not hold is one of 64 unsigned bits. -/
theorem large_of_not_fitsInt64 {n : Int} (inText : (Json.int n).InText)
    (large : ¬fitsInt64 n = true) : 2 ^ 63 ≤ n ∧ n < 2 ^ 64 := by
  obtain ⟨least, greatest⟩ := inText
  rw [fitsInt64_iff] at large
  omega

theorem isFinite_of_large {n : Int} (large : 2 ^ 63 ≤ n ∧ n < 2 ^ 64) :
    (Binary64.ofInt n).isFinite = true :=
  Binary64.isFinite_ofInt_of_lt (by omega)

/-- What comes back of a JSON value that goes through a document value. -/
theorem toJson_toValue (wellFormed : j.WellFormed) : j.toValue.toJson = j.rounded := by
  induction j using byParts with
  | step j ih =>
    obtain ⟨here, inside⟩ := wellFormed_iff.1 wellFormed
    cases j with
    | int n =>
      rw [toValue, rounded]
      by_cases fits : fitsInt64 n = true
      · have within := fitsInt64_iff.1 fits
        rw [if_pos fits, if_pos fits, Value.toJson,
          Int64.toInt_ofInt_of_le (by omega) (by omega)]
      · rw [if_neg fits, if_neg fits, Value.toJson,
          if_pos (isFinite_of_large (large_of_not_fitsInt64 here fits))]
    | float x =>
      have finite : x.isFinite = true := here
      rw [toValue, rounded, Value.toJson, if_pos finite]
    | array items =>
      rw [toValue, rounded, Value.toJson, roundedItems_eq, toValues_eq, Value.toJsonItems_eq,
        List.map_map]
      exact congrArg array (List.map_congr_left fun item member => ih item member
        (inside item member))
    | object members =>
      rw [toValue, rounded, Value.toJson, roundedMembers_eq, toEntries_eq, Value.toJsonMembers_eq,
        Entries.mapValues, Entries.mapValues, List.map_map]
      refine congrArg object (List.map_congr_left fun entry member => ?_)
      have held : entry.2 ∈ (object members).parts := List.mem_map_of_mem member
      exact Prod.ext rfl (ih entry.2 held (inside entry.2 held))
    | _ => rfl

/-- The value is no integer that is rounded to another number. -/
def KeepsNumber : Json → Prop
  | .int n => 2 ^ 63 ≤ n → 2048 ∣ n
  | _ => True

theorem same_rounded_int_iff {n : Int} (inText : (Json.int n).InText) :
    (Json.int n).rounded.Same (.int n) ↔ (Json.int n).KeepsNumber := by
  rw [rounded, KeepsNumber]
  by_cases fits : fitsInt64 n = true
  · have within := fitsInt64_iff.1 fits
    rw [if_pos fits]
    exact iff_of_true ⟨n, rfl, rfl⟩ fun large => absurd large (by omega)
  · have large := large_of_not_fitsInt64 inText fits
    rw [if_neg fits, ← Binary64.toRat_ofInt_eq_iff large.1 large.2]
    have number : (Json.float (.ofInt n)).number? = some (Binary64.ofInt n).toRat :=
      if_pos (isFinite_of_large large)
    constructor
    · rintro ⟨q, rounded, exact⟩ -
      rw [number] at rounded
      exact (Option.some.inj rounded).trans (Option.some.inj exact).symm
    · exact fun same => ⟨n, number.trans (congrArg some (same large.1)), rfl⟩

theorem same_rounded_iff_keepsNumber (wellFormed : j.WellFormed) :
    j.rounded.Same j ↔ ∀ part, Occurs part j → part.KeepsNumber := by
  induction j using byParts with
  | step j ih =>
    obtain ⟨here, inside⟩ := wellFormed_iff.1 wellFormed
    rw [forall_occurs_iff]
    cases j with
    | int n =>
      rw [same_rounded_int_iff here]
      exact (and_iff_left fun _ member => by cases member).symm
    | float x =>
      refine iff_of_true ⟨x.toRat, if_pos here, if_pos here⟩ ⟨trivial, fun _ member => ?_⟩
      cases member
    | array items =>
      rw [rounded, roundedItems_eq, Same, sameItems_map_iff]
      exact (forall₂_congr fun item member => ih item member (inside item member)).trans
        (and_iff_right trivial).symm
    | object members =>
      rw [rounded, roundedMembers_eq, Same, sameMembers_mapValues_iff]
      have parts : (∀ inner ∈ (object members).parts, ∀ part, Occurs part inner →
          part.KeepsNumber) ↔ ∀ member ∈ members, ∀ part, Occurs part member.2 →
          part.KeepsNumber := List.forall_mem_map
      rw [parts]
      refine (forall₂_congr fun entry member => ?_).trans (and_iff_right trivial).symm
      have held : entry.2 ∈ (object members).parts := List.mem_map_of_mem member
      exact ih entry.2 held (inside entry.2 held)
    | null => exact iff_of_true trivial ⟨trivial, fun _ member => by cases member⟩
    | bool flag => exact iff_of_true rfl ⟨trivial, fun _ member => by cases member⟩
    | str text => exact iff_of_true rfl ⟨trivial, fun _ member => by cases member⟩

/-- Exactly the same value comes back if and only if all integers in it that do not fit 64 signed
bits are multiples of 2048. -/
theorem same_rounded_iff (wellFormed : j.WellFormed) :
    j.rounded.Same j ↔ ∀ n, Occurs (.int n) j → 2 ^ 63 ≤ n → 2048 ∣ n := by
  rw [same_rounded_iff_keepsNumber wellFormed]
  constructor
  · exact fun all n occurs => all (.int n) occurs
  · intro all part occurs
    cases part with
    | int n => exact all n occurs
    | _ => trivial

end DocumentSchema.Json

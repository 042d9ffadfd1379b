import DocumentSchema.Proofs.Numeric.Rounding
import DocumentSchema.Proofs.Text.Digits
import DocumentSchema.Proofs.Validation.Files
import DocumentSchema.Proofs.Validation.Localised
import DocumentSchema.Proofs.Validation.Scalars
import DocumentSchema.Proofs.Value.JsonForm

/-!
Canonical values without a JSON form.

Digits may write a number beyond all floats. Where the descriptor has a float for them without
ranges, itself or as the first alternative that accepts them (`Context.TakenByFloat`), the canonical
value is an infinity, whose JSON form is null. Without defaults, nullable descriptors and custom
validators no other canonical value of a JSON value has null for its JSON form
(`Context.toJson_eq_null_iff`).
-/

namespace DocumentSchema

/-! ## Texts beyond all floats -/

namespace Scalar

variable {text : String} {x : Binary64}

/-- The text writes a decimal that is rounded to an infinity. This is decided by its whole part. -/
def Overflows (text : String) : Prop :=
  Text.Format.isDecimal text = true ∧
    Binary64.overflowBound ≤ Text.decimalValue (text.toList.takeWhile Text.isDigit)

theorem digits_of_isDecimal (decimal : Text.Format.isDecimal text = true) :
    ∀ c ∈ (text.toList.dropWhile Text.isDigit).drop 1, Text.isDigit c = true := by
  unfold Text.Format.isDecimal at decimal
  dsimp only at decimal
  split at decimal
  · next none => simp [none]
  · next fraction behind =>
    rw [behind]
    have digits := (Bool.and_eq_true_iff.1 decimal).2
    exact List.all_eq_true.1 (Bool.and_eq_true_iff.1 digits).2
  · next => simp at decimal

/-- What digits write is an infinity if they overflow, and finite otherwise. -/
theorem floatOfText?_cases (decimal : Text.Format.isDecimal text = true) :
    Overflows text ∧ floatOfText? text = some .infinity ∨
      ¬Overflows text ∧ ∃ x, floatOfText? text = some x ∧ x.isFinite = true := by
  have fraction := Text.decimalValue_lt (digits_of_isDecimal decimal)
  rw [Overflows, floatOfText?, if_pos decimal, Text.decimalValue_append]
  simp only [decimal, true_and]
  generalize (text.toList.dropWhile Text.isDigit).drop 1 = behind at fraction ⊢
  generalize Text.decimalValue (text.toList.takeWhile Text.isDigit) = whole
  have positive : 0 < 10 ^ behind.length := Nat.pow_pos (by decide)
  have infinite := Binary64.roundUnits_eq_infinityBits_iff
    (whole * 10 ^ behind.length + Text.decimalValue behind) positive
  by_cases beyond : Binary64.overflowBound ≤ whole
  · have reached : 10 ^ behind.length * Binary64.overflowBound ≤
        whole * 10 ^ behind.length + Text.decimalValue behind := by
      have most := Nat.mul_le_mul_left (10 ^ behind.length) beyond
      rw [Nat.mul_comm _ whole] at most
      omega
    refine .inl ⟨beyond, ?_⟩
    rw [Binary64.ofRatio, infinite.2 reached, Binary64.infinity]
  · have below : ¬10 ^ behind.length * Binary64.overflowBound ≤
        whole * 10 ^ behind.length + Text.decimalValue behind := by
      have most := Nat.mul_le_mul_left (10 ^ behind.length) (Nat.lt_of_not_le beyond)
      rw [Nat.mul_succ, Nat.mul_comm _ whole] at most
      omega
    refine .inr ⟨beyond, _, rfl, Binary64.isFinite_ofParts ?_⟩
    exact Nat.lt_of_le_of_ne (Binary64.roundUnits_le _ _) (mt infinite.1 below)

theorem floatOfText?_eq_infinity_iff : floatOfText? text = some .infinity ↔ Overflows text := by
  constructor
  · intro read
    by_cases decimal : Text.Format.isDecimal text = true
    · rcases floatOfText?_cases decimal with ⟨overflows, -⟩ | ⟨-, x, same, finite⟩
      · exact overflows
      · cases read.symm.trans same
        cases Binary64.isFinite_infinity.symm.trans finite
    · rw [floatOfText?, if_neg decimal] at read
      cases read
  · intro overflows
    rcases floatOfText?_cases overflows.1 with ⟨-, read⟩ | ⟨within, -⟩
    · exact read
    · exact absurd overflows within

/-- Digits write no number that is not finite but an infinity. -/
theorem eq_infinity_of_floatOfText? (read : floatOfText? text = some x)
    (infinite : x.isFinite = false) : x = .infinity := by
  have decimal : Text.Format.isDecimal text = true := by
    by_contra plain
    rw [floatOfText?, if_neg plain] at read
    cases read
  rcases floatOfText?_cases decimal with ⟨-, same⟩ | ⟨-, y, same, finite⟩
  · exact Option.some.inj (read.symm.trans same)
  · cases read.symm.trans same
    cases infinite.symm.trans finite

/-- An infinity lies in no range. -/
theorem inRanges_infinity_iff {ranges : List NumericRange} :
    inRanges ranges .infinity = true ↔ ranges = [] := by
  have outside (range : NumericRange) : range.contains .infinity = false := by
    have top : (Binary64.infinity).lt range.hi = false := by
      rw [Bool.eq_false_iff]
      intro less
      simp only [Binary64.lt, Bool.and_eq_true, decide_eq_true_eq, Bool.not_eq_true'] at less
      have bounded := Binary64.magnitudeBits_le_of_isNaN less.1.2
      have most := Binary64.unitsOfBits_le bounded
      have size := Binary64.natAbs_units range.hi
      have units : Binary64.infinity.units = Binary64.unitsOfBits Binary64.infinityBits := rfl
      omega
    rw [NumericRange.contains, top, Bool.and_false]
  cases ranges with
  | nil => simp [inRanges]
  | cons range rest => simp [inRanges, outside]

end Scalar

/-! ## Descriptors -/

/-- At no depth a descriptor accepts null in place of a value. -/
def Descriptor.NullableFree : Descriptor → Prop :=
  Throughout fun part => part.nullable = false

/-- At every depth a value is required, none is given by default, and no custom validator occurs. -/
structure Descriptor.Required (d : Descriptor) : Prop where
  defaultFree : d.DefaultFree
  nullableFree : d.NullableFree
  customFree : d.CustomFree

theorem Descriptor.Required.ofChild {d child : Descriptor} (required : d.Required)
    (member : child ∈ d.children) : child.Required :=
  ⟨required.defaultFree.ofChild member, required.nullableFree.ofChild member,
    required.customFree.ofChild member⟩

/-! ## Null -/

theorem Value.toJson_eq_null_iff {v : Value} :
    v.toJson = .null ↔ v = .null ∨ ∃ x, v = .float x ∧ x.isFinite = false := by
  cases v with
  | float x => cases finite : x.isFinite <;> simp [toJson, finite]
  | _ => simp [toJson]

namespace Context

variable {context : Context} {custom : ValidatorRef → Value → Option Value} {mode : Mode}
  {name text : String} {doc : Document} {d : Descriptor} {shape : Shape} {v c : Value}

/-- A text is given to a float without ranges: the kind is one, or a union whose first alternative
to accept the text gives it to one. -/
inductive TakenByFloat (context : Context) (name text : String) (doc : Document) : Shape → Prop
  | float : TakenByFloat context name text doc (.float [])
  | union {before after : List Descriptor} {chosen : Descriptor} :
    (∀ other ∈ before, ∀ c,
      context.validatePart context.acceptFile name other (.str text) doc ≠ .ok c) →
    TakenByFloat context name text doc chosen.shape →
    TakenByFloat context name text doc (.union (before ++ chosen :: after))

/-- What a required descriptor answers is what its kind accepts. -/
theorem answers_iff_of_required (required : d.Required) {accepted : Option Value} :
    context.Answers d doc v accepted c ↔ v ≠ .null ∧ accepted = some c := by
  have noDefault : context.defaultValue? d.default doc = none := by
    rw [required.defaultFree.here, defaultValue?]
  have strict := required.nullableFree.here
  simp [Answers, noDefault, strict]

/-- A text that overflows is made an infinity by the float that it is given to. -/
theorem accept_of_takenByFloat (overflows : Scalar.Overflows text)
    (taken : context.TakenByFloat name text doc shape) :
    context.acceptShape context.acceptFile custom name shape (.str text) doc =
      some (.float .infinity) := by
  induction taken generalizing custom with
  | float =>
    rw [acceptShape]
    exact Scalar.acceptFloat_eq_some_iff.2 ⟨_, .inr (.inr ⟨text, rfl,
      Scalar.floatOfText?_eq_infinity_iff.2 overflows⟩), Scalar.inRanges_infinity_iff.2 rfl, rfl⟩
  | union passed _ ih =>
    rw [acceptShape, acceptFirst_eq_some_iff]
    refine ⟨_, _, _, rfl, passed, ?_⟩
    exact validatePart_eq_ok_iff.2 (.inr ⟨by simp, .inl ih⟩)

/-- Of a value that is finite, a kind makes null in JSON only out of a text that overflows. -/
theorem takenByFloat_of_acceptShape (finite : ∀ x, v = .float x → x.isFinite = true)
    (notNull : v ≠ .null) (notCustom : shape.kind ≠ .custom)
    (inside : ∀ child ∈ shape.children, ∀ c,
      context.validatePart context.acceptFile name child v doc = .ok c → c.toJson = .null →
      ∃ text, v = .str text ∧ Scalar.Overflows text ∧
        context.TakenByFloat name text doc child.shape)
    (accepted : context.acceptShape context.acceptFile custom name shape v doc = some c)
    (null : c.toJson = .null) :
    ∃ text, v = .str text ∧ Scalar.Overflows text ∧ context.TakenByFloat name text doc shape := by
  have kept (same : c = v) : False := by
    rw [same, Value.toJson_eq_null_iff] at null
    rcases null with isNull | ⟨x, rfl, infinite⟩
    · exact notNull isNull
    · cases infinite.symm.trans (finite x rfl)
  by_cases verbatim : shape.isVerbatim = true
  · exact (kept (eq_of_acceptShape verbatim accepted)).elim
  cases shape with
  | int ranges =>
    rw [acceptShape] at accepted
    obtain ⟨n, -, -, rfl⟩ := Scalar.acceptInt_eq_some_iff.1 accepted
    cases null
  | float ranges =>
    rw [acceptShape] at accepted
    obtain ⟨x, source, ranged, rfl⟩ := Scalar.acceptFloat_eq_some_iff.1 accepted
    have infinite : x.isFinite = false := by simpa [Value.toJson_eq_null_iff] using null
    rcases source with ⟨rfl, -⟩ | ⟨n, rfl, rfl⟩ | ⟨text, rfl, read⟩
    · cases infinite.symm.trans (finite x rfl)
    · cases infinite.symm.trans (Binary64.isFinite_ofInt n)
    · cases Scalar.eq_infinity_of_floatOfText? read infinite
      cases Scalar.inRanges_infinity_iff.1 ranged
      exact ⟨text, rfl, Scalar.floatOfText?_eq_infinity_iff.1 read, .float⟩
  | id =>
    rw [acceptShape] at accepted
    obtain ⟨i, -, rfl⟩ := Scalar.acceptId_eq_some_iff.1 accepted
    split at null <;> cases null
  | file =>
    rw [acceptShape] at accepted
    obtain ⟨-, entries, rfl⟩ := acceptFile_isMap accepted
    cases null
  | locale =>
    rw [acceptShape] at accepted
    obtain ⟨_, _, _, -, -, -, rfl, -⟩ := Localised.accept_eq_some_iff.1 accepted
    cases null
  | literal members =>
    rw [acceptShape] at accepted
    obtain ⟨-, equal⟩ := Scalar.acceptLiteral_eq_some accepted
    rcases Value.toJson_eq_null_iff.1 null with rfl | ⟨x, rfl, infinite⟩
    · cases v with
      | null => exact absurd rfl notNull
      | _ => cases equal
    · cases v with
      | float y => cases infinite.symm.trans (Binary64.isFinite_of_eqNumber equal (finite y rfl))
      | _ => cases equal
  | list alternatives length =>
    obtain ⟨_, _, -, -, rfl, -⟩ := acceptShape_list_eq_some_iff.1 accepted
    cases null
  | union alternatives =>
    rw [acceptShape, acceptFirst_eq_some_iff] at accepted
    obtain ⟨before, chosen, after, rfl, passed, answer⟩ := accepted
    have member : chosen ∈ (Shape.union (before ++ chosen :: after)).children :=
      List.mem_append_right before List.mem_cons_self
    obtain ⟨text, rfl, overflows, taken⟩ := inside chosen member c answer null
    exact ⟨text, rfl, overflows, .union passed taken⟩
  | dict key val required length =>
    obtain ⟨_, _, -, -, -, rfl, -⟩ := acceptShape_dict_eq_some_iff.1 accepted
    cases null
  | record fields =>
    obtain ⟨_, _, -, -, -, rfl⟩ := acceptShape_record_eq_some_iff.1 accepted
    cases null
  | custom ref => exact absurd rfl notCustom
  | _ => exact absurd rfl verbatim

theorem takenByFloat_of_validatePart (finite : ∀ x, v = .float x → x.isFinite = true)
    (required : d.Required)
    (answer : context.validatePart context.acceptFile name d v doc = .ok c)
    (null : c.toJson = .null) :
    ∃ text, v = .str text ∧ Scalar.Overflows text ∧
      context.TakenByFloat name text doc d.shape := by
  induction d using Descriptor.byChildren generalizing c with
  | step d ih =>
    obtain ⟨notNull, accepted⟩ :=
      (answers_iff_of_required required).1 (validatePart_eq_ok_iff.1 answer)
    exact takenByFloat_of_acceptShape finite notNull required.customFree.here
      (fun child member c => ih child member (required.ofChild member)) accepted null

/-- A required descriptor answers a finite value with null in JSON exactly if the value is a text
that overflows and is given to a float. -/
theorem toJson_eq_null_iff (create : mode ≠ .update)
    (finite : ∀ x, v = .float x → x.isFinite = true) (required : d.Required)
    (answer : context.validate mode name d v doc = .ok c) :
    c.toJson = .null ↔ ∃ text, v = .str text ∧ Scalar.Overflows text ∧
      context.TakenByFloat name text doc d.shape := by
  obtain ⟨notNull, accepted⟩ :=
    (answers_iff_of_required required).1 ((validate_eq_ok_iff create).1 answer)
  constructor
  · exact takenByFloat_of_acceptShape finite notNull required.customFree.here
      (fun child member c => takenByFloat_of_validatePart finite (required.ofChild member))
      accepted
  · rintro ⟨text, rfl, overflows, taken⟩
    cases accepted.symm.trans (accept_of_takenByFloat overflows taken)
    rfl

end Context

end DocumentSchema

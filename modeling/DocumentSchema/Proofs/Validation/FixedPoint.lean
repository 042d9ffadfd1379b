import DocumentSchema.Proofs.Validation.Acceptance
import DocumentSchema.Proofs.Validation.Localised
import DocumentSchema.Proofs.Validation.Scalars
import DocumentSchema.Proofs.Value.Zeros

/-!
Canonical values of simple kinds as values.

A simple kind accepts the canonical values that it makes, and leaves them as they are
(`Context.acceptShape_again`). Among alternatives, the kinds that neither read identifiers nor fill
in texts do not take canonical values from each other either: one that refused a value does not
change what another made of it (`Context.alike_of_refused`).
-/

namespace DocumentSchema

namespace Shape

/-- The shapes of alternatives whose order does not matter to canonical values: those that leave
values as they are, numbers and literals. -/
def isPlain : Shape → Bool
  | int _ => true
  | float _ => true
  | literal _ => true
  | shape => shape.isVerbatim

variable {shape : Shape}

theorem isComposite_of_isPlain (plain : shape.isPlain = true) : shape.isComposite = false := by
  cases shape with
  | file | list _ _ | union _ | dict _ _ _ _ | record _ => cases plain
  | _ => rfl

theorem kind_of_isPlain (plain : shape.isPlain = true) : shape.kind ≠ .custom := by
  cases shape with
  | custom ref => cases plain
  | temporal kind ranges => cases kind <;> exact Kind.noConfusion
  | _ => exact Kind.noConfusion

theorem children_of_isPlain (plain : shape.isPlain = true) : shape.children = [] := by
  cases shape with
  | list _ _ | union _ | dict _ _ _ _ | record _ => cases plain
  | _ => rfl

end Shape

namespace Scalar

/-- A literal set accepts the member that equals some value, and answers one like it. -/
theorem acceptLiteral_again {members : List Value} {v c : Value}
    (accepted : acceptLiteral members v = some c) :
    ∃ c', acceptLiteral members c = some c' ∧ c'.Alike c := by
  obtain ⟨member, same⟩ := acceptLiteral_eq_some accepted
  cases again : acceptLiteral members c with
  | some c' => exact ⟨c', rfl, Value.alike_of_equal (acceptLiteral_eq_some again).2⟩
  | none =>
    have refused := List.find?_eq_none.1 again c member
    exact absurd (Value.equal_self_of_equal same) refused

/-- The text of an identifier is an identifier under every name. -/
theorem acceptId_again {name : String} {v c : Value} (accepted : acceptId name v = some c) :
    acceptId name c = some c := by
  obtain ⟨i, -, rfl⟩ := acceptId_eq_some_iff.1 accepted
  refine acceptId_eq_some_iff.2 ⟨i, ?_, rfl⟩
  split
  · rfl
  · exact i.ofText?_hex

end Scalar

namespace Context

variable {context : Context} {file : String → Value → Document → Option Value}
  {custom custom' : ValidatorRef → Value → Option Value} {name : String} {doc : Document}
  {shape shape' : Shape} {v c c' : Value}

theorem acceptShape_again (noFallback : ∀ name, context.config.strategy ≠ .fallback name)
    (simple : shape.isComposite = false) (noCustom : shape.kind ≠ .custom)
    (accepted : context.acceptShape file custom name shape v doc = some c) :
    ∃ c', context.acceptShape file custom name shape c doc = some c' ∧ c'.Alike c := by
  by_cases verbatim : shape.isVerbatim = true
  · have same := eq_of_acceptShape verbatim accepted
    exact ⟨c, same ▸ accepted, .refl c⟩
  cases shape with
  | int ranges =>
    obtain ⟨n, -, ranged, rfl⟩ := Scalar.acceptInt_eq_some_iff.1 accepted
    exact ⟨.int n, Scalar.acceptInt_eq_some_iff.2 ⟨n, .inl rfl, ranged, rfl⟩, .refl _⟩
  | float ranges =>
    have number := accepted
    obtain ⟨x, -, ranged, rfl⟩ := Scalar.acceptFloat_eq_some_iff.1 accepted
    exact ⟨.float x, Scalar.acceptFloat_eq_some_iff.2
      ⟨x, .inl ⟨rfl, Scalar.isNaN_of_acceptFloat number⟩, ranged, rfl⟩, .refl _⟩
  | id => exact ⟨c, Scalar.acceptId_again accepted, .refl c⟩
  | locale =>
    obtain ⟨entries, rfl, canonical⟩ := Localised.canonical_of_accept accepted
    exact ⟨_, Localised.accept_of_canonical noFallback canonical, .refl _⟩
  | literal members => exact Scalar.acceptLiteral_again accepted
  | custom ref => exact absurd rfl noCustom
  | _ => first | exact absurd rfl verbatim | cases simple

/-! ## Alternatives -/

/-- A plain shape makes a text of that text alone. -/
theorem eq_of_acceptShape_str {text : String} (plain : shape.isPlain = true)
    (accepted : context.acceptShape file custom name shape v doc = some (.str text)) :
    v = .str text := by
  by_cases verbatim : shape.isVerbatim = true
  · exact (eq_of_acceptShape verbatim accepted).symm
  cases shape with
  | int ranges =>
    obtain ⟨_, -, -, ⟨⟩⟩ := Scalar.acceptInt_eq_some_iff.1 accepted
  | float ranges =>
    obtain ⟨_, -, -, ⟨⟩⟩ := Scalar.acceptFloat_eq_some_iff.1 accepted
  | literal members => exact Value.eq_of_str_equal (Scalar.acceptLiteral_eq_some accepted).2
  | _ => first | exact absurd rfl verbatim | cases plain

/-- A plain shape makes an integer of that integer, or of a text that writes it. -/
theorem source_of_acceptShape_int {n : Int64} (plain : shape.isPlain = true)
    (accepted : context.acceptShape file custom name shape v doc = some (.int n)) :
    v = .int n ∨ ∃ text, v = .str text ∧ Scalar.intOfText? text = some n := by
  by_cases verbatim : shape.isVerbatim = true
  · exact .inl (eq_of_acceptShape verbatim accepted).symm
  cases shape with
  | int ranges =>
    obtain ⟨_, source, -, ⟨⟩⟩ := Scalar.acceptInt_eq_some_iff.1 accepted
    exact source
  | float ranges =>
    obtain ⟨_, -, -, ⟨⟩⟩ := Scalar.acceptFloat_eq_some_iff.1 accepted
  | literal members => exact .inl (Value.eq_of_int_equal (Scalar.acceptLiteral_eq_some accepted).2)
  | _ => first | exact absurd rfl verbatim | cases plain

/-- A plain shape that refuses a value leaves as it is what another plain shape makes of it. -/
theorem alike_of_refused (plain : shape.isPlain = true) (plain' : shape'.isPlain = true)
    (refused : context.acceptShape file custom name shape v doc = none)
    (accepted : context.acceptShape file custom' name shape' v doc = some c)
    (taken : context.acceptShape file custom name shape c doc = some c') : c'.Alike c := by
  have changed : c ≠ v := by
    intro same
    subst same
    rw [refused] at taken
    cases taken
  by_cases verbatim : shape.isVerbatim = true
  · exact eq_of_acceptShape verbatim taken ▸ .refl c'
  cases shape with
  | int ranges =>
    obtain ⟨n, rfl | ⟨text, rfl, -⟩, -, rfl⟩ := Scalar.acceptInt_eq_some_iff.1 taken
    · exact .refl _
    · exact absurd (eq_of_acceptShape_str plain' accepted).symm changed
  | float ranges =>
    obtain ⟨x, ⟨rfl, -⟩ | ⟨n, rfl, rfl⟩ | ⟨text, rfl, -⟩, ranged, rfl⟩ :=
      Scalar.acceptFloat_eq_some_iff.1 taken
    · exact .refl _
    · -- The text that gave the integer would have been read as the same float.
      rcases source_of_acceptShape_int plain' accepted with rfl | ⟨text, rfl, read⟩
      · exact absurd rfl changed
      · have found := Scalar.acceptFloat_eq_some_iff.2
          ⟨_, .inr (.inr ⟨text, rfl, Scalar.floatOfText?_of_intOfText? read⟩), ranged, rfl⟩
        rw [acceptShape, found] at refused
        cases refused
    · exact absurd (eq_of_acceptShape_str plain' accepted).symm changed
  | literal members => exact Value.alike_of_equal (Scalar.acceptLiteral_eq_some taken).2
  | _ => first | exact absurd rfl verbatim | cases plain

end Context

end DocumentSchema

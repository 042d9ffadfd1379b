import DocumentSchema.Proofs.Descriptor.Parts
import DocumentSchema.Proofs.Validation.Files
import DocumentSchema.Proofs.Validation.Scalars
import DocumentSchema.Proofs.Value.Dictionary
import DocumentSchema.Proofs.Value.Zeros

/-!
Keys of dictionaries.

A descriptor without custom validators, given a text, may answer another value, but never another
text, unless that is one of its defaults (`Context.keyText_kept_or_default`). Without defaults, a
key of a dictionary keeps the text that it has (`Context.keyText_unchanged`).
-/

namespace DocumentSchema

namespace Context

variable {context : Context} {file : String → Value → Document → Option Value}
  {custom : ValidatorRef → Value → Option Value} {name : String} {doc : Document}
  {d : Descriptor} {c : Value} {k text : String}

/-- What a single kind makes of a text has that text as a key, or none. -/
theorem keyText_of_acceptShape {shape : Shape} (noFile : ∀ name, file name (.str k) doc = none)
    (noUnion : shape.kind ≠ .union) (noCustom : shape.kind ≠ .custom)
    (accepted : context.acceptShape file custom name shape (.str k) doc = some c)
    (written : keyText? c = some text) : text = k := by
  by_cases verbatim : shape.isVerbatim = true
  · rw [eq_of_acceptShape verbatim accepted] at written
    exact (Option.some.inj written).symm
  cases shape with
  | int ranges =>
    rw [acceptShape, Scalar.acceptInt_eq_some_iff] at accepted
    obtain ⟨n, -, -, rfl⟩ := accepted
    cases written
  | float ranges =>
    rw [acceptShape, Scalar.acceptFloat_eq_some_iff] at accepted
    obtain ⟨x, -, -, rfl⟩ := accepted
    cases written
  | id =>
    rw [acceptShape, Scalar.acceptId_eq_some_iff] at accepted
    obtain ⟨i, read, rfl⟩ := accepted
    rw [← ObjectId.hex_of_ofText? read]
    split at written <;> exact (Option.some.inj written).symm
  | file =>
    rw [acceptShape, noFile] at accepted
    cases accepted
  | locale => cases accepted
  | literal members =>
    rw [acceptShape] at accepted
    obtain ⟨-, same⟩ := Scalar.acceptLiteral_eq_some accepted
    rw [Value.eq_of_equal_str same] at written
    exact (Option.some.inj written).symm
  | list alternatives length =>
    obtain ⟨_, _, ⟨⟩, -⟩ := acceptShape_list_eq_some_iff.1 accepted
  | union alternatives => exact absurd rfl noUnion
  | dict key val required length =>
    obtain ⟨_, _, ⟨⟩, -⟩ := acceptShape_dict_eq_some_iff.1 accepted
  | record fields =>
    obtain ⟨_, _, ⟨⟩, -⟩ := acceptShape_record_eq_some_iff.1 accepted
  | custom ref => exact absurd rfl noCustom
  | _ => exact absurd rfl verbatim

/-- A default that occurs in a descriptor has a text as its key. -/
def DefaultKey (context : Context) (d : Descriptor) (doc : Document) (text : String) : Prop :=
  ∃ part : Descriptor, part.Occurs d ∧
    ∃ value, context.defaultValue? part.default doc = some value ∧
    keyText? value = some text

theorem not_defaultKey (defaultFree : d.DefaultFree) : ¬context.DefaultKey d doc text := by
  rintro ⟨part, occurs, value, made, -⟩
  rw [defaultFree part occurs] at made
  cases made

/-- The text of a canonical key is the key itself, or that of a default. -/
theorem keyText_kept_or_default (noFile : ∀ name, file name (.str k) doc = none)
    (customFree : d.CustomFree) (answer : context.validatePart file name d (.str k) doc = .ok c)
    (written : keyText? c = some text) : text = k ∨ context.DefaultKey d doc text := by
  induction d using Descriptor.byChildren generalizing name c text with
  | step d ih =>
    have noCustom : d.kind ≠ .custom := customFree.here
    rcases validatePart_eq_ok_iff.1 answer with ⟨null, -⟩ | ⟨-, accepted | ⟨-, default⟩⟩
    · cases null
    · by_cases isUnion : d.kind = .union
      · obtain ⟨shape, default, nullable⟩ := d
        cases shape with
        | union alternatives =>
          rw [Descriptor.shape, acceptShape] at accepted
          obtain ⟨child, member, childAnswer⟩ := exists_mem_of_acceptFirst accepted
          refine (ih child member (customFree.ofChild member) childAnswer written).imp_right ?_
          rintro ⟨part, occurs, made⟩
          exact ⟨part, .inside member occurs, made⟩
        | temporal kind ranges => cases kind <;> cases isUnion
        | _ => cases isUnion
      · exact .inl (keyText_of_acceptShape noFile isUnion noCustom accepted written)
    · exact .inr ⟨d, .here, c, default, written⟩

/-- Without defaults, the text of a canonical key is the key itself. -/
theorem keyText_unchanged (noFile : ∀ name, file name (.str k) doc = none)
    (defaultFree : d.DefaultFree) (customFree : d.CustomFree)
    (answer : context.validatePart file name d (.str k) doc = .ok c)
    (written : keyText? c = some text) : text = k :=
  (keyText_kept_or_default noFile customFree answer written).resolve_right
    (not_defaultKey defaultFree)

theorem keys_unchanged {key val : Descriptor} {entries canonical : Document}
    (noFile : ∀ name k, file name (.str k) doc = none)
    (defaultFree : key.DefaultFree) (customFree : key.CustomFree)
    (each : List.Forall₂ (context.EntryAccepted file name key val doc) entries canonical) :
    Entries.keys canonical = Entries.keys entries := by
  apply Entries.keys_eq_of_forall₂ each
  intro entry other accepted
  obtain ⟨⟨canonicalKey, answer, written⟩, -⟩ := accepted
  exact (keyText_unchanged (fun name => noFile name _) defaultFree customFree answer written).symm

end Context

end DocumentSchema

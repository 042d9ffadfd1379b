import DocumentSchema.Proofs.Validation.Documents
import DocumentSchema.Proofs.Validation.Revalidation

/-!
Validation is idempotent.

The canonical form of a document is its own canonical form, up to the signs of zeros
(`Context.validateDocument_idempotent`). Defaults must be fixed values that their own kinds leave as
they are, and lists and unions with a choice must choose among plain kinds.
-/

namespace DocumentSchema

/-! ## Conditions -/

/-- Whoever chooses, among two alternatives or more, chooses among simple kinds without defaults,
which neither read identifiers nor fill in texts. -/
def Descriptor.PlainChoices : Descriptor → Prop :=
  Throughout fun part => ∀ alternatives, part.shape.Offers alternatives → 2 ≤ alternatives.length →
    ∀ child ∈ alternatives, child.default = none ∧
      child.kind ∉ [.list, .union, .dict, .record, .id, .locale, .file]

namespace Context

variable {context : Context} {file : String → Value → Document → Option Value} {name key : String}
  {doc out : Document} {d : Descriptor} {shape : Shape} {v c : Value}
  {alternatives : List Descriptor} {schema : Schema}

/-- The kind of a descriptor refuses its default or leaves it as it is, and so do all that occur.
The parts of an attribute treat identifiers as the attribute itself does. -/
def FixedDefaults (context : Context) (name : String) : Descriptor → Prop :=
  Descriptor.Throughout fun part => ∀ value, part.default = some (.static value) →
    ∀ c, context.accept .deep name part value [] = some c → c.Alike value

/-- What an attribute needs for its canonical values to be canonical. -/
structure Repeatable (context : Context) (name : String) (d : Descriptor) : Prop where
  customFree : d.CustomFree
  static : d.StaticDefaults
  fixed : context.FixedDefaults name d
  keys : d.KeysDefaultFree
  choices : d.PlainChoices
  ordered : d.Ordered

/-! ## Choices -/

theorem isPlain_of_kind (noCustom : shape.kind ≠ .custom)
    (plain : shape.kind ∉ [.list, .union, .dict, .record, .id, .locale, .file]) :
    shape.isPlain = true := by
  cases shape with
  | custom ref => exact absurd rfl noCustom
  | list _ _ | union _ | dict _ _ _ _ | record _ | id | locale | file =>
    exact absurd (by simp [Shape.kind]) plain
  | _ => rfl

theorem answer_of_plain (noDefault : d.default = none) (notNull : v ≠ .null) :
    context.validatePart file name d v doc = .ok c ↔
      context.acceptShape file (context.acceptCustom .deep name d) name d.shape v doc = some c := by
  rw [validatePart_eq_ok_iff, Answers, noDefault]
  simp [notNull, defaultValue?]

theorem answer_null_of_plain (noDefault : d.default = none)
    (answer : context.validatePart file name d .null doc = .ok c) : c = .null := by
  rcases validatePart_eq_ok_iff.1 answer with ⟨-, value | ⟨-, -, null⟩⟩ | ⟨notNull, -⟩
  · rw [noDefault] at value
    cases value
  · exact null
  · exact absurd rfl notNull

/-- Plain alternatives without defaults answer alike to what they answered. -/
theorem acceptFirst_again (noFallback : ∀ name, context.config.strategy ≠ .fallback name)
    (files : ∀ name, file name v doc ≠ some .null)
    (plain : ∀ child ∈ alternatives, child.default = none ∧ child.shape.isPlain = true)
    (accepted : context.acceptFirst file name alternatives v doc = some c) :
    ∃ c', context.acceptFirst file name alternatives c doc = some c' ∧ c'.Alike c := by
  obtain ⟨chosen, member, made⟩ := exists_mem_of_acceptFirst accepted
  obtain ⟨chosenDefault, chosenPlain⟩ := plain chosen member
  by_cases null : v = .null
  · subst null
    rw [answer_null_of_plain chosenDefault made] at accepted ⊢
    exact ⟨.null, accepted, .refl _⟩
  have madeShape := (answer_of_plain chosenDefault null).1 made
  have notNull : c ≠ .null :=
    acceptShape_ne_null files (Shape.kind_of_isPlain chosenPlain) null
      (fun child inside => by rw [Shape.children_of_isPlain chosenPlain] at inside; cases inside)
      madeShape
  clear made member
  induction alternatives with
  | nil => cases accepted
  | cons d rest ih =>
    obtain ⟨noDefault, isPlain⟩ := plain d (by simp)
    rw [acceptFirst] at accepted ⊢
    cases answer : context.validatePart file name d v doc with
    | ok canonical =>
      rw [answer] at accepted
      cases accepted
      obtain ⟨c', again, alike⟩ := acceptShape_again noFallback
        (Shape.isComposite_of_isPlain isPlain) (Shape.kind_of_isPlain isPlain)
        ((answer_of_plain noDefault null).1 answer)
      rw [(answer_of_plain noDefault notNull).2 again]
      exact ⟨c', rfl, alike⟩
    | error e =>
      rw [answer] at accepted
      cases taken : context.validatePart file name d c doc with
      | ok c' =>
        refine ⟨c', rfl, alike_of_refused isPlain chosenPlain ?_ madeShape
          ((answer_of_plain noDefault notNull).1 taken)⟩
        rw [Option.eq_none_iff_forall_ne_some]
        intro other found
        rw [(answer_of_plain noDefault null).2 found] at answer
        cases answer
      | error e' => exact ih (fun child inside => plain child (by simp [inside])) accepted

/-! ## Attributes -/

theorem Repeatable.steady (repeatable : context.Repeatable name d)
    (noFallback : ∀ name, context.config.strategy ≠ .fallback name) (doc : Document) :
    d.Throughout (context.Steady context.acceptFile doc Value.Alike (isIdName name)) := by
  intro part occurs
  have customFree : part.CustomFree := repeatable.customFree.part occurs
  have static : part.StaticDefaults := repeatable.static.part occurs
  exact {
    fixed := fun value held name' named c accepted => by
      refine repeatable.fixed part occurs value held c ?_
      rw [← accepted]
      exact accept_congr customFree static named.symm
    key := repeatable.keys part occurs
    fields := repeatable.ordered part occurs
    choice := fun alternatives offers settles name' named v c ordered accepted => by
      rcases alternatives with _ | ⟨only, _ | ⟨second, others⟩⟩
      · cases accepted
      · obtain ⟨c', again, alike⟩ := settles only (by simp) name' named v c ordered
          (acceptFirst_singleton.1 accepted)
        exact ⟨c', acceptFirst_singleton.2 again, alike⟩
      · refine acceptFirst_again noFallback ?_ ?_ accepted
        · intro name isNull
          obtain ⟨-, _, ⟨⟩⟩ := acceptFile_isMap isNull
        · intro child member
          obtain ⟨noDefault, plain⟩ :=
            repeatable.choices part occurs _ offers (by simp) child member
          have noCustom : child.kind ≠ .custom :=
            (customFree.ofChild (offers.mem_children member)).here
          exact ⟨noDefault, isPlain_of_kind noCustom plain⟩ }

/-- A canonical value is its own canonical form, up to the signs of zeros. -/
theorem validate_again (noFallback : ∀ name, context.config.strategy ≠ .fallback name)
    (create : mode ≠ .update) (repeatable : context.Repeatable name d) (ordered : v.Ordered)
    (answer : context.validate mode name d v doc = .ok c) (doc' : Document) :
    ∃ c', context.validate mode name d c doc' = .ok c' ∧ c'.Alike c := by
  have part {doc : Document} {v c : Value} : context.validate mode name d v doc = .ok c ↔
      context.validatePart context.acceptFile name d v doc' = .ok c :=
    validate_eq_ok_iff_validatePart create repeatable.customFree repeatable.static doc'
  obtain ⟨c', again, alike⟩ := settles_of_steady closeness_alike noFallback
    (filesSettle_acceptFile closeness_alike noFallback) repeatable.customFree repeatable.static
    (repeatable.steady noFallback doc') name rfl v c ordered (part.1 answer)
  exact ⟨c', part.2 again, alike⟩

/-! ## Documents -/

/-- The answer for a key of a canonical document is alike to the value there. -/
theorem answer_again (noFallback : ∀ name, context.config.strategy ≠ .fallback name)
    (repeatable : ∀ name d, (name, d) ∈ schema.attributes → context.Repeatable name d)
    (create : mode ≠ .update) (ordered : (Value.map doc).Ordered)
    (found : Entries.get? out key = some c)
    (answer : context.answer? mode schema doc key = some (.ok c)) :
    ∃ c', context.answer? mode schema out key = some (.ok c') ∧ c'.Alike c := by
  unfold answer? at answer ⊢
  cases declared : schema.get? key with
  | some d =>
    rw [declared] at answer
    simp only [declaredAnswer?, found, Option.some.injEq] at answer ⊢
    have isRepeatable := repeatable key d (Entries.mem_of_get? declared)
    cases given : Entries.get? doc key with
    | some v =>
      rw [given] at answer
      exact validate_again noFallback create isRepeatable
        (ordered.ofEntry (Entries.mem_of_get? given)) (Option.some.inj answer) out
    | none =>
      rw [given] at answer
      simp only at answer
      split at answer
      · exact validate_again noFallback create isRepeatable (by simp [Value.Ordered])
          (Option.some.inj answer) out
      · cases answer
  | none =>
    rw [declared] at answer
    simp only [found, Option.map_some, Option.some.injEq] at answer ⊢
    obtain ⟨v, -, answer⟩ := Option.map_eq_some_iff.1 answer
    unfold otherAnswer at answer ⊢
    split at answer
    · exact ⟨c, rfl, .refl c⟩
    · rw [if_neg create] at answer
      cases answer

/-- A key that is left out is left out of the canonical form of the canonical form. -/
theorem answer_none (found : Entries.get? out key = none)
    (answer : context.answer? mode schema doc key = none) :
    context.answer? mode schema out key = none := by
  unfold answer? at answer ⊢
  cases declared : schema.get? key with
  | some d =>
    rw [declared] at answer
    simp only [declaredAnswer?, found] at answer ⊢
    split at answer
    · cases answer
    · split at answer
      · cases answer
      · next draft => rw [if_neg draft]
  | none => rw [found, Option.map_none]

/-- The canonical form of a document is its own canonical form, up to the signs of zeros. -/
theorem validateDocument_idempotent
    (noFallback : ∀ name, context.config.strategy ≠ .fallback name)
    (attributes : Entries.Ascending schema.attributes)
    (repeatable : ∀ name d, (name, d) ∈ schema.attributes → context.Repeatable name d)
    (create : mode = .create ∨ mode = .createDraft) (ordered : (Value.map doc).Ordered)
    (accepted : context.validateDocument mode schema doc = .ok out) :
    ∃ out', context.validateDocument mode schema out = .ok out' ∧
      (Value.map out').Alike (.map out) := by
  have notUpdate : mode ≠ .update := by rcases create with rfl | rfl <;> exact Mode.noConfusion
  obtain ⟨ascending, each⟩ :=
    (validateDocument_eq_ok_iff attributes.nodup_keys ordered.ascending).1 accepted
  have again : ∀ entry ∈ out, ∃ entry' : String × Value,
      context.answer? mode schema out entry.1 = some (.ok entry'.2) ∧ entry'.1 = entry.1 ∧
        entry'.2.Alike entry.2 := by
    intro entry member
    obtain ⟨k, c⟩ := entry
    have found := ascending.get?_of_mem member
    have answer := each k
    rw [found] at answer
    obtain ⟨c', again, alike⟩ := answer_again noFallback repeatable notUpdate ordered found answer
    exact ⟨(k, c'), again, rfl, alike⟩
  obtain ⟨out', pairs⟩ := exists_forall₂ again
  have keys : Entries.keys out' = Entries.keys out :=
    Entries.keys_eq_of_forall₂ pairs fun _ _ both => both.2.1.symm
  have ascending' := ascending.of_keys_eq keys
  refine ⟨out', (validateDocument_eq_ok_iff attributes.nodup_keys ascending).2 ⟨ascending', ?_⟩,
    Value.alike_map (pairs.imp fun _ _ both => both.2).flip⟩
  intro key
  cases found' : Entries.get? out' key with
  | some c' =>
    obtain ⟨entry, -, answer, same, -⟩ := exists_of_mem_right pairs (Entries.mem_of_get? found')
    simp only at answer same
    rw [same, answer]
    rfl
  | none =>
    have found : Entries.get? out key = none := by
      rwa [Entries.get?_eq_none_iff, ← keys, ← Entries.get?_eq_none_iff]
    have unanswered := each key
    rw [found] at unanswered
    exact answer_none found unanswered

/-- A number of either sort, zero where it is missing. -/
def numberOrZero : Descriptor :=
  .mk (.union [.ofShape (.int []), .ofShape (.float [])]) (some (.static (.int 0))) false

theorem throughout_numberOrZero {property : Descriptor → Prop} (whole : property numberOrZero)
    (int : property (.ofShape (.int []))) (float : property (.ofShape (.float []))) :
    numberOrZero.Throughout property := by
  refine Descriptor.throughout_iff.2 ⟨whole, fun child member => ?_⟩
  rcases List.mem_pair.1 (show child ∈ [_, _] from member) with rfl | rfl
  · exact Descriptor.throughout_of_leaf rfl int
  · exact Descriptor.throughout_of_leaf rfl float

theorem repeatable_numberOrZero : initial.Repeatable "level" numberOrZero where
  customFree := throughout_numberOrZero (by decide) (by decide) (by decide)
  static := by
    refine throughout_numberOrZero ?_ (fun _ held => by cases held) (fun _ held => by cases held)
    intro _ held
    cases held
    exact ⟨.int 0, rfl, Value.noConfusion⟩
  fixed := by
    refine throughout_numberOrZero ?_ (fun _ held => by cases held) (fun _ held => by cases held)
    intro _ held c accepted
    cases held
    have same : initial.accept .deep "level" numberOrZero (.int 0) [] = some (.int 0) := rfl
    rw [same] at accepted
    cases accepted
    exact .refl _
  keys := throughout_numberOrZero (fun _ _ _ _ isDict => by cases isDict)
    (fun _ _ _ _ isDict => by cases isDict) (fun _ _ _ _ isDict => by cases isDict)
  choices := by
    refine throughout_numberOrZero ?_ ?_ ?_
    · intro alternatives h _ child member
      rcases h with ⟨⟨⟩⟩ | ⟨length, ⟨⟩⟩
      rcases List.mem_pair.1 member with rfl | rfl <;> exact ⟨rfl, by decide⟩
    · intro alternatives h
      rcases h with ⟨⟨⟩⟩ | ⟨length, ⟨⟩⟩
    · intro alternatives h
      rcases h with ⟨⟨⟩⟩ | ⟨length, ⟨⟩⟩
  ordered := throughout_numberOrZero (fun _ isRecord => by cases isRecord)
    (fun _ isRecord => by cases isRecord) (fun _ isRecord => by cases isRecord)

/-- Digits become an integer, which stays one. -/
theorem validateDocument_idempotent_digits :
    (Value.map [("level", .str "5"), ("note", .null)]).Ordered ∧
      initial.validateDocument .create ⟨"Reading", [("level", numberOrZero)]⟩
        [("level", .str "5"), ("note", .null)] = .ok [("level", .int 5), ("note", .null)] ∧
      ∃ out', initial.validateDocument .create ⟨"Reading", [("level", numberOrZero)]⟩
          [("level", .int 5), ("note", .null)] = .ok out' ∧
        (Value.map out').Alike (.map [("level", .int 5), ("note", .null)]) := by
  have ordered : (Value.map [("level", .str "5"), ("note", .null)]).Ordered := by
    have before : "level" < "note" := by decide
    exact ⟨List.pairwise_pair.2 before, trivial, trivial, trivial⟩
  have repeatable : ∀ name d, (name, d) ∈ [("level", numberOrZero)] →
      initial.Repeatable name d := by
    intro name d member
    cases List.mem_singleton.1 member
    exact repeatable_numberOrZero
  exact ⟨ordered, rfl, validateDocument_idempotent (fun _ same => by cases same)
    (List.pairwise_singleton _ _) repeatable (.inl rfl) ordered rfl⟩

end Context

end DocumentSchema

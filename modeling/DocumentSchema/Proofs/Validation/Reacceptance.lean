import DocumentSchema.Proofs.Descriptor.Built
import DocumentSchema.Proofs.Validation.Revalidation

/-!
Canonical values are accepted again.

Where lists and unions choose among alternatives of any sort, the canonical value of one
alternative may be taken by an earlier one, which makes another value of it. It is accepted all the
same: the alternative that made it accepts it, so some alternative does
(`Context.Reacceptable.settles`), and the whole value is accepted under every mode but that of
updates (`Context.accepts_canonical`).
-/

namespace DocumentSchema.Context

variable {context : Context} {mode : Mode} {name : String} {doc : Document} {d : Descriptor}
  {v c : Value}

/-- What an attribute needs for its canonical values to be accepted again. -/
structure Reacceptable (d : Descriptor) : Prop where
  customFree : d.CustomFree
  static : d.StaticDefaults
  keys : d.KeysDefaultFree
  ordered : d.Ordered

theorem Reacceptable.part {part : Descriptor} (reacceptable : Reacceptable d)
    (occurs : Descriptor.Occurs part d) : Reacceptable part where
  customFree := reacceptable.customFree.part occurs
  static := reacceptable.static.part occurs
  keys := reacceptable.keys.part occurs
  ordered := reacceptable.ordered.part occurs

theorem Reacceptable.steady (reacceptable : Reacceptable d) (doc : Document) (isId : Bool) :
    d.Throughout (context.Steady context.acceptFile doc (fun _ _ => True) isId) :=
  fun part occurs => {
    fixed := fun _ _ _ _ _ _ => trivial
    key := reacceptable.keys part occurs
    fields := reacceptable.ordered part occurs
    choice := fun alternatives _ settles name named v c ordered accepted => by
      obtain ⟨child, member, answer⟩ := exists_mem_of_acceptFirst accepted
      obtain ⟨c', again, -⟩ := settles child member name named v c ordered answer
      obtain ⟨c', accepted'⟩ := exists_acceptFirst_iff.2 ⟨child, member, c', again⟩
      exact ⟨c', accepted', trivial⟩ }

/-- A part of a value accepts its own canonical form, whatever else it makes of it. -/
theorem Reacceptable.settles (reacceptable : Reacceptable d)
    (noFallback : ∀ name, context.config.strategy ≠ .fallback name) (doc : Document)
    (isId : Bool) : context.Settles context.acceptFile doc (fun _ _ => True) isId d :=
  settles_of_steady closeness_true noFallback (filesSettle_acceptFile closeness_true noFallback)
    reacceptable.customFree reacceptable.static (reacceptable.steady doc isId)

/-- A descriptor without custom validators whose defaults are fixed, and stand in no key of a
dictionary, accepts its canonical values, possibly with another answer. -/
theorem accepts_canonical (noFallback : ∀ name, context.config.strategy ≠ .fallback name)
    (built : d.Built) (customFree : d.CustomFree) (static : d.StaticDefaults)
    (keys : d.KeysDefaultFree) (create : mode ≠ .update) (ordered : v.Ordered)
    (answer : context.validate mode name d v doc = .ok c) :
    ∃ c', context.validate mode name d c doc = .ok c' := by
  have reacceptable : Reacceptable d := ⟨customFree, static, keys, built.ordered⟩
  have part {v c : Value} : context.validate mode name d v doc = .ok c ↔
      context.validatePart context.acceptFile name d v doc = .ok c :=
    validate_eq_ok_iff_validatePart create customFree static doc
  obtain ⟨c', again, -⟩ :=
    reacceptable.settles noFallback doc (isIdName name) name rfl v c ordered (part.1 answer)
  exact ⟨c', part.2 again⟩

/-- A dictionary of floats in which a level is required. -/
def levelDictionary : Descriptor :=
  .ofShape (.dict (.ofShape (.str none)) (.ofShape (.float [])) ["level"] none)

/-- An integer level, five where it is missing. -/
def fiveByDefault : Descriptor :=
  (Descriptor.ofShape (.int [])).withDefault (.static (.int 5))

/-- A record of a level that may be missing. -/
def levelRecord : Descriptor :=
  .ofShape (.record [("level", fiveByDefault)])

/-- A level in a dictionary, or else in a record. -/
def levelled : Descriptor :=
  .ofShape (.union [levelDictionary, levelRecord])

theorem built_levelled : levelled.Built := by
  have text : (Descriptor.ofShape (.str none)).Built := .plain (by simp [Descriptor.plainShapes])
  have float : (Descriptor.ofShape (.float [])).Built := .plain (by simp [Descriptor.plainShapes])
  have int : (Descriptor.ofShape (.int [])).Built := .plain (by simp [Descriptor.plainShapes])
  have dictionary : levelDictionary.Built :=
    @Descriptor.Built.dict _ _ ["level"] none _ text float (fun _ held => by cases held) rfl
  have record : levelRecord.Built := by
    have named : checkName (.kind .record) "level" = .ok () := by
      rw [checkName, String.contains_char_eq]
      decide
    have made : Descriptor.record [("level", fiveByDefault)] = .ok levelRecord :=
      Descriptor.record_of_ascending (List.pairwise_singleton _ _) fun entry held => by
        cases List.mem_singleton.1 held
        exact named
    refine .record (fun field held => ?_) made
    cases List.mem_singleton.1 held
    exact .withDefault _ int
  have made : Descriptor.union [levelDictionary, levelRecord] = .ok levelled := rfl
  refine .union (fun child member => ?_) made
  rcases List.mem_pair.1 member with rfl | rfl
  · exact dictionary
  · exact record

theorem mem_of_occurs_levelled {part : Descriptor} (occurs : Descriptor.Occurs part levelled) :
    part ∈ [levelled, levelDictionary, levelRecord, fiveByDefault, .ofShape (.str none),
      .ofShape (.float [])] := by
  have leaf {d : Descriptor} (none : d.children = []) (inside : Descriptor.Occurs part d) :
      part = d := by
    cases inside with
    | here => rfl
    | inside member => rw [none] at member; cases member
  cases occurs with
  | here => simp
  | inside member deeper =>
    rcases List.mem_pair.1 (show _ ∈ [levelDictionary, levelRecord] from member) with rfl | rfl
    · cases deeper with
      | here => simp
      | inside member inner =>
        rcases List.mem_pair.1 (show _ ∈ [_, _] from member) with rfl | rfl
        · simp [leaf rfl inner]
        · simp [leaf rfl inner]
    · cases deeper with
      | here => simp
      | inside member inner =>
        cases List.mem_singleton.1 (show _ ∈ [fiveByDefault] from member)
        simp [leaf rfl inner]

/-- A missing level gets its default in the record. The dictionary, which had refused the value
without it, takes the canonical one and turns the level into a float. -/
theorem accepts_canonical_levelled :
    levelled.Built ∧ levelled.CustomFree ∧ levelled.StaticDefaults ∧ levelled.KeysDefaultFree ∧
      initial.validate .create "reading" levelled (.map []) [] =
        .ok (.map [("level", .int 5)]) ∧
      initial.validate .create "reading" levelled (.map [("level", .int 5)]) [] =
        .ok (.map [("level", .float (Binary64.ofInt 5))]) ∧
      ∃ c', initial.validate .create "reading" levelled (.map [("level", .int 5)]) [] = .ok c' := by
  have customFree : levelled.CustomFree := by
    intro part occurs
    have member := mem_of_occurs_levelled occurs
    simp only [List.mem_cons, List.not_mem_nil, or_false] at member
    rcases member with rfl | rfl | rfl | rfl | rfl | rfl <;> decide
  have static : levelled.StaticDefaults := by
    intro part occurs default held
    have member := mem_of_occurs_levelled occurs
    simp only [List.mem_cons, List.not_mem_nil, or_false] at member
    rcases member with rfl | rfl | rfl | rfl | rfl | rfl <;> cases held
    exact ⟨.int 5, rfl, Value.noConfusion⟩
  have keys : levelled.KeysDefaultFree := by
    intro part occurs key val required length isDict
    have member := mem_of_occurs_levelled occurs
    simp only [List.mem_cons, List.not_mem_nil, or_false] at member
    rcases member with rfl | rfl | rfl | rfl | rfl | rfl <;> cases isDict
    exact Descriptor.throughout_of_leaf rfl rfl
  have ordered : (Value.map []).Ordered := by
    simp [Value.Ordered, Value.OrderedEntries, Entries.Ascending]
  have answer : initial.validate .create "reading" levelled (.map []) [] =
      .ok (.map [("level", .int 5)]) := rfl
  exact ⟨built_levelled, customFree, static, keys, answer, rfl,
    accepts_canonical (fun _ same => by cases same) built_levelled customFree static keys
      (by decide) ordered answer⟩

end DocumentSchema.Context

import DocumentSchema.Proofs.Validation.Congruence
import DocumentSchema.Proofs.Validation.FixedPoint
import DocumentSchema.Proofs.Validation.Keys
import DocumentSchema.Proofs.Value.Order

/-!
Validation of canonical values.

A descriptor settles a value when it accepts its own answer to the value again, and answers
something close to it. What is close is left open (`Closeness`): it may be sameness but for the
signs of zeros, or nothing at all, which leaves acceptance alone. `Context.settles_of_steady` goes
from conditions on single descriptors to all that they are made of.
-/

namespace DocumentSchema

/-- A relation of values that holds of values which differ in the signs of zeros, and of lists and
maps when it holds of their parts. -/
structure Closeness (close : Value → Value → Prop) : Prop where
  of_alike : ∀ {a b}, a.Alike b → close a b
  list : ∀ {as bs}, List.Forall₂ close as bs → close (.list as) (.list bs)
  map : ∀ {as bs : Document}, List.Forall₂ (fun a b => a.1 = b.1 ∧ close a.2 b.2) as bs →
    close (.map as) (.map bs)

theorem closeness_alike : Closeness Value.Alike :=
  ⟨id, Value.alike_list, Value.alike_map⟩

theorem closeness_true : Closeness fun _ _ => True :=
  ⟨fun _ => trivial, fun _ => trivial, fun _ => trivial⟩

/-- The alternatives of a list or a union. -/
def Shape.Offers (shape : Shape) (alternatives : List Descriptor) : Prop :=
  shape = .union alternatives ∨ ∃ length, shape = .list alternatives length

theorem Shape.Offers.mem_children {shape : Shape} {alternatives : List Descriptor}
    {child : Descriptor} (offers : shape.Offers alternatives) (member : child ∈ alternatives) :
    child ∈ shape.children := by
  rcases offers with rfl | ⟨length, rfl⟩ <;> exact member

namespace Context

variable {context : Context} {file : String → Value → Document → Option Value}
  {custom : ValidatorRef → Value → Option Value} {name : String} {doc : Document}
  {d : Descriptor} {shape : Shape} {v c : Value}

/-! ## Null -/

theorem validatePart_of_accepted (notNull : v ≠ .null)
    (accepted : context.acceptShape file (context.acceptCustom .deep name d) name d.shape v doc =
      some c) :
    context.validatePart file name d v doc = .ok c :=
  validatePart_eq_ok_iff.2 (.inr ⟨notNull, .inl accepted⟩)

theorem acceptShape_ne_null (files : ∀ name, file name v doc ≠ some .null)
    (noCustom : shape.kind ≠ .custom) (notNull : v ≠ .null)
    (children : ∀ child ∈ shape.children, ∀ name c,
      context.validatePart file name child v doc = .ok c → c ≠ .null)
    (accepted : context.acceptShape file custom name shape v doc = some c) : c ≠ .null := by
  by_cases verbatim : shape.isVerbatim = true
  · exact eq_of_acceptShape verbatim accepted ▸ notNull
  intro same
  subst same
  cases shape with
  | int ranges =>
    obtain ⟨_, -, -, ⟨⟩⟩ := Scalar.acceptInt_eq_some_iff.1 accepted
  | float ranges =>
    obtain ⟨_, -, -, ⟨⟩⟩ := Scalar.acceptFloat_eq_some_iff.1 accepted
  | id =>
    obtain ⟨_, -, same⟩ := Scalar.acceptId_eq_some_iff.1 accepted
    split at same <;> cases same
  | file =>
    rw [acceptShape] at accepted
    exact files name accepted
  | locale =>
    obtain ⟨_, ⟨⟩, -⟩ := Localised.canonical_of_accept accepted
  | literal members =>
    obtain ⟨-, same⟩ := Scalar.acceptLiteral_eq_some accepted
    cases v with
    | null => exact notNull rfl
    | _ => simp [Value.equal] at same
  | list alternatives length =>
    obtain ⟨_, _, -, -, ⟨⟩, -⟩ := acceptShape_list_eq_some_iff.1 accepted
  | union alternatives =>
    rw [acceptShape] at accepted
    obtain ⟨child, member, answer⟩ := exists_mem_of_acceptFirst accepted
    exact children child member name .null answer rfl
  | dict key val required length =>
    obtain ⟨_, _, -, -, -, ⟨⟩, -⟩ := acceptShape_dict_eq_some_iff.1 accepted
  | record fields =>
    obtain ⟨_, _, -, -, -, ⟨⟩⟩ := acceptShape_record_eq_some_iff.1 accepted
  | custom ref => exact noCustom rfl
  | _ => exact verbatim rfl

/-- Canonical values are not null unless they come from null. -/
theorem validatePart_ne_null (files : ∀ name, file name v doc ≠ some .null)
    (customFree : d.CustomFree) (static : d.StaticDefaults) (notNull : v ≠ .null)
    (answer : context.validatePart file name d v doc = .ok c) : c ≠ .null := by
  induction d using Descriptor.byChildren generalizing name c with
  | step d ih =>
    have byDefault (value : context.defaultValue? d.default doc = some c) : c ≠ .null := by
      cases held : d.default with
      | none =>
        rw [held] at value
        cases value
      | some default =>
        obtain ⟨fixed, rfl, fixedNotNull⟩ := static.here default held
        rw [held] at value
        cases value
        exact fixedNotNull
    rcases validatePart_eq_ok_iff.1 answer with ⟨null, -⟩ | ⟨-, accepted | ⟨-, value⟩⟩
    · exact absurd null notNull
    · exact acceptShape_ne_null files customFree.here notNull
        (fun child member _ _ childAnswer => ih child member (customFree.ofChild member)
          (static.ofChild member) childAnswer) accepted
    · exact byDefault value

/-! ## Settled values -/

/-- A descriptor accepts its own answers again, under names that treat identifiers in one way, and
answers something close. -/
def Settles (context : Context) (file : String → Value → Document → Option Value) (doc : Document)
    (close : Value → Value → Prop) (isId : Bool) (d : Descriptor) : Prop :=
  ∀ name, isIdName name = isId → ∀ v c, v.Ordered →
    context.validatePart file name d v doc = .ok c →
      ∃ c', context.validatePart file name d c doc = .ok c' ∧ close c' c

/-- What a single descriptor needs for its answers to be settled. -/
structure Steady (context : Context) (file : String → Value → Document → Option Value)
    (doc : Document) (close : Value → Value → Prop) (isId : Bool) (d : Descriptor) : Prop where
  fixed : ∀ value, d.default = some (.static value) → ∀ name, isIdName name = isId → ∀ c,
    context.acceptShape file (context.acceptCustom .deep name d) name d.shape value doc = some c →
      close c value
  key : ∀ key val required length, d.shape = .dict key val required length → key.DefaultFree
  fields : ∀ fields, d.shape = .record fields → Entries.Ascending fields
  choice : ∀ alternatives, d.shape.Offers alternatives →
    (∀ child ∈ alternatives, context.Settles file doc close isId child) →
    ∀ name, isIdName name = isId → ∀ v c, v.Ordered →
      context.acceptFirst file name alternatives v doc = some c →
        ∃ c', context.acceptFirst file name alternatives c doc = some c' ∧ close c' c

/-- What validation of files needs for its answers to be settled. -/
structure FilesSettle (file : String → Value → Document → Option Value) (doc : Document)
    (close : Value → Value → Prop) (isId : Bool) : Prop where
  again : ∀ name, isIdName name = isId → ∀ v c, v.Ordered → file name v doc = some c →
    ∃ c', file name c doc = some c' ∧ close c' c
  ne_null : ∀ name v, file name v doc ≠ some .null
  text : ∀ name k, file name (.str k) doc = none

section Composites

variable {close : Value → Value → Prop} {isId : Bool} {alternatives : List Descriptor}
  {key val : Descriptor} {required : List String} {length : Option LengthRange}
  {fields : List (String × Descriptor)}

theorem settles_list (closeness : Closeness close)
    (choice : ∀ name, isIdName name = isId → ∀ v c, v.Ordered →
      context.acceptFirst file name alternatives v doc = some c →
        ∃ c', context.acceptFirst file name alternatives c doc = some c' ∧ close c' c)
    (named : isIdName name = isId) (ordered : v.Ordered)
    (accepted : context.acceptShape file custom name (.list alternatives length) v doc = some c) :
    ∃ c', context.acceptShape file custom name (.list alternatives length) c doc = some c' ∧
      close c' c := by
  obtain ⟨items, canonical, rfl, fits, rfl, same, each⟩ := acceptShape_list_eq_some_iff.1 accepted
  have again : ∀ part ∈ canonical.zipIdx, ∃ part',
      context.acceptFirst file (partName name (toString part.2)) alternatives part.1 doc =
        some part' ∧ close part' part.1 := by
    intro place member
    obtain ⟨part, i⟩ := place
    have found : canonical[i]? = some part := by simpa using List.mem_zipIdx_iff_getElem?.1 member
    obtain ⟨bound, -⟩ := List.getElem?_eq_some_iff.1 found
    have item := List.getElem?_eq_getElem (same ▸ bound)
    exact choice _ ((isIdName_partName name _).trans named) _ part
      (ordered.ofItem (List.mem_of_getElem? item)) (each i _ part item found)
  obtain ⟨canonical', pairs⟩ := exists_forall₂ again
  obtain ⟨same', each'⟩ := forall₂_zipIdx_iff.1 pairs
  refine ⟨.list canonical', acceptShape_list_eq_some_iff.2 ⟨canonical, canonical', rfl,
    same ▸ fits, rfl, same', fun i part part' left right => (each' i part part' left right).1⟩,
    closeness.list (forall₂_iff_getElem?.2 ⟨same'.symm, fun i part' part left right =>
      (each' i part part' right left).2⟩)⟩

/-- The answers to the fields of a record, taken as its entries, are answered again. -/
theorem settles_fields {entries canonical : Document} (ascending : Entries.Ascending fields)
    (settles : ∀ field ∈ fields, context.Settles file doc close isId field.2)
    (named : isIdName name = isId) (ordered : (Value.map entries).Ordered)
    (answers : context.acceptFields file name fields entries doc = some canonical)
    (keys : Entries.keys canonical = Entries.keys fields) :
    ∀ field ∈ fields, ∃ entry : String × Value, field.1 = entry.1 ∧
      context.validatePart file (partName name field.1) field.2
          ((Entries.get? canonical field.1).getD .null) doc = .ok entry.2 ∧
        ∀ part, Entries.get? canonical field.1 = some part → close entry.2 part := by
  intro field member
  obtain ⟨k, child⟩ := field
  obtain ⟨part, held⟩ : ∃ part, Entries.get? canonical k = some part := by
    rw [← Entries.hasKey_iff_exists, Entries.hasKey_iff_mem, keys]
    exact List.mem_map_of_mem member
  have answer := Entries.rel_of_get? (r := fun k child part =>
    context.validatePart file (partName name k) child ((Entries.get? entries k).getD .null) doc =
      .ok part) (acceptFields_eq_some_iff.1 answers) (ascending.get?_of_mem member) held
  obtain ⟨part', answer', near⟩ := settles _ member _ ((isIdName_partName name k).trans named) _ _
    (ordered.getD k) answer
  refine ⟨(k, part'), rfl, ?_, ?_⟩
  · rw [held]
    exact answer'
  · intro other found
    rw [held] at found
    cases found
    exact near

theorem settles_record (closeness : Closeness close) (ascending : Entries.Ascending fields)
    (settles : ∀ field ∈ fields, context.Settles file doc close isId field.2)
    (named : isIdName name = isId) (ordered : v.Ordered)
    (accepted : context.acceptShape file custom name (.record fields) v doc = some c) :
    ∃ c', context.acceptShape file custom name (.record fields) c doc = some c' ∧ close c' c := by
  obtain ⟨entries, canonical, rfl, answers, -, rfl⟩ := acceptShape_record_eq_some_iff.1 accepted
  have keys : Entries.keys canonical = Entries.keys fields :=
    Entries.keys_eq_of_forall₂ (acceptFields_eq_some_iff.1 answers) fun _ _ both => both.1
  obtain ⟨canonical', pairs⟩ :=
    exists_forall₂ (settles_fields ascending settles named ordered answers keys)
  have keys' : Entries.keys canonical' = Entries.keys fields :=
    Entries.keys_eq_of_forall₂ pairs fun _ _ both => both.1
  refine ⟨.map canonical', acceptShape_record_eq_some_iff.2 ⟨canonical, canonical', rfl,
    acceptFields_eq_some_iff.2 (pairs.imp fun _ _ both => ⟨both.1, both.2.1⟩), fun k member => ?_,
    rfl⟩, closeness.map (Entries.forall₂_of_get? (r := fun _ => close)
      (keys' ▸ ascending.nodup_keys) (keys.trans keys'.symm) fun k part' part found' found => ?_)⟩
  · rwa [Entries.hasKey_iff_mem, ← keys]
  · obtain ⟨child, declared⟩ : ∃ child, Entries.get? fields k = some child := by
      rw [← Entries.hasKey_iff_exists, Entries.hasKey_iff_mem, ← keys]
      exact Entries.hasKey_iff_mem.1 (Entries.hasKey_iff_exists.2 ⟨part, found⟩)
    have both := Entries.rel_of_get? (r := fun k child part' =>
      context.validatePart file (partName name k) child ((Entries.get? canonical k).getD .null)
          doc = .ok part' ∧
        ∀ part, Entries.get? canonical k = some part → close part' part) pairs declared found'
    exact both.2 part found

theorem settles_dict (closeness : Closeness close) (customFree : key.CustomFree)
    (defaultFree : key.DefaultFree) (noFile : ∀ name k, file name (.str k) doc = none)
    (settles : context.Settles file doc close isId val)
    (named : isIdName name = isId) (ordered : v.Ordered)
    (accepted : context.acceptShape file custom name (.dict key val required length) v doc =
      some c) :
    ∃ c', context.acceptShape file custom name (.dict key val required length) c doc = some c' ∧
      close c' c := by
  obtain ⟨entries, canonical, rfl, fits, present, rfl, each⟩ :=
    acceptShape_dict_eq_some_iff.1 accepted
  have keys := keys_unchanged noFile defaultFree customFree each
  have ascending : Entries.Ascending canonical := ordered.ascending.of_keys_eq keys
  have again : ∀ entry ∈ canonical, ∃ entry' : String × Value,
      context.EntryAccepted file name key val doc entry entry' ∧ entry'.1 = entry.1 ∧
        close entry'.2 entry.2 := by
    intro entry member
    obtain ⟨source, held, ⟨canonicalKey, keyAnswer, written⟩, answer⟩ :=
      exists_of_mem_right each member
    have same := keyText_unchanged (noFile · source.1) defaultFree customFree keyAnswer written
    rw [← same] at keyAnswer answer
    obtain ⟨part', answer', near⟩ := settles _ ((isIdName_partName name _).trans named) _ _
      (ordered.ofEntry held) answer
    exact ⟨(entry.1, part'), ⟨⟨canonicalKey, keyAnswer, written⟩, answer'⟩, rfl, near⟩
  obtain ⟨canonical', pairs⟩ := exists_forall₂ again
  have keys' : Entries.keys canonical' = Entries.keys canonical :=
    Entries.keys_eq_of_forall₂ pairs fun _ _ both => both.2.1.symm
  rw [Entries.ofList_of_ascending ascending]
  refine ⟨.map canonical', acceptShape_dict_eq_some_iff.2 ⟨canonical, canonical', rfl,
    each.length_eq ▸ fits, fun k member => ?_, ?_, pairs.imp fun _ _ both => both.1⟩,
    closeness.map (pairs.imp fun _ _ both => both.2).flip⟩
  · rw [Entries.hasKey_iff_mem, keys, ← Entries.hasKey_iff_mem]
    exact present k member
  · rw [Entries.ofList_of_ascending (ascending.of_keys_eq keys')]

/-- The kind of a descriptor settles its values when its children do. -/
theorem settles_of_acceptShape (closeness : Closeness close)
    (noFallback : ∀ name, context.config.strategy ≠ .fallback name)
    (files : FilesSettle file doc close isId) (customFree : d.CustomFree)
    (steady : context.Steady file doc close isId d)
    (children : ∀ child ∈ d.children, context.Settles file doc close isId child)
    (named : isIdName name = isId) (ordered : v.Ordered)
    (accepted : context.acceptShape file custom name d.shape v doc = some c) :
    ∃ c', context.acceptShape file custom name d.shape c doc = some c' ∧ close c' c := by
  cases composite : d.shape.isComposite with
  | false =>
    obtain ⟨c', again, alike⟩ := acceptShape_again noFallback composite customFree.here accepted
    exact ⟨c', again, closeness.of_alike alike⟩
  | true =>
    obtain ⟨shape, default, nullable⟩ := d
    cases shape with
    | file => exact files.again name named v c ordered accepted
    | list alternatives length =>
      exact settles_list closeness (steady.choice alternatives (.inr ⟨length, rfl⟩) children) named
        ordered accepted
    | union alternatives =>
      rw [Descriptor.shape, acceptShape] at accepted
      exact steady.choice alternatives (.inl rfl) children name named v c ordered accepted
    | dict key val required length =>
      exact settles_dict closeness (customFree.ofChild (List.mem_cons_self ..))
        (steady.key key val required length rfl) files.text
        (children val (by simp [Descriptor.children, Descriptor.shape, Shape.children])) named
        ordered accepted
    | record fields =>
      exact settles_record closeness (steady.fields fields rfl)
        (fun field member => children field.2 (List.mem_map_of_mem member)) named ordered accepted
    | _ => cases composite

end Composites

section Descriptors

variable {close : Value → Value → Prop} {isId : Bool}

/-- The value of a fixed default settles: the kind refuses it, or makes something close of it. -/
theorem settles_default (steady : context.Steady file doc close isId d)
    (closeness : Closeness close) (static : d.StaticDefaults) (named : isIdName name = isId)
    (value : context.defaultValue? d.default doc = some c) :
    ∃ c', context.validatePart file name d c doc = .ok c' ∧ close c' c := by
  cases held : d.default with
  | none =>
    rw [held] at value
    cases value
  | some default =>
    obtain ⟨fixed, rfl, notNull⟩ := static.here default held
    have same := value
    rw [held] at same
    cases same
    cases accepted : context.acceptShape file (context.acceptCustom .deep name d) name d.shape c doc
      with
    | some c' =>
      exact ⟨c', validatePart_of_accepted notNull accepted,
        steady.fixed c held name named c' accepted⟩
    | none =>
      exact ⟨c, validatePart_eq_ok_iff.2 (.inr ⟨notNull, .inr ⟨accepted, value⟩⟩),
        closeness.of_alike (.refl c)⟩

/-- Descriptors without custom validators and generators settle their values when each one that
occurs is steady. -/
theorem settles_of_steady (closeness : Closeness close)
    (noFallback : ∀ name, context.config.strategy ≠ .fallback name)
    (files : FilesSettle file doc close isId) (customFree : d.CustomFree)
    (static : d.StaticDefaults)
    (steady : d.Throughout (context.Steady file doc close isId)) :
    context.Settles file doc close isId d := by
  induction d using Descriptor.byChildren with
  | step d ih =>
    intro name named v c ordered answer
    rcases validatePart_eq_ok_iff.1 answer with
      ⟨-, value | ⟨lacking, nullable, rfl⟩⟩ | ⟨notNull, accepted | ⟨-, value⟩⟩
    · exact settles_default steady.here closeness static named value
    · exact ⟨.null, validatePart_eq_ok_iff.2 (.inl ⟨rfl, .inr ⟨lacking, nullable, rfl⟩⟩),
        closeness.of_alike (.refl _)⟩
    · obtain ⟨c', again, near⟩ := settles_of_acceptShape closeness noFallback files customFree
        steady.here (fun child member => ih child member (customFree.ofChild member)
          (static.ofChild member) (steady.ofChild member)) named ordered accepted
      have canonical := validatePart_ne_null (fun name => files.ne_null name v) customFree static
        notNull answer
      exact ⟨c', validatePart_of_accepted canonical again, near⟩
    · exact settles_default steady.here closeness static named value

end Descriptors

/-! ## Files -/

section Files

variable {close : Value → Value → Prop} {isId : Bool} {field : String}

/-- A descriptor without default whose kind has no parts has nothing to settle but its values. -/
theorem steady_of_leaf (noDefault : d.default = none) (leaf : d.children = [])
    (noRecord : d.kind ≠ .record) (noChoice : d.kind ≠ .list ∧ d.kind ≠ .union) :
    context.Steady file doc close isId d where
  fixed value held := by
    rw [noDefault] at held
    cases held
  key key val required length isDict := by
    rw [Descriptor.children, isDict] at leaf
    cases leaf
  fields fields isRecord := absurd (congrArg Shape.kind isRecord) noRecord
  choice alternatives offers := by
    rcases offers with isUnion | ⟨length, isList⟩
    · exact absurd (congrArg Shape.kind isUnion) noChoice.2
    · exact absurd (congrArg Shape.kind isList) noChoice.1

theorem steady_fileVariant (leaf : shape.children = []) (scalar : shape = .id ∨ shape = .bytes) :
    (fileVariant field shape).Throughout (context.Steady file doc close isId) := by
  refine Descriptor.throughout_fileVariant leaf ?_ fun part member => ?_
  · exact {
      fixed := fun value held => by cases held
      key := fun key val required length isDict => by cases isDict
      fields := fun fields isRecord => by
        cases isRecord
        exact Entries.ascending_ofList _
      choice := fun alternatives offers => by rcases offers with ⟨⟨⟩⟩ | ⟨length, ⟨⟩⟩ }
  · simp only [List.mem_cons, List.not_mem_nil, or_false] at member
    rcases member with rfl | rfl | rfl
    · exact steady_of_leaf rfl rfl (by decide) (by decide)
    · exact steady_of_leaf rfl rfl (by decide) (by decide)
    · rcases scalar with rfl | rfl <;> exact steady_of_leaf rfl rfl (by decide) (by decide)

theorem filesSettle_none : FilesSettle (fun _ _ _ => none) doc close isId where
  again _ _ _ _ _ accepted := by cases accepted
  ne_null _ _ accepted := by cases accepted
  text _ _ := rfl

theorem settles_fileVariant (noFallback : ∀ name, context.config.strategy ≠ .fallback name)
    (scalar : shape = .id ∨ shape = .bytes) :
    context.Settles (fun _ _ _ => none) doc Value.Alike isId (fileVariant field shape) := by
  have leaf : shape.children = [] := by rcases scalar with rfl | rfl <;> rfl
  have noCustom : shape.kind ≠ .custom := by rcases scalar with rfl | rfl <;> decide
  exact settles_of_steady closeness_alike noFallback filesSettle_none
    (Descriptor.customFree_fileVariant leaf noCustom)
    (Descriptor.defaultFree_fileVariant leaf).staticDefaults (steady_fileVariant leaf scalar)

/-- The canonical form of a file is a map, which is accepted again. -/
theorem fileForm_again (noFallback : ∀ name, context.config.strategy ≠ .fallback name)
    (ordered : v.Ordered)
    (answer : context.validatePart (fun _ _ _ => none) name .fileForm v doc = .ok c) :
    (∃ entries, c = .map entries) ∧ ∃ c',
      context.validatePart (fun _ _ _ => none) name .fileForm c doc = .ok c' ∧ c'.Alike c := by
  obtain ⟨-, accepted⟩ := fileForm_eq_ok_iff.1 answer
  have again {field : String} {shape : Shape} (scalar : shape = .id ∨ shape = .bytes)
      (made : context.validatePart (fun _ _ _ => none) name (fileVariant field shape) v doc =
        .ok c) := by
    have settles : context.Settles (fun _ _ _ => none) doc Value.Alike (isIdName name)
        (fileVariant field shape) := settles_fileVariant noFallback scalar
    exact settles name rfl v c ordered made
  rw [acceptFirst] at accepted
  cases reference : context.validatePart (fun _ _ _ => none) name (fileVariant "ref" .id) v doc with
  | ok canonical =>
    rw [reference] at accepted
    cases accepted
    obtain ⟨_, entries, -, rfl, -⟩ := keys_of_fileVariant reference
    obtain ⟨c', answer', alike⟩ := again (.inl rfl) reference
    refine ⟨⟨entries, rfl⟩, c', fileForm_eq_ok_iff.2 ⟨Value.noConfusion, ?_⟩, alike⟩
    rw [acceptFirst, answer']
  | error e =>
    rw [reference] at accepted
    have content := acceptFirst_singleton.1 accepted
    obtain ⟨_, entries, -, rfl, -, present⟩ := keys_of_fileVariant content
    obtain ⟨c', answer', alike⟩ := again (.inr rfl) content
    refine ⟨⟨entries, rfl⟩, c', fileForm_eq_ok_iff.2 ⟨Value.noConfusion, ?_⟩, alike⟩
    rw [acceptFirst]
    cases taken : context.validatePart (fun _ _ _ => none) name (fileVariant "ref" .id)
        (.map entries) doc with
    | ok other =>
      obtain ⟨_, _, ⟨⟩, -, declared, -⟩ := keys_of_fileVariant taken
      exact absurd (declared "content" (present "content" (by decide))) (by decide)
    | error e' => exact acceptFirst_singleton.2 answer'

theorem filesSettle_acceptFile (closeness : Closeness close)
    (noFallback : ∀ name, context.config.strategy ≠ .fallback name) :
    FilesSettle context.acceptFile doc close isId where
  again name _ v c ordered accepted := by
    obtain ⟨⟨entries, rfl⟩, c', again, alike⟩ := fileForm_again noFallback
      (ordered_fileOf ordered) (acceptFile_eq_some_iff.1 accepted)
    exact ⟨c', acceptFile_eq_some_iff.2 again, closeness.of_alike alike⟩
  ne_null name v accepted := by
    obtain ⟨-, canonical, ⟨⟩⟩ := acceptFile_isMap accepted
  text _ _ := acceptFile_str

end Files

end Context

end DocumentSchema

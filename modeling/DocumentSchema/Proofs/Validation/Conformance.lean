import DocumentSchema.Proofs.Validation.Keys
import DocumentSchema.Proofs.Validation.Localised
import DocumentSchema.Proofs.Value.Dictionary
import DocumentSchema.Proofs.Value.Order
import Mathlib.Tactic.Choose

/-!
Canonical values.

`Context.Conforms` says what the canonical values of a descriptor are, without reference to the
values that they come from: the value of its default, null where it stands for no value, or a value
of the form that the kind prescribes, whose parts conform in their turn. Whatever validation answers
conforms (`Context.conforms_of_validatePart`), and an update answers nothing but the form of the
kind.
-/

namespace DocumentSchema

/-! ## The forms of kinds -/

/-- A number lies in some range, or there are no ranges. -/
def NumericRange.Admit (ranges : List NumericRange) (x : Binary64) : Prop :=
  ranges = [] ∨ ∃ range ∈ ranges, range.contains x = true

/-- A text lies in some range at an instant, or there are no ranges. -/
def TemporalRange.Admit (ranges : List TemporalRange) (kind : TemporalKind) (text : String)
    (now : Instant) : Prop :=
  ranges = [] ∨ ∃ range ∈ ranges, range.contains kind text now = true

/-- Some allowed entry applies, or where none is given, no refused one does. -/
def DomainFilter.Admits (filter : DomainFilter) (applies : String → Prop) : Prop :=
  (∃ entry ∈ filter.allowed, applies entry) ∨
    filter.allowed = [] ∧ ∀ entry ∈ filter.refused, ¬applies entry

/-- Some allowed code starts the digits, where codes are given, and no refused one does. -/
def CodeFilter.Admits (filter : CodeFilter) (digits : List Char) : Prop :=
  (filter.allowed = [] ∨ ∃ code ∈ filter.allowed, Scalar.hasCode digits code = true) ∧
    ∀ code ∈ filter.refused, ¬Scalar.hasCode digits code = true

/-- The canonical values of the kinds without parts, under the name of an attribute. Those of a
custom kind are what its validator answers for the descriptor. -/
def Context.Form (context : Context) (name : String) (d : Descriptor) (c : Value) : Prop :=
  match d.shape with
  | .any => c ≠ .null
  | .bool => ∃ flag, c = .bool flag
  | .int ranges => ∃ n, c = .int n ∧ NumericRange.Admit ranges (Binary64.ofInt n.toInt)
  | .float ranges => ∃ x, c = .float x ∧ x.isNaN = false ∧ NumericRange.Admit ranges x
  | .str pattern => ∃ text, c = .str text ∧
      ∀ p ∈ pattern, p.regex.matchesWithin text = true
  | .bytes => ∃ content, c = .bytes content
  | .temporal kind ranges => ∃ text, c = .str text ∧ kind.isFormat text = true ∧
      TemporalRange.Admit ranges kind text context.now
  | .email filter => ∃ text, c = .str text ∧ Text.Format.isEmail text = true ∧
      filter.Admits fun domain =>
        Scalar.endsIn text (if filter.strict then "@" ++ domain else domain) = true
  | .webUri filter => ∃ text, c = .str text ∧ Text.Format.isWebUri text = true ∧
      filter.Admits fun domain => if filter.strict then Scalar.hostPart text = domain
        else Scalar.endsIn (Scalar.hostPart text) domain = true
  | .mailUri filter => ∃ text, c = .str text ∧ Text.Format.isMailUri text = true ∧
      filter.Admits fun domain => domain = Scalar.domainPart text
  | .telUri filter => ∃ text, c = .str text ∧ Text.Format.isTelUri text = true ∧
      filter.Admits (text.toList.drop 5)
  | .phone codes => ∃ text, c = .str text ∧ Text.Format.isPhone text = true ∧
      (codes = [] ∨ ∃ code ∈ codes, Scalar.hasCode (text.toList.drop 1) code = true)
  | .ip => ∃ text, c = .str text ∧ Text.Format.isIpv4 text = true
  | .id =>
      if isIdName name then ∃ i, c = .id i
      else ∃ text : String, c = .str text ∧ text.toList.length = 24 ∧
        ∀ digit ∈ text.toList, Text.IsHexDigit digit
  | .geoPoint => ∃ entries x y, c = .map entries ∧ entries.length = 2 ∧
      Entries.get? entries "type" = some (.str "Point") ∧
      Entries.get? entries "coordinates" = some (.list [x, y]) ∧
      x.number?.isSome = true ∧ y.number?.isSome = true
  | .locale => ∃ entries, c = .map entries ∧
      Localised.Canonical context.config context.registry entries
  | .localeCode => ∃ text, c = .str text ∧ text ∈ context.config.locales
  | .literal members => c ∈ members
  | .descriptor => ∃ d, Descriptor.ofRecord c = .ok d
  | .custom ref => ∃ mode called value, context.acceptCustom mode called d ref value = some c
  | _ => False

/-- A descriptor without default, or with one whose generator is not registered. -/
def Context.LacksDefault (context : Context) (d : Descriptor) : Prop :=
  d.default = none ∨
    ∃ generator, d.default = some (.named generator) ∧
      context.registry.generator? generator = none

/-- The canonical values of a descriptor under a name, in a document. -/
inductive Context.Conforms (context : Context) (doc : Document) :
    String → Descriptor → Value → Prop
  | default {name d c} :
    context.defaultValue? d.default doc = some c → Conforms context doc name d c
  | null {name d} : d.nullable = true → context.LacksDefault d → Conforms context doc name d .null
  | form {name d c} : context.Form name d c → Conforms context doc name d c
  | file {name d c} : d.shape = .file → Conforms context doc name .fileForm c →
      Conforms context doc name d c
  | list {name d alternatives length items} {chosen : Nat → Descriptor} :
      d.shape = .list alternatives length →
      lengthFits length items.length = true →
      (∀ i item, items[i]? = some item → chosen i ∈ alternatives) →
      (∀ i item, items[i]? = some item →
        Conforms context doc (partName name (toString i)) (chosen i) item) →
      Conforms context doc name d (.list items)
  | union {name d alternatives chosen c} : d.shape = .union alternatives → chosen ∈ alternatives →
      Conforms context doc name chosen c → Conforms context doc name d c
  | record {name d fields entries} : d.shape = .record fields →
      Entries.keys entries = Entries.keys fields →
      (∀ k child v, Entries.get? fields k = some child → Entries.get? entries k = some v →
        Conforms context doc (partName name k) child v) →
      Conforms context doc name d (.map entries)
  | dict {name d key val required length entries} {canonicalKey : String → Value} :
      d.shape = .dict key val required length →
      Entries.Ascending entries →
      (∀ k v, (k, v) ∈ entries → keyText? (canonicalKey k) = some k) →
      (∀ k v, (k, v) ∈ entries → Conforms context doc (partName name k) key (canonicalKey k)) →
      (∀ k v, (k, v) ∈ entries → Conforms context doc (partName name k) val v) →
      (key.DefaultFree → key.CustomFree → lengthFits length entries.length = true ∧
        ∀ k ∈ required, Entries.hasKey entries k = true) →
      Conforms context doc name d (.map entries)

/-- The canonical values of the kind of a descriptor, in which its default and null have no part.
The form of a kind without parts is that for the descriptor, of which custom validators are told. -/
def Context.CanonicalOfKind (context : Context) (doc : Document) (name : String) (d : Descriptor)
    (c : Value) : Prop :=
  if d.shape.isComposite then context.Conforms doc name (.ofShape d.shape) c
  else context.Form name d c

namespace Scalar

theorem inRanges_iff {ranges : List NumericRange} {x : Binary64} :
    inRanges ranges x = true ↔ NumericRange.Admit ranges x := by
  simp [inRanges, NumericRange.Admit]

theorem admits_iff {filter : DomainFilter} {isMatch : String → Bool} :
    admits filter isMatch = true ↔ filter.Admits fun entry => isMatch entry = true := by
  unfold admits DomainFilter.Admits
  cases filter.allowed with
  | nil => simp
  | cons first rest => simp

end Scalar

namespace Context

variable {context : Context} {file : String → Value → Document → Option Value}
  {custom : ValidatorRef → Value → Option Value} {mode : Mode} {name name' : String}
  {doc : Document} {d : Descriptor} {shape : Shape} {v c : Value}

/-- A text that passes a test has the property tested for. -/
theorem form_of_acceptText {test : String → Bool} {property : String → Prop}
    (implies : ∀ text, test text = true → property text)
    (accepted : Scalar.acceptText test v = some c) : ∃ text, c = .str text ∧ property text := by
  obtain ⟨text, -, passed, rfl⟩ := Scalar.acceptText_eq_some_iff.1 accepted
  exact ⟨text, rfl, implies text passed⟩

/-- What a kind without parts accepts has the form of the kind. -/
theorem form_of_acceptShape
    (accepted : context.acceptShape file (context.acceptCustom mode name d) name d.shape v doc =
      some c)
    (simple : d.shape.isComposite = false) : context.Form name d c := by
  obtain ⟨shape, default, nullable⟩ := d
  dsimp only [Descriptor.shape] at accepted
  cases shape with
  | any =>
    rw [acceptShape] at accepted
    split at accepted
    · cases accepted
    · next notNull =>
      cases accepted
      exact mt Value.isNull_iff.2 notNull
  | bool =>
    obtain ⟨flag, -, rfl⟩ := Scalar.acceptBool_eq_some_iff.1 accepted
    exact ⟨flag, rfl⟩
  | int ranges =>
    obtain ⟨n, -, ranged, rfl⟩ := Scalar.acceptInt_eq_some_iff.1 accepted
    exact ⟨n, rfl, Scalar.inRanges_iff.1 ranged⟩
  | float ranges =>
    obtain ⟨x, -, ranged, rfl⟩ := Scalar.acceptFloat_eq_some_iff.1 accepted
    exact ⟨x, rfl, Scalar.isNaN_of_acceptFloat accepted, Scalar.inRanges_iff.1 ranged⟩
  | str pattern =>
    refine form_of_acceptText (fun text passed p member => ?_) accepted
    rw [Option.mem_def.1 member] at passed
    exact passed
  | bytes =>
    obtain ⟨content, -, rfl⟩ := Scalar.acceptBytes_eq_some_iff.1 accepted
    exact ⟨content, rfl⟩
  | temporal kind ranges =>
    refine form_of_acceptText (fun text passed => ?_) accepted
    simpa [TemporalRange.Admit] using passed
  | email filter =>
    refine form_of_acceptText (fun text passed => ?_) accepted
    rwa [Bool.and_eq_true, Scalar.admits_iff] at passed
  | webUri filter =>
    refine form_of_acceptText (fun text passed => ?_) accepted
    rw [Bool.and_eq_true, Scalar.admits_iff] at passed
    refine ⟨passed.1, ?_⟩
    cases strict : filter.strict <;> simpa [strict] using passed.2
  | mailUri filter =>
    refine form_of_acceptText (fun text passed => ?_) accepted
    rw [Bool.and_eq_true, Scalar.admits_iff] at passed
    simpa using passed
  | telUri filter =>
    refine form_of_acceptText (fun text passed => ?_) accepted
    simpa [CodeFilter.Admits, and_assoc] using passed
  | phone codes =>
    refine form_of_acceptText (fun text passed => ?_) accepted
    simpa using passed
  | ip => exact form_of_acceptText (fun text passed => passed) accepted
  | id =>
    obtain ⟨i, -, rfl⟩ := Scalar.acceptId_eq_some_iff.1 accepted
    dsimp only [Form, Descriptor.shape]
    split
    · exact ⟨i, rfl⟩
    · exact ⟨i.hex, rfl, i.length_hex, fun digit member => ObjectId.isHexDigit_of_mem_hex member⟩
  | geoPoint =>
    obtain ⟨entries, x, y, rfl, two, type, coordinates, left, right, rfl⟩ :=
      Scalar.acceptGeoPoint_eq_some_iff.1 accepted
    exact ⟨entries, x, y, rfl, two, type, coordinates, left, right⟩
  | locale => exact Localised.canonical_of_accept accepted
  | localeCode =>
    refine form_of_acceptText (fun text passed => ?_) accepted
    simpa [Config.isRegistered] using passed
  | literal members => exact (Scalar.acceptLiteral_eq_some accepted).1
  | descriptor =>
    rw [acceptShape] at accepted
    split at accepted
    · next decoded read =>
      cases accepted
      exact ⟨decoded, read⟩
    · cases accepted
  | custom ref => exact ⟨mode, name, v, accepted⟩
  | _ => cases simple

/-- Only kinds without parts have a form of their own. -/
theorem isComposite_of_form (form : context.Form name d c) : d.shape.isComposite = false := by
  obtain ⟨shape, default, nullable⟩ := d
  cases shape with
  | file | list _ _ | union _ | dict _ _ _ _ | record _ => exact False.elim form
  | _ => rfl

/-- The form depends on the name only by whether it is that of identifiers. -/
theorem form_rename (same : isIdName name = isIdName name') (form : context.Form name d c) :
    context.Form name' d c := by
  obtain ⟨shape, default, nullable⟩ := d
  cases shape with
  | id => simpa only [Form, Descriptor.shape, same] using form
  | _ => exact form

/-- The name of an attribute has a say in identifiers alone. -/
theorem Conforms.rename (conforms : context.Conforms doc name d c)
    (same : isIdName name = isIdName name') : context.Conforms doc name' d c := by
  induction conforms generalizing name' with
  | default value => exact .default value
  | null nullable lacking => exact .null nullable lacking
  | form form => exact .form (form_rename same form)
  | file isFile _ ih => exact .file isFile (ih same)
  | list isList fits chosen _ ih =>
    exact .list isList fits chosen fun i item found =>
      ih i item found (isIdName_partName_congr same _ _)
  | union isUnion member _ ih => exact .union isUnion member (ih same)
  | record isRecord keys _ ih =>
    exact .record isRecord keys fun k child v declared found =>
      ih k child v declared found (isIdName_partName_congr same _ _)
  | dict isDict ascending written _ _ conditions ihKey ihVal =>
    exact .dict isDict ascending written
      (fun k v member => ihKey k v member (isIdName_partName_congr same _ _))
      (fun k v member => ihVal k v member (isIdName_partName_congr same _ _)) conditions

/-! ## Soundness -/

/-- When no default applies. -/
theorem lacksDefault_iff : context.LacksDefault d ↔ context.defaultValue? d.default doc = none := by
  unfold LacksDefault defaultValue?
  cases d.default with
  | none => simp
  | some default => cases default <;> simp

section Composites

variable {alternatives : List Descriptor} {key val : Descriptor} {required : List String}
  {length : Option LengthRange} {fields : List (String × Descriptor)}

/-- The answers of a descriptor to ordered values conform. -/
def Sound (context : Context) (file : String → Value → Document → Option Value) (doc : Document)
    (d : Descriptor) : Prop :=
  ∀ name v c, v.Ordered → context.validatePart file name d v doc = .ok c →
    context.Conforms doc name d c

/-- What one of several alternatives accepts conforms to it. -/
theorem conforms_of_acceptFirst (sound : ∀ child ∈ alternatives, context.Sound file doc child)
    (ordered : v.Ordered)
    (accepted : context.acceptFirst file name alternatives v doc = some c) :
    ∃ chosen ∈ alternatives, context.Conforms doc name chosen c := by
  obtain ⟨chosen, member, answer⟩ := exists_mem_of_acceptFirst accepted
  exact ⟨chosen, member, sound chosen member name v c ordered answer⟩

/-- An accepted list conforms, as its elements do. -/
theorem conforms_list (sound : ∀ child ∈ alternatives, context.Sound file doc child)
    (ordered : v.Ordered)
    (accepted : context.acceptShape file custom name (.list alternatives length) v doc = some c) :
    context.Conforms doc name (.ofShape (.list alternatives length)) c := by
  obtain ⟨items, canonical, rfl, fits, rfl, same, each⟩ := acceptShape_list_eq_some_iff.1 accepted
  have some_chosen (i : Nat) : ∃ chosen, ∀ part, canonical[i]? = some part →
      chosen ∈ alternatives ∧ context.Conforms doc (partName name (toString i)) chosen part := by
    cases found : canonical[i]? with
    | none => exact ⟨.ofShape .any, by simp⟩
    | some part =>
      obtain ⟨bound, -⟩ := List.getElem?_eq_some_iff.1 found
      have item := List.getElem?_eq_getElem (same ▸ bound)
      obtain ⟨chosen, member, conforms⟩ := conforms_of_acceptFirst sound
        (ordered.ofItem (List.mem_of_getElem? item)) (each i _ part item found)
      exact ⟨chosen, fun _ same => by cases same; exact ⟨member, conforms⟩⟩
  choose chosen conforms using some_chosen
  exact .list rfl (same ▸ fits) (fun i item found => (conforms i item found).1)
    fun i item found => (conforms i item found).2

/-- An accepted record conforms, as its fields do. -/
theorem conforms_record (sound : ∀ field ∈ fields, context.Sound file doc field.2)
    (ordered : v.Ordered)
    (accepted : context.acceptShape file custom name (.record fields) v doc = some c) :
    context.Conforms doc name (.ofShape (.record fields)) c := by
  obtain ⟨entries, canonical, rfl, answers, declared, rfl⟩ :=
    acceptShape_record_eq_some_iff.1 accepted
  rw [acceptFields_eq_some_iff] at answers
  refine .record rfl (Entries.keys_eq_of_forall₂ answers fun _ _ both => both.1)
    fun k child part declared found => ?_
  have answer := Entries.rel_of_get? (r := fun k child part =>
    context.validatePart file (partName name k) child ((Entries.get? entries k).getD .null) doc =
      .ok part) answers declared found
  exact sound _ (Entries.mem_of_get? declared) _ _ _ (ordered.getD k) answer

/-- An accepted dictionary conforms, as its keys and values do. -/
theorem conforms_dict (soundKey : context.Sound file doc key)
    (soundVal : context.Sound file doc val)
    (noFile : ∀ name k, file name (.str k) doc = none) (ordered : v.Ordered)
    (accepted : context.acceptShape file custom name (.dict key val required length) v doc =
      some c) :
    context.Conforms doc name (.ofShape (.dict key val required length)) c := by
  obtain ⟨entries, canonical, rfl, fits, present, rfl, each⟩ :=
    acceptShape_dict_eq_some_iff.1 accepted
  have source {k : String} {part : Value} (member : (k, part) ∈ Entries.ofList canonical) :
      ∃ canonicalKey, keyText? canonicalKey = some k ∧
        context.Conforms doc (partName name k) key canonicalKey ∧
        context.Conforms doc (partName name k) val part := by
    obtain ⟨entry, held, ⟨canonicalKey, keyAnswer, written⟩, answer⟩ :=
      exists_of_mem_right each (Entries.mem_of_mem_ofList member)
    have same := isIdName_partName_congr (rfl : isIdName name = isIdName name) entry.1 k
    exact ⟨canonicalKey, written, (soundKey _ _ _ (by simp [Value.Ordered]) keyAnswer).rename same,
      (soundVal _ _ _ (ordered.ofEntry held) answer).rename same⟩
  have some_key (k : String) : ∃ canonicalKey, ∀ part, (k, part) ∈ Entries.ofList canonical →
      keyText? canonicalKey = some k ∧
        context.Conforms doc (partName name k) key canonicalKey := by
    by_cases found : ∃ part, (k, part) ∈ Entries.ofList canonical
    · obtain ⟨part, member⟩ := found
      obtain ⟨canonicalKey, written, conforms, -⟩ := source member
      exact ⟨canonicalKey, fun _ _ => ⟨written, conforms⟩⟩
    · exact ⟨.null, fun part member => absurd ⟨part, member⟩ found⟩
  choose canonicalKey keyConforms using some_key
  refine .dict rfl (Entries.ascending_ofList canonical)
    (fun k part member => (keyConforms k part member).1)
    (fun k part member => (keyConforms k part member).2)
    (fun k part member => (source member).elim fun _ found => found.2.2) ?_
  intro defaultFree customFree
  have keys := keys_unchanged noFile defaultFree customFree each
  have same : Entries.ofList canonical = canonical :=
    Entries.ofList_of_ascending (ordered.ascending.of_keys_eq keys)
  rw [same, ← each.length_eq]
  refine ⟨fits, fun k member => ?_⟩
  rw [Entries.hasKey_iff_mem, keys, ← Entries.hasKey_iff_mem]
  exact present k member

end Composites

/-- What the kind of a descriptor makes of a value is canonical when the answers of its children
conform. -/
theorem canonicalOfKind_of_acceptShape
    (files : ∀ name v c, v.Ordered → file name v doc = some c →
      context.Conforms doc name .fileForm c)
    (noFile : ∀ name k, file name (.str k) doc = none)
    (sound : ∀ child ∈ d.children, context.Sound file doc child) (ordered : v.Ordered)
    (accepted : context.acceptShape file (context.acceptCustom mode name d) name d.shape v doc =
      some c) :
    context.CanonicalOfKind doc name d c := by
  cases composite : d.shape.isComposite with
  | false =>
    rw [CanonicalOfKind, composite, if_neg Bool.false_ne_true]
    exact form_of_acceptShape accepted composite
  | true =>
    rw [CanonicalOfKind, if_pos composite]
    obtain ⟨shape, default, nullable⟩ := d
    cases shape with
    | file => exact .file rfl (files name v c ordered accepted)
    | list alternatives length => exact conforms_list sound ordered accepted
    | union alternatives =>
      rw [Descriptor.shape, acceptShape] at accepted
      obtain ⟨chosen, member, conforms⟩ := conforms_of_acceptFirst sound ordered accepted
      exact .union rfl member conforms
    | dict key val required length =>
      exact conforms_dict (sound key (List.mem_cons_self ..))
        (sound val (List.mem_cons_of_mem _ (List.mem_cons_self ..))) noFile ordered accepted
    | record fields =>
      exact conforms_record (fun field member => sound field.2 (List.mem_map_of_mem member)) ordered
        accepted
    | _ => cases composite

/-- What is canonical of the kind conforms, whatever the default. -/
theorem CanonicalOfKind.conforms (canonical : context.CanonicalOfKind doc name d c) :
    context.Conforms doc name d c := by
  cases composite : d.shape.isComposite with
  | false =>
    rw [CanonicalOfKind, composite, if_neg Bool.false_ne_true] at canonical
    exact .form canonical
  | true =>
    rw [CanonicalOfKind, if_pos composite] at canonical
    cases canonical with
    | default value => cases value
    | null nullable _ => cases nullable
    | form form =>
      have simple : (Descriptor.ofShape d.shape).shape.isComposite = false :=
        isComposite_of_form form
      cases simple.symm.trans composite
    | file isFile inner => exact .file isFile inner
    | list isList fits chosen each => exact .list isList fits chosen each
    | union isUnion member inner => exact .union isUnion member inner
    | record isRecord keys each => exact .record isRecord keys each
    | dict isDict ascending written keys vals conditions =>
      exact .dict isDict ascending written keys vals conditions

/-- What is answered conforms if what is accepted is canonical of its kind. -/
theorem conforms_of_answers {accepted : Option Value}
    (answers : context.Answers d doc v accepted c)
    (sound : accepted = some c → context.CanonicalOfKind doc name d c) :
    context.Conforms doc name d c := by
  rcases answers with ⟨-, value | ⟨lacking, nullable, rfl⟩⟩ | ⟨-, value | ⟨-, value⟩⟩
  · exact .default value
  · exact .null nullable (lacksDefault_iff.2 lacking)
  · exact (sound value).conforms
  · exact .default value

/-- Whatever a descriptor answers to a part of a value conforms to it, provided that files do. -/
theorem sound (files : ∀ name v c, v.Ordered → file name v doc = some c →
      context.Conforms doc name .fileForm c)
    (noFile : ∀ name k, file name (.str k) doc = none) (d : Descriptor) :
    context.Sound file doc d := by
  induction d using Descriptor.byChildren with
  | step d ih =>
    intro name v c ordered answer
    exact conforms_of_answers (validatePart_eq_ok_iff.1 answer)
      (canonicalOfKind_of_acceptShape files noFile ih ordered)

/-- An accepted file conforms to the form of files. -/
theorem conforms_of_acceptFile (ordered : v.Ordered)
    (accepted : context.acceptFile name v doc = some c) :
    context.Conforms doc name .fileForm c :=
  sound (fun _ _ _ _ found => by cases found) (fun _ _ => rfl) .fileForm name (fileOf v) c
    (ordered_fileOf ordered) (acceptFile_eq_some_iff.1 accepted)

/-- What is accepted is canonical of its kind. -/
theorem canonicalOfKind_of_accept (ordered : v.Ordered)
    (accepted : context.accept mode name d v doc = some c) :
    context.CanonicalOfKind doc name d c :=
  canonicalOfKind_of_acceptShape (fun _ _ _ ordered found => conforms_of_acceptFile ordered found)
    (fun _ _ => acceptFile_str)
    (fun child _ => sound (fun _ _ _ ordered found => conforms_of_acceptFile ordered found)
      (fun _ _ => acceptFile_str) child)
    ordered accepted

/-- Whatever validation answers conforms to the descriptor. In an update, null stands for itself,
and what answers every other value that is no request is canonical of the kind. -/
theorem conforms_of_validate (ordered : v.Ordered)
    (answer : context.validate mode name d v doc = .ok c) :
    (mode ≠ .update → context.Conforms doc name d c) ∧
      (mode = .update → v = .null → c = .null) ∧
      (mode = .update → v ≠ .null → ¬IsRequest v → context.CanonicalOfKind doc name d c) := by
  refine ⟨fun create => ?_, ?_, ?_⟩
  · exact conforms_of_answers ((validate_eq_ok_iff create).1 answer)
      (canonicalOfKind_of_accept ordered)
  · intro same same'
    subst same
    subst same'
    rw [validate_update_null] at answer
    cases answer
    rfl
  · intro same notNull plain
    subst same
    exact canonicalOfKind_of_accept ordered ((validate_update_eq_ok_iff notNull plain).1 answer)

/-- Digits in a list become integers, which conform. -/
theorem conforms_of_validate_digits :
    (Value.list [.str "5", .int 7]).Ordered ∧
      initial.validate .create "counts" (.ofShape (.list [.ofShape (.int [])] none))
        (.list [.str "5", .int 7]) [] = .ok (.list [.int 5, .int 7]) ∧
      initial.Conforms [] "counts" (.ofShape (.list [.ofShape (.int [])] none))
        (.list [.int 5, .int 7]) :=
  have ordered : (Value.list [.str "5", .int 7]).Ordered := by
    simp [Value.Ordered, Value.OrderedList]
  have answer : initial.validate .create "counts" (.ofShape (.list [.ofShape (.int [])] none))
      (.list [.str "5", .int 7]) [] = .ok (.list [.int 5, .int 7]) := rfl
  ⟨ordered, answer, (conforms_of_validate ordered answer).1 (by decide)⟩

/-- A default whose generator is not registered is no default: null passes beside it. -/
theorem validate_null_beside_default :
    ¬∀ (context : Context) (name : String) (d : Descriptor) (doc : Document) (v c : Value),
      v.Ordered → context.validate .create name d v doc = .ok c →
        context.defaultValue? d.default doc = some c ∨
        (c = .null ∧ d.nullable = true ∧ d.default = none) ∨
        context.CanonicalOfKind doc name d c := by
  intro strict
  have ordered : Value.null.Ordered := by simp [Value.Ordered]
  rcases strict initial "flag" (.mk .bool (some (.named "later")) true) [] .null .null ordered rfl
    with value | ⟨-, -, none⟩ | canonical
  · cases value
  · cases none
  · obtain ⟨flag, ⟨⟩⟩ : ∃ flag, Value.null = .bool flag := canonical

end Context

end DocumentSchema

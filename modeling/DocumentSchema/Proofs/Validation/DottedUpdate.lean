import DocumentSchema.Proofs.Path.Replacement
import DocumentSchema.Proofs.Validation.Documents
import DocumentSchema.Proofs.Validation.Reacceptance

/-!
Dotted updates keep documents valid.

The key of an update leads through descriptors to candidates (`Descriptor.updateCandidates`) and
through a value to a place in it (`Value.Replaced`). When a candidate accepts what is put there, the
whole value stays accepted (`Context.accepts_replaced`), and so does the document
(`Context.validate_after_update`).
-/

namespace DocumentSchema

/-! ## Walks of keys -/

namespace Descriptor

/-- The walk of segments through a descriptor passes no union, and passes a list with a choice of
alternatives with its last segment only. -/
def PlainWalk : Descriptor → List String → Prop
  | _, [] => True
  | d, segment :: rest =>
    match d.shape with
    | .record fields => ∀ field, Entries.get? fields segment = some field → PlainWalk field rest
    | .dict _ val _ _ => PlainWalk val rest
    | .list alternatives _ =>
      (2 ≤ alternatives.length → rest = []) ∧ ∀ child ∈ alternatives, PlainWalk child rest
    | .union _ => False
    | _ => True

/-- A candidate of an update occurs in the descriptor, or is the text of a locale. -/
theorem occurs_of_mem_updateCandidates {config : Config} {d candidate : Descriptor}
    {segments : List String} (member : candidate ∈ d.updateCandidates config segments) :
    Occurs candidate d ∨ candidate = plainText := by
  induction segments generalizing d with
  | nil =>
    rw [updateCandidates, List.mem_singleton] at member
    exact .inl (member ▸ .here)
  | cons segment rest ih =>
    have inside {child : Descriptor} (isChild : child ∈ d.children)
        (deeper : candidate ∈ child.updateCandidates config rest) :
        Occurs candidate d ∨ candidate = plainText :=
      (ih deeper).imp_left (.inside isChild)
    obtain ⟨shape, default, nullable⟩ := d
    rw [updateCandidates] at member
    cases shape with
    | any => exact .inl (List.mem_singleton.1 member ▸ .here)
    | record fields =>
      simp only [shape] at member
      split at member
      · next field found =>
        exact inside (List.mem_map_of_mem (Entries.mem_of_get? found)) member
      · cases member
    | dict key val required length =>
      exact inside (by simp [children, Descriptor.shape, Shape.children]) member
    | locale =>
      simp only [shape] at member
      split at member
      · rcases ih member with occurs | plain
        · cases occurs with
          | here => exact .inr rfl
          | inside isChild => cases isChild
        · exact .inr plain
      · cases member
    | list alternatives length =>
      simp only [shape] at member
      split at member
      · obtain ⟨child, isChild, deeper⟩ := List.mem_flatMap.1 member
        exact inside isChild deeper
      · cases member
    | union alternatives =>
      simp only [shape] at member
      split at member
      · next child found =>
        obtain ⟨i, -, held⟩ := Option.bind_eq_some_iff.1 found
        exact inside (List.mem_of_getElem? held) member
      · cases member
    | _ => cases member

end Descriptor

namespace Context

variable {context : Context} {custom : ValidatorRef → Value → Option Value}
  {name name' : String} {doc doc' out : Document}
  {d candidate : Descriptor} {v c w old after canonical : Value} {segments : List String}
  {schema : Schema} {root rest : String} {isId : Bool}

/-- A descriptor accepts a part of a value. -/
def Accepts (context : Context) (name : String) (d : Descriptor) (v : Value) : Prop :=
  ∃ c, context.validatePart context.acceptFile name d v [] = .ok c

theorem accepts_of_default (static : d.StaticDefaults) (held : d.default ≠ none) (name : String)
    (v : Value) : context.Accepts name d v := by
  obtain ⟨default, some⟩ := Option.ne_none_iff_exists'.1 held
  obtain ⟨value, rfl, -⟩ := static.here default some
  have isDefault : context.defaultValue? d.default [] = .some value := by rw [some]; rfl
  by_cases null : v = .null
  · exact ⟨value, validatePart_eq_ok_iff.2 (.inl ⟨null, .inl isDefault⟩)⟩
  · cases accepted : context.accept .deep name d v [] with
    | some c => exact ⟨c, validatePart_of_accepted null accepted⟩
    | none => exact ⟨value, validatePart_eq_ok_iff.2 (.inr ⟨null, .inr ⟨accepted, isDefault⟩⟩)⟩

theorem exists_accept (noDefault : d.default = none) (notNull : v ≠ .null)
    (accepted : context.Accepts name d v) :
    ∃ c, context.accept .deep name d v [] = some c := by
  obtain ⟨c, answer⟩ := accepted
  rcases validatePart_eq_ok_iff.1 answer with ⟨null, -⟩ | ⟨-, accepted | ⟨-, value⟩⟩
  · exact absurd null notNull
  · exact ⟨c, accepted⟩
  · rw [noDefault] at value
    cases value

/-! ## Replacement below a descriptor -/

section Parts

variable {fields : List (String × Descriptor)} {key val : Descriptor} {required : List String}
  {length : Option LengthRange} {alternatives : List Descriptor} {entries : Document}
  {items : List Value} {segment : String} {inner inner' : Value} {field : Descriptor} {i : Nat}

theorem acceptShape_record_insert (fieldsAscending : Entries.Ascending fields)
    (declared : Entries.get? fields segment = some field) (ascending : Entries.Ascending entries)
    (found : Entries.get? entries segment = some inner)
    (kept : context.Accepts (partName name segment) field inner →
      context.Accepts (partName name segment) field inner')
    (accepted : context.acceptShape context.acceptFile custom name (.record fields) (.map entries)
      [] = some c) :
    ∃ c', context.acceptShape context.acceptFile custom name (.record fields)
      (.map (Entries.insert segment inner' entries)) [] = some c' := by
  obtain ⟨_, canonical, ⟨⟩, answers, known, rfl⟩ := acceptShape_record_eq_some_iff.1 accepted
  rw [acceptFields_eq_some_iff] at answers
  have answered : ∀ field ∈ fields, ∃ entry : String × Value, field.1 = entry.1 ∧
      context.validatePart context.acceptFile (partName name field.1) field.2
        ((Entries.get? (Entries.insert segment inner' entries) field.1).getD .null) [] =
          .ok entry.2 := by
    intro field member
    obtain ⟨k, child⟩ := field
    obtain ⟨entry, -, -, answer⟩ := exists_of_mem_left answers member
    by_cases same : k = segment
    · subst same
      have isField := (fieldsAscending.get?_of_mem member).symm.trans declared
      cases isField
      rw [found] at answer
      obtain ⟨part, answer'⟩ := kept ⟨_, answer⟩
      refine ⟨(k, part), rfl, ?_⟩
      rw [Entries.get?_insert_self]
      exact answer'
    · refine ⟨(k, entry.2), rfl, ?_⟩
      rw [Entries.get?_insert_of_ne same]
      exact answer
  obtain ⟨canonical', pairs⟩ := exists_forall₂ answered
  have keys := Entries.keys_insert ascending (Entries.hasKey_iff_exists.2 ⟨inner, found⟩) inner'
  exact ⟨_, acceptShape_record_eq_some_iff.2 ⟨_, canonical', rfl,
    acceptFields_eq_some_iff.2 pairs, fun k member => known k (keys ▸ member), rfl⟩⟩

theorem acceptShape_dict_insert (ascending : Entries.Ascending entries)
    (found : Entries.get? entries segment = some inner)
    (kept : context.Accepts (partName name segment) val inner →
      context.Accepts (partName name segment) val inner')
    (accepted : context.acceptShape context.acceptFile custom name (.dict key val required length)
      (.map entries) [] = some c) :
    ∃ c', context.acceptShape context.acceptFile custom name (.dict key val required length)
      (.map (Entries.insert segment inner' entries)) [] = some c' := by
  obtain ⟨_, canonical, ⟨⟩, fits, present, rfl, each⟩ := acceptShape_dict_eq_some_iff.1 accepted
  have answered : ∀ entry ∈ Entries.insert segment inner' entries, ∃ canonical,
      context.EntryAccepted context.acceptFile name key val [] entry canonical := by
    intro entry member
    rcases Entries.mem_insert member with rfl | before
    · obtain ⟨other, -, keyAnswer, answer⟩ :=
        exists_of_mem_left each (Entries.mem_of_get? found)
      obtain ⟨part, answer'⟩ := kept ⟨_, answer⟩
      exact ⟨(other.1, part), keyAnswer, answer'⟩
    · obtain ⟨other, -, both⟩ := exists_of_mem_left each before
      exact ⟨other, both⟩
  obtain ⟨canonical', pairs⟩ := exists_forall₂ answered
  have keys := Entries.keys_insert ascending (Entries.hasKey_iff_exists.2 ⟨inner, found⟩) inner'
  have same : (Entries.insert segment inner' entries).length = entries.length := by
    simpa [Entries.keys] using congrArg List.length keys
  refine ⟨_, acceptShape_dict_eq_some_iff.2 ⟨_, canonical', rfl, same ▸ fits, fun k member => ?_,
    rfl, pairs⟩⟩
  rw [Entries.hasKey_iff_mem, keys, ← Entries.hasKey_iff_mem]
  exact present k member

theorem acceptShape_list_set (found : items[i]? = some inner)
    (kept : ∀ child ∈ alternatives, context.Accepts (partName name (toString i)) child inner →
      ∃ child' ∈ alternatives, context.Accepts (partName name (toString i)) child' inner')
    (accepted : context.acceptShape context.acceptFile custom name (.list alternatives length)
      (.list items) [] = some c) :
    ∃ c', context.acceptShape context.acceptFile custom name (.list alternatives length)
      (.list (items.set i inner')) [] = some c' := by
  obtain ⟨_, canonical, ⟨⟩, fits, rfl, same, each⟩ := acceptShape_list_eq_some_iff.1 accepted
  have answered : ∀ item ∈ (items.set i inner').zipIdx, ∃ part,
      context.acceptFirst context.acceptFile (partName name (toString item.2)) alternatives item.1
        [] = some part := by
    intro place member
    obtain ⟨item, j⟩ := place
    have held : (items.set i inner')[j]? = some item := by
      simpa using List.mem_zipIdx_iff_getElem?.1 member
    have answerAt {old : Value} (at_j : items[j]? = some old) : ∃ part,
        context.acceptFirst context.acceptFile (partName name (toString j)) alternatives old [] =
          some part := by
      obtain ⟨bound, -⟩ := List.getElem?_eq_some_iff.1 at_j
      have right := List.getElem?_eq_getElem (same.symm ▸ bound)
      exact ⟨_, each j old _ at_j right⟩
    by_cases here : i = j
    · subst here
      obtain ⟨bound, -⟩ := List.getElem?_eq_some_iff.1 found
      rw [List.getElem?_set_self bound] at held
      cases held
      obtain ⟨child, isChild, accepts⟩ := exists_acceptFirst_iff.1 (answerAt found)
      exact exists_acceptFirst_iff.2 (kept child isChild accepts)
    · rw [List.getElem?_set_ne here] at held
      exact answerAt held
  obtain ⟨canonical', pairs⟩ := exists_forall₂ answered
  obtain ⟨same', each'⟩ := forall₂_zipIdx_iff.1 pairs
  refine ⟨_, acceptShape_list_eq_some_iff.2 ⟨_, canonical', rfl, ?_, rfl, same', each'⟩⟩
  rw [List.length_set]
  exact fits

end Parts

theorem plainText_accepts (notNull : c ≠ .null) (fits : context.Accepts name .plainText c) :
    ∃ text, c = .str text := by
  obtain ⟨_, accepted⟩ := exists_accept rfl notNull fits
  obtain ⟨text, same, -⟩ := Scalar.acceptText_eq_some_iff.1 accepted
  exact ⟨text, same⟩

/-- The text of a locale is replaced by another text. -/
theorem acceptShape_locale_insert {entries : Document} {segment : String} {inner inner' : Value}
    {default : Option Default} {nullable : Bool}
    (noFallback : ∀ name, context.config.strategy ≠ .fallback name)
    (member : candidate ∈ (Descriptor.mk .locale default nullable).updateCandidates
      context.config (segment :: segments))
    (fits : context.Accepts name candidate c) (notNull : c ≠ .null)
    (deeper : inner.Replaced segments c inner')
    (accepted : context.acceptShape context.acceptFile custom name .locale (.map entries) [] =
      some canonical) :
    ∃ c', context.acceptShape context.acceptFile custom name .locale
      (.map (Entries.insert segment inner' entries)) [] = some c' := by
  rw [Descriptor.updateCandidates] at member
  simp only [Descriptor.shape] at member
  split at member
  · next registered =>
    cases segments with
    | nil =>
      rw [Descriptor.updateCandidates, List.mem_singleton] at member
      obtain ⟨text, rfl⟩ := plainText_accepts notNull (member ▸ fits)
      have isLocale : segment ∈ context.config.locales := by
        simpa [Config.isRegistered] using registered
      rw [show inner' = .str text from deeper]
      exact Localised.accept_insert noFallback accepted isLocale text
    | cons _ _ => cases member
  · cases member

/-- The item of a list that is replaced belongs to one alternative: the only one, or any of several
when the walk ends at the item. -/
theorem accepts_alternative {alternatives : List Descriptor} {child chosen : Descriptor}
    {inner inner' : Value} (choice : 2 ≤ alternatives.length → segments = [])
    (isChild : child ∈ alternatives) (isChosen : chosen ∈ alternatives)
    (last : segments = [] → context.Accepts name child inner')
    (kept : context.Accepts name child inner → context.Accepts name child inner')
    (accepts : context.Accepts name chosen inner) : context.Accepts name child inner' := by
  by_cases ends : segments = []
  · exact last ends
  · have several : ¬2 ≤ alternatives.length := fun more => ends (choice more)
    have some := List.length_pos_of_mem isChild
    obtain ⟨only, rfl⟩ := List.length_eq_one_iff.1 (show alternatives.length = 1 by omega)
    rw [List.mem_singleton] at isChild isChosen
    rw [isChosen, ← isChild] at accepts
    exact kept accepts

/-- One segment of a walk: what stays accepted below a descriptor stays accepted by its kind. -/
theorem acceptShape_setChild {segment : String} {inner inner' : Value} {shape : Shape}
    {default : Option Default} {nullable : Bool}
    (noFallback : ∀ name, context.config.strategy ≠ .fallback name)
    (fieldsAscend : ∀ fields, shape = .record fields → Entries.Ascending fields)
    (walk : (Descriptor.mk shape default nullable).PlainWalk (segment :: segments))
    (member : candidate ∈
      (Descriptor.mk shape default nullable).updateCandidates context.config (segment :: segments))
    (fits : ∀ name, isIdName name = isId → context.Accepts name candidate c) (notNull : c ≠ .null)
    (named : isIdName name = isId) (ordered : w.Ordered) (found : w.child? segment = some inner)
    (deeper : inner.Replaced segments c inner')
    (below : ∀ child ∈ shape.children, child.PlainWalk segments →
      candidate ∈ child.updateCandidates context.config segments → inner.Ordered →
        ∀ name, isIdName name = isId → context.Accepts name child inner →
          context.Accepts name child inner')
    (stands : context.acceptShape context.acceptFile custom name shape w [] = some canonical) :
    ∃ c', context.acceptShape context.acceptFile custom name shape (w.setChild segment inner') [] =
      some c' := by
  have namedBelow (part : String) : isIdName (partName name part) = isId :=
    (isIdName_partName name part).trans named
  have located := member
  rw [Descriptor.updateCandidates] at member
  rw [Descriptor.PlainWalk] at walk
  cases shape with
  | any =>
    have notNullAfter := (Value.ne_null_of_child? found inner').2
    refine ⟨w.setChild segment inner', ?_⟩
    rw [acceptShape, if_neg (mt Value.isNull_iff.1 notNullAfter)]
  | record fields =>
    simp only [Descriptor.shape] at member walk
    obtain ⟨entries, _, rfl, -⟩ := acceptShape_record_eq_some_iff.1 stands
    cases declared : Entries.get? fields segment with
    | none =>
      rw [declared] at member
      cases member
    | some field =>
      rw [declared] at member
      have isChild : field ∈ (Shape.record fields).children :=
        List.mem_map_of_mem (Entries.mem_of_get? declared)
      have innerOrdered := ordered.ofEntry (Entries.mem_of_get? found)
      have keeps :=
        below field isChild (walk field declared) member innerOrdered _ (namedBelow segment)
      rw [Value.setChild_map ordered found]
      exact acceptShape_record_insert (fieldsAscend fields rfl) declared ordered.ascending found
        keeps stands
  | dict key val required length =>
    simp only [Descriptor.shape] at member walk
    obtain ⟨entries, _, rfl, -⟩ := acceptShape_dict_eq_some_iff.1 stands
    have isChild : val ∈ (Shape.dict key val required length).children :=
      List.mem_pair.2 (.inr rfl)
    have innerOrdered := ordered.ofEntry (Entries.mem_of_get? found)
    rw [Value.setChild_map ordered found]
    exact acceptShape_dict_insert ordered.ascending found
      (below val isChild walk member innerOrdered _ (namedBelow segment)) stands
  | locale =>
    obtain ⟨entries, _, _, rfl, -⟩ := Localised.accept_eq_some_iff.1 stands
    rw [Value.setChild_map ordered found]
    exact acceptShape_locale_insert noFallback located (fits name named) notNull deeper stands
  | list alternatives length =>
    simp only [Descriptor.shape] at member walk
    obtain ⟨items, _, rfl, -⟩ := acceptShape_list_eq_some_iff.1 stands
    obtain ⟨i, index, held⟩ := Option.bind_eq_some_iff.1 found
    rw [show (Value.list items).setChild segment inner' = .list (items.set i inner') by
      rw [Value.setChild, index]]
    rw [index, Option.isSome_some, if_pos rfl] at member
    obtain ⟨child, isChild, member⟩ := List.mem_flatMap.1 member
    have innerOrdered := ordered.ofItem (List.mem_of_getElem? held)
    refine acceptShape_list_set held (fun chosen isChosen accepts => ⟨child, isChild, ?_⟩) stands
    refine accepts_alternative walk.1 isChild isChosen (fun last => ?_)
      (below child isChild (walk.2 child isChild) member innerOrdered _ (namedBelow _)) accepts
    subst last
    rw [Descriptor.updateCandidates, List.mem_singleton] at member
    rw [show inner' = c from deeper, ← member]
    exact fits _ (namedBelow _)
  | union alternatives => exact walk.elim
  | _ => cases member

/-- A value stays accepted when a part of it is replaced by what a candidate for that part accepts,
under every name that treats identifiers as the candidate's does. -/
theorem accepts_replaced (noFallback : ∀ name, context.config.strategy ≠ .fallback name)
    (reacceptable : Reacceptable d) (walk : d.PlainWalk segments)
    (member : candidate ∈ d.updateCandidates context.config segments)
    (fits : ∀ name, isIdName name = isId → context.Accepts name candidate c) (notNull : c ≠ .null)
    (named : isIdName name = isId) (ordered : w.Ordered) (accepted : context.Accepts name d w)
    (replaced : w.Replaced segments c after) : context.Accepts name d after := by
  induction segments generalizing d name w after with
  | nil =>
    rw [Descriptor.updateCandidates, List.mem_singleton] at member
    rw [replaced, ← member]
    exact fits name named
  | cons segment rest ih =>
    by_cases noDefault : d.default = none
    · obtain ⟨inner, inner', found, deeper, rfl⟩ := replaced
      obtain ⟨notNullBefore, notNullAfter⟩ := Value.ne_null_of_child? found inner'
      obtain ⟨canonical, stands⟩ := exists_accept noDefault notNullBefore accepted
      obtain ⟨shape, default, nullable⟩ := d
      obtain ⟨c', again⟩ := acceptShape_setChild noFallback reacceptable.ordered.here walk member
        fits notNull named ordered found deeper
        (fun child isChild childWalk childMember innerOrdered _ childNamed childAccepts =>
          ih (reacceptable.part (.inside isChild .here)) childWalk childMember childNamed
            innerOrdered childAccepts deeper) stands
      exact ⟨c', validatePart_of_accepted notNullAfter again⟩
    · exact accepts_of_default reacceptable.static noDefault name after

/-! ## Canonical values of candidates -/

theorem reacceptable_plainText : Reacceptable .plainText where
  customFree := Descriptor.throughout_of_leaf rfl (by decide)
  static := Descriptor.throughout_of_leaf rfl fun _ held => by cases held
  keys := Descriptor.throughout_of_leaf rfl fun _ _ _ _ isDict => by cases isDict
  ordered := Descriptor.throughout_of_leaf rfl fun _ isRecord => by cases isRecord

/-- What a candidate makes of a value in an update, it accepts as part of a value. -/
theorem accepts_of_update (noFallback : ∀ name, context.config.strategy ≠ .fallback name)
    (reacceptable : Reacceptable d) (ordered : v.Ordered) (notNull : v ≠ .null)
    (plain : ¬IsRequest v) (answer : context.validate .update name d v doc = .ok c) :
    c ≠ .null ∧ ∀ name', isIdName name' = isIdName name → context.Accepts name' d c := by
  have files : FilesSettle context.acceptFile [] (fun _ _ => True) (isIdName name) :=
    filesSettle_acceptFile closeness_true noFallback
  have made {name' : String} (named : isIdName name' = isIdName name) :
      context.validatePart context.acceptFile name' d v [] = .ok c := by
    refine validatePart_of_accepted notNull ?_
    rw [← (validate_update_eq_ok_iff notNull plain).1 answer]
    exact accept_congr reacceptable.customFree reacceptable.static named
  refine ⟨validatePart_ne_null (fun name => files.ne_null name v) reacceptable.customFree
    reacceptable.static notNull (made rfl), fun name' named => ?_⟩
  obtain ⟨c', again, -⟩ :=
    reacceptable.settles noFallback [] (isIdName name) name' named v c ordered (made named)
  exact ⟨c', again⟩

/-! ## Documents -/

/-- The canonical value of a dotted key comes from a candidate. -/
theorem exists_candidate_of_update (noDot : ∀ name d, (name, d) ∈ schema.attributes →
      '.' ∉ name.toList)
    (attributes : Entries.Ascending schema.attributes) (declared : schema.get? root = some d)
    (accepted : context.validateDocument .update schema [(partName root rest, v)] = .ok out)
    (found : Entries.get? out (partName root rest) = some c) :
    ∃ candidate ∈ d.updateCandidates context.config (Path.segments rest),
      context.validate .update (partName root rest) candidate v [(partName root rest, v)] =
        .ok c := by
  have undeclared : schema.get? (partName root rest) = none := by
    rw [Option.eq_none_iff_forall_ne_some]
    intro other isDeclared
    exact noDot _ other (Entries.mem_of_get? isDeclared) (by simp [partName])
  have rootFree : '.' ∉ root.toList := noDot root d (Entries.mem_of_get? declared)
  obtain ⟨-, each⟩ :=
    (validateDocument_eq_ok_iff attributes.nodup_keys (List.pairwise_singleton _ _)).1 accepted
  have answer := each (partName root rest)
  have given : Entries.get? [(partName root rest, v)] (partName root rest) = some v := if_pos rfl
  simp only [answer?, undeclared, given, found, Option.map_some, Option.some.injEq, otherAnswer,
    splitKey?_eq_some_iff.2 ⟨rfl, rootFree⟩, Option.bind_some, declared, if_true] at answer
  obtain ⟨before, chosen, after, candidates, chosenAnswer, -⟩ := validateFirst_eq_ok_iff.1 answer
  exact ⟨chosen, by simp [candidates], chosenAnswer⟩

/-- A dotted update whose canonical value replaces a value in a document leaves the attribute valid
and all others as they were. -/
theorem validate_after_update (noFallback : ∀ name, context.config.strategy ≠ .fallback name)
    (attributes : Entries.Ascending schema.attributes)
    (noDot : ∀ name d, (name, d) ∈ schema.attributes → '.' ∉ name.toList)
    (reacceptable : ∀ name d, (name, d) ∈ schema.attributes → Reacceptable d)
    (declared : schema.get? root = some d) (noSign : root.toList.head? ≠ some '$')
    (docOrdered : (Value.map doc).Ordered) (found : Entries.get? doc root = some w)
    (valid : context.validate .create root d w doc = .ok canonical)
    (notEmpty : rest ≠ "") (walk : d.PlainWalk (Path.segments rest))
    (ordered : v.Ordered) (notNull : v ≠ .null) (plain : ¬IsRequest v)
    (accepted : context.validateDocument .update schema [(partName root rest, v)] = .ok out)
    (made : Entries.get? out (partName root rest) = some c)
    (set : (Value.map doc).setAt (partName root rest) c = .ok (some old, after)) :
    ∃ doc' w' canonical', after = .map doc' ∧ Entries.get? doc' root = some w' ∧
      context.validate .create root d w' doc' = .ok canonical' ∧
      ∀ other, other ≠ root → Entries.get? doc' other = Entries.get? doc other := by
  have member := Entries.mem_of_get? declared
  have isReacceptable := reacceptable root d member
  have create {doc : Document} {v c : Value} : context.validate .create root d v doc = .ok c ↔
      context.validatePart context.acceptFile root d v [] = .ok c :=
    validate_eq_ok_iff_validatePart Mode.noConfusion isReacceptable.customFree
      isReacceptable.static []
  have segments : Path.valueSegments (partName root rest) = root :: Path.segments rest := by
    rw [partName, Path.valueSegments_dotted (noDot root d member) noSign, Path.segments,
      if_neg (mt String.isEmpty_iff.1 notEmpty)]
  obtain ⟨candidate, isCandidate, answer⟩ :=
    exists_candidate_of_update noDot attributes declared accepted made
  have candidateReacceptable : Reacceptable candidate := by
    rcases Descriptor.occurs_of_mem_updateCandidates isCandidate with occurs | rfl
    · exact isReacceptable.part occurs
    · exact reacceptable_plainText
  obtain ⟨canonicalNotNull, fits⟩ :=
    accepts_of_update noFallback candidateReacceptable ordered notNull plain answer
  have replaced := Value.replaced_of_setAt set
  rw [segments] at replaced
  obtain ⟨inner, inner', isInner, deeper, rfl⟩ := replaced
  have isRoot : Entries.get? doc root = some inner := isInner
  rw [found] at isRoot
  cases isRoot
  obtain ⟨canonical', stays⟩ := accepts_replaced noFallback isReacceptable walk isCandidate fits
    canonicalNotNull (isIdName_partName root rest).symm
    (docOrdered.ofEntry (Entries.mem_of_get? found)) ⟨canonical, create.1 valid⟩ deeper
  exact ⟨Entries.replace root inner' doc, inner', canonical', rfl,
    Entries.get?_replace_self found _, create.2 stays,
    fun other different => Entries.get?_replace_of_ne different _ _⟩

/-- Integers in a list. -/
def integers : Descriptor :=
  .ofShape (.list [.ofShape (.int [])] none)

theorem throughout_integers {property : Descriptor → Prop} (whole : property integers)
    (item : property (.ofShape (.int []))) : integers.Throughout property :=
  Descriptor.throughout_iff.2 ⟨whole, fun child member => by
    cases List.mem_singleton.1 (show child ∈ [_] from member)
    exact Descriptor.throughout_of_leaf rfl item⟩

theorem reacceptable_integers : Reacceptable integers where
  customFree := throughout_integers (by decide) (by decide)
  static := throughout_integers (fun _ held => by cases held) (fun _ held => by cases held)
  keys := throughout_integers (fun _ _ _ _ isDict => by cases isDict)
    (fun _ _ _ _ isDict => by cases isDict)
  ordered := throughout_integers (fun _ isRecord => by cases isRecord)
    (fun _ isRecord => by cases isRecord)

/-- The second of two integers is replaced by the one that digits write. -/
theorem validate_after_update_digits :
    initial.validate .create "levels" integers (.list [.int 1, .int 2])
        [("levels", .list [.int 1, .int 2])] = .ok (.list [.int 1, .int 2]) ∧
      initial.validateDocument .update ⟨"Readings", [("levels", integers)]⟩
        [("levels.1", .str "5")] = .ok [("levels.1", .int 5)] ∧
      ∃ doc' w' canonical', Value.map [("levels", .list [.int 1, .int 5])] = .map doc' ∧
        Entries.get? doc' "levels" = some w' ∧
        initial.validate .create "levels" integers w' doc' = .ok canonical' ∧
        ∀ other, other ≠ "levels" →
          Entries.get? doc' other = Entries.get? [("levels", .list [.int 1, .int 2])] other := by
  have ordered : (Value.map [("levels", .list [.int 1, .int 2])]).Ordered := by
    simp [Value.Ordered, Value.OrderedEntries, Value.OrderedList, Entries.Ascending]
  have valid : initial.validate .create "levels" integers (.list [.int 1, .int 2])
      [("levels", .list [.int 1, .int 2])] = .ok (.list [.int 1, .int 2]) := rfl
  have accepted : initial.validateDocument .update ⟨"Readings", [("levels", integers)]⟩
      [(partName "levels" "1", .str "5")] = .ok [("levels.1", .int 5)] := rfl
  have walk : integers.PlainWalk (Path.segments "1") := ⟨fun _ => rfl, fun _ _ => trivial⟩
  have set : (Value.map [("levels", .list [.int 1, .int 2])]).setAt (partName "levels" "1")
      (.int 5) = .ok (some (.int 2), .map [("levels", .list [.int 1, .int 5])]) := rfl
  have attributes : Entries.Ascending (Schema.mk "Readings" [("levels", integers)]).attributes :=
    List.pairwise_singleton _ _
  have noDot : ∀ name d, (name, d) ∈ [("levels", integers)] → '.' ∉ name.toList := by
    intro name d member
    cases List.mem_singleton.1 member
    decide
  have reacceptable : ∀ name d, (name, d) ∈ [("levels", integers)] → Reacceptable d := by
    intro name d member
    cases List.mem_singleton.1 member
    exact reacceptable_integers
  have plain : ¬IsRequest (.str "5") := by
    intro h
    obtain ⟨_, same, -⟩ := h
    cases same
  exact ⟨valid, accepted, validate_after_update (fun _ same => by cases same)
    attributes noDot reacceptable rfl (by decide) ordered rfl valid (by decide)
    walk (by simp [Value.Ordered]) Value.noConfusion plain accepted rfl set⟩

end Context

end DocumentSchema

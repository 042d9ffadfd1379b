import DocumentSchema.Proofs.Text.Parts
import DocumentSchema.Proofs.Validation.DictionaryKeys
import DocumentSchema.Proofs.Validation.Outcome

/-!
Entries of dictionaries in updates.

An entry of a dictionary is written as a part of the whole dictionary, or in an update under a
dotted key. A whole dictionary is refused if the descriptor of its keys refuses one of them. An
update leads from the dictionary to the descriptor of its values, which alone decides: neither the
descriptor of keys nor the bounds of the dictionary are asked (`Context.entry_of_update`). So an
update stores entries under keys that no whole dictionary may have.
-/

namespace DocumentSchema

/-- A name without dots is a single segment. -/
theorem Path.segments_of_name {name : String} (filled : name ≠ "") (noDot : '.' ∉ name.toList) :
    segments name = [name] := by
  rw [segments, String.isEmpty_eq_false_iff.2 filled, if_neg Bool.false_ne_true, dotted,
    Text.parts_of_free noDot, List.map_singleton, String.ofList_toList]

namespace Context

variable {context : Context} {mode : Mode} {schema : Schema} {doc out : Document}
  {name root k : String} {d key val : Descriptor} {required : List String}
  {length : Option LengthRange} {v c : Value}

/-- What a kind other than that of custom validators accepts does not depend on the mode. -/
theorem accept_eq_of_not_custom (noCustom : d.kind ≠ .custom) (mode mode' : Mode) :
    context.accept mode name d v doc = context.accept mode' name d v doc := by
  obtain ⟨shape, default, nullable⟩ := d
  cases shape with
  | custom ref => exact absurd rfl noCustom
  | _ => rfl

/-- An update leads from a dictionary to the descriptor of its values, under any name. -/
theorem validateDotted_entry (isDict : d.shape = .dict key val required length) (filled : k ≠ "")
    (noDot : '.' ∉ k.toList) :
    context.validateDotted name d k v doc = .ok c ↔
      context.validate .update name val v doc = .ok c := by
  have candidates : d.updateCandidates context.config (Path.segments k) = [val] := by
    rw [Path.segments_of_name filled noDot]
    simp only [Descriptor.updateCandidates, isDict]
  rw [validateDotted, candidates, validateFirst]
  cases context.validate .update name val v doc <;> simp [validateFirst]

/-- A whole dictionary has only keys that the descriptor of keys accepts. -/
theorem accept_eq_none_of_key {m : Document} (isDict : d.shape = .dict key val required length)
    (held : k ∈ Entries.keys m) (refused : context.canonicalKey? name key doc k = none) :
    context.accept mode name d (.map m) doc = none := by
  rw [Option.eq_none_iff_forall_ne_some]
  intro c accepted
  rw [accept, isDict] at accepted
  obtain ⟨_, canonical, ⟨⟩, -, -, -, each⟩ := acceptShape_dict_eq_some_iff.1 accepted
  have listed : context.canonicalKey? name key doc k ∈ (Entries.keys canonical).map some := by
    rw [← map_canonicalKey?_keys each]
    exact List.mem_map_of_mem held
  obtain ⟨text, -, made⟩ := List.mem_map.1 listed
  cases made.trans refused

/-- A dictionary of one entry is accepted if its key and its value are, and it may have that entry
alone. -/
theorem exists_accept_singleton_iff (isDict : d.shape = .dict key val required length) :
    (∃ c, context.accept mode name d (.map [(k, v)]) doc = some c) ↔
      (∃ text, context.canonicalKey? name key doc k = some text) ∧
        (∃ c, context.validatePart context.acceptFile (partName name k) val v doc = .ok c) ∧
        lengthFits length 1 = true ∧ ∀ other ∈ required, other = k := by
  have present (other : String) : Entries.hasKey [(k, v)] other = true ↔ other = k := by
    rw [Entries.hasKey_iff_mem, Entries.keys, List.map_singleton, List.mem_singleton]
  rw [accept, isDict]
  simp only [acceptShape_dict_eq_some_iff, canonicalKey?_eq_some_iff]
  constructor
  · rintro ⟨c, entries, canonical, ⟨⟩, fits, held, -, each⟩
    obtain ⟨entry, rest, ⟨⟨canonicalKey, keyAnswer, written⟩, answer⟩, -, rfl⟩ :=
      List.forall₂_cons_left_iff.1 each
    exact ⟨⟨_, canonicalKey, keyAnswer, written⟩, ⟨_, answer⟩, fits,
      fun other member => (present other).1 (held other member)⟩
  · rintro ⟨⟨text, canonicalKey, keyAnswer, written⟩, ⟨c, answer⟩, fits, only⟩
    exact ⟨_, _, [(text, c)], rfl, fits, fun other member => (present other).2 (only other member),
      rfl, .cons ⟨⟨canonicalKey, keyAnswer, written⟩, answer⟩ .nil⟩

/-- In an accepted update, the entry of a dictionary under a dotted key is what the descriptor of
values makes of it, and would be so in every dictionary with these values, whatever its keys and
bounds. A whole dictionary with a key that the descriptor of keys refuses is refused; of an entry
that is data, a whole dictionary of that entry alone is accepted exactly if the descriptor of keys
accepts its key and the dictionary may have that entry alone. -/
theorem entry_of_update (attributes : Entries.Ascending schema.attributes)
    (ascending : Entries.Ascending doc)
    (accepted : context.validateDocument .update schema doc = .ok out)
    (declared : schema.get? root = some d) (isDict : d.shape = .dict key val required length)
    (isRoot : '.' ∉ root.toList) (undeclared : schema.declares (partName root k) = false)
    (filled : k ≠ "") (isName : '.' ∉ k.toList)
    (held : Entries.get? doc (partName root k) = some v) (notNull : v ≠ .null) :
    ∃ c, Entries.get? out (partName root k) = some c ∧
      context.validate .update (partName root k) val v doc = .ok c ∧
      (∀ d' key' required' length', d'.shape = .dict key' val required' length' →
        context.validateDotted (partName root k) d' k v doc = .ok c) ∧
      (context.canonicalKey? root key doc k = none → ∀ mode m, k ∈ Entries.keys m →
        context.accept mode root d (.map m) doc = none) ∧
      (val.kind ≠ .custom → ¬IsRequest v → ∀ mode,
        (∃ whole, context.accept mode root d (.map [(k, v)]) doc = some whole) ↔
          (∃ text, context.canonicalKey? root key doc k = some text) ∧
            lengthFits length 1 = true ∧ ∀ other ∈ required, other = k) := by
  have dotted : schema.Dotted doc (partName root k) d k :=
    ⟨Entries.hasKey_iff_exists.2 ⟨v, held⟩, undeclared, root, rfl, isRoot, declared⟩
  have canonical := canonicalDocument_of_validateDocument attributes ascending accepted
  obtain ⟨c, made, first⟩ := canonical.dotted _ _ _ dotted
  have value : doc.valueAt (partName root k) = v := by rw [Document.valueAt, held]; rfl
  have chosen : context.validateDotted (partName root k) d k v doc = .ok c := by
    rw [validateDotted, validateFirst_eq_ok_iff, ← value]
    exact first
  have answer := (validateDotted_entry isDict filled isName).1 chosen
  refine ⟨c, made, answer, fun d' key' required' length' isDict' =>
    (validateDotted_entry isDict' filled isName).2 answer,
    fun refused mode m member => accept_eq_none_of_key isDict member refused,
    fun noCustom plain mode => ?_⟩
  have asPart : context.validatePart context.acceptFile (partName root k) val v doc = .ok c := by
    rw [validate_update_eq_ok_iff notNull plain, accept_eq_of_not_custom noCustom _ .deep] at answer
    exact validatePart_eq_ok_iff.2 (.inr ⟨notNull, .inl answer⟩)
  rw [exists_accept_singleton_iff isDict]
  exact and_congr_right fun _ => and_iff_right ⟨c, asPart⟩

/-- Counts, of which the only one is that of views. -/
def statistics : Descriptor :=
  .ofShape (.dict (.ofShape (.literal [.str "views"])) (.ofShape (.int [])) [] none)

/-- Pages with statistics. -/
def pages : Schema :=
  ⟨"Pages", [("statistics", statistics)]⟩

theorem ascending_pages : Entries.Ascending pages.attributes :=
  List.pairwise_singleton _ _

/-- The views of a page are counted in an update as in whole statistics. -/
theorem entry_of_update_views :
    initial.validateDocument .update pages [("statistics.views", .str "12")] =
        .ok [("statistics.views", .int 12)] ∧
      initial.canonicalKey? "statistics" (.ofShape (.literal [.str "views"]))
        [("statistics.views", .str "12")] "views" = some "views" ∧
      ∃ whole, initial.accept .create "statistics" statistics (.map [("views", .str "12")])
        [("statistics.views", .str "12")] = some whole := by
  have accepted : initial.validateDocument .update pages [("statistics.views", .str "12")] =
      .ok [("statistics.views", .int 12)] := rfl
  have plain : ¬IsRequest (.str "12") := by
    rintro ⟨entries, ⟨⟩, -⟩
  have isKey : initial.canonicalKey? "statistics" (.ofShape (.literal [.str "views"]))
      [("statistics.views", .str "12")] "views" = some "views" := rfl
  have held : Entries.get? [("statistics.views", Value.str "12")] (partName "statistics" "views") =
      some (.str "12") := rfl
  obtain ⟨c, -, -, -, -, alone⟩ := entry_of_update ascending_pages (List.pairwise_singleton _ _)
    accepted rfl rfl (by decide) rfl (by decide) (by decide) held Value.noConfusion
  exact ⟨accepted, isKey, (alone (by decide) plain .create).2 ⟨⟨_, isKey⟩, rfl, by simp⟩⟩

/-- An update counts what no statistics may hold. -/
theorem entry_under_refused_key :
    Entries.Ascending pages.attributes ∧
      initial.validateDocument .update pages [("statistics.likes", .int 1)] =
        .ok [("statistics.likes", .int 1)] ∧
      initial.canonicalKey? "statistics" (.ofShape (.literal [.str "views"]))
        [("statistics.likes", .int 1)] "likes" = none ∧
      initial.validateDocument .update pages [("statistics", .map [("likes", .int 1)])] =
        .error ⟨[.invalid "statistics" .dict "map"]⟩ :=
  ⟨ascending_pages, rfl, rfl, rfl⟩

end Context

end DocumentSchema

import DocumentSchema.Proofs.Descriptor.Built
import DocumentSchema.Proofs.Validation.Keys
import Mathlib.Data.Set.Function

/-!
What dictionaries keep.

The entries of a dictionary are stored under canonical keys. Its length and its required keys are
checked before that, so an entry is lost where two keys have the same canonical one. Only a default
of the descriptor of keys can take the place of a key; `Context.entries_kept` says what is kept in
general, and that nothing is lost where keys have no defaults.
-/

namespace DocumentSchema.Context

variable {context : Context} {mode : Mode} {name : String} {doc m : Document}
  {d key val : Descriptor} {required : List String} {length : Option LengthRange} {c : Value}

/-- The key under which an entry is stored. -/
def canonicalKey? (context : Context) (name : String) (key : Descriptor) (doc : Document)
    (k : String) : Option String :=
  (context.validatePart context.acceptFile (partName name k) key (.str k) doc).toOption.bind
    keyText?

theorem canonicalKey?_eq_some_iff {k text : String} :
    context.canonicalKey? name key doc k = some text ↔ ∃ canonicalKey,
      context.validatePart context.acceptFile (partName name k) key (.str k) doc =
        .ok canonicalKey ∧ keyText? canonicalKey = some text := by
  simp only [canonicalKey?, Option.bind_eq_some_iff, toOption_eq_some_iff]

theorem canonicalKey?_kept_or_default (customFree : key.CustomFree) {k text : String}
    (stored : context.canonicalKey? name key doc k = some text) :
    text = k ∨ context.DefaultKey key doc text := by
  obtain ⟨canonicalKey, answer, written⟩ := canonicalKey?_eq_some_iff.1 stored
  exact keyText_kept_or_default (fun _ => acceptFile_str) customFree answer written

/-- The keys of canonical entries are the canonical keys, in the same order. -/
theorem map_canonicalKey?_keys {canonical : Document}
    (each : List.Forall₂ (context.EntryAccepted context.acceptFile name key val doc) m canonical) :
    (Entries.keys m).map (context.canonicalKey? name key doc) =
      (Entries.keys canonical).map some := by
  rw [Entries.keys, Entries.keys, List.map_map, List.map_map]
  exact map_eq_map_of_forall₂ (each.imp fun _ _ accepted => canonicalKey?_eq_some_iff.2 accepted.1)

/-- Canonical keys are distinct exactly if distinct keys have distinct ones. -/
theorem nodup_canonicalKeys_iff {canonical : Document} (distinct : (Entries.keys m).Nodup)
    (each : List.Forall₂ (context.EntryAccepted context.acceptFile name key val doc) m canonical) :
    (Entries.keys canonical).Nodup ↔
      Set.InjOn (context.canonicalKey? name key doc) {k | k ∈ Entries.keys m} := by
  rw [← List.nodup_map_iff (Option.some_injective String), ← map_canonicalKey?_keys each]
  exact List.nodup_map_iff_inj_on distinct

/-- A dictionary stores each entry under its canonical key, which is its own key or that of a
default. It has as many entries as the value exactly if no two keys have the same canonical one, and
its length is in range then; a required key that stays what it is, is there. Without defaults among
the keys, nothing is lost. -/
theorem entries_kept (isDict : d.shape = .dict key val required length)
    (customFree : key.CustomFree) (ascending : Entries.Ascending m)
    (accepted : context.accept mode name d (.map m) doc = some c) :
    ∃ o : Document, c = .map o ∧
      (∀ k ∈ Entries.keys m, ∃ text ∈ Entries.keys o,
        context.canonicalKey? name key doc k = some text ∧
          (text = k ∨ context.DefaultKey key doc text)) ∧
      (o.length = m.length ↔
        Set.InjOn (context.canonicalKey? name key doc) {k | k ∈ Entries.keys m}) ∧
      (o.length = m.length → lengthFits length o.length = true) ∧
      (∀ k ∈ required, context.canonicalKey? name key doc k = some k → k ∈ Entries.keys o) ∧
      (key.DefaultFree → o.length = m.length ∧ lengthFits length o.length = true ∧
        ∀ k ∈ required, k ∈ Entries.keys o) := by
  rw [accept, isDict] at accepted
  obtain ⟨_, canonical, ⟨⟩, fits, present, rfl, each⟩ := acceptShape_dict_eq_some_iff.1 accepted
  have stored : ∀ k ∈ Entries.keys m, ∃ text ∈ Entries.keys (Entries.ofList canonical),
      context.canonicalKey? name key doc k = some text ∧
        (text = k ∨ context.DefaultKey key doc text) := by
    intro k member
    have mapped : context.canonicalKey? name key doc k ∈ (Entries.keys canonical).map some := by
      rw [← map_canonicalKey?_keys each]
      exact List.mem_map_of_mem member
    obtain ⟨text, held, same⟩ := List.mem_map.1 mapped
    refine ⟨text, ?_, same.symm, canonicalKey?_kept_or_default customFree same.symm⟩
    rwa [← Entries.hasKey_iff_mem, Entries.hasKey_ofList]
  have count : (Entries.ofList canonical).length = m.length ↔
      Set.InjOn (context.canonicalKey? name key doc) {k | k ∈ Entries.keys m} := by
    rw [each.length_eq, Entries.length_ofList_eq_iff,
      nodup_canonicalKeys_iff ascending.nodup_keys each]
  have requiredKept : ∀ k ∈ required, context.canonicalKey? name key doc k = some k →
      k ∈ Entries.keys (Entries.ofList canonical) := by
    intro k member kept
    obtain ⟨text, held, isText, -⟩ := stored k (Entries.hasKey_iff_mem.1 (present k member))
    cases kept.symm.trans isText
    exact held
  refine ⟨_, rfl, stored, count, fun same => same ▸ fits, requiredKept, fun defaultFree => ?_⟩
  have kept : ∀ k ∈ Entries.keys m, context.canonicalKey? name key doc k = some k := by
    intro k member
    obtain ⟨text, -, isText, own | byDefault⟩ := stored k member
    · rw [isText, own]
    · exact absurd byDefault (not_defaultKey defaultFree)
  have same : (Entries.ofList canonical).length = m.length := by
    refine count.2 fun k member k' member' equal => ?_
    rw [kept k member, kept k' member'] at equal
    exact Option.some.inj equal
  exact ⟨same, same ▸ fits, fun k member => requiredKept k member
    (kept k (Entries.hasKey_iff_mem.1 (present k member)))⟩

/-- The name of a test; whatever is neither of two counts as the exam. -/
def testName : Descriptor :=
  .mk (.literal [.str "essay", .str "exam"]) (some (.static (.str "exam"))) false

/-- At least two marks by test, of which some are required. -/
def marks (required : List String) : Descriptor :=
  .ofShape (.dict testName (.ofShape (.int [])) required (some ⟨2, none⟩))

theorem customFree_testName : testName.CustomFree :=
  Descriptor.throughout_of_leaf rfl fun same => by cases same

theorem built_marks (required : List String) : (marks required).Built := by
  have bare : (Descriptor.ofShape (.literal [.str "essay", .str "exam"])).Built :=
    .literal (show Descriptor.literal [.str "essay", .str "exam"] = .ok _ from rfl)
  have name : testName.Built := bare.withDefault (.static (.str "exam"))
  have mark : (Descriptor.ofShape (.int [])).Built := .plain (by simp [Descriptor.plainShapes])
  have range : ∀ range ∈ some (⟨2, none⟩ : LengthRange), range.Built := by
    intro range held
    cases held
    exact .atLeast 2
  exact .dict name mark range rfl

/-- No default takes the place of a key here, although the keys have one. -/
theorem entries_kept_marks :
    initial.accept .create "marks" (marks ["essay"])
          (.map [("essay", .int 5), ("exam", .int 7)]) [] =
        some (.map [("essay", .int 5), ("exam", .int 7)]) ∧
      ∃ o : Document, Value.map [("essay", .int 5), ("exam", .int 7)] = .map o ∧
        lengthFits (some ⟨2, none⟩) o.length = true ∧ "essay" ∈ Entries.keys o := by
  have accepted : initial.accept .create "marks" (marks ["essay"])
      (.map [("essay", .int 5), ("exam", .int 7)]) [] =
        some (.map [("essay", .int 5), ("exam", .int 7)]) := rfl
  have ascending : Entries.Ascending [("essay", Value.int 5), ("exam", .int 7)] :=
    List.pairwise_pair.2 (by decide)
  obtain ⟨o, same, -, -, fits, kept, -⟩ :=
    entries_kept rfl customFree_testName ascending accepted
  refine ⟨accepted, o, same, fits ?_, kept "essay" (by simp) rfl⟩
  cases same
  rfl

/-- Two tests are stored under one name: the mark of one of them is lost, the required test is
missing, and the dictionary is shorter than it may be. -/
theorem entry_lost_to_default :
    (marks ["quiz"]).Built ∧ testName.CustomFree ∧
      Entries.Ascending [("exam", Value.int 7), ("quiz", .int 9)] ∧
      initial.accept .create "marks" (marks ["quiz"])
          (.map [("exam", .int 7), ("quiz", .int 9)]) [] =
        some (.map [("exam", .int 9)]) ∧
      lengthFits (some ⟨2, none⟩) [("exam", Value.int 9)].length = false ∧
      "quiz" ∉ Entries.keys [("exam", Value.int 9)] :=
  ⟨built_marks _, customFree_testName, List.pairwise_pair.2 (by decide), rfl, rfl, by decide⟩

end DocumentSchema.Context

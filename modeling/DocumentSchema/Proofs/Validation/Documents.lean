import DocumentSchema.Proofs.Traversal
import DocumentSchema.Proofs.Value.Dictionary
import DocumentSchema.Validation.Document

/-!
What validation does with a document.

Every key of a document, and every declared attribute that the mode asks for, is answered on its own
(`Context.answer?`). A document is accepted when no answer is a failure, and its canonical form
holds the answers (`Context.validateDocument_eq_ok_iff`).
-/

namespace DocumentSchema

/-! ## Dotted keys -/

theorem splitKey?_eq_some_iff {key root rest : String} :
    splitKey? key = some (root, rest) ↔ key = Context.partName root rest ∧ '.' ∉ root.toList := by
  constructor
  · intro found
    have whole := List.takeWhile_append_dropWhile (p := (· != '.')) (l := key.toList)
    have head := List.head?_dropWhile_not (· != '.') key.toList
    unfold splitKey? at found
    dsimp only at found
    split at found
    · next c tail behind =>
      cases found
      have isDot : c = '.' := by simpa [behind] using head
      rw [behind, isDot] at whole
      refine ⟨String.toList_inj.1 (whole.symm.trans (by simp [Context.partName])), fun member => ?_⟩
      rw [String.toList_ofList] at member
      simpa using List.all_eq_true.1 List.all_takeWhile _ member
    · cases found
  · rintro ⟨rfl, noDot⟩
    have letters : (Context.partName root rest).toList = root.toList ++ '.' :: rest.toList := by
      simp [Context.partName]
    have isName : ∀ c ∈ root.toList, (c != '.') = true := by
      intro c member
      rw [bne_iff_ne]
      rintro rfl
      exact noDot member
    rw [splitKey?, letters, List.dropWhile_append_of_pos isName,
      List.takeWhile_append_of_pos isName]
    simp

namespace Context

variable {context : Context} {mode : Mode} {schema : Schema} {doc out : Document}
  {key : String} {kind : Kind} {candidates : List Descriptor} {v c : Value}

/-- The first of several candidates to accept the value of a dotted key gives its answer. -/
def FirstAnswer (context : Context) (key : String) (candidates : List Descriptor) (v : Value)
    (doc : Document) (c : Value) : Prop :=
  ∃ before chosen after, candidates = before ++ chosen :: after ∧
    context.validate .update key chosen v doc = .ok c ∧
    ∀ candidate ∈ before, ∀ c', context.validate .update key candidate v doc ≠ .ok c'

theorem validateFirst_eq (context : Context) (key : String) (kind : Kind) (v : Value)
    (doc : Document) (candidates : List Descriptor) :
    context.validateFirst key kind v doc candidates =
      (candidates.findSome? fun d => (context.validate .update key d v doc).toOption).elim
        (.error (.ofValue key kind v)) .ok := by
  induction candidates with
  | nil => rfl
  | cons d rest ih =>
    rw [validateFirst, List.findSome?_cons]
    cases context.validate .update key d v doc with
    | ok canonical => rfl
    | error error => exact ih

theorem validateFirst_eq_ok_iff :
    context.validateFirst key kind v doc candidates = .ok c ↔
      context.FirstAnswer key candidates v doc c := by
  simp only [validateFirst_eq, FirstAnswer, ← toOption_eq_none_iff, ← toOption_eq_some_iff,
    ← List.findSome?_eq_some_iff]
  cases candidates.findSome? _ <;> simp [Except.toOption]

theorem validateFirst_eq_error_iff {error : ValidationError} :
    context.validateFirst key kind v doc candidates = .error error ↔
      (∀ candidate ∈ candidates, ∀ c, context.validate .update key candidate v doc ≠ .ok c) ∧
        error = .ofValue key kind v := by
  simp only [validateFirst_eq, ← toOption_eq_none_iff, ← List.findSome?_eq_none_iff]
  cases candidates.findSome? _ <;> simp [eq_comm]

/-! ## Answers -/

/-- The answer for a key: that of the attribute which it names, or else that for another key of the
document. -/
def answer? (context : Context) (mode : Mode) (schema : Schema) (doc : Document) (key : String) :
    Option (Except ValidationError Value) :=
  match schema.get? key with
  | some d => context.declaredAnswer? mode doc key d
  | none => (Entries.get? doc key).map (context.otherAnswer mode schema doc key)

theorem answers_eq (context : Context) (mode : Mode) (schema : Schema) (doc : Document) :
    context.answers mode schema doc =
      (schema.attributes.filterMap fun entry =>
        (context.declaredAnswer? mode doc entry.1 entry.2).map fun answer => (entry.1, answer)) ++
      (doc.filter fun entry => !schema.declares entry.1).map fun entry =>
        (entry.1, context.otherAnswer mode schema doc entry.1 entry.2) :=
  rfl

theorem get?_answers (distinct : (Entries.keys schema.attributes).Nodup) :
    Entries.get? (context.answers mode schema doc) key = context.answer? mode schema doc key := by
  rw [answers_eq, Entries.get?_append, Entries.get?_filterMap _ distinct, Entries.get?_map,
    Entries.get?_filter (fun key => !schema.declares key)]
  unfold answer? Schema.get? Schema.declares Entries.hasKey
  cases Entries.get? schema.attributes key with
  | none => simp
  | some d => simp

theorem nodup_keys_answers (context : Context) (mode : Mode)
    (distinct : (Entries.keys schema.attributes).Nodup)
    (ascending : Entries.Ascending doc) :
    (Entries.keys (context.answers mode schema doc)).Nodup := by
  rw [answers_eq, Entries.keys, List.map_append, List.nodup_append]
  refine ⟨distinct.sublist (Entries.keys_filterMap_sublist _ _), ?_, ?_⟩
  · rw [List.map_map]
    exact ascending.nodup_keys.sublist (List.filter_sublist.map _)
  · intro declared left other right same
    subst same
    have isDeclared : Entries.hasKey schema.attributes declared = true :=
      Entries.hasKey_iff_mem.2 ((Entries.keys_filterMap_sublist _ _).subset left)
    rw [List.map_map, List.mem_map] at right
    obtain ⟨entry, held, rfl⟩ := right
    have undeclared := (List.mem_filter.1 held).2
    simp only [Schema.declares, Bool.not_eq_true', Function.comp] at undeclared isDeclared
    rw [undeclared] at isDeclared
    cases isDeclared

theorem failures_eq_nil_iff {answers : List (String × Except ValidationError Value)} :
    failures answers = [] ↔ ∀ answer ∈ answers, ∃ value, answer.2 = .ok value := by
  unfold failures
  rw [List.filterMap_eq_nil_iff]
  apply forall₂_congr
  intro answer _
  cases answer.2 <;> simp

theorem successes_eq (answers : List (String × Except ValidationError Value)) :
    successes answers = answers.filterMap fun answer =>
      answer.2.toOption.map fun value => (answer.1, value) := by
  unfold successes
  congr 1
  funext answer
  cases answer.2 <;> rfl

/-- A document is accepted with a canonical form exactly when that form has the answer for each key
and no failure. -/
theorem validateDocument_eq_ok_iff (distinct : (Entries.keys schema.attributes).Nodup)
    (ascending : Entries.Ascending doc) :
    context.validateDocument mode schema doc = .ok out ↔
      Entries.Ascending out ∧
        ∀ key, context.answer? mode schema doc key = (Entries.get? out key).map .ok := by
  have names := nodup_keys_answers context mode distinct ascending
  have find (key : String) : Entries.get? (Entries.ofList
      (successes (context.answers mode schema doc))) key =
        (context.answer? mode schema doc key).bind (·.toOption) := by
    have distinctNames := names.sublist (Entries.keys_filterMap_sublist
      (fun _ (answer : Except ValidationError Value) => answer.toOption) _)
    rw [successes_eq, Entries.get?_ofList distinctNames,
      Entries.get?_filterMap (fun _ answer => answer.toOption) names, get?_answers distinct]
  unfold validateDocument
  dsimp only
  constructor
  · intro accepted
    split at accepted
    · next noFailure =>
      cases accepted
      refine ⟨Entries.ascending_ofList _, fun key => ?_⟩
      rw [find key]
      cases answered : context.answer? mode schema doc key with
      | none => rfl
      | some answer =>
        rw [← get?_answers distinct] at answered
        obtain ⟨value, isOk⟩ := failures_eq_nil_iff.1 noFailure _ (Entries.mem_of_get? answered)
        simp only at isOk
        rw [isOk]
        rfl
    · cases accepted
  · intro h
    obtain ⟨outAscending, each⟩ := h
    have noFailure : failures (context.answers mode schema doc) = [] := by
      apply failures_eq_nil_iff.2
      intro answer member
      have found := Entries.get?_of_mem names (show (answer.1, answer.2) ∈ _ from member)
      rw [get?_answers distinct, each] at found
      obtain ⟨value, -, isOk⟩ := Option.map_eq_some_iff.1 found
      exact ⟨value, isOk.symm⟩
    have same : Entries.ofList (successes (context.answers mode schema doc)) = out := by
      apply Entries.eq_of_get?_eq (Entries.ascending_ofList _) outAscending
      intro key
      rw [find key, each key]
      cases Entries.get? out key <;> rfl
    rw [noFailure, same]

end Context

end DocumentSchema

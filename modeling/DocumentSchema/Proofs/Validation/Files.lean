import DocumentSchema.Proofs.Validation.Acceptance
import DocumentSchema.Proofs.Value.Dictionary
import DocumentSchema.Proofs.Value.Order

/-!
The two forms of files.

A file is a record of one of two forms, which differ in a single field. What either form accepts is
a map with its fields and no other (`Context.keys_of_fileVariant`).
-/

namespace DocumentSchema.Context

variable {context : Context} {file : String → Value → Document → Option Value} {name field : String}
  {doc : Document} {shape : Shape} {v c : Value} {k : String}

/-- The fields of one form of a file. -/
def fileFields (field : String) (shape : Shape) : List (String × Descriptor) :=
  [("name", .ofShape (.str none)), ("lastModified", .ofShape (.int [])),
    ("type", .ofShape (.str none)), ("size", .ofShape (.int [])), (field, .ofShape shape)]

theorem shape_fileVariant (field : String) (shape : Shape) :
    (fileVariant field shape).shape = .record (Entries.ofList (fileFields field shape)) :=
  rfl

/-- What a form of a file answers to anything but null is a map of its fields. -/
theorem keys_of_fileVariant (answer : context.validatePart file name (fileVariant field shape) v doc
    = .ok c) : ∃ entries canonical, v = .map entries ∧ c = .map canonical ∧
      (∀ k ∈ Entries.keys entries, k ∈ Entries.keys (fileFields field shape)) ∧
      ∀ k ∈ Entries.keys (fileFields field shape), k ∈ Entries.keys canonical := by
  have fieldKeys (k : String) : k ∈ Entries.keys (Entries.ofList (fileFields field shape)) ↔
      k ∈ Entries.keys (fileFields field shape) := by
    rw [← Entries.hasKey_iff_mem, Entries.hasKey_ofList]
  rcases validatePart_eq_ok_iff.1 answer with
    ⟨-, value | ⟨-, nullable, -⟩⟩ | ⟨-, accepted | ⟨-, value⟩⟩
  · cases value
  · cases nullable
  · rw [shape_fileVariant] at accepted
    obtain ⟨entries, canonical, rfl, answers, declared, rfl⟩ :=
      acceptShape_record_eq_some_iff.1 accepted
    have keys := Entries.keys_eq_of_forall₂ (acceptFields_eq_some_iff.1 answers)
      fun _ _ both => both.1
    refine ⟨entries, canonical, rfl, rfl, fun k member => ?_, fun k member => ?_⟩
    · rw [← fieldKeys, ← Entries.hasKey_iff_mem]
      exact declared k member
    · rwa [keys, fieldKeys]
  · cases value

theorem fileForm_eq_ok_iff :
    context.validatePart file name .fileForm v doc = .ok c ↔
      v ≠ .null ∧ context.acceptFirst file name
        [fileVariant "ref" .id, fileVariant "content" .bytes] v doc = some c := by
  rw [validatePart_eq_ok_iff]
  constructor
  · intro h
    rcases h with ⟨-, value | ⟨-, nullable, -⟩⟩ | ⟨notNull, accepted | ⟨-, value⟩⟩
    · cases value
    · cases nullable
    · exact ⟨notNull, accepted⟩
    · cases value
  · intro h
    obtain ⟨notNull, accepted⟩ := h
    exact .inr ⟨notNull, .inl accepted⟩

theorem ordered_fileOf (ordered : v.Ordered) : (fileOf v).Ordered := by
  unfold fileOf
  split
  · exact ordered.ofItem (by simp)
  · exact ordered

theorem acceptFile_isMap (accepted : context.acceptFile name v doc = some c) :
    (∃ entries, fileOf v = .map entries) ∧ ∃ canonical, c = .map canonical := by
  obtain ⟨-, found⟩ := fileForm_eq_ok_iff.1 (acceptFile_eq_some_iff.1 accepted)
  obtain ⟨variant, member, answer⟩ := exists_mem_of_acceptFirst found
  rcases List.mem_pair.1 member with rfl | rfl
  all_goals
    obtain ⟨entries, canonical, isMap, rfl, -⟩ := keys_of_fileVariant answer
    exact ⟨⟨entries, isMap⟩, canonical, rfl⟩

/-- A file is no text. -/
theorem acceptFile_str : context.acceptFile name (.str k) doc = none := by
  rw [Option.eq_none_iff_forall_ne_some]
  intro c accepted
  obtain ⟨⟨_, ⟨⟩⟩, -⟩ := acceptFile_isMap accepted

end DocumentSchema.Context

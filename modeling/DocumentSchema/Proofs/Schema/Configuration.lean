import DocumentSchema.Proofs.Json.Compact
import DocumentSchema.Proofs.Traversal
import DocumentSchema.Schema.Config

/-!
Configurations that are in order.

`Config.validated` accepts the configurations that make sense (`Config.Sensible`) and drops repeated
locales. What it answers keeps all that a configuration says: the same locales are registered, the
first ones of each code in their order (`Config.IsNormal`). It is accepted as it is, and its stored
form, with blanks or without, is read back as the same configuration
(`Config.normalisation_lawful`).
-/

namespace DocumentSchema

namespace Config

variable {config result : Config} {code : String} {seen codes : List String}

/-! ## First occurrences -/

theorem mem_firstOccurrences : code ∈ firstOccurrences seen codes ↔ code ∈ codes ∧ code ∉ seen := by
  induction codes generalizing seen with
  | nil => simp [firstOccurrences]
  | cons first codes ih =>
    rw [firstOccurrences]
    by_cases repeated : first ∈ seen
    · rw [if_pos (by simpa using repeated), ih, List.mem_cons]
      refine and_congr_left fun fresh => (or_iff_right ?_).symm
      rintro rfl
      exact fresh repeated
    · rw [if_neg (by simpa using repeated), List.mem_cons, List.mem_cons, ih, List.mem_cons]
      by_cases same : code = first
      · subst same
        exact iff_of_true (.inl rfl) ⟨.inl rfl, repeated⟩
      · simp [same]

/-- The first occurrences stand in their order. -/
theorem pairwise_firstOccurrences :
    (firstOccurrences seen codes).Pairwise fun a b => codes.idxOf a < codes.idxOf b := by
  have later {first code other : String} {codes : List String} (differs : code ≠ first)
      (differs' : other ≠ first) (earlier : codes.idxOf code < codes.idxOf other) :
      (first :: codes).idxOf code < (first :: codes).idxOf other := by
    rw [List.idxOf_cons_ne _ differs.symm, List.idxOf_cons_ne _ differs'.symm]
    exact Nat.succ_lt_succ earlier
  induction codes generalizing seen with
  | nil => exact .nil
  | cons first codes ih =>
    rw [firstOccurrences]
    by_cases repeated : first ∈ seen
    · rw [if_pos (by simpa using repeated)]
      have differs {code : String} (kept : code ∈ firstOccurrences seen codes) : code ≠ first := by
        rintro rfl
        exact (mem_firstOccurrences.1 kept).2 repeated
      exact ih.imp_of_mem fun member member' => later (differs member) (differs member')
    · rw [if_neg (by simpa using repeated), List.pairwise_cons]
      have differs {code : String} (kept : code ∈ firstOccurrences (first :: seen) codes) :
          code ≠ first := by
        rintro rfl
        exact (mem_firstOccurrences.1 kept).2 List.mem_cons_self
      refine ⟨fun code kept => ?_, ih.imp_of_mem fun member member' =>
        later (differs member) (differs member')⟩
      rw [List.idxOf_cons_self, List.idxOf_cons_ne _ (differs kept).symm]
      exact Nat.succ_pos _

theorem firstOccurrences_of_nodup (distinct : codes.Nodup) (fresh : ∀ code ∈ codes, code ∉ seen) :
    firstOccurrences seen codes = codes := by
  induction codes generalizing seen with
  | nil => rfl
  | cons first codes ih =>
    rw [List.nodup_cons] at distinct
    rw [List.forall_mem_cons] at fresh
    have others : ∀ code ∈ codes, code ∉ first :: seen := by
      intro code member
      rw [List.mem_cons, not_or]
      refine ⟨?_, fresh.2 code member⟩
      rintro rfl
      exact distinct.1 member
    rw [firstOccurrences, if_neg (by simpa using fresh.1), ih distinct.2 others]

/-! ## Checking -/

/-- A configuration that makes sense. -/
structure Sensible (config : Config) : Prop where
  locales : config.locales ≠ []
  codes : ∀ code ∈ config.locales, code ≠ "" ∧ '.' ∉ code.toList
  primary : config.primary ∈ config.locales
  fallback : ∀ name, config.strategy = .fallback name → name ≠ ""

theorem isRegistered_iff : config.isRegistered code = true ↔ code ∈ config.locales := by
  simp [isRegistered]

theorem validate_eq_ok_iff : config.validate = .ok () ↔ config.Sensible := by
  have bad (code : String) :
      (code.isEmpty || code.contains '.') = true ↔ ¬(code ≠ "" ∧ '.' ∉ code.toList) := by
    rw [Bool.or_eq_true, String.isEmpty_iff, String.contains_char_eq, decide_eq_true_eq, not_and_or,
      not_not, not_not]
  constructor
  · intro accepted
    unfold validate at accepted
    split at accepted
    · cases accepted
    · next some =>
      split at accepted
      · cases accepted
      · next none =>
        split at accepted
        · cases accepted
        · next registered =>
          split at accepted
          · cases accepted
          · next named =>
            refine ⟨by simpa using some, fun code member => ?_, ?_, ?_⟩
            · exact not_not.1 fun refused =>
                List.find?_eq_none.1 none code member ((bad code).2 refused)
            · exact isRegistered_iff.1 (by simpa using registered)
            · rintro name strategy rfl
              exact named strategy
  · rintro ⟨some, codes, registered, named⟩
    have none : config.locales.find? (fun code => code.isEmpty || code.contains '.') = none := by
      rw [List.find?_eq_none]
      exact fun code member refused => (bad code).1 refused (codes code member)
    unfold validate
    rw [if_neg (by simpa using some), none, if_neg (by simpa [isRegistered] using registered),
      if_neg fun strategy => named "" strategy rfl]

/-- What is left of a configuration when repeated locales are dropped. -/
structure IsNormal (config result : Config) : Prop where
  ordered : result.locales.Pairwise fun a b => config.locales.idxOf a < config.locales.idxOf b
  registered : ∀ code, code ∈ result.locales ↔ code ∈ config.locales
  primary : result.primary = config.primary
  strategy : result.strategy = config.strategy

theorem validated_eq_ok_iff :
    config.validated = .ok result ↔
      config.Sensible ∧ result = { config with locales := firstOccurrences [] config.locales } := by
  rw [validated, except_bind_unit_eq_ok_iff, validate_eq_ok_iff, except_pure_eq_ok_iff]

theorem isNormal_of_validated (validated : config.validated = .ok result) :
    config.IsNormal result := by
  obtain ⟨-, rfl⟩ := validated_eq_ok_iff.1 validated
  exact ⟨pairwise_firstOccurrences, fun code => by simp [mem_firstOccurrences], rfl, rfl⟩

namespace IsNormal

variable (normal : config.IsNormal result)
include normal

theorem distinct : result.locales.Nodup :=
  normal.ordered.imp fun earlier same => (same ▸ earlier).false

theorem isRegistered_eq (code : String) :
    result.isRegistered code = config.isRegistered code := by
  rw [Bool.eq_iff_iff, isRegistered_iff, isRegistered_iff, normal.registered]

theorem sensible (sensible : config.Sensible) : result.Sensible := by
  obtain ⟨-, codes, primary, named⟩ := sensible
  have registered : result.primary ∈ result.locales := by
    rwa [normal.primary, normal.registered]
  refine ⟨List.ne_nil_of_mem registered, fun code member => ?_, registered, ?_⟩
  · exact codes code ((normal.registered code).1 member)
  · rw [normal.strategy]
    exact named

/-- What is left of a configuration that makes sense is left as it is. -/
theorem validated_self (sensible : config.Sensible) : result.validated = .ok result := by
  rw [validated_eq_ok_iff]
  refine ⟨normal.sensible sensible, ?_⟩
  rw [firstOccurrences_of_nodup normal.distinct fun _ _ => List.not_mem_nil]

end IsNormal

/-! ## Stored form -/

theorem itemsReadBack_texts (texts : List String) : Json.ItemsReadBack (texts.map .str) := by
  induction texts with
  | nil => trivial
  | cons text texts ih => exact ⟨trivial, ih⟩

theorem numbersReadBack_toJson (config : Config) : config.toJson.NumbersReadBack := by
  refine ⟨itemsReadBack_texts config.locales, trivial, ?_, trivial⟩
  cases config.strategy with
  | noneValue => trivial
  | primaryLocale => trivial
  | fallback name => exact ⟨trivial, trivial⟩

theorem readTexts?_trees (texts : List String) :
    readTexts? (.array (Json.trees (texts.map .str))) = some texts := by
  rw [readTexts?, option_mapM_eq_some_iff]
  induction texts with
  | nil => exact .nil
  | cons text texts ih => exact .cons rfl ih

theorem readStrategy?_tree (strategy : LocaleStrategy) :
    readStrategy? (strategyJson strategy).tree = some strategy := by
  cases strategy <;> rfl

/-- The structure of a stored configuration is read as the configuration. -/
theorem ofTree?_tree (config : Config) : ofTree? config.toJson.tree = some config := by
  have locales := readTexts?_trees config.locales
  have strategy := readStrategy?_tree config.strategy
  simp [toJson, Json.tree, Json.memberTrees, ofTree?, Parts.addMember?, Parts.config, locales,
    strategy, readText?]

/-- A text with the structure of a configuration gives the configuration that is left of it. -/
theorem ofText_of_tree {text : String} (tree : Json.treeOfText? text = some config.toJson.tree) :
    ofText (some text) = config.validated := by
  simp [ofText, tree, ofTree?_tree]

/-! ## Normalisation -/

/-- Exactly the configurations that make sense are accepted. What is left of them has each locale
once, in the order in which they occur first, and says the same as they do. It makes sense, is left
as it is, and is read back from its stored form. -/
theorem normalisation_lawful (config : Config) :
    ((∃ result, config.validated = .ok result) ↔ config.Sensible) ∧
    ∀ result, config.validated = .ok result →
      config.IsNormal result ∧ result.locales.Nodup ∧
      (∀ code, result.isRegistered code = config.isRegistered code) ∧
      result.validate = .ok () ∧ result.validated = .ok result ∧
      ofText (some result.toJson.compact) = .ok result ∧
      ∀ level, ofText (some (result.toJson.pretty level)) = .ok result := by
  refine ⟨?_, fun result validated => ?_⟩
  · simp [validated_eq_ok_iff]
  · have normal := isNormal_of_validated validated
    obtain ⟨sensible, -⟩ := validated_eq_ok_iff.1 validated
    have again := normal.validated_self sensible
    have numbers := numbersReadBack_toJson result
    refine ⟨normal, normal.distinct, normal.isRegistered_eq,
      validate_eq_ok_iff.2 (normal.sensible sensible), again, ?_, fun level => ?_⟩
    · rw [ofText_of_tree (Json.treeOfText?_compact numbers), again]
    · rw [ofText_of_tree (Json.treeOfText?_pretty numbers level), again]

/-- Of two locales that are named twice, the first ones are left. -/
theorem normalisation_lawful_repeated :
    (⟨["fr", "en", "fr", "en"], "en", .fallback "upper"⟩ : Config).validated =
        .ok ⟨["fr", "en"], "en", .fallback "upper"⟩ ∧
      ofText (some (toJson ⟨["fr", "en"], "en", .fallback "upper"⟩).compact) =
        .ok ⟨["fr", "en"], "en", .fallback "upper"⟩ := by
  have validated : (⟨["fr", "en", "fr", "en"], "en", .fallback "upper"⟩ : Config).validated =
      .ok ⟨["fr", "en"], "en", .fallback "upper"⟩ := by
    rw [validated_eq_ok_iff]
    refine ⟨⟨List.cons_ne_nil _ _, by decide, by decide, ?_⟩, by decide⟩
    rintro name ⟨⟩
    decide
  obtain ⟨-, -, -, -, -, compact, -⟩ := (normalisation_lawful _).2 _ validated
  exact ⟨validated, compact⟩

end Config

end DocumentSchema

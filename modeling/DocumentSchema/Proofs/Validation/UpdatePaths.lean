import DocumentSchema.Proofs.Path.Candidates
import DocumentSchema.Proofs.Path.Replacement
import DocumentSchema.Proofs.Validation.Outcome

/-!
The keys of accepted updates as paths.

A key of an update that leads on from an attribute is cut at its first dot, and what is behind the
dot is cut into segments; resolution cuts the key as a whole. The two agree unless nothing stands
behind the first dot: there an update ends at the attribute itself, and resolution looks for a child
under the empty name. So the keys of an accepted update are paths of the schema but for those that
end with their first dot (`Context.resolves_iff_of_update`).
-/

namespace DocumentSchema

/-- The segments of a key that leads on from an attribute. -/
theorem Path.segments_partName {name : String} (noDot : '.' ∉ name.toList) (rest : String) :
    segments (Context.partName name rest) = name :: dotted rest := by
  have letters : (Context.partName name rest).toList = name.toList ++ '.' :: rest.toList := by
    simp [Context.partName]
  have filled : (Context.partName name rest).isEmpty = false := by
    rw [String.isEmpty_eq_false_iff]
    intro empty
    rw [empty] at letters
    simp at letters
  rw [segments, filled, dotted, letters, Text.parts_append noDot]
  simp [dotted]

/-- A key is a path of a schema: it resolves when the indices of alternatives are put in the place
of those of elements in some way. -/
def Schema.Resolves (schema : Schema) (config : Config) (key : String) : Prop :=
  ∃ first segments root rewritten found, Path.segments key = first :: segments ∧
    schema.get? first = some root ∧ rewritten ∈ root.rewritings config key segments ∧
    root.resolve config key rewritten = .ok found

namespace Descriptor

variable {config : Config} {d : Descriptor}

/-- Some rewriting of segments resolves exactly when an update may lead somewhere with them. -/
theorem exists_rewriting_iff (path : String) (numberable : d.Numberable) (segments : List String) :
    (∃ rewritten ∈ d.rewritings config path segments, ∃ found,
        d.resolve config path rewritten = .ok found) ↔
      ∃ candidate, candidate ∈ d.updateCandidates config segments := by
  rw [updateCandidates_eq_resolvedBelow path numberable]
  simp only [resolvedBelow, rewritings, List.mem_filterMap, toOption_eq_some_iff]
  constructor
  · rintro ⟨rewritten, member, found, there⟩
    exact ⟨found, rewritten, member, there⟩
  · rintro ⟨found, rewritten, member, there⟩
    exact ⟨rewritten, member, found, there⟩

/-- Where something is found under the empty name, the empty segment is kept. -/
theorem resolve_of_mem_rewritings {path : String} {rewritten : List String} {found : Descriptor}
    (member : rewritten ∈ d.rewritings config path [""])
    (there : d.resolve config path rewritten = .ok found) :
    d.resolve config path [""] = .ok found := by
  by_cases isList : d.IsList
  · obtain ⟨alternatives, length, isList⟩ := isList
    obtain ⟨shape, default, nullable⟩ := d
    cases (show shape = .list alternatives length from isList)
    -- The empty segment is no index, so that nothing stands for it in a list.
    have nothing : (mk (.list alternatives length) default nullable).rewritings config path [""] =
        [] := rfl
    rw [nothing] at member
    cases member
  · have plain : ¬PassesList (d.resolve config path) [""] := by
      rintro ⟨before, segment, after, scope, split, reached, listScope⟩
      cases before with
      | nil =>
        cases reached
        exact isList listScope
      | cons _ others => simp at split
    rw [rewritings, rewritingsBelow_eq_singleton plain, List.mem_singleton] at member
    rwa [← member]

end Descriptor

namespace Context

variable {context : Context} {schema : Schema} {doc out : Document} {key rest : String}
  {root : Descriptor}

/-- A key that leads on from an attribute is a path exactly when some rewriting of the segments
behind its first dot resolves from there. -/
theorem resolves_iff_of_dotted {config : Config} (dotted : schema.Dotted doc key root rest) :
    schema.Resolves config key ↔ ∃ rewritten ∈ root.rewritings config key (Path.dotted rest),
      ∃ found, root.resolve config key rewritten = .ok found := by
  obtain ⟨name, isKey, noDot, declared⟩ := dotted.leads
  have cut : Path.segments key = name :: Path.dotted rest := by
    rw [isKey, Path.segments_partName noDot]
  constructor
  · rintro ⟨first, segments, root', rewritten, found, split, declared', member, there⟩
    rw [cut] at split
    cases split
    rw [declared] at declared'
    cases declared'
    exact ⟨rewritten, member, found, there⟩
  · rintro ⟨rewritten, member, found, there⟩
    exact ⟨name, Path.dotted rest, root, rewritten, found, cut, declared, member, there⟩

/-- A key of an accepted update that leads on from an attribute is a path of the schema, unless
nothing stands behind its first dot: then it is one only if the attribute has a child under the
empty name, or is of any type. -/
theorem resolves_iff_of_update
    (attributes : Entries.Ascending schema.attributes) (ascending : Entries.Ascending doc)
    (numberable : ∀ field ∈ schema.attributes, field.2.Numberable)
    (accepted : context.validateDocument .update schema doc = .ok out)
    (dotted : schema.Dotted doc key root rest) :
    schema.Resolves context.config key ↔
      rest ≠ "" ∨ ∃ found, root.resolve context.config key [""] = .ok found := by
  obtain ⟨name, -, -, declared⟩ := dotted.leads
  have ofRoot : root.Numberable := numberable (name, root) (Entries.mem_of_get? declared)
  rw [resolves_iff_of_dotted dotted]
  by_cases empty : rest = ""
  · subst empty
    have onlyEmpty : Path.dotted "" = [""] := by decide
    rw [onlyEmpty]
    constructor
    · rintro ⟨rewritten, member, found, there⟩
      exact .inr ⟨found, Descriptor.resolve_of_mem_rewritings member there⟩
    · rintro (notEmpty | ⟨found, there⟩)
      · exact absurd rfl notEmpty
      · rw [Descriptor.exists_rewriting_iff key ofRoot]
        exact ⟨found, Descriptor.mem_updateCandidates_of_resolve there⟩
  · have cut : Path.segments rest = Path.dotted rest := by
      rw [Path.segments, String.isEmpty_eq_false_iff.2 empty]
      rfl
    have canonical := canonicalDocument_of_validateDocument attributes ascending accepted
    obtain ⟨c, -, before, chosen, after, candidates, -, -⟩ :=
      canonical.dotted key root rest dotted
    refine iff_of_true ?_ (.inl empty)
    rw [Descriptor.exists_rewriting_iff key ofRoot, ← cut, candidates]
    exact ⟨chosen, List.mem_append_right _ List.mem_cons_self⟩

theorem ascending_readings : Entries.Ascending readings.attributes :=
  List.pairwise_pair.2 (by decide)

theorem numberable_readings : ∀ field ∈ readings.attributes, field.2.Numberable := by
  intro field member
  rcases List.mem_pair.1 (show field ∈ [_, _] from member) with rfl | rfl
  · exact Descriptor.numberable_of_leaf rfl
  · refine Descriptor.numberable_of_children (by decide) fun item held => ?_
    cases List.mem_singleton.1 (show item ∈ [_] from held)
    exact Descriptor.numberable_of_leaf rfl

theorem dotted_levels :
    readings.Dotted [("levels.1", .str "5")] "levels.1"
      (.ofShape (.list [.ofShape (.int [])] none)) "1" :=
  ⟨by decide, by decide, "levels", by decide, by decide, rfl⟩

theorem dotted_level :
    readings.Dotted [("level.", .str "5")] "level." (.ofShape (.int [])) "" :=
  ⟨by decide, by decide, "level", by decide, by decide, rfl⟩

/-- The second level is an element of a list, of which the only alternative is the first one. -/
theorem resolves_iff_of_update_levels :
    initial.validateDocument .update readings [("levels.1", .str "5")] =
        .ok [("levels.1", .int 5)] ∧
      readings.Resolves .initial "levels.1" ∧
      readings.resolveAt .initial "levels.1" = .error (pathNotFound "levels.1" "1") := by
  have accepted : initial.validateDocument .update readings [("levels.1", .str "5")] =
      .ok [("levels.1", .int 5)] := rfl
  exact ⟨accepted, (resolves_iff_of_update ascending_readings (List.pairwise_singleton _ _)
    numberable_readings accepted dotted_levels).2 (.inl (by decide)), rfl⟩

/-- A key that ends with its first dot is accepted as if it were the attribute in front of the dot,
although it is no path. -/
theorem update_of_trailing_dot :
    Entries.Ascending readings.attributes ∧
      (∀ field ∈ readings.attributes, field.2.Numberable) ∧
      initial.validateDocument .update readings [("level.", .str "5")] =
        .ok [("level.", .int 5)] ∧
      readings.Dotted [("level.", .str "5")] "level." (.ofShape (.int [])) "" ∧
      ¬readings.Resolves .initial "level." ∧
      readings.resolveAt .initial "level." = .error (pathNotFound "level." "") := by
  refine ⟨ascending_readings, numberable_readings, rfl, dotted_level, fun resolves => ?_, rfl⟩
  obtain ⟨rewritten, member, found, there⟩ := (resolves_iff_of_dotted dotted_level).1 resolves
  have onlyEmpty : Path.dotted "" = [""] := by decide
  rw [onlyEmpty] at member
  cases Descriptor.resolve_of_mem_rewritings member there

end Context

end DocumentSchema

import DocumentSchema.Proofs.Descriptor.RecordValues

/-!
Descriptors that survive the JSON form of their records.

The record of a descriptor holds only values that JSON has, but for the members of its literals and
its fixed defaults: an infinite bound has a name there. So a descriptor is had back from the JSON
form of its record exactly when these values are JSON-faithful at every depth
(`Descriptor.ofJsonRecord_toJsonRecord`). In one direction a faithful descriptor has a faithful
record (`Descriptor.jsonFaithful_toRecord`), in the other whatever is read from a faithful record is
faithful (`Descriptor.jsonFaithful_of_ofRecord`).
-/

namespace DocumentSchema

/-- At every depth, the members of literals and the fixed defaults survive their JSON form. -/
def Descriptor.JsonFaithful : Descriptor → Prop :=
  ForValues Value.JsonFaithful

theorem Value.jsonClosed_jsonFaithful : JsonClosed JsonFaithful where
  leaf _ leaf := (jsonFaithful_of_leaf leaf).2
  list _ := jsonFaithful_list.2
  map _ _ := jsonFaithful_map.2

namespace Descriptor

variable {d : Descriptor}

theorem jsonFaithful_toRecord {r : Value} (written : d.toRecord = .ok r)
    (wellFormed : Throughout WellFormed d) (faithful : d.JsonFaithful) : r.JsonFaithful :=
  Value.jsonClosed_jsonFaithful.toRecord written wellFormed faithful

/-! ## Descriptors of faithful records -/

theorem ReadFrom.members_of_literal {args : Args} {members : List Value} (read : ReadFrom args d)
    (literal : d.shape = .literal members) :
    members = [] ∨ args.get? "literal" = some (.list members) := by
  cases read with
  | leaf leaf =>
    cases (show _ = Shape.literal members from literal)
    cases leaf with
    | bare member => simp [bareShapes] at member
    | literal _ held _ =>
      unfold Args.list at held
      split at held
      · cases held
        exact .inl rfl
      · next found =>
        cases held
        exact .inr found
      · cases held
  | record _ _ _ made =>
    obtain ⟨-, -, rfl⟩ := record_eq_ok_iff.1 made
    cases literal
  | _ => cases literal

theorem jsonFaithful_of_ofRecord {r : Value} (read : ofRecord r = .ok d)
    (faithful : r.JsonFaithful) : d.JsonFaithful := by
  refine throughout_of_ofRecord (fun {r' d} occurs read => ?_) read
  have here := faithful.ofOccurs occurs
  obtain ⟨m, rfl, kind, -, args, ofField, shaped, ofArgs, nullable, -, default, ofDefault, rfl⟩ :=
    ofRecord_eq_ok_iff.1 read
  constructor
  · intro members literal v member
    rcases ofArgs.members_of_literal literal with none | held
    · rw [none] at member
      cases member
    · have inside := Args.occurs_of_ofField ofField held
      exact here.ofOccurs ((Value.Occurs.ofItem member).trans inside)
  · intro v same
    cases (show default = some (.static v) from same)
    rcases Record.defaultOf_cases ofDefault with ⟨-, none⟩ | ⟨value, held, same⟩ | ⟨_, -, -, other⟩
    · cases none
    · cases same
      have entry : ("value", v) ∈ [("value", v)] := List.mem_cons_self
      have single : Value.Occurs v (.map [("value", v)]) := .ofEntry entry
      exact here.ofOccurs (single.trans (.ofEntry (Entries.mem_of_get? held)))
    · cases other

/-! ## There and back -/

/-- A value is had back from its JSON form, floats with the same bits, exactly when it is
JSON-faithful. A descriptor that is had back from its record is had back from the JSON form of that
record exactly when its literals and its fixed defaults are JSON-faithful at every depth. -/
theorem ofJsonRecord_toJsonRecord :
    (∀ v : Value, v.toJson.toValue = v ↔ v.JsonFaithful) ∧
      ∀ (d : Descriptor) (r : Value), d.toRecord = .ok r → ofRecord r = .ok d →
        ∃ j, d.toJsonRecord = .ok j ∧ (ofJsonRecord j = .ok d ↔ d.JsonFaithful) := by
  refine ⟨fun v => Value.toValue_toJson_eq_iff, fun d r written read => ?_⟩
  refine ⟨r.toJson, by rw [toJsonRecord, written]; rfl, ?_⟩
  constructor
  · intro again
    exact jsonFaithful_of_ofRecord again (Value.jsonFaithful_toValue_toJson r)
  · intro faithful
    have wellFormed := throughout_wellFormed (built_of_ofRecord read).checked
      (storable_of_ofRecord read) (not_hasInline_of_toRecord written)
    have kept := jsonFaithful_toRecord written wellFormed faithful
    rw [ofJsonRecord, Value.toValue_toJson_eq_iff.2 kept, read]

/-- Floats that are not negative, with a default. -/
def halfLine (default : Binary64) : Descriptor :=
  (ofShape (.float [⟨.zero, .infinity⟩])).withDefault (.static (.float default))

theorem halfLine_record (default : Binary64) :
    ∃ r, (halfLine default).toRecord = .ok r ∧ ofRecord r = .ok (halfLine default) := by
  have checked : (halfLine default).Checked := by
    refine throughout_of_leaf rfl fun range member => ?_
    cases List.mem_singleton.1 member
    have numbers : (Binary64.zero.isNaN || Binary64.infinity.isNaN) = false := by decide
    have ordered : Binary64.infinity.lt .zero = false := by decide +kernel
    simp [NumericRange.make, numbers, ordered]
  have storable : (halfLine default).Storable := storable_of_default rfl rfl rfl
  exact ⟨_, rfl, ofRecord_of_toRecord checked storable rfl⟩

theorem jsonFaithful_halfLine {default : Binary64} :
    (halfLine default).JsonFaithful ↔ default.isFinite = true :=
  (forValues_of_default rfl (fun _ literal => by cases literal) rfl).trans
    Value.jsonFaithful_float

/-- The infinite bound survives, an infinite default does not. -/
theorem ofJsonRecord_toJsonRecord_halfLine :
    (∃ j, (halfLine .zero).toJsonRecord = .ok j ∧ ofJsonRecord j = .ok (halfLine .zero)) ∧
      ∃ j, (halfLine .infinity).toJsonRecord = .ok j ∧
        ofJsonRecord j ≠ .ok (halfLine .infinity) := by
  obtain ⟨r, written, read⟩ := halfLine_record .zero
  obtain ⟨j, form, kept⟩ := ofJsonRecord_toJsonRecord.2 (halfLine .zero) r written read
  obtain ⟨r', written', read'⟩ := halfLine_record .infinity
  obtain ⟨j', form', lost⟩ := ofJsonRecord_toJsonRecord.2 (halfLine .infinity) r' written' read'
  refine ⟨⟨j, form, kept.2 (jsonFaithful_halfLine.2 (by decide))⟩, j', form', fun again => ?_⟩
  have finite := jsonFaithful_halfLine.1 (lost.1 again)
  rw [Binary64.isFinite_infinity] at finite
  cases finite

end Descriptor

end DocumentSchema

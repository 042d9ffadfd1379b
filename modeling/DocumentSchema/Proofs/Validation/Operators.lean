import DocumentSchema.Proofs.Value.Dictionary
import DocumentSchema.Validation.Operator

/-!
The written form of update operators.

A reserved key is told by its text, and the written form of a request reads back as that request
(`UpdateOperator.ofValue?_toValue`), so a canonical request says what it asks for.
-/

namespace DocumentSchema

/-! ## Reserved keys -/

namespace OperatorKey

variable {key : OperatorKey} {text : String}

theorem ofText?_text (key : OperatorKey) : ofText? key.text = some key := by
  cases key <;> rfl

theorem ofText?_eq_some_iff : ofText? text = some key ↔ text = key.text := by
  constructor
  · intro found
    have same := List.find?_some (p := fun key : OperatorKey => key.text == text) found
    exact (beq_iff_eq.1 same).symm
  · rintro rfl
    exact ofText?_text key

end OperatorKey

theorem Document.hasOperator_iff {entries : Document} :
    hasOperator entries = true ↔ ∃ key : OperatorKey, key.text ∈ Entries.keys entries := by
  simp only [hasOperator, List.any_eq_true, Option.isSome_iff_exists,
    OperatorKey.ofText?_eq_some_iff]
  constructor
  · rintro ⟨text, member, key, rfl⟩
    exact ⟨key, member⟩
  · rintro ⟨key, member⟩
    exact ⟨key.text, member, key, rfl⟩

/-! ## Requests -/

namespace UpdateOperator

/-- The written form of a request is read as that request. -/
theorem ofValue?_toValue (operator : UpdateOperator) :
    ofValue? operator.toValue = some operator := by
  cases operator with
  | add value field => cases field <;> rfl
  | multiply value field => cases field <;> rfl
  | append value unique => rfl
  | setIndex value index => rfl
  | deleteValues values => rfl
  | deleteIndex target => cases target <;> rfl

theorem key_of_ofPayload? {entries : Document} {payload : Value} {key : OperatorKey}
    {operator : UpdateOperator} (read : ofPayload? entries payload key = some operator) :
    operator.key = key := by
  cases key with
  | deleteIndex =>
    cases payload <;> cases read <;> rfl
  | _ =>
    obtain ⟨_, -, rfl⟩ := Option.map_eq_some_iff.1 read
    rfl

/-- The reserved key of a request is the only one in the map that writes it. -/
theorem reserved_of_ofMap? {entries : Document} {operator : UpdateOperator}
    (read : ofMap? entries = some operator) (key : OperatorKey) :
    key.text ∈ Entries.keys entries ↔ key = operator.key := by
  unfold ofMap? at read
  split at read
  · next sole reserved =>
    have inside (key : OperatorKey) : key.text ∈ Entries.keys entries ↔ key = sole := by
      have listed : key ∈ (Entries.keys entries).filterMap OperatorKey.ofText? ↔ key = sole := by
        rw [reserved, List.mem_singleton]
      rw [← listed, List.mem_filterMap]
      constructor
      · exact fun member => ⟨key.text, member, OperatorKey.ofText?_text key⟩
      · rintro ⟨text, member, found⟩
        rwa [← OperatorKey.ofText?_eq_some_iff.1 found]
    split at read
    · obtain ⟨payload, -, made⟩ := Option.bind_eq_some_iff.1 read
      rw [key_of_ofPayload? made, inside]
    · cases read
  · cases read

end UpdateOperator

end DocumentSchema

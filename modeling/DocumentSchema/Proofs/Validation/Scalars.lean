import DocumentSchema.Proofs.Numeric.Order
import DocumentSchema.Proofs.Text.Hex
import DocumentSchema.Proofs.Traversal
import DocumentSchema.Proofs.Validation.Names
import DocumentSchema.Validation.Value
import Mathlib.Data.List.TakeWhile

/-!
What scalar kinds accept.

One statement for each way of accepting a scalar says which values are accepted and what their
canonical form is. The kinds of text share `Scalar.acceptText_eq_some_iff`: they accept texts alone,
and as they are (`Context.exists_acceptText`).
-/

namespace DocumentSchema

namespace Value

variable {v : Value}

theorem str?_eq_some_iff {text : String} : v.str? = some text ↔ v = .str text := by
  cases v <;> simp [str?]

theorem list?_eq_some_iff {items : List Value} : v.list? = some items ↔ v = .list items := by
  cases v <;> simp [list?]

end Value

namespace Scalar

variable {v c : Value}

/-! ## Texts and bytes -/

theorem acceptText_eq_some_iff {test : String → Bool} :
    acceptText test v = some c ↔ ∃ text, v = .str text ∧ test text = true ∧ c = .str text := by
  cases v with
  | str text =>
    by_cases passed : test text = true
    · simp [acceptText, passed, @eq_comm _ c]
    · simp [acceptText, passed]
  | _ => simp [acceptText]

theorem acceptBytes_eq_some_iff :
    acceptBytes v = some c ↔ ∃ content, v = .bytes content ∧ c = .bytes content := by
  cases v with
  | bytes content => simp [acceptBytes, @eq_comm _ c]
  | _ => simp [acceptBytes]

theorem acceptBool_eq_some_iff :
    acceptBool v = some c ↔ ∃ flag, v = .bool flag ∧ c = .bool flag := by
  cases v with
  | bool flag => simp [acceptBool, Value.bool?, @eq_comm _ c]
  | _ => simp [acceptBool, Value.bool?]

/-! ## Numbers -/

theorem acceptInt_eq_some_iff {ranges : List NumericRange} :
    acceptInt ranges v = some c ↔
      ∃ n, (v = .int n ∨ ∃ text, v = .str text ∧ intOfText? text = some n) ∧
        inRanges ranges (Binary64.ofInt n.toInt) = true ∧ c = .int n := by
  cases v with
  | int n => simp [acceptInt, @eq_comm _ c]
  | str text => simp [acceptInt, Option.bind_eq_some_iff, @eq_comm _ c]
  | _ => simp [acceptInt]

theorem acceptFloat_eq_some_iff {ranges : List NumericRange} :
    acceptFloat ranges v = some c ↔
      ∃ x, ((v = .float x ∧ x.isNaN = false) ∨ (∃ n, v = .int n ∧ x = Binary64.ofInt n.toInt) ∨
          ∃ text, v = .str text ∧ floatOfText? text = some x) ∧
        inRanges ranges x = true ∧ c = .float x := by
  cases v with
  | int n => simp [acceptFloat, @eq_comm _ c]
  | str text => simp [acceptFloat, Option.bind_eq_some_iff, @eq_comm _ c]
  | float x => cases nan : x.isNaN <;> simp [acceptFloat, nan, @eq_comm _ c]
  | _ => simp [acceptFloat]

theorem isNaN_of_floatOfText? {text : String} {x : Binary64} (read : floatOfText? text = some x) :
    x.isNaN = false := by
  unfold floatOfText? at read
  dsimp only at read
  split at read
  · cases read
    exact Binary64.isNaN_ofRatio _ _ _
  · cases read

/-- Digits that write an integer write the float nearest to it. -/
theorem floatOfText?_of_intOfText? {text : String} {n : Int64} (read : intOfText? text = some n) :
    floatOfText? text = some (Binary64.ofInt n.toInt) := by
  unfold intOfText? at read
  dsimp only at read
  split at read
  · next written =>
    cases read
    obtain ⟨isInteger, small⟩ := written
    obtain ⟨notEmpty, digits⟩ := Bool.and_eq_true_iff.1 isInteger
    have whole : text.toList.takeWhile Text.isDigit = text.toList :=
      List.takeWhile_eq_self_iff.2 fun c member => List.all_eq_true.1 digits c member
    have fraction : text.toList.dropWhile Text.isDigit = [] :=
      List.dropWhile_eq_nil_iff.2 fun c member => List.all_eq_true.1 digits c member
    have isDecimal : Text.Format.isDecimal text = true := by
      rw [Text.Format.isDecimal, whole, fraction, Bool.and_true]
      exact notEmpty
    have number : (Int64.ofInt (Text.decimalValue text.toList)).toInt =
        Text.decimalValue text.toList :=
      Int64.toInt_ofInt_of_le (by omega) (by omega)
    have notNegative : decide ((Text.decimalValue text.toList : Int) < 0) = false :=
      decide_eq_false (by omega)
    rw [floatOfText?, if_pos isDecimal, whole, fraction, number, Binary64.ofInt, notNegative]
    simp
  · cases read

/-- No canonical float is a NaN. -/
theorem isNaN_of_acceptFloat {ranges : List NumericRange} {x : Binary64}
    (accepted : acceptFloat ranges v = some (.float x)) : x.isNaN = false := by
  obtain ⟨y, source, -, same⟩ := acceptFloat_eq_some_iff.1 accepted
  cases same
  rcases source with ⟨-, number⟩ | ⟨n, -, rfl⟩ | ⟨text, -, read⟩
  · exact number
  · exact Binary64.isNaN_ofInt _
  · exact isNaN_of_floatOfText? read

/-! ## Identifiers, places and literals -/

theorem acceptId_eq_some_iff {name : String} :
    acceptId name v = some c ↔
      ∃ i, documentId? v = some i ∧ c = if isIdName name then .id i else .str i.hex := by
  rw [acceptId, Option.map_eq_some_iff]
  exact exists_congr fun i => and_congr_right fun _ => eq_comm

theorem acceptGeoPoint_eq_some_iff :
    acceptGeoPoint v = some c ↔
      ∃ entries x y, v = .map entries ∧ entries.length = 2 ∧
        Entries.get? entries "type" = some (.str "Point") ∧
        Entries.get? entries "coordinates" = some (.list [x, y]) ∧
        x.number?.isSome = true ∧ y.number?.isSome = true ∧ c = v := by
  cases v with
  | map entries =>
    simp only [acceptGeoPoint, Value.map?, Option.bind_eq_bind, Option.bind_some,
      Option.bind_eq_some_iff, guard_eq_some_iff, Option.pure_def, Option.some.injEq, beq_iff_eq,
      Bool.and_eq_true, List.all_eq_true, Value.str?_eq_some_iff, Value.list?_eq_some_iff]
    constructor
    · intro h
      obtain ⟨-, two, -, ⟨type, found, rfl⟩, coordinates, h⟩ := h
      obtain ⟨⟨_, held, rfl⟩, -, ⟨pair, numbers⟩, rfl⟩ := h
      obtain ⟨x, y, rfl⟩ := List.length_eq_two.1 pair
      exact ⟨entries, x, y, rfl, two, found, held, numbers x (by simp), numbers y (by simp), rfl⟩
    · intro h
      obtain ⟨_, x, y, ⟨⟩, two, found, held, left, right, rfl⟩ := h
      exact ⟨(), two, (), ⟨_, found, rfl⟩, _, ⟨_, held, rfl⟩, (), ⟨rfl, by simp [left, right]⟩, rfl⟩
  | _ => simp [acceptGeoPoint, Value.map?]

theorem acceptLiteral_eq_some {members : List Value} (accepted : acceptLiteral members v = some c) :
    c ∈ members ∧ c.equal v = true :=
  ⟨List.mem_of_find?_eq_some accepted,
    List.find?_some (p := fun member : Value => member.equal v) accepted⟩

end Scalar

/-! ## Groups of kinds -/

namespace Shape

/-- Whether the values of a shape are texts, each its own canonical form. -/
def isText : Shape → Bool
  | str _ => true
  | temporal _ _ => true
  | email _ => true
  | webUri _ => true
  | mailUri _ => true
  | telUri _ => true
  | phone _ => true
  | ip => true
  | localeCode => true
  | _ => false

/-- Whether a shape accepts values as they are or not at all. -/
def isVerbatim : Shape → Bool
  | any => true
  | bool => true
  | bytes => true
  | geoPoint => true
  | descriptor => true
  | shape => shape.isText

/-- Whether the values of a shape are checked part by part. -/
def isComposite : Shape → Bool
  | file => true
  | list _ _ => true
  | union _ => true
  | dict _ _ _ _ => true
  | record _ => true
  | _ => false

end Shape

namespace Context

variable {context : Context} {file : String → Value → Document → Option Value}
  {custom : ValidatorRef → Value → Option Value} {name : String} {doc : Document}
  {shape : Shape} {v c : Value}

theorem exists_acceptText (context : Context) (isText : shape.isText = true) :
    ∃ test, ∀ file custom name v doc,
      context.acceptShape file custom name shape v doc = Scalar.acceptText test v := by
  cases shape with
  | str _ | temporal _ _ | email _ | webUri _ | mailUri _ | telUri _ | phone _ | ip | localeCode =>
    exact ⟨_, fun file custom name v doc => by rw [acceptShape]; rfl⟩
  | _ => cases isText

theorem eq_of_acceptShape (verbatim : shape.isVerbatim = true)
    (accepted : context.acceptShape file custom name shape v doc = some c) : c = v := by
  by_cases isText : shape.isText = true
  · obtain ⟨test, same⟩ := context.exists_acceptText isText
    rw [same, Scalar.acceptText_eq_some_iff] at accepted
    obtain ⟨text, rfl, -, rfl⟩ := accepted
    rfl
  cases shape with
  | any =>
    rw [acceptShape] at accepted
    split at accepted <;> cases accepted
    rfl
  | bool =>
    obtain ⟨flag, rfl, rfl⟩ := Scalar.acceptBool_eq_some_iff.1 accepted
    rfl
  | bytes =>
    obtain ⟨content, rfl, rfl⟩ := Scalar.acceptBytes_eq_some_iff.1 accepted
    rfl
  | geoPoint =>
    obtain ⟨_, _, _, -, -, -, -, -, -, same⟩ := Scalar.acceptGeoPoint_eq_some_iff.1 accepted
    exact same
  | descriptor =>
    rw [acceptShape] at accepted
    split at accepted <;> cases accepted
    rfl
  | _ => first | exact absurd rfl isText | cases verbatim

end Context

end DocumentSchema

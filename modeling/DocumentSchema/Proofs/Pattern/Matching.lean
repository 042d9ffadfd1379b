import DocumentSchema.Pattern.Form
import Mathlib.Data.List.Basic

/-!
What a form matches.

Each way to build an expression has one way to match (`matches_seq_iff` and its siblings). Forms
that are put one behind another are joined and flattened to keep them short; by
`Form.agrees_ofParts` this does not change what they match.
-/

namespace DocumentSchema

namespace Regex

variable {r s : Regex} {before t after : List Char} {count least : Nat} {most : Option Nat}

/-! ## Cases of a match -/

/-- The empty expression matches the empty text alone. -/
theorem matches_epsilon_iff : Matches .epsilon before t after ↔ t = [] := by
  constructor
  · rintro ⟨⟩
    rfl
  · rintro rfl
    exact .epsilon

/-- A set of characters matches one of them. -/
theorem matches_chars_iff {set : Text.CharSet} :
    Matches (.chars set) before t after ↔ ∃ c, t = [c] ∧ set.contains c = true := by
  constructor
  · rintro ⟨⟩
    exact ⟨_, rfl, ‹_›⟩
  · rintro ⟨c, rfl, member⟩
    exact .chars member

/-- An anchor matches the empty text where it holds between what is before and what is after. -/
theorem matches_anchor_iff {assertion : Anchor} :
    Matches (.anchor assertion) before t after ↔
      t = [] ∧ assertion.holds before.head? after.head? = true := by
  constructor
  · rintro ⟨⟩
    exact ⟨rfl, ‹_›⟩
  · rintro ⟨rfl, holds⟩
    exact .anchor holds

/-- One expression behind another matches two pieces, each with the other beside it. -/
theorem matches_seq_iff :
    Matches (.seq r s) before t after ↔
      ∃ u v, t = u ++ v ∧ Matches r before u (v ++ after) ∧
        Matches s (u.reverse ++ before) v after := by
  constructor
  · rintro ⟨⟩
    exact ⟨_, _, rfl, ‹_›, ‹_›⟩
  · rintro ⟨u, v, rfl, first, second⟩
    exact .seq first second

/-- A choice matches what one of its expressions matches. -/
theorem matches_alt_iff :
    Matches (.alt r s) before t after ↔ Matches r before t after ∨ Matches s before t after := by
  constructor
  · rintro ⟨⟩
    · exact .inl ‹_›
    · exact .inr ‹_›
  · rintro (left | right)
    · exact .altLeft left
    · exact .altRight right

/-- A repetition matches as many times as its bounds allow. -/
theorem matches_repeat_iff :
    Matches (.repeat r least most) before t after ↔
      ∃ count, least ≤ count ∧ (∀ limit, most = some limit → count ≤ limit) ∧
        MatchesTimes r count before t after := by
  constructor
  · rintro ⟨⟩
    exact ⟨_, ‹_›, ‹_›, ‹_›⟩
  · rintro ⟨count, enough, few, times⟩
    exact .repeat enough few times

/-- No times is the empty text. -/
theorem matchesTimes_zero_iff : MatchesTimes r 0 before t after ↔ t = [] := by
  constructor
  · rintro ⟨⟩
    rfl
  · rintro rfl
    exact .zero

/-- Once more is one match in front of the others. -/
theorem matchesTimes_succ_iff :
    MatchesTimes r (count + 1) before t after ↔
      ∃ u v, t = u ++ v ∧ Matches r before u (v ++ after) ∧
        MatchesTimes r count (u.reverse ++ before) v after := by
  constructor
  · rintro ⟨⟩
    exact ⟨_, _, rfl, ‹_›, ‹_›⟩
  · rintro ⟨u, v, rfl, first, others⟩
    exact .succ first others

/-! ## Sequences -/

/-- Two expressions match the same stretches. -/
def Agrees (r s : Regex) : Prop :=
  ∀ before t after, Matches r before t after ↔ Matches s before t after

namespace Agrees

variable {r₁ r₂ s₁ s₂ q : Regex}

theorem refl (r : Regex) : Agrees r r :=
  fun _ _ _ => Iff.rfl

theorem symm (same : Agrees r s) : Agrees s r :=
  fun before t after => (same before t after).symm

theorem trans (first : Agrees r s) (second : Agrees s q) : Agrees r q :=
  fun before t after => (first before t after).trans (second before t after)

/-- Expressions that agree can stand for each other in front and behind. -/
theorem seq (first : Agrees r₁ s₁) (second : Agrees r₂ s₂) : Agrees (.seq r₁ r₂) (.seq s₁ s₂) := by
  intro before t after
  simp only [matches_seq_iff, first before _ _, second _ _ after]

end Agrees

theorem agrees_seq_epsilon : Agrees (.seq r .epsilon) r := by
  intro before t after
  simp [matches_seq_iff, matches_epsilon_iff]

theorem agrees_epsilon_seq : Agrees (.seq .epsilon r) r := by
  intro before t after
  simp [matches_seq_iff, matches_epsilon_iff]

/-- Leaving out empty expressions does not change what a sequence matches. -/
theorem agrees_sequence : Agrees (sequence r s) (.seq r s) := by
  unfold sequence
  split
  · exact agrees_epsilon_seq.symm
  · exact agrees_seq_epsilon.symm
  · exact .refl _

/-- It does not matter how a sequence is put in brackets. -/
theorem agrees_seq_assoc {q : Regex} : Agrees (.seq (.seq r s) q) (.seq r (.seq s q)) := by
  intro before t after
  simp only [matches_seq_iff]
  constructor
  · rintro ⟨_, w, rfl, ⟨u, v, rfl, first, second⟩, third⟩
    refine ⟨u, v ++ w, List.append_assoc u v w, ?_, v, w, rfl, second, ?_⟩
    · rwa [List.append_assoc]
    · rwa [List.reverse_append, List.append_assoc] at third
  · rintro ⟨u, _, rfl, first, v, w, rfl, second, third⟩
    refine ⟨u ++ v, w, (List.append_assoc u v w).symm, ⟨u, v, rfl, ?_, second⟩, ?_⟩
    · rwa [List.append_assoc] at first
    · rwa [List.reverse_append, List.append_assoc]

/-- Between the two bounds of the text, only the whole text can match. -/
theorem matches_anchored :
    Matches (.seq (.anchor .textStart) (.seq r (.anchor .textEnd))) before t after ↔
      before = [] ∧ after = [] ∧ Matches r [] t [] := by
  simp only [matches_seq_iff, matches_anchor_iff, Anchor.holds, Option.isNone_iff_eq_none,
    List.head?_eq_none_iff]
  constructor
  · rintro ⟨_, _, rfl, ⟨rfl, rfl⟩, u, _, rfl, matched, rfl, rfl⟩
    rw [List.append_nil]
    exact ⟨rfl, rfl, matched⟩
  · rintro ⟨rfl, rfl, matched⟩
    exact ⟨[], t, rfl, ⟨rfl, rfl⟩, t, [], (List.append_nil t).symm, matched, rfl, rfl⟩

end Regex

namespace Pattern.Form

open Regex (Agrees)

variable {form : Form} {forms others : List Form}

theorem agrees_parts_cons :
    Agrees (regexOfParts (form :: forms)) (.seq form.regex (regexOfParts forms)) :=
  Regex.agrees_sequence

/-- Parts that are put behind others match behind them. -/
theorem agrees_parts_append :
    Agrees (regexOfParts (forms ++ others)) (.seq (regexOfParts forms) (regexOfParts others)) := by
  induction forms with
  | nil => exact Regex.agrees_epsilon_seq.symm
  | cons form forms ih =>
    exact agrees_parts_cons.trans <| (Agrees.seq (.refl _) ih).trans <|
      Regex.agrees_seq_assoc.symm.trans (.seq agrees_parts_cons.symm (.refl _))

/-- The parts of a form match what the form matches. -/
theorem agrees_parts : Agrees (regexOfParts form.parts) form.regex := by
  cases form
  case empty => exact .refl _
  case concat => exact .refl _
  all_goals exact agrees_parts_cons.trans Regex.agrees_seq_epsilon

/-- Flattening the forms of a sequence does not change what it matches. -/
theorem agrees_flatMap_parts :
    Agrees (regexOfParts (forms.flatMap parts)) (regexOfParts forms) := by
  induction forms with
  | nil => exact .refl _
  | cons form forms ih =>
    exact agrees_parts_append.trans <| (Agrees.seq agrees_parts ih).trans agrees_parts_cons.symm

/-- A text matches as its pieces do, one behind the other. -/
theorem agrees_literal_append {text more : List Char} :
    Agrees (Form.literal (text ++ more)).regex
      (.seq (Form.literal text).regex (Form.literal more).regex) := by
  induction text with
  | nil => exact Regex.agrees_epsilon_seq.symm
  | cons c text ih =>
    exact Regex.agrees_sequence.trans <| (Agrees.seq (.refl _) ih).trans <|
      Regex.agrees_seq_assoc.symm.trans (.seq Regex.agrees_sequence.symm (.refl _))

/-- Joining neighbouring texts does not change what a sequence matches. -/
theorem agrees_joinLiterals : Agrees (regexOfParts (joinLiterals forms)) (regexOfParts forms) := by
  induction forms using joinLiterals.induct with
  | case1 => exact .refl _
  | case2 text rest more rest' joined ih =>
    rw [joined] at ih
    rw [joinLiterals, joined]
    exact agrees_parts_cons.trans <| (Agrees.seq agrees_literal_append (.refl _)).trans <|
      Regex.agrees_seq_assoc.trans <| (Agrees.seq (.refl _) (agrees_parts_cons.symm.trans ih)).trans
        agrees_parts_cons.symm
  | case3 text rest notJoined ih =>
    rw [joinLiterals]
    split
    · exact absurd ‹_› (notJoined _ _)
    · exact agrees_parts_cons.trans <| (Agrees.seq (.refl _) ih).trans agrees_parts_cons.symm
  | case4 form rest notLiteral ih =>
    rw [joinLiterals.eq_3 form rest notLiteral]
    exact agrees_parts_cons.trans <| (Agrees.seq (.refl _) ih).trans agrees_parts_cons.symm

/-- The form of several parts matches what they match one behind the other. -/
theorem agrees_ofParts : Agrees (ofParts forms).regex (regexOfParts forms) := by
  refine Agrees.trans ?_ (agrees_joinLiterals.trans agrees_flatMap_parts)
  unfold ofParts
  split
  · next none => rw [none]; exact .refl _
  · next one => rw [one]; exact (agrees_parts_cons.trans Regex.agrees_seq_epsilon).symm
  · exact .refl _

end Pattern.Form

end DocumentSchema

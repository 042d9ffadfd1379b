import DocumentSchema.Text.Unicode.Word

/-!
Regular expressions and what they match.

A regular expression is built from sets of characters, assertions on the place reached, sequences,
choices and repetitions. `Regex.Matches` says which stretches of a text it matches; what stands
before and after the stretch counts for the assertions alone.
-/

namespace DocumentSchema

open Text (CharSet)

/-- An assertion on the place between two characters. -/
inductive Anchor where
  | textStart
  | textEnd
  | lineStart
  | lineEnd
  | anyLineStart
  | anyLineEnd
  | wordBoundary (ascii : Bool)
  | notWordBoundary (ascii : Bool)
  | wordStart (ascii : Bool)
  | wordEnd (ascii : Bool)
  | wordStartHalf (ascii : Bool)
  | wordEndHalf (ascii : Bool)
  deriving DecidableEq, Repr

namespace Anchor

/-- Whether there is a word character on one side. -/
def isWordSide (ascii : Bool) (side : Option Char) : Bool :=
  match side with
  | none => false
  | some c => if ascii then Text.Unicode.asciiWord.contains c else Text.Unicode.isWord c

/-- Whether an assertion holds between two characters; there is none at the ends of the text. Lines
end at a line feed, and for `anyLineStart` and `anyLineEnd` also at a carriage return, the two in
sequence being one end. -/
def holds (anchor : Anchor) (before after : Option Char) : Bool :=
  match anchor with
  | textStart => before.isNone
  | textEnd => after.isNone
  | lineStart => before.isNone || before == some '\n'
  | lineEnd => after.isNone || after == some '\n'
  | anyLineStart =>
    before.isNone || before == some '\n' || (before == some '\r' && after != some '\n')
  | anyLineEnd =>
    after.isNone || after == some '\r' || (after == some '\n' && before != some '\r')
  | wordBoundary ascii => isWordSide ascii before != isWordSide ascii after
  | notWordBoundary ascii => isWordSide ascii before == isWordSide ascii after
  | wordStart ascii => !isWordSide ascii before && isWordSide ascii after
  | wordEnd ascii => isWordSide ascii before && !isWordSide ascii after
  | wordStartHalf ascii => !isWordSide ascii before
  | wordEndHalf ascii => !isWordSide ascii after

end Anchor

/-- A regular expression. A repetition without upper bound has `none` there. -/
inductive Regex where
  | epsilon
  | chars (set : CharSet)
  | anchor (assertion : Anchor)
  | seq (first second : Regex)
  | alt (left right : Regex)
  | repeat (body : Regex) (least : Nat) (most : Option Nat)
  deriving DecidableEq

namespace Regex

/-- One expression behind another, an empty one left out. -/
def sequence (r s : Regex) : Regex :=
  match r, s with
  | .epsilon, s => s
  | r, .epsilon => r
  | r, s => .seq r s

/-! ## Meaning -/

mutual

/-- `Matches r before text after`: the expression matches the stretch `text` that stands behind
`before`, given in reverse, and ahead of `after`. -/
inductive Matches : Regex → List Char → List Char → List Char → Prop
  | epsilon {before after : List Char} : Matches .epsilon before [] after
  | chars {set : CharSet} {before after : List Char} {c : Char} (member : set.contains c) :
      Matches (.chars set) before [c] after
  | anchor {assertion : Anchor} {before after : List Char}
      (holds : assertion.holds before.head? after.head?) :
      Matches (.anchor assertion) before [] after
  | seq {r s : Regex} {before t u after : List Char}
      (first : Matches r before t (u ++ after)) (second : Matches s (t.reverse ++ before) u after) :
      Matches (.seq r s) before (t ++ u) after
  | altLeft {r s : Regex} {before t after : List Char} (left : Matches r before t after) :
      Matches (.alt r s) before t after
  | altRight {r s : Regex} {before t after : List Char} (right : Matches s before t after) :
      Matches (.alt r s) before t after
  | repeat {r : Regex} {least count : Nat} {most : Option Nat} {before t after : List Char}
      (enough : least ≤ count) (few : ∀ limit, most = some limit → count ≤ limit)
      (times : MatchesTimes r count before t after) :
      Matches (.repeat r least most) before t after

/-- `MatchesTimes r count before text after`: the stretch is cut into `count` stretches one behind
another, each matched by the expression. -/
inductive MatchesTimes : Regex → Nat → List Char → List Char → List Char → Prop
  | zero {r : Regex} {before after : List Char} : MatchesTimes r 0 before [] after
  | succ {r : Regex} {count : Nat} {before t u after : List Char}
      (first : Matches r before t (u ++ after))
      (others : MatchesTimes r count (t.reverse ++ before) u after) :
      MatchesTimes r (count + 1) before (t ++ u) after

end

end Regex

end DocumentSchema

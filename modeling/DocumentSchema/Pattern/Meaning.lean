import DocumentSchema.Pattern.Machine
import DocumentSchema.Pattern.Reader
import DocumentSchema.Text.Unicode.CaseFolding
import DocumentSchema.Text.Unicode.Name

/-!
From the text of a pattern to the regular expression it means.

Flags hold from where they are set to the end of the group around them, so they are carried along
the pattern from left to right. A pattern that turns scripts off deals in bytes and may then hold
nothing that could match a part of a character: no `.`, no negated class and no byte above the ASCII
range. `regexOfText` gives the expression of a text whose form is small enough to be matched.
-/

namespace DocumentSchema.Pattern

open Text (CharSet)

/-- The flags in force at a place of a pattern, as far as they change what is matched. -/
structure Flags where
  caseInsensitive : Bool
  multiLine : Bool
  dotMatchesAll : Bool
  swapGreed : Bool
  unicode : Bool
  anyLineEnd : Bool

namespace Flags

/-- The flags at the start of a pattern: all scripts, and all else off. -/
def initial : Flags := ⟨false, false, false, false, true, false⟩

/-- The flags after some are set or turned off. -/
def set (flags : Flags) (settings : List (Flag × Bool)) : Flags :=
  { caseInsensitive := (settingOf .caseInsensitive settings).getD flags.caseInsensitive
    multiLine := (settingOf .multiLine settings).getD flags.multiLine
    dotMatchesAll := (settingOf .dotMatchesAll settings).getD flags.dotMatchesAll
    swapGreed := (settingOf .swapGreed settings).getD flags.swapGreed
    unicode := (settingOf .unicode settings).getD flags.unicode
    anyLineEnd := (settingOf .anyLineEnd settings).getD flags.anyLineEnd }

end Flags

/-! ## Sets of characters -/

/-- The ASCII characters of a set with both cases of its letters. -/
def closeAsciiCase (s : CharSet) : CharSet :=
  let both := (List.range 26).flatMap fun i =>
    if s.containsCode (0x41 + i) || s.containsCode (0x61 + i) then
      [(0x41 + i, 0x41 + i), (0x61 + i, 0x61 + i)]
    else []
  CharSet.ofRanges (s.ranges ++ both)

/-- Both cases of the letters of a set. -/
def closeCase (flags : Flags) (s : CharSet) : CharSet :=
  if flags.unicode then s.closeCase else closeAsciiCase s

/-- A class from its members: both cases when case does not count, and then the other characters
when it is negated. -/
def finishClass? (flags : Flags) (negated : Bool) (s : CharSet) : Option CharSet :=
  let s := if flags.caseInsensitive then closeCase flags s else s
  if !negated then some s
  else if flags.unicode then some s.complement
  else none

/-- A named class of one letter. -/
def letterSet? (flags : Flags) (kind : LetterClass) (negated : Bool) : Option CharSet :=
  if flags.unicode then
    let s :=
      match kind with
      | .digit => Text.Unicode.decimalNumber
      | .space => Text.Unicode.whiteSpace
      | .word => Text.Unicode.word
    some (if negated then s.complement else CharSet.ofRanges s.ranges)
  else if negated then none
  else
    match kind with
    | .digit => some Text.Unicode.asciiDigit
    | .space => some Text.Unicode.asciiSpace
    | .word => some Text.Unicode.asciiWord

/-- The characters that have a property. -/
def propertySet? (flags : Flags) (name : PropertyName) (negated : Bool) : Option CharSet := do
  guard flags.unicode
  let s ←
    match name with
    | .single name => Text.Unicode.named? name
    | .valued name value => Text.Unicode.valued? name value
  finishClass? flags negated s

/-- The result of an operator on two classes. -/
def combine (flags : Flags) (op : ClassOp) (left right : CharSet) : CharSet :=
  let left := if flags.caseInsensitive then closeCase flags left else left
  let right := if flags.caseInsensitive then closeCase flags right else right
  match op with
  | .intersection => left.inter right
  | .difference => left.difference right
  | .symmetricDifference => left.symmetricDifference right

mutual

/-- The characters of a class. -/
def classSet? (flags : Flags) : ClassTree → Option CharSet
  | .empty => some .empty
  | .range lo hi =>
    if flags.unicode || hi.toNat < 0x80 then some (CharSet.ofRanges [(lo.toNat, hi.toNat)])
    else none
  | .named set negated => finishClass? flags negated set
  | .letter kind negated => letterSet? flags kind negated
  | .property name negated => propertySet? flags name negated
  | .bracketed body negated => do
    let set ← classSet? flags body
    finishClass? flags negated set
  | .union items => (classSets? flags items).map CharSet.unionAll
  | .binary op left right => do
    let left ← classSet? flags left
    let right ← classSet? flags right
    return combine flags op left right
termination_by structural x => x

/-- The characters of several classes. -/
def classSets? (flags : Flags) : List ClassTree → Option (List CharSet)
  | [] => some []
  | item :: rest => do
    let item ← classSet? flags item
    let rest ← classSets? flags rest
    return item :: rest
termination_by structural x => x

end

/-! ## Forms -/

/-- A single character, or all that differ from it in case only. -/
def literalSet (flags : Flags) (c : Char) : CharSet :=
  if flags.caseInsensitive && (flags.unicode || c.toNat < 0x80) then
    closeCase flags (CharSet.single c)
  else CharSet.single c

/-- What an assertion asks of a place. -/
def assertionAnchor (flags : Flags) (kind : Assertion) : Anchor :=
  match kind with
  | .lineStart =>
    if !flags.multiLine then .textStart
    else if flags.anyLineEnd then .anyLineStart
    else .lineStart
  | .lineEnd =>
    if !flags.multiLine then .textEnd
    else if flags.anyLineEnd then .anyLineEnd
    else .lineEnd
  | .textStart => .textStart
  | .textEnd => .textEnd
  | .wordBoundary => .wordBoundary !flags.unicode
  | .notWordBoundary => .notWordBoundary !flags.unicode
  | .wordStart => .wordStart !flags.unicode
  | .wordEnd => .wordEnd !flags.unicode
  | .wordStartHalf => .wordStartHalf !flags.unicode
  | .wordEndHalf => .wordEndHalf !flags.unicode

/-- All characters that `.` matches. -/
def anyCharSet (flags : Flags) : CharSet :=
  if flags.dotMatchesAll then .all
  else if flags.anyLineEnd then (CharSet.ofRanges [(0x0A, 0x0A), (0x0D, 0x0D)]).complement
  else (CharSet.single '\n').complement

/-- The form of an atom. -/
def atomForm? (flags : Flags) : Atom → Option Form
  | .literal c byte =>
    if !flags.unicode && byte && 0x80 ≤ c.toNat then none
    else some (.ofSet (literalSet flags c) !flags.unicode)
  | .anyChar => if flags.unicode then some (.ofSet (anyCharSet flags) false) else none
  | .assertion kind => some (.anchor (assertionAnchor flags kind))
  | .letter kind negated => (letterSet? flags kind negated).map (.ofSet · !flags.unicode)
  | .property name negated => (propertySet? flags name negated).map (.ofSet · false)

/-- The bounds of a repetition, with the meaning of the question mark swapped if flags say so. -/
def boundsUnder (flags : Flags) (bounds : Bounds) : Bounds :=
  { bounds with isLazy := bounds.isLazy != flags.swapGreed }

mutual

/-- The form of a tree and the flags in force behind it. -/
def form? (flags : Flags) : Tree → Option (Form × Flags)
  | .empty => some (.empty, flags)
  | .flags settings => some (.empty, flags.set settings)
  | .atom atom => (atomForm? flags atom).map (·, flags)
  | .bracketed body negated => do
    let set ← classSet? flags body
    let set ← finishClass? flags negated set
    return (.ofSet set !flags.unicode, flags)
  | .repeat body bounds => do
    let (body, flags) ← form? flags body
    return (.repeated body (boundsUnder flags bounds), flags)
  | .capture body => do
    let (body, _) ← form? flags body
    return (.capture body, flags)
  | .group settings body => do
    let (body, _) ← form? (flags.set settings) body
    return (body, flags)
  | .alternation branches => do
    let (branches, flags) ← forms? flags branches
    return (.ofBranches branches, flags)
  | .concat parts => do
    let (parts, flags) ← forms? flags parts
    return (.ofParts parts, flags)
termination_by structural x => x

/-- The forms of several trees, each under the flags in force behind the one before. -/
def forms? (flags : Flags) : List Tree → Option (List Form × Flags)
  | [] => some ([], flags)
  | tree :: rest => do
    let (form, flags) ← form? flags tree
    let (forms, flags) ← forms? flags rest
    return (form :: forms, flags)
termination_by structural x => x

end

/-- The form of a pattern text; nothing when the text is no pattern. -/
def Form.ofText? (text : String) : Option Form := do
  let tree ← Tree.ofText? text
  let (form, _) ← form? .initial tree
  return form

/-- The regular expression that a pattern text means. -/
def regexOfText (text : String) : Except Fault Regex :=
  match Form.ofText? text with
  | none => .error .unreadable
  | some form => if form.isSmall then .ok form.regex else .error .tooLarge

end DocumentSchema.Pattern

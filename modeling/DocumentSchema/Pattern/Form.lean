import DocumentSchema.Pattern.Regex
import DocumentSchema.Pattern.Tree

/-!
Normal forms of patterns.

A form is what is left of a pattern when its flags have been applied, so it says what the pattern
matches; `Form.regex` is the regular expression of that meaning. Forms are built by functions that
keep them short: `Form.ofSet`, `Form.repeated`, `Form.ofParts` and `Form.ofBranches` join
neighbouring characters to one literal, leave out what is empty, and turn a choice between
characters into one set. How much room a pattern takes is measured on its form.
-/

namespace DocumentSchema.Pattern

open Text (CharSet)

/-- A pattern in normal form. A set that was written for bytes counts as different from the same
set of characters. -/
inductive Form where
  | empty
  | literal (text : List Char)
  | chars (set : CharSet) (bytewise : Bool)
  | anchor (assertion : Anchor)
  | repeat (body : Form) (bounds : Bounds)
  | capture (body : Form)
  | concat (parts : List Form)
  | alternation (branches : List Form)

namespace Form

/-! ## Meaning -/

mutual

/-- The regular expression of a form. Which stretch a group captures does not count. -/
def regex : Form → Regex
  | .empty => .epsilon
  | .literal text => text.foldr (fun c r => .sequence (.chars (.single c)) r) .epsilon
  | .chars set _ => .chars set
  | .anchor assertion => .anchor assertion
  | .repeat body bounds => .repeat body.regex bounds.least bounds.most
  | .capture body => body.regex
  | .concat parts => regexOfParts parts
  | .alternation branches => regexOfBranches branches
termination_by structural form => form

/-- The regular expression of forms one behind another. -/
def regexOfParts : List Form → Regex
  | [] => .epsilon
  | part :: rest => .sequence part.regex (regexOfParts rest)
termination_by structural parts => parts

/-- The regular expression of a choice. -/
def regexOfBranches : List Form → Regex
  | [] => .chars .empty
  | [branch] => branch.regex
  | branch :: rest => .alt branch.regex (regexOfBranches rest)
termination_by structural branches => branches

end

/-! ## Lengths -/

mutual

/-- The number of characters in the shortest texts that a form matches, as far as its parts show;
nothing when one of its parts matches no text. -/
def leastLength? : Form → Option Nat
  | .empty => some 0
  | .literal text => some text.length
  | .chars set _ => if set.ranges.isEmpty then none else some 1
  | .anchor _ => some 0
  | .repeat body bounds => body.leastLength?.map (· * bounds.least)
  | .capture body => body.leastLength?
  | .concat parts => leastLengthOfParts? parts
  | .alternation branches => leastLengthOfBranches? branches
termination_by structural form => form

/-- The least lengths of several forms, added up. -/
def leastLengthOfParts? : List Form → Option Nat
  | [] => some 0
  | part :: rest => do
    let length ← part.leastLength?
    let others ← leastLengthOfParts? rest
    return length + others
termination_by structural parts => parts

/-- The smallest of the least lengths of several forms. -/
def leastLengthOfBranches? : List Form → Option Nat
  | [] => none
  | [branch] => branch.leastLength?
  | branch :: rest => do
    let length ← branch.leastLength?
    let others ← leastLengthOfBranches? rest
    return min length others
termination_by structural branches => branches

end

/-- Whether a form takes a character wherever it matches. -/
def takesSome (form : Form) : Bool :=
  form.leastLength?.any (0 < ·)

mutual

/-- Whether a form takes no character wherever it matches. -/
def takesNone : Form → Bool
  | .empty => true
  | .literal _ => false
  | .chars _ _ => false
  | .anchor _ => true
  | .repeat body _ => body.takesNone
  | .capture body => body.takesNone
  | .concat parts => allTakeNone parts
  | .alternation branches => allTakeNone branches
termination_by structural form => form

/-- Whether none of several forms takes a character. -/
def allTakeNone : List Form → Bool
  | [] => true
  | form :: rest => form.takesNone && allTakeNone rest
termination_by structural forms => forms

end

/-! ## Bounds of the text -/

mutual

/-- Whether every match of a form starts at the start of the text, as an assertion ahead of all
characters shows. -/
def startsText : Form → Bool
  | .anchor assertion => assertion == .textStart
  | .repeat body bounds => 0 < bounds.least && body.startsText
  | .capture body => body.startsText
  | .concat parts => somePartStartsText parts
  | .alternation branches => allBranchesStartText branches
  | _ => false
termination_by structural form => form

/-- Whether one of several forms starts the text and all before it take no character. -/
def somePartStartsText : List Form → Bool
  | [] => false
  | part :: rest => part.startsText || (part.takesNone && somePartStartsText rest)
termination_by structural parts => parts

/-- Whether all of several forms start the text. -/
def allBranchesStartText : List Form → Bool
  | [] => true
  | branch :: rest => branch.startsText && allBranchesStartText rest
termination_by structural branches => branches

end

mutual

/-- Whether every match of a form ends at the end of the text, as an assertion behind all characters
shows. -/
def endsText : Form → Bool
  | .anchor assertion => assertion == .textEnd
  | .repeat body bounds => 0 < bounds.least && body.endsText
  | .capture body => body.endsText
  | .concat parts => somePartEndsText parts
  | .alternation branches => allBranchesEndText branches
  | _ => false
termination_by structural form => form

/-- Whether one of several forms ends the text and all behind it take no character. -/
def somePartEndsText : List Form → Bool
  | [] => false
  | part :: rest => somePartEndsText rest || (part.endsText && allTakeNone rest)
termination_by structural parts => parts

/-- Whether all of several forms end the text. -/
def allBranchesEndText : List Form → Bool
  | [] => true
  | branch :: rest => branch.endsText && allBranchesEndText rest
termination_by structural branches => branches

end

/-! ## Likeness -/

mutual

/-- Whether two forms have the same structure. Two groups that capture never have, as each is
counted for itself. -/
def alike : Form → Form → Bool
  | .empty, .empty => true
  | .literal text, .literal other => text == other
  | .chars set bytewise, .chars other bytewise' => set == other && bytewise == bytewise'
  | .anchor assertion, .anchor other => assertion == other
  | .repeat body bounds, .repeat other bounds' => bounds == bounds' && body.alike other
  | .concat parts, .concat others => allAlike parts others
  | .alternation branches, .alternation others => allAlike branches others
  | _, _ => false
termination_by structural form => form

/-- Whether two lists hold forms of the same structure. -/
def allAlike : List Form → List Form → Bool
  | [], [] => true
  | form :: rest, other :: others => form.alike other && allAlike rest others
  | _, _ => false
termination_by structural forms => forms

end

/-! ## Building forms -/

/-- The form that matches nothing. -/
def nothing : Form := .chars .empty true

/-- The form of a set of characters; a single character is a literal. -/
def ofSet (set : CharSet) (bytewise : Bool) : Form :=
  match set.ranges with
  | [] => nothing
  | [(lo, hi)] => if lo = hi then .literal [Char.ofNat lo] else .chars set bytewise
  | _ => .chars set bytewise

/-- A repetition. What takes no character is repeated at most once, and exactly one repetition is
the body itself. -/
def repeated (body : Form) (bounds : Bounds) : Form :=
  let bounds :=
    if body.takesNone then
      { bounds with least := min bounds.least 1, most := some (min (bounds.most.getD 1) 1) }
    else bounds
  if bounds.most = some 0 then .empty
  else if bounds.least = 1 ∧ bounds.most = some 1 then body
  else .repeat body bounds

/-- The parts that a form consists of. -/
def parts : Form → List Form
  | .empty => []
  | .concat parts => parts
  | form => [form]

/-- Joins neighbouring literals. -/
def joinLiterals : List Form → List Form
  | [] => []
  | .literal text :: rest =>
    match joinLiterals rest with
    | .literal more :: rest => .literal (text ++ more) :: rest
    | rest => .literal text :: rest
  | form :: rest => form :: joinLiterals rest

/-- Forms one behind another. -/
def ofParts (forms : List Form) : Form :=
  match joinLiterals (forms.flatMap parts) with
  | [] => .empty
  | [form] => form
  | forms => .concat forms

/-- The branches that a form consists of. -/
def branches : Form → List Form
  | .alternation branches => branches
  | form => [form]

/-- The character of a literal of one character. -/
def char? : Form → Option Char
  | .literal [c] => some c
  | _ => none

/-- The set of a form that is one. -/
def set? : Form → Option CharSet
  | .chars set _ => some set
  | _ => none

/-- The parts of a form that consists of several. -/
def parts? : Form → Option (List Form)
  | .concat parts => some parts
  | _ => none

/-- A choice between single characters, or between sets of characters, as one set. -/
def joinSets? (branches : List Form) : Option Form :=
  match branches.mapM char?, branches.mapM set? with
  | some cs, _ => some (ofSet (.ofRanges (cs.map fun c => (c.toNat, c.toNat))) false)
  | none, some sets => some (ofSet (.unionAll sets) false)
  | none, none => none

/-- A choice, as one set where it can be. -/
def choice (forms : List Form) : Form :=
  match forms.flatMap branches with
  | [] => nothing
  | [form] => form
  | forms => (joinSets? forms).getD (.alternation forms)

/-- The parts that two lists have in common at their beginnings. -/
def commonParts : List Form → List Form → List Form
  | part :: rest, other :: others =>
    if part.alike other then part :: commonParts rest others else []
  | _, _ => []

/-- A choice; parts that all branches begin with stand ahead of it. -/
def ofBranches (forms : List Form) : Form :=
  match choice forms with
  | .alternation branches =>
    match branches.mapM parts? with
    | some (first :: others) =>
      let common := others.foldl commonParts first
      if common.isEmpty then .alternation branches
      else
        let rests := (first :: others).map fun parts => ofParts (parts.drop common.length)
        ofParts (common ++ [choice rests])
    | _ => .alternation branches
  | form => form

end Form

end DocumentSchema.Pattern

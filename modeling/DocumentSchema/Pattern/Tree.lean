import DocumentSchema.Text.CharSet

/-!
Pattern text as a tree.

A pattern is read into a `Pattern.Tree` before flags are applied: a letter is still a letter and a
class still a formula over ranges and names. Groups are kept, because flags set inside a group end
with it and because nesting is limited.
-/

namespace DocumentSchema.Pattern

/-- The flags that a pattern can set. -/
inductive Flag where
  | caseInsensitive
  | multiLine
  | dotMatchesAll
  | swapGreed
  | unicode
  | anyLineEnd
  | verbose
  deriving DecidableEq, Repr

/-- The named classes of one letter. -/
inductive LetterClass where
  | digit
  | space
  | word
  deriving DecidableEq, Repr

/-- A property of characters, named by itself or with a value. -/
inductive PropertyName where
  | single (name : String)
  | valued (name value : String)
  deriving DecidableEq, Repr

/-- An assertion as it is written, before flags decide on lines and scripts. -/
inductive Assertion where
  | lineStart
  | lineEnd
  | textStart
  | textEnd
  | wordBoundary
  | notWordBoundary
  | wordStart
  | wordEnd
  | wordStartHalf
  | wordEndHalf
  deriving DecidableEq, Repr

/-- What a single character or a backslash sequence stands for. A literal written with two
hexadecimal digits may stand for a byte. -/
inductive Atom where
  | literal (c : Char) (byte : Bool)
  | anyChar
  | assertion (kind : Assertion)
  | letter (kind : LetterClass) (negated : Bool)
  | property (name : PropertyName) (negated : Bool)
  deriving DecidableEq, Repr

/-- The operators on classes. -/
inductive ClassOp where
  | intersection
  | difference
  | symmetricDifference
  deriving DecidableEq, Repr

/-- What stands between brackets. -/
inductive ClassTree where
  | empty
  | range (lo hi : Char)
  | named (set : Text.CharSet) (negated : Bool)
  | letter (kind : LetterClass) (negated : Bool)
  | property (name : PropertyName) (negated : Bool)
  | bracketed (body : ClassTree) (negated : Bool)
  | union (items : List ClassTree)
  | binary (op : ClassOp) (left right : ClassTree)

/-- How often something is repeated: a repetition without upper bound has `none` there, and a lazy
one prefers few. -/
structure Bounds where
  least : Nat
  most : Option Nat
  isLazy : Bool
  deriving DecidableEq, Repr

/-- A pattern as it is written. A group either captures or sets flags. -/
inductive Tree where
  | empty
  | flags (settings : List (Flag × Bool))
  | atom (atom : Atom)
  | bracketed (body : ClassTree) (negated : Bool)
  | repeat (body : Tree) (bounds : Bounds)
  | capture (body : Tree)
  | group (settings : List (Flag × Bool)) (body : Tree)
  | alternation (branches : List Tree)
  | concat (parts : List Tree)

/-! ## Nesting -/

mutual

/-- How deep brackets and operators nest inside a class. -/
def ClassTree.depth : ClassTree → Nat
  | .bracketed body _ => body.depth + 1
  | .union items => depths items + 1
  | .binary _ left right => max left.depth right.depth + 1
  | _ => 0
termination_by structural x => x

/-- The greatest depth of several classes. -/
def ClassTree.depths : List ClassTree → Nat
  | [] => 0
  | item :: rest => max item.depth (depths rest)
termination_by structural x => x

end

mutual

/-- How deep groups, repetitions, sequences, choices and classes nest. -/
def Tree.depth : Tree → Nat
  | .bracketed body _ => body.depth + 1
  | .repeat body _ => body.depth + 1
  | .capture body => body.depth + 1
  | .group _ body => body.depth + 1
  | .alternation branches => depths branches + 1
  | .concat parts => depths parts + 1
  | _ => 0
termination_by structural x => x

/-- The greatest depth of several patterns. -/
def Tree.depths : List Tree → Nat
  | [] => 0
  | item :: rest => max item.depth (depths rest)
termination_by structural x => x

end

/-- Parts one behind another; a single part stands for itself. -/
def Tree.ofParts : List Tree → Tree
  | [] => .empty
  | [part] => part
  | parts => .concat parts

/-- The members of a class; a single one stands for itself. -/
def ClassTree.ofItems : List ClassTree → ClassTree
  | [] => .empty
  | [item] => item
  | items => .union items

end DocumentSchema.Pattern

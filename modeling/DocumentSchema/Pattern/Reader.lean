import DocumentSchema.Numeric.Power
import DocumentSchema.Pattern.Tree
import DocumentSchema.Text.Digits
import DocumentSchema.Text.Unicode.Newest
import DocumentSchema.Text.Unicode.Word

/-!
Reading pattern text.

`Tree.ofText?` reads a whole pattern. It keeps the groups and choices that are open on a stack and
takes one piece of the text at a time; classes between brackets are read in the same way over a
stack of their own. Each piece takes at least one character, so the number of characters bounds the
number of steps. In verbose mode, blanks and comments between pieces count for nothing.
-/

namespace DocumentSchema.Pattern

open Text (CharSet isDigit isDigits)
open Text.Unicode (isSpace)

/-! ## Blanks and comments -/

/-- Drops blanks, and comments from a `#` to the end of their line. -/
def dropComments (inComment : Bool) : List Char → List Char
  | [] => []
  | c :: rest =>
    if inComment then dropComments (c != '\n') rest
    else if isSpace c then dropComments false rest
    else if c = '#' then dropComments true rest
    else c :: rest

/-- In verbose mode, drops blanks and comments. -/
def skipBlank (verbose : Bool) (cs : List Char) : List Char :=
  if verbose then dropComments false cs else cs

/-! ## Numbers and names -/

/-- A number of 32 bits, blanks around it; in verbose mode also between its digits. -/
def readCount? (verbose : Bool) (cs : List Char) : Option (Nat × List Char) :=
  let rec digits : List Char → List Char → Nat → List Char × List Char
    | reversed, cs, 0 => (reversed, cs)
    | reversed, [], _ => (reversed, [])
    | reversed, c :: rest, fuel + 1 =>
      if isDigit c then digits (c :: reversed) (skipBlank verbose rest) fuel
      else (reversed, c :: rest)
  let (reversed, rest) := digits [] (cs.dropWhile isSpace) cs.length
  let count := Text.decimalValue reversed.reverse
  if reversed.isEmpty || 2 ^ 32 ≤ count then none else some (count, rest.dropWhile isSpace)

/-- The value of a hexadecimal digit of either case. -/
def hexDigit? (c : Char) : Option Nat :=
  if 'A' ≤ c ∧ c ≤ 'F' then some (c.toNat - 'A'.toNat + 10) else Text.hexValue? c

/-- The character of a code point. -/
def charOfCode? (n : Nat) : Option Char :=
  if n.isValidChar then some (Char.ofNat n) else none

/-- Exactly `count` hexadecimal digits. -/
def readHexDigits? (verbose : Bool) (value : Nat) : Nat → List Char → Option (Nat × List Char)
  | 0, cs => some (value, cs)
  | _ + 1, [] => none
  | count + 1, c :: rest => do
    readHexDigits? verbose (16 * value + (← hexDigit? c)) count (skipBlank verbose rest)

/-- Hexadecimal digits up to a closing brace. -/
def readHexBraces? (verbose : Bool) (found : Option Nat) :
    Nat → List Char → Option (Nat × List Char)
  | 0, _ => none
  | _, [] => none
  | fuel + 1, c :: rest =>
    if c = '\x7d' then found.map fun n => (n, skipBlank verbose rest)
    else do
      let digit ← hexDigit? c
      readHexBraces? verbose (some (16 * found.getD 0 + digit)) fuel (skipBlank verbose rest)

/-- A character in hexadecimal, behind `x`, `u` or `U` and blanks: that letter's number of digits,
or digits between braces. Two digits without braces may stand for a byte. -/
def readHex? (verbose : Bool) (digits : Nat) (cs : List Char) : Option (Atom × List Char) :=
  match cs with
  | '\x7b' :: rest => do
    let (n, rest) ← readHexBraces? verbose none (rest.length + 1) (skipBlank verbose rest)
    return (.literal (← charOfCode? n) false, rest)
  | _ => do
    let (n, rest) ← readHexDigits? verbose 0 digits cs
    return (.literal (← charOfCode? n) (digits == 2), rest)

/-- The characters up to a closing brace. -/
def readBraces? (verbose : Bool) (reversed : List Char) :
    Nat → List Char → Option (List Char × List Char)
  | 0, _ => none
  | _, [] => none
  | fuel + 1, c :: rest =>
    if c = '\x7d' then some (reversed.reverse, rest)
    else readBraces? verbose (c :: reversed) fuel (skipBlank verbose rest)

/-- Splits a name at its first `!=`. -/
def splitNotEqual : List Char → Option (List Char × List Char)
  | '!' :: '=' :: rest => some ([], rest)
  | c :: rest => (splitNotEqual rest).map fun (name, value) => (c :: name, value)
  | [] => none

/-- Splits a name at the first occurrence of a character. -/
def splitFirst (mark : Char) : List Char → Option (List Char × List Char)
  | [] => none
  | c :: rest =>
    if c = mark then some ([], rest)
    else (splitFirst mark rest).map fun (name, value) => (c :: name, value)

/-- A property between braces: a name, or a name and a value with `!=`, `:` or `=` between them. -/
def propertyAtom (negated : Bool) (name : List Char) : Atom :=
  let valued (name value : List Char) : PropertyName :=
    .valued (String.ofList name) (String.ofList value)
  match splitNotEqual name with
  | some (name, value) => .property (valued name value) (!negated)
  | none =>
    match splitFirst ':' name with
    | some (name, value) => .property (valued name value) negated
    | none =>
      match splitFirst '=' name with
      | some (name, value) => .property (valued name value) negated
      | none => .property (.single (String.ofList name)) negated

/-- A property, behind `p` or `P` and blanks: one letter, or a name between braces. -/
def readProperty? (verbose negated : Bool) (cs : List Char) : Option (Atom × List Char) :=
  match cs with
  | [] => none
  | '\\' :: _ => none
  | '\x7b' :: rest => do
    let (name, rest) ← readBraces? verbose [] (rest.length + 1) (skipBlank verbose rest)
    return (propertyAtom negated name, rest)
  | c :: rest =>
    some (.property (.single (String.singleton c)) negated, skipBlank verbose rest)

/-! ## Backslash sequences -/

/-- The characters with a meaning of their own somewhere in a pattern. -/
def isMeta (c : Char) : Bool :=
  c == '\x7b' || c == '\x7d' || "\\.+*?()|[]^$#&-~".toList.contains c

/-- The characters that a backslash makes literal: ASCII characters that are no letters, digits or
angle brackets. -/
def isEscapable (c : Char) : Bool :=
  isMeta c || (c.toNat < 0x80 && !c.isAlphanum && c != '<' && c != '>')

/-- The kinds of word boundary that have a name. -/
def namedBoundary? (name : List Char) : Option Assertion :=
  match String.ofList name with
  | "start" => some .wordStart
  | "end" => some .wordEnd
  | "start-half" => some .wordStartHalf
  | "end-half" => some .wordEndHalf
  | _ => none

/-- The characters in names of word boundaries. -/
def isBoundaryChar (c : Char) : Bool :=
  c.isAlpha || c == '-'

/-- The name of a word boundary, up to its closing brace. -/
def readBoundaryName? (verbose : Bool) (reversed : List Char) :
    Nat → List Char → Option (Assertion × List Char)
  | 0, _ => none
  | _, [] => none
  | fuel + 1, c :: rest =>
    if isBoundaryChar c then readBoundaryName? verbose (c :: reversed) fuel (skipBlank verbose rest)
    else if c = '\x7d' then (namedBoundary? reversed.reverse).map fun kind => (kind, rest)
    else none

/-- What follows `\b`: a name between braces, unless the braces hold no letter at their start and
so are a repetition. -/
def readBoundary? (verbose : Bool) (cs : List Char) : Option (Atom × List Char) :=
  match cs with
  | '\x7b' :: rest =>
    match skipBlank verbose rest with
    | [] => some (.assertion .wordBoundary, cs)
    | c :: inner =>
      if isBoundaryChar c then
        (readBoundaryName? verbose [] (inner.length + 2) (c :: inner)).map fun (kind, rest) =>
          (.assertion kind, rest)
      else some (.assertion .wordBoundary, cs)
  | _ => some (.assertion .wordBoundary, cs)

/-- What a backslash and one character stand for. -/
def escaped? (c : Char) : Option Atom :=
  match c with
  | 'd' => some (.letter .digit false)
  | 'D' => some (.letter .digit true)
  | 's' => some (.letter .space false)
  | 'S' => some (.letter .space true)
  | 'w' => some (.letter .word false)
  | 'W' => some (.letter .word true)
  | 'a' => some (.literal '\x07' false)
  | 'f' => some (.literal '\x0c' false)
  | 't' => some (.literal '\t' false)
  | 'n' => some (.literal '\n' false)
  | 'r' => some (.literal '\r' false)
  | 'v' => some (.literal '\x0b' false)
  | 'A' => some (.assertion .textStart)
  | 'z' => some (.assertion .textEnd)
  | 'B' => some (.assertion .notWordBoundary)
  | '<' => some (.assertion .wordStart)
  | '>' => some (.assertion .wordEnd)
  | _ => if isEscapable c then some (.literal c false) else none

/-- What a backslash and the characters behind it stand for. -/
def readEscape? (verbose : Bool) (cs : List Char) : Option (Atom × List Char) :=
  match cs with
  | [] => none
  | 'x' :: rest => readHex? verbose 2 (skipBlank verbose rest)
  | 'u' :: rest => readHex? verbose 4 (skipBlank verbose rest)
  | 'U' :: rest => readHex? verbose 8 (skipBlank verbose rest)
  | 'p' :: rest => readProperty? verbose false (skipBlank verbose rest)
  | 'P' :: rest => readProperty? verbose true (skipBlank verbose rest)
  | 'b' :: rest => readBoundary? verbose rest
  | c :: rest => (escaped? c).map fun atom => (atom, rest)

/-! ## Classes -/

/-- The ASCII classes that are written between `[:` and `:]`. -/
def asciiClass? (name : List Char) : Option CharSet :=
  match String.ofList name with
  | "alnum" => some ⟨[(0x30, 0x39), (0x41, 0x5A), (0x61, 0x7A)]⟩
  | "alpha" => some ⟨[(0x41, 0x5A), (0x61, 0x7A)]⟩
  | "ascii" => some ⟨[(0x00, 0x7F)]⟩
  | "blank" => some ⟨[(0x09, 0x09), (0x20, 0x20)]⟩
  | "cntrl" => some ⟨[(0x00, 0x1F), (0x7F, 0x7F)]⟩
  | "digit" => some ⟨[(0x30, 0x39)]⟩
  | "graph" => some ⟨[(0x21, 0x7E)]⟩
  | "lower" => some ⟨[(0x61, 0x7A)]⟩
  | "print" => some ⟨[(0x20, 0x7E)]⟩
  | "punct" => some ⟨[(0x21, 0x2F), (0x3A, 0x40), (0x5B, 0x60), (0x7B, 0x7E)]⟩
  | "space" => some ⟨[(0x09, 0x0D), (0x20, 0x20)]⟩
  | "upper" => some ⟨[(0x41, 0x5A)]⟩
  | "word" => some ⟨[(0x30, 0x39), (0x41, 0x5A), (0x5F, 0x5F), (0x61, 0x7A)]⟩
  | "xdigit" => some ⟨[(0x30, 0x39), (0x41, 0x46), (0x61, 0x66)]⟩
  | _ => none

/-- The name of an ASCII class, up to a colon and a closing bracket. -/
def readAsciiName? (negated : Bool) (cs : List Char) : Option (ClassTree × List Char) := do
  let (name, rest) ← splitFirst ':' cs
  let set ← asciiClass? name
  match rest with
  | ']' :: rest => some (.named set negated, rest)
  | _ => none

/-- An ASCII class, behind its opening bracket; nothing when the characters form none, and then the
bracket opens a class of its own. -/
def readAsciiClass? (cs : List Char) : Option (ClassTree × List Char) :=
  match cs with
  | ':' :: '^' :: rest => readAsciiName? true rest
  | ':' :: rest => readAsciiName? false rest
  | _ => none

/-- A class that is open: a bracket with the members read before it, or an operator with its left
side. -/
inductive ClassFrame where
  | bracket (outer : List ClassTree) (negated : Bool)
  | operator (op : ClassOp) (left : ClassTree)

/-- The members right behind an opening bracket: hyphens, or a closing bracket if it comes first,
stand for themselves. -/
def readClassHead? (verbose : Bool) (hyphens : List ClassTree) :
    Nat → List Char → Option (List ClassTree × List Char)
  | 0, _ => none
  | _, [] => none
  | fuel + 1, c :: rest =>
    if c = '-' then
      readClassHead? verbose (.range '-' '-' :: hyphens) fuel (skipBlank verbose rest)
    else if c = ']' ∧ hyphens.isEmpty then
      let rest := skipBlank verbose rest
      if rest.isEmpty then none else some ([.range ']' ']'], rest)
    else some (hyphens, c :: rest)

/-- Whether a class is negated, and what follows the sign for that. -/
def readNegation (verbose : Bool) (cs : List Char) : Bool × List Char :=
  match cs with
  | '^' :: rest => (true, skipBlank verbose rest)
  | _ => (false, cs)

/-- Opens a class behind its bracket: whether it is negated, its first members in reverse, and the
rest. -/
def openClass? (verbose : Bool) (cs : List Char) :
    Option ((Bool × List ClassTree) × List Char) := do
  let (negated, rest) := readNegation verbose (skipBlank verbose cs)
  let (members, rest) ← readClassHead? verbose [] (rest.length + 1) rest
  return ((negated, members), rest)

/-- Joins the members read to the operator that waits for them. -/
def closeOperator (item : ClassTree) : List ClassFrame → ClassTree × List ClassFrame
  | .operator op left :: frames => (.binary op left item, frames)
  | frames => (item, frames)

/-- One member of a class: a character or a backslash sequence. -/
def readClassAtom? (verbose : Bool) (cs : List Char) : Option (Atom × List Char) :=
  match cs with
  | [] => none
  | '\\' :: rest => readEscape? verbose rest
  | c :: rest => some (.literal c false, rest)

/-- The member that an atom stands for, if it is one. Literal bytes above the ASCII range are left
out, as classes hold characters. -/
def classMember? : Atom → Option ClassTree
  | .literal c _ => some (.range c c)
  | .letter kind negated => some (.letter kind negated)
  | .property name negated => some (.property name negated)
  | _ => none

/-- The character that an atom stands for, if it is one. -/
def literal? : Atom → Option Char
  | .literal c _ => some c
  | _ => none

/-- What follows blanks and the sign of one comment. -/
def behindBlanks (cs : List Char) : List Char :=
  match cs.dropWhile isSpace with
  | '#' :: rest => rest.dropWhile isSpace
  | rest => rest

/-- The character that stands behind a hyphen. In verbose mode, blanks and the sign of one comment
are looked past; where nothing follows them, the first of them counts. -/
def charBehind? (verbose : Bool) (cs : List Char) : Option Char :=
  if verbose then (behindBlanks cs).head?.or cs.head? else cs.head?

/-- Whether a hyphen comes first that is the sign of a range: none is ahead of a closing bracket or
of another hyphen. -/
def opensRange (verbose : Bool) (cs : List Char) : Bool :=
  match cs with
  | '-' :: rest => charBehind? verbose rest != some ']' && charBehind? verbose rest != some '-'
  | _ => false

/-- The range between two characters. -/
def rangeBetween? (first last : Atom) : Option ClassTree := do
  let lo ← literal? first
  let hi ← literal? last
  if lo ≤ hi then some (.range lo hi) else none

/-- One member or a range of characters. A class does not end here. -/
def readClassRange? (verbose : Bool) (cs : List Char) : Option (ClassTree × List Char) := do
  let (first, rest) ← readClassAtom? verbose cs
  let rest := skipBlank verbose rest
  if opensRange verbose rest then
    let (last, rest) ← readClassAtom? verbose (skipBlank verbose rest.tail)
    return (← rangeBetween? first last, rest)
  else if rest.isEmpty then none
  else return (← classMember? first, rest)

/-- How far a class is read: to the end, or with brackets and operators open and the members read at
the innermost bracket, in reverse. -/
inductive ClassProgress where
  | done (tree : Tree)
  | reading (frames : List ClassFrame) (items : List ClassTree)

/-- Ends the innermost bracket. -/
def closeBracket? (frames : List ClassFrame) (items : List ClassTree) : Option ClassProgress :=
  match closeOperator (.ofItems items.reverse) frames with
  | (body, [.bracket _ negated]) => some (.done (.bracketed body negated))
  | (body, .bracket outer negated :: frames) =>
    some (.reading frames (.bracketed body negated :: outer))
  | _ => none

/-- An operator between classes. -/
def readClassOp? (cs : List Char) : Option (ClassOp × List Char) :=
  match cs with
  | '&' :: '&' :: rest => some (.intersection, rest)
  | '-' :: '-' :: rest => some (.difference, rest)
  | '~' :: '~' :: rest => some (.symmetricDifference, rest)
  | _ => none

/-- Makes the members read the left side of an operator. -/
def openOperator (frames : List ClassFrame) (items : List ClassTree) (op : ClassOp) :
    ClassProgress :=
  let (left, frames) := closeOperator (.ofItems items.reverse) frames
  .reading (.operator op left :: frames) []

/-- Takes one piece of a class. -/
def classStep? (verbose : Bool) (frames : List ClassFrame) (items : List ClassTree)
    (cs : List Char) : Option (ClassProgress × List Char) :=
  match cs with
  | '[' :: rest =>
    match readAsciiClass? rest with
    | some (item, rest) => some (.reading frames (item :: items), rest)
    | none => do
      let ((negated, members), rest) ← openClass? verbose rest
      return (.reading (.bracket items negated :: frames) members, rest)
  | ']' :: rest => (closeBracket? frames items).map fun progress => (progress, rest)
  | _ =>
    match readClassOp? cs with
    | some (op, rest) => some (openOperator frames items op, rest)
    | none => do
      let (item, rest) ← readClassRange? verbose cs
      return (.reading frames (item :: items), rest)

/-- Reads a class to the closing bracket that ends it. -/
def readClass? (verbose : Bool) (frames : List ClassFrame) (items : List ClassTree) :
    Nat → List Char → Option (Tree × List Char)
  | 0, _ => none
  | fuel + 1, cs =>
    match classStep? verbose frames items (skipBlank verbose cs) with
    | some (.done tree, rest) => some (tree, rest)
    | some (.reading frames items, rest) => readClass? verbose frames items fuel rest
    | none => none

/-- A class, behind its opening bracket. -/
def readBracketed? (verbose : Bool) (cs : List Char) : Option (Tree × List Char) := do
  let ((negated, members), rest) ← openClass? verbose cs
  readClass? verbose [.bracket [] negated] members (rest.length + 1) rest

/-! ## Groups and flags -/

/-- The flag of a letter. -/
def flag? (c : Char) : Option Flag :=
  match c with
  | 'i' => some .caseInsensitive
  | 'm' => some .multiLine
  | 's' => some .dotMatchesAll
  | 'U' => some .swapGreed
  | 'u' => some .unicode
  | 'R' => some .anyLineEnd
  | 'x' => some .verbose
  | _ => none

/-- Flags up to a colon or a closing parenthesis, which comes last in the answer: each flag once,
and at most one hyphen, ahead of a flag that it turns off. -/
def readFlags? (settings : List (Flag × Bool)) (on dangling : Bool) :
    List Char → Option ((List (Flag × Bool) × Char) × List Char)
  | [] => none
  | c :: rest =>
    if c = ':' ∨ c = ')' then
      if dangling then none else some ((settings, c), rest)
    else if c = '-' then
      if on then readFlags? settings false true rest else none
    else do
      let flag ← flag? c
      if settings.any fun setting => setting.1 == flag then none
      else readFlags? (settings ++ [(flag, on)]) on false rest

/-- The value that settings give to a flag. -/
def settingOf (flag : Flag) (settings : List (Flag × Bool)) : Option Bool :=
  (settings.find? fun setting => setting.1 == flag).map (·.2)

/-- Whether the name of a group may hold a character: letters, digits, the underscore, and behind
the first place also a dot and brackets. -/
def isGroupNameChar (first : Bool) (c : Char) : Bool :=
  let isLetter := Text.Unicode.Newest.alphabetic.contains c
  if first then c == '_' || isLetter
  else
    c == '_' || c == '.' || c == '[' || c == ']' || isLetter ||
      Text.Unicode.Newest.number.contains c

/-- The name of a group from its characters, if they may form one. -/
def groupName? (name : List Char) : Option String :=
  match name with
  | [] => none
  | first :: others =>
    if isGroupNameChar true first && others.all (isGroupNameChar false) then
      some (String.ofList name)
    else none

/-- The name of a group, up to the closing angle bracket. -/
def readGroupName? (cs : List Char) : Option (String × List Char) := do
  let (name, rest) ← splitFirst '>' cs
  return (← groupName? name, rest)

/-- What an opening parenthesis begins: a group that captures, with its name, a group with flags
that hold in it, or flags for the rest of the group around it. -/
inductive Opening where
  | capture (name : Option String)
  | group (settings : List (Flag × Bool))
  | flags (settings : List (Flag × Bool))

/-- What flags and the character behind them begin. -/
def flagOpening? (settings : List (Flag × Bool)) (last : Char) : Option Opening :=
  if last ≠ ')' then some (.group settings)
  else if settings.isEmpty then none
  else some (.flags settings)

/-- What follows the question mark behind an opening parenthesis: the name of a group, or flags.
Assertions about other stretches of the text are not supported; their signs are neither. -/
def readExtension? (cs : List Char) : Option (Opening × List Char) :=
  match cs with
  | 'P' :: '<' :: rest => (readGroupName? rest).map fun (name, rest) => (.capture (some name), rest)
  | '<' :: rest => (readGroupName? rest).map fun (name, rest) => (.capture (some name), rest)
  | _ => do
    let ((settings, last), rest) ← readFlags? [] true false cs
    return (← flagOpening? settings last, rest)

/-- What follows an opening parenthesis. -/
def readOpening? (cs : List Char) : Option (Opening × List Char) :=
  match cs with
  | '?' :: rest => readExtension? rest
  | _ => some (.capture none, cs)

/-! ## Patterns -/

/-- The tree of a group: one that sets flags, or one that captures where there are no settings. -/
def enclose (settings : Option (List (Flag × Bool))) (body : Tree) : Tree :=
  match settings with
  | none => .capture body
  | some settings => .group settings body

/-- What is open around the place reached: a group, with the parts ahead of it, the settings of one
that does not capture and the mode outside it, or the finished branches of a choice. Parts and
branches are kept in reverse. -/
inductive Frame where
  | group (outer : List Tree) (settings : Option (List (Flag × Bool))) (verbose : Bool)
  | choice (branches : List Tree)

/-- How far a pattern is read: what is open, the parts read at the innermost place in reverse,
whether blanks count for nothing, and the names of groups so far. -/
structure Reading where
  frames : List Frame
  parts : List Tree
  verbose : Bool
  names : List String

namespace Reading

/-- The reading with one part more. -/
def push (state : Reading) (part : Tree) : Reading :=
  { state with parts := part :: state.parts }

/-- The parts read so far as one tree. -/
def body (state : Reading) : Tree :=
  .ofParts state.parts.reverse

/-- Ends a branch of a choice. -/
def endBranch (state : Reading) : Reading :=
  match state.frames with
  | .choice branches :: frames =>
    { state with frames := .choice (state.body :: branches) :: frames, parts := [] }
  | frames => { state with frames := .choice [state.body] :: frames, parts := [] }

/-- The tree of the innermost group, with its choice, and what is open around it. -/
def close (state : Reading) : Tree × List Frame :=
  match state.frames with
  | .choice branches :: frames => (.alternation (state.body :: branches).reverse, frames)
  | frames => (state.body, frames)

/-- Ends a group. -/
def closeGroup? (state : Reading) : Option Reading :=
  match state.close with
  | (body, .group outer settings verbose :: frames) =>
    some { state with frames, parts := enclose settings body :: outer, verbose }
  | _ => none

/-- Begins what an opening parenthesis begins; no two groups have one name. -/
def opened? (state : Reading) (opening : Opening) : Option Reading :=
  match opening with
  | .flags settings =>
    some { state with
      parts := .flags settings :: state.parts
      verbose := (settingOf .verbose settings).getD state.verbose }
  | .group settings =>
    some { state with
      frames := .group state.parts (some settings) state.verbose :: state.frames
      parts := []
      verbose := (settingOf .verbose settings).getD state.verbose }
  | .capture name =>
    if name.any state.names.contains then none
    else
      some { state with
        frames := .group state.parts none state.verbose :: state.frames
        parts := []
        names := name.toList ++ state.names }

/-- Repeats the last part; there must be one that is not empty or a setting of flags. -/
def repeated? (state : Reading) (bounds : Bounds) : Option Reading :=
  match state.parts with
  | [] => none
  | .empty :: _ => none
  | .flags _ :: _ => none
  | part :: parts => some { state with parts := .repeat part bounds :: parts }

end Reading

/-- Bounds, with the question mark behind them that makes a repetition lazy. -/
def readLazy (least : Nat) (most : Option Nat) (cs : List Char) : Bounds × List Char :=
  match cs with
  | '?' :: rest => (⟨least, most, true⟩, rest)
  | _ => (⟨least, most, false⟩, cs)

/-- The upper bound of a counted repetition, behind the comma; there is none where the brace
closes. -/
def readMost? (verbose : Bool) (cs : List Char) : Option (Option Nat × List Char) :=
  match cs with
  | '\x7d' :: _ => some (none, cs)
  | _ => (readCount? verbose cs).map fun (most, rest) => (some most, rest)

/-- What follows the lower bound of a counted repetition. Without a comma it is the upper bound as
well. -/
def readUpper? (verbose : Bool) (least : Nat) (cs : List Char) : Option (Option Nat × List Char) :=
  match cs with
  | ',' :: rest => readMost? verbose (skipBlank verbose rest)
  | _ => some (some least, cs)

/-- The closing brace behind the bounds of a counted repetition, which must not cross. -/
def closeBounds? (verbose : Bool) (least : Nat) (most : Option Nat) (cs : List Char) :
    Option (Bounds × List Char) :=
  match cs with
  | '\x7d' :: rest =>
    if most.all (least ≤ ·) then some (readLazy least most (skipBlank verbose rest)) else none
  | _ => none

/-- The bounds of a counted repetition, behind its opening brace. -/
def readBounds? (verbose : Bool) (cs : List Char) : Option (Bounds × List Char) := do
  let (least, rest) ← readCount? verbose (skipBlank verbose cs)
  let (most, rest) ← readUpper? verbose least rest
  closeBounds? verbose least most rest

/-- What follows a part that is repeated: the sign for the bounds, and its question mark. -/
def readRepetition? (verbose : Bool) (sign : Char) (cs : List Char) :
    Option (Bounds × List Char) :=
  match sign with
  | '?' => some (readLazy 0 (some 1) cs)
  | '*' => some (readLazy 0 none cs)
  | '+' => some (readLazy 1 none cs)
  | _ => readBounds? verbose cs

/-- A piece of a pattern. -/
inductive Piece where
  | opening (opening : Opening)
  | closing
  | bar
  | item (tree : Tree)
  | repetition (bounds : Bounds)

/-- The piece that a character begins. -/
def readPiece? (verbose : Bool) (c : Char) (rest : List Char) : Option (Piece × List Char) :=
  match c with
  | '(' =>
    (readOpening? (skipBlank verbose rest)).map fun (opening, rest) => (.opening opening, rest)
  | ')' => some (.closing, rest)
  | '|' => some (.bar, rest)
  | '[' => (readBracketed? verbose rest).map fun (tree, rest) => (.item tree, rest)
  | '\\' => (readEscape? verbose rest).map fun (atom, rest) => (.item (.atom atom), rest)
  | '.' => some (.item (.atom .anyChar), rest)
  | '^' => some (.item (.atom (.assertion .lineStart)), rest)
  | '$' => some (.item (.atom (.assertion .lineEnd)), rest)
  | _ =>
    if c = '?' ∨ c = '*' ∨ c = '+' ∨ c = '\x7b' then
      (readRepetition? verbose c rest).map fun (bounds, rest) => (.repetition bounds, rest)
    else some (.item (.atom (.literal c false)), rest)

/-- The reading behind a piece. -/
def Reading.take? (state : Reading) (piece : Piece) : Option Reading :=
  match piece with
  | .opening opening => state.opened? opening
  | .closing => state.closeGroup?
  | .bar => some state.endBranch
  | .item tree => some (state.push tree)
  | .repetition bounds => state.repeated? bounds

/-- Takes pieces to the end of the text. -/
def readAll? (state : Reading) : Nat → List Char → Option Reading
  | 0, _ => none
  | fuel + 1, cs =>
    match skipBlank state.verbose cs with
    | [] => some state
    | c :: rest => do
      let (piece, rest) ← readPiece? state.verbose c rest
      readAll? (← state.take? piece) fuel rest

/-- The deepest nesting that is accepted. -/
def maxNesting : Nat := 250

/-- The tree of a pattern text. -/
def Tree.ofText? (text : String) : Option Tree := do
  let cs := text.toList
  let state ← readAll? ⟨[], [], false, []⟩ (cs.length + 1) cs
  match state.close with
  | (tree, []) => if tree.depth ≤ maxNesting then some tree else none
  | _ => none

end DocumentSchema.Pattern

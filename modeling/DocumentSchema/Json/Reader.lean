import DocumentSchema.Json.Number

/-!
Reading JSON text.

The text is cut into marks, strings and words; a stack of open brackets then turns that sequence
into a `Json.Tree`. Both steps are folds, so they take one pass each and stop at the end of the
text. A tree is the bare structure of the text: it keeps the members of an object in their order
with repetitions, nests as deep as the text does, and carries scalars that have no value, such as a
number too large or half of a surrogate pair. `Tree.value?` is the value of a tree within a limit
of nesting, the last of several members of one name winning; `Json.ofText?` reads a whole text.
-/

namespace DocumentSchema.Json

/-! ## Cutting the text -/

/-- A piece of JSON text: a bracket, colon or comma; the characters between two quotes; or a run of
other characters, which may spell a number or one of the three names. -/
inductive Lexeme where
  | mark (c : Char)
  | quoted (content : List Char)
  | word (content : List Char)

/-- Where the cutting stands: between pieces, in a word, in a string, or behind a backslash in a
string. Contents are kept in reverse. -/
inductive LexState where
  | between
  | inWord (reversed : List Char)
  | inString (reversed : List Char)
  | escaping (reversed : List Char)

/-- The four blanks of JSON. -/
def isBlank (c : Char) : Bool :=
  c == ' ' || c == '\n' || c == '\r' || c == '\t'

/-- The brackets, the colon and the comma. -/
def isMark (c : Char) : Bool :=
  c == '[' || c == ']' || c == '\x7b' || c == '\x7d' || c == ':' || c == ','

/-- Takes one character outside strings. -/
def lexOutside (found : List Lexeme) (c : Char) : List Lexeme × LexState :=
  if c = '"' then (found, .inString [])
  else if isMark c then (.mark c :: found, .between)
  else if isBlank c then (found, .between)
  else (found, .inWord [c])

/-- Takes one character. -/
def lexStep : List Lexeme × LexState → Char → List Lexeme × LexState
  | (found, .between), c => lexOutside found c
  | (found, .inWord reversed), c =>
    if c = '"' ∨ isMark c ∨ isBlank c then lexOutside (.word reversed.reverse :: found) c
    else (found, .inWord (c :: reversed))
  | (found, .inString reversed), c =>
    if c = '"' then (.quoted reversed.reverse :: found, .between)
    else if c = '\\' then (found, .escaping (c :: reversed))
    else (found, .inString (c :: reversed))
  | (found, .escaping reversed), c => (found, .inString (c :: reversed))

/-- The pieces of a text; nothing when its last string does not end. -/
def lexemes? (cs : List Char) : Option (List Lexeme) :=
  match cs.foldl lexStep ([], .between) with
  | (found, .between) => some found.reverse
  | (found, .inWord reversed) => some (.word reversed.reverse :: found).reverse
  | _ => none

/-! ## Strings -/

/-- One element of a string: a character that stands for itself or follows a backslash, or a unit
of sixteen bits written in hexadecimal. -/
inductive StringPiece where
  | char (c : Char)
  | unit (n : Nat)

/-- The value of a hexadecimal digit of either case. -/
def anyHexValue? (c : Char) : Option Nat :=
  if 'A' ≤ c ∧ c ≤ 'F' then some (c.toNat - 'A'.toNat + 10) else Text.hexValue? c

/-- The character that a backslash and a letter stand for. -/
def shortEscape? (c : Char) : Option Char :=
  match c with
  | '"' => some '"'
  | '\\' => some '\\'
  | '/' => some '/'
  | 'b' => some '\x08'
  | 'f' => some '\x0c'
  | 'n' => some '\n'
  | 'r' => some '\r'
  | 't' => some '\t'
  | _ => none

/-- The elements of a string; nothing when it holds a control character or an escape that does not
exist. -/
def stringPieces? : List Char → Option (List StringPiece)
  | [] => some []
  | '\\' :: 'u' :: a :: b :: c :: d :: rest => do
    let a ← anyHexValue? a
    let b ← anyHexValue? b
    let c ← anyHexValue? c
    let d ← anyHexValue? d
    return .unit (((a * 16 + b) * 16 + c) * 16 + d) :: (← stringPieces? rest)
  | '\\' :: c :: rest => do
    let c ← shortEscape? c
    return .char c :: (← stringPieces? rest)
  | c :: rest => do
    guard (0x20 ≤ c.toNat)
    return .char c :: (← stringPieces? rest)

/-- The first half of a surrogate pair. -/
def isHighSurrogate (n : Nat) : Bool :=
  0xD800 ≤ n && n < 0xDC00

/-- The second half of a surrogate pair. -/
def isLowSurrogate (n : Nat) : Bool :=
  0xDC00 ≤ n && n < 0xE000

/-- The characters of a string; nothing when half of a surrogate pair stands alone. -/
def assemble? : List StringPiece → Option (List Char)
  | [] => some []
  | .char c :: rest => (assemble? rest).map (c :: ·)
  | .unit high :: .unit low :: rest =>
    if isHighSurrogate high && isLowSurrogate low then
      (assemble? rest).map (Char.ofNat (0x10000 + (high - 0xD800) * 0x400 + (low - 0xDC00)) :: ·)
    else if isHighSurrogate high || isLowSurrogate high then none
    else (assemble? (.unit low :: rest)).map (Char.ofNat high :: ·)
  | .unit n :: rest =>
    if isHighSurrogate n || isLowSurrogate n then none
    else (assemble? rest).map (Char.ofNat n :: ·)

/-! ## Trees -/

/-- The structure of a JSON text. A scalar or a name that is well formed and yet has no value is
kept as `none`. -/
inductive Tree where
  | scalar (value : Option Json)
  | array (items : List Tree)
  | object (members : List (Option String × Tree))

/-- The scalar that a word spells. -/
def wordTree? (content : List Char) : Option Tree :=
  if content = ['n', 'u', 'l', 'l'] then some (.scalar (some .null))
  else if content = ['t', 'r', 'u', 'e'] then some (.scalar (some (.bool true)))
  else if content = ['f', 'a', 'l', 's', 'e'] then some (.scalar (some (.bool false)))
  else (NumberParts.ofChars? content).map fun parts => .scalar parts.value?

/-- The text of a string, if it is well formed: `some none` when it has no value. -/
def quotedText? (content : List Char) : Option (Option String) :=
  (stringPieces? content).map fun pieces => (assemble? pieces).map String.ofList

/-- A bracket that is open: its items so far, or its members so far with the name of the member
whose value is to come. Both are kept in reverse. -/
inductive Frame where
  | items (reversed : List Tree)
  | members (reversed : List (Option String × Tree)) (name : Option String)

/-- What the text may go on with. -/
inductive Expect where
  | value
  | valueOrClose
  | commaOrClose
  | nameOrClose (reversed : List (Option String × Tree))
  | name (reversed : List (Option String × Tree))
  | colon (reversed : List (Option String × Tree)) (name : Option String)
  | memberEnd (reversed : List (Option String × Tree))
  | finish (tree : Tree)

/-- The open brackets around the place reached, innermost first, and what may follow. -/
structure ReadState where
  frames : List Frame
  expect : Expect

/-- Hands a finished tree to the innermost open bracket. -/
def deliver (frames : List Frame) (tree : Tree) : ReadState :=
  match frames with
  | [] => ⟨[], .finish tree⟩
  | .items reversed :: outer => ⟨.items (tree :: reversed) :: outer, .commaOrClose⟩
  | .members reversed name :: outer => ⟨outer, .memberEnd ((name, tree) :: reversed)⟩

/-- Takes a piece where a value must stand. -/
def readValue? (frames : List Frame) (lexeme : Lexeme) : Option ReadState :=
  match lexeme with
  | .word content => (wordTree? content).map (deliver frames)
  | .quoted content =>
    (quotedText? content).map fun text => deliver frames (.scalar (text.map .str))
  | .mark c =>
    if c = '[' then some ⟨.items [] :: frames, .valueOrClose⟩
    else if c = '\x7b' then some ⟨frames, .nameOrClose []⟩
    else none

/-- Closes the innermost list. -/
def closeItems? (frames : List Frame) : Option ReadState :=
  match frames with
  | .items reversed :: outer => some (deliver outer (.array reversed.reverse))
  | _ => none

/-- Takes a piece where the name of a member must stand. -/
def readName? (frames : List Frame) (reversed : List (Option String × Tree)) (lexeme : Lexeme) :
    Option ReadState :=
  match lexeme with
  | .quoted content => (quotedText? content).map fun name => ⟨frames, .colon reversed name⟩
  | _ => none

/-- Whether a piece is the given mark. -/
def Lexeme.isMark (lexeme : Lexeme) (c : Char) : Bool :=
  match lexeme with
  | .mark d => c == d
  | _ => false

/-- Takes one piece. -/
def readStep? (state : ReadState) (lexeme : Lexeme) : Option ReadState :=
  match state.expect with
  | .value => readValue? state.frames lexeme
  | .valueOrClose =>
    if lexeme.isMark ']' then closeItems? state.frames else readValue? state.frames lexeme
  | .commaOrClose =>
    if lexeme.isMark ',' then some ⟨state.frames, .value⟩
    else if lexeme.isMark ']' then closeItems? state.frames
    else none
  | .nameOrClose reversed =>
    if lexeme.isMark '\x7d' then some (deliver state.frames (.object reversed.reverse))
    else readName? state.frames reversed lexeme
  | .name reversed => readName? state.frames reversed lexeme
  | .colon reversed name =>
    if lexeme.isMark ':' then some ⟨.members reversed name :: state.frames, .value⟩ else none
  | .memberEnd reversed =>
    if lexeme.isMark ',' then some ⟨state.frames, .name reversed⟩
    else if lexeme.isMark '\x7d' then some (deliver state.frames (.object reversed.reverse))
    else none
  | .finish _ => none

/-- The structure of a JSON text. -/
def treeOfText? (text : String) : Option Tree := do
  let lexemes ← lexemes? text.toList
  match (← lexemes.foldlM readStep? ⟨[], .value⟩).expect with
  | .finish tree => some tree
  | _ => none

/-! ## Values -/

/-- How many brackets may be open at once. -/
def maxDepth : Nat := 127

namespace Tree

mutual

/-- The value of a tree with at most `depth` brackets open at once. -/
def value? (depth : Nat) : Tree → Option Json
  | .scalar value => value
  | .array items =>
    match depth with
    | 0 => none
    | depth + 1 => (values? depth items).map .array
  | .object members =>
    match depth with
    | 0 => none
    | depth + 1 => (members? depth members).map fun pairs => .object (Entries.ofList pairs)
termination_by structural x => x

/-- The values of the items. -/
def values? (depth : Nat) : List Tree → Option (List Json)
  | [] => some []
  | item :: rest => do
    let item ← value? depth item
    let rest ← values? depth rest
    return item :: rest
termination_by structural x => x

/-- The names and values of the members, in the order of the text. -/
def members? (depth : Nat) : List (Option String × Tree) → Option (List (String × Json))
  | [] => some []
  | (name, member) :: rest => do
    let name ← name
    let member ← value? depth member
    let rest ← members? depth rest
    return (name, member) :: rest
termination_by structural x => x

end

end Tree

/-- The value that a JSON text writes. -/
def ofText? (text : String) : Option Json :=
  (treeOfText? text).bind (Tree.value? maxDepth)

end DocumentSchema.Json

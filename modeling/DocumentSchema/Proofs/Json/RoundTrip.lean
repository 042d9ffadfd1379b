import DocumentSchema.Proofs.Json.Scalars
import DocumentSchema.Proofs.Value.Dictionary

/-!
JSON text that is read back.

`Json.pieces` are the pieces of the text that is written of a value, and `Json.tree` is its
structure. The text is cut into the pieces (`cutsTo_pretty`), the pieces are read as the structure
(`reads_pieces`), and the value of the structure is the value again (`value?_tree`), as long as
its numbers are read back, the names in its objects ascend and it does not nest too deep.
-/

namespace DocumentSchema.Json

/-! ## Pieces and structure -/

/-- Lists of pieces, commas between them. -/
def separated : List (List Lexeme) → List Lexeme
  | [] => []
  | first :: rest => first ++ rest.flatMap fun piece => .mark ',' :: piece

mutual

/-- The pieces of the text of a value. -/
def pieces : Json → List Lexeme
  | .null => [.word ['n', 'u', 'l', 'l']]
  | .bool true => [.word ['t', 'r', 'u', 'e']]
  | .bool false => [.word ['f', 'a', 'l', 's', 'e']]
  | .int n => [.word (toString n).toList]
  | .float x => [.word x.jsonText.toList]
  | .str text => [.quoted (text.toList.flatMap escapeChar)]
  | .array items => .mark '[' :: separated (itemPieces items) ++ [.mark ']']
  | .object members => .mark '\x7b' :: separated (memberPieces members) ++ [.mark '\x7d']
termination_by structural x => x

/-- The pieces of each item. -/
def itemPieces : List Json → List (List Lexeme)
  | [] => []
  | item :: rest => pieces item :: itemPieces rest
termination_by structural x => x

/-- The pieces of each member. -/
def memberPieces : List (String × Json) → List (List Lexeme)
  | [] => []
  | (name, member) :: rest =>
    (.quoted (name.toList.flatMap escapeChar) :: .mark ':' :: pieces member) :: memberPieces rest
termination_by structural x => x

end

mutual

/-- The structure of a value. -/
def tree : Json → Tree
  | .array items => .array (trees items)
  | .object members => .object (memberTrees members)
  | .null => .scalar (some .null)
  | .bool flag => .scalar (some (.bool flag))
  | .int n => .scalar (some (.int n))
  | .float x => .scalar (some (.float x))
  | .str text => .scalar (some (.str text))
termination_by structural x => x

/-- Item by item. -/
def trees : List Json → List Tree
  | [] => []
  | item :: rest => tree item :: trees rest
termination_by structural x => x

/-- Member by member. -/
def memberTrees : List (String × Json) → List (Option String × Tree)
  | [] => []
  | (name, member) :: rest => (some name, tree member) :: memberTrees rest
termination_by structural x => x

end

mutual

/-- At every depth, integers fit 64 signed bits, and floats are read back. -/
def NumbersReadBack : Json → Prop
  | .int n => fitsInt64 n = true
  | .float x => FloatReadsBack x
  | .array items => ItemsReadBack items
  | .object members => MembersReadBack members
  | _ => True
termination_by structural x => x

/-- The numbers in every item are read back. -/
def ItemsReadBack : List Json → Prop
  | [] => True
  | item :: rest => NumbersReadBack item ∧ ItemsReadBack rest
termination_by structural x => x

/-- The numbers in every member are read back. -/
def MembersReadBack : List (String × Json) → Prop
  | [] => True
  | (_, member) :: rest => NumbersReadBack member ∧ MembersReadBack rest
termination_by structural x => x

end

/-! ## Cutting -/

/-- The text between two brackets, without the first of them. -/
theorem toList_foldl_lines (sep : String) (lines : List String) (text : String) :
    (lines.foldl (fun text line => text ++ "," ++ sep ++ line) text).toList =
      text.toList ++ lines.flatMap fun line => ',' :: (sep.toList ++ line.toList) := by
  induction lines generalizing text with
  | nil => simp
  | cons line lines ih => rw [List.foldl_cons, ih]; simp

theorem blank_newline (level : Nat) : ∀ c ∈ (newline level).toList, isBlank c = true := by
  simp only [newline, String.toList_ofList, List.forall_mem_cons, List.mem_replicate]
  refine ⟨rfl, fun c member => ?_⟩
  rw [member.2]
  rfl

/-- What follows a line between brackets: more lines, a line break and the closing bracket. -/
def following (level : Nat) (closing : Char) (lines : List String) : List Char :=
  (lines.flatMap fun line => ',' :: ((newline (level + 1)).toList ++ line.toList)) ++
    ((newline level).toList ++ [closing])

/-- A line break or a closing bracket ends a word. -/
theorem endsWord_following (level : Nat) (closing : Char) (lines : List String) :
    EndsWord (following level closing lines) := by
  cases lines with
  | nil => exact ⟨'\n', _, by simp [following, newline]; rfl, .inr rfl⟩
  | cons line lines => exact ⟨',', _, by simp [following]; rfl, .inl rfl⟩

/-- What follows the first line is cut into commas, the other lines, and the closing bracket. -/
theorem cutsAt_following {lines : List String} {ls : List (List Lexeme)} {level : Nat}
    {closing : Char} (mark : isMark closing = true)
    (each : List.Forall₂ (fun line l => CutsTo line.toList l) lines ls) :
    CutsAt (following level closing lines)
      ((ls.flatMap fun l => .mark ',' :: l) ++ [.mark closing]) := by
  induction each with
  | nil => exact (cutsAt_blanks (blank_newline level)).append (cutsAt_mark mark)
  | @cons line l lines ls here _ ih =>
    have comma := (cutsAt_mark (c := ',') rfl).append (cutsAt_blanks (blank_newline (level + 1)))
    have rest := here.append (endsWord_following level closing lines) ih
    simpa [following] using comma.append rest

/-- Lines between brackets are cut into the brackets and the pieces of the lines. -/
theorem cutsAt_block {lines : List String} {ls : List (List Lexeme)} {level : Nat}
    {opening closing : String} {first last : Char} (opens : opening.toList = [first])
    (closes : closing.toList = [last]) (markFirst : isMark first = true)
    (markLast : isMark last = true)
    (each : List.Forall₂ (fun line l => CutsTo line.toList l) lines ls) :
    CutsAt (block opening closing level lines).toList
      (.mark first :: separated ls ++ [.mark last]) := by
  cases each with
  | nil =>
    simpa [block, separated, opens, closes] using
      (cutsAt_mark markFirst).append (cutsAt_mark markLast)
  | @cons line l lines ls here others =>
    have begun := (cutsAt_mark markFirst).append (cutsAt_blanks (blank_newline (level + 1)))
    have more : CutsAt (following level last lines) _ := cutsAt_following markLast others
    have rest := here.append (endsWord_following level last lines) more
    simpa [block, separated, toList_foldl_lines, following, opens, closes] using
      begun.append rest

mutual

theorem cutsTo_pretty (level : Nat) (j : Json) (numbers : j.NumbersReadBack) :
    CutsTo (j.pretty level).toList j.pieces := by
  match j with
  | .null =>
    rw [pretty, pieces]
    exact cutsTo_word (List.cons_ne_nil _ _) (List.all_eq_true.1 rfl)
  | .bool true =>
    rw [pretty, pieces, if_pos rfl]
    exact cutsTo_word (List.cons_ne_nil _ _) (List.all_eq_true.1 rfl)
  | .bool false =>
    rw [pretty, pieces, if_neg Bool.false_ne_true]
    exact cutsTo_word (List.cons_ne_nil _ _) (List.all_eq_true.1 rfl)
  | .int n => exact (wordTree?_number (ofChars?_int numbers)).1
  | .float x => exact (wordTree?_number numbers).1
  | .str text => exact (cutsAt_quote text).cutsTo
  | .array items =>
    have lines := cutsTo_prettyItems (level + 1) items numbers
    rw [pretty, pieces]
    exact (cutsAt_block rfl rfl rfl rfl lines).cutsTo
  | .object members =>
    have lines := cutsTo_prettyMembers (level + 1) members numbers
    rw [pretty, pieces]
    exact (cutsAt_block rfl rfl rfl rfl lines).cutsTo
termination_by structural j

theorem cutsTo_prettyItems (level : Nat) (items : List Json) (numbers : ItemsReadBack items) :
    List.Forall₂ (fun line l => CutsTo line.toList l) (prettyItems level items)
      (itemPieces items) := by
  match items with
  | [] => exact .nil
  | item :: rest =>
    exact .cons (cutsTo_pretty level item numbers.1) (cutsTo_prettyItems level rest numbers.2)
termination_by structural items

theorem cutsTo_prettyMembers (level : Nat) (members : List (String × Json))
    (numbers : MembersReadBack members) :
    List.Forall₂ (fun line l => CutsTo line.toList l) (prettyMembers level members)
      (memberPieces members) := by
  match members with
  | [] => exact .nil
  | (name, member) :: rest =>
    have colon := (cutsAt_mark (c := ':') rfl).append (cutsAt_blank (c := ' ') rfl)
    have line := ((cutsAt_quote name).append colon).append_cutsTo
      (cutsTo_pretty level member numbers.1)
    refine .cons ?_ (cutsTo_prettyMembers level rest numbers.2)
    simpa [String.toList_append] using line
termination_by structural members

end

/-! ## Reading -/

/-- Pieces that are read as a structure wherever a value may stand. -/
def Reads (ls : List Lexeme) (tree : Tree) : Prop :=
  ∀ frames expect, expect = .value ∨ expect = .valueOrClose →
    ls.foldlM readStep? ⟨frames, expect⟩ = some (deliver frames tree)

/-- Pieces that are read as a member wherever one may stand. -/
def ReadsMember (ls : List Lexeme) (member : Option String × Tree) : Prop :=
  ∀ frames expect reversed, expect = .name reversed ∨ expect = .nameOrClose reversed →
    ls.foldlM readStep? ⟨frames, expect⟩ = some ⟨frames, .memberEnd (member :: reversed)⟩

/-- How what stands between two brackets is read: the state behind the first bracket, and the states
behind a comma, behind an item and behind the last bracket, by the items that were read, the last
one first. -/
structure Bracket (α : Type) where
  closing : Char
  opened : ReadState
  next : List α → ReadState
  after : List α → ReadState
  finish : List α → ReadState
  empty : readStep? opened (.mark closing) = some (finish [])
  comma : ∀ done, readStep? (after done) (.mark ',') = some (next done)
  close : ∀ done, readStep? (after done) (.mark closing) = some (finish done)

namespace Bracket

/-- The brackets of an array. -/
def array (frames : List Frame) : Bracket Tree where
  closing := ']'
  opened := ⟨.items [] :: frames, .valueOrClose⟩
  next done := ⟨.items done :: frames, .value⟩
  after done := ⟨.items done :: frames, .commaOrClose⟩
  finish done := deliver frames (.array done.reverse)
  empty := rfl
  comma _ := rfl
  close _ := rfl

/-- The brackets of an object. -/
def object (frames : List Frame) : Bracket (Option String × Tree) where
  closing := '\x7d'
  opened := ⟨frames, .nameOrClose []⟩
  next done := ⟨frames, .name done⟩
  after done := ⟨frames, .memberEnd done⟩
  finish done := deliver frames (.object done.reverse)
  empty := rfl
  comma _ := rfl
  close _ := rfl

variable {α : Type} {bracket : Bracket α} {ls : List (List Lexeme)} {items : List α}

/-- What follows the first item is read up to the closing bracket. -/
theorem foldlM_following
    (each : List.Forall₂ (fun l item => ∀ done, l.foldlM readStep? (bracket.next done) =
      some (bracket.after (item :: done))) ls items) (done : List α) :
    ((ls.flatMap fun l => Lexeme.mark ',' :: l) ++ [Lexeme.mark bracket.closing]).foldlM readStep?
      (bracket.after done) = some (bracket.finish (items.reverse ++ done)) := by
  -- The items that were read pile up in `done`, the last one first.
  induction each generalizing done with
  | nil => simpa using bracket.close done
  | cons here _ ih =>
    rw [List.flatMap_cons, List.cons_append, List.cons_append, List.append_assoc,
      List.foldlM_cons, bracket.comma, Option.bind_eq_bind, Option.bind_some,
      List.foldlM_append, here, Option.bind_eq_bind, Option.bind_some, ih, List.reverse_cons,
      List.append_assoc, List.singleton_append]

/-- Items with commas between them are read up to the closing bracket. -/
theorem foldlM_separated
    (each : List.Forall₂ (fun l item =>
      l.foldlM readStep? bracket.opened = some (bracket.after [item]) ∧
        ∀ done, l.foldlM readStep? (bracket.next done) = some (bracket.after (item :: done)))
      ls items) :
    (separated ls ++ [Lexeme.mark bracket.closing]).foldlM readStep? bracket.opened =
      some (bracket.finish items.reverse) := by
  cases each with
  | nil => simpa [separated] using bracket.empty
  | cons here others =>
    have rest := foldlM_following (others.imp fun _ _ each => each.2)
    rw [separated, List.append_assoc, List.foldlM_append, here.1, Option.bind_eq_bind,
      Option.bind_some, rest, List.reverse_cons]

end Bracket

/-- An array is read item by item. -/
theorem reads_array {ls : List (List Lexeme)} {trees : List Tree}
    (each : List.Forall₂ Reads ls trees) :
    Reads (.mark '[' :: separated ls ++ [.mark ']']) (.array trees) := by
  intro frames expect either
  have opened : readStep? ⟨frames, expect⟩ (.mark '[') = some (Bracket.array frames).opened := by
    rcases either with rfl | rfl <;> rfl
  have items : List.Forall₂ (fun l tree =>
      l.foldlM readStep? (Bracket.array frames).opened =
          some ((Bracket.array frames).after [tree]) ∧
        ∀ done, l.foldlM readStep? ((Bracket.array frames).next done) =
          some ((Bracket.array frames).after (tree :: done))) ls trees := by
    refine each.imp fun l tree here => ⟨here _ _ (.inr rfl), fun done => here _ _ (.inl rfl)⟩
  have read := Bracket.foldlM_separated items
  rw [List.cons_append, List.foldlM_cons, opened, Option.bind_eq_bind, Option.bind_some]
  have finish : (Bracket.array frames).finish trees.reverse = deliver frames (.array trees) :=
    congrArg (fun trees => deliver frames (.array trees)) (List.reverse_reverse trees)
  exact read.trans (congrArg some finish)

/-- An object is read member by member. -/
theorem reads_object {ls : List (List Lexeme)} {members : List (Option String × Tree)}
    (each : List.Forall₂ ReadsMember ls members) :
    Reads (.mark '\x7b' :: separated ls ++ [.mark '\x7d']) (.object members) := by
  intro frames expect either
  have opened : readStep? ⟨frames, expect⟩ (.mark '\x7b') =
      some (Bracket.object frames).opened := by
    rcases either with rfl | rfl <;> rfl
  have items : List.Forall₂ (fun l member =>
      l.foldlM readStep? (Bracket.object frames).opened =
          some ((Bracket.object frames).after [member]) ∧
        ∀ done, l.foldlM readStep? ((Bracket.object frames).next done) =
          some ((Bracket.object frames).after (member :: done))) ls members := by
    refine each.imp fun l member here =>
      ⟨here _ _ [] (.inr rfl), fun done => here _ _ done (.inl rfl)⟩
  have read := Bracket.foldlM_separated items
  rw [List.cons_append, List.foldlM_cons, opened, Option.bind_eq_bind, Option.bind_some]
  have finish : (Bracket.object frames).finish members.reverse =
      deliver frames (.object members) :=
    congrArg (fun members => deliver frames (.object members)) (List.reverse_reverse members)
  exact read.trans (congrArg some finish)

/-- A word is read as its value. -/
theorem reads_word {content : List Char} {tree : Tree} (read : wordTree? content = some tree) :
    Reads [.word content] tree := by
  intro frames expect either
  have step : readValue? frames (.word content) = some (deliver frames tree) := by
    rw [readValue?, read]
    rfl
  rcases either with rfl | rfl <;> simpa [readStep?, Lexeme.isMark] using step

/-- A quoted text is read as the text. -/
theorem reads_quoted (text : String) :
    Reads [.quoted (text.toList.flatMap escapeChar)] (.scalar (some (.str text))) := by
  intro frames expect either
  have step : readValue? frames (.quoted (text.toList.flatMap escapeChar)) =
      some (deliver frames (.scalar (some (.str text)))) := by
    rw [readValue?, quotedText?_escape]
    rfl
  rcases either with rfl | rfl <;> simpa [readStep?, Lexeme.isMark] using step

/-- A member is read as its name and its value. -/
theorem readsMember (name : String) {ls : List Lexeme} {tree : Tree} (reads : Reads ls tree) :
    ReadsMember (.quoted (name.toList.flatMap escapeChar) :: .mark ':' :: ls)
      (some name, tree) := by
  intro frames expect reversed either
  have named : readStep? ⟨frames, expect⟩ (.quoted (name.toList.flatMap escapeChar)) =
      some ⟨frames, .colon reversed (some name)⟩ := by
    have step : readName? frames reversed (.quoted (name.toList.flatMap escapeChar)) =
        some ⟨frames, .colon reversed (some name)⟩ := by
      rw [readName?, quotedText?_escape]
      rfl
    rcases either with rfl | rfl <;> simpa [readStep?, Lexeme.isMark] using step
  have colon : readStep? ⟨frames, .colon reversed (some name)⟩ (.mark ':') =
      some ⟨.members reversed (some name) :: frames, .value⟩ := rfl
  have value := reads (.members reversed (some name) :: frames) .value (.inl rfl)
  simp [named, colon, value, deliver]

mutual

theorem reads_pieces (j : Json) (numbers : j.NumbersReadBack) : Reads j.pieces j.tree := by
  match j with
  | .null => exact reads_word rfl
  | .bool true => exact reads_word rfl
  | .bool false => exact reads_word rfl
  | .int n => exact reads_word (wordTree?_number (ofChars?_int numbers)).2
  | .float x => exact reads_word (wordTree?_number numbers).2
  | .str text => exact reads_quoted text
  | .array items => exact reads_array (reads_itemPieces items numbers)
  | .object members => exact reads_object (reads_memberPieces members numbers)
termination_by structural j

theorem reads_itemPieces (items : List Json) (numbers : ItemsReadBack items) :
    List.Forall₂ Reads (itemPieces items) (trees items) := by
  match items with
  | [] => exact .nil
  | item :: rest => exact .cons (reads_pieces item numbers.1) (reads_itemPieces rest numbers.2)
termination_by structural items

theorem reads_memberPieces (members : List (String × Json)) (numbers : MembersReadBack members) :
    List.Forall₂ ReadsMember (memberPieces members) (memberTrees members) := by
  match members with
  | [] => exact .nil
  | (name, member) :: rest =>
    exact .cons (readsMember name (reads_pieces member numbers.1))
      (reads_memberPieces rest numbers.2)
termination_by structural members

end

/-- The text that is written of a value has the structure of the value. -/
theorem treeOfText?_pretty {j : Json} (numbers : j.NumbersReadBack) (level : Nat) :
    treeOfText? (j.pretty level) = some j.tree := by
  have cut := lexemes?_of_cutsTo (cutsTo_pretty level j numbers)
  have read := reads_pieces j numbers [] .value (.inl rfl)
  rw [treeOfText?, cut]
  simp only [Option.bind_eq_bind, Option.bind_some, read]
  rfl

/-! ## Values -/

mutual

/-- How many brackets are open at once at most. -/
def depth : Json → Nat
  | .array items => itemsDepth items + 1
  | .object members => membersDepth members + 1
  | _ => 0
termination_by structural x => x

/-- The greatest depth of an item. -/
def itemsDepth : List Json → Nat
  | [] => 0
  | item :: rest => max (depth item) (itemsDepth rest)
termination_by structural x => x

/-- The greatest depth of a member. -/
def membersDepth : List (String × Json) → Nat
  | [] => 0
  | (_, member) :: rest => max (depth member) (membersDepth rest)
termination_by structural x => x

end

mutual

/-- At every depth, the names in objects ascend. -/
def Ordered : Json → Prop
  | .array items => ItemsOrdered items
  | .object members => Entries.Ascending members ∧ MembersOrdered members
  | _ => True
termination_by structural x => x

/-- Every item is ordered. -/
def ItemsOrdered : List Json → Prop
  | [] => True
  | item :: rest => Ordered item ∧ ItemsOrdered rest
termination_by structural x => x

/-- Every member is ordered. -/
def MembersOrdered : List (String × Json) → Prop
  | [] => True
  | (_, member) :: rest => Ordered member ∧ MembersOrdered rest
termination_by structural x => x

end

mutual

theorem value?_tree (limit : Nat) (j : Json) (shallow : j.depth ≤ limit) (ordered : j.Ordered) :
    Tree.value? limit j.tree = some j := by
  match j with
  | .null => rfl
  | .bool _ => rfl
  | .int _ => rfl
  | .float _ => rfl
  | .str _ => rfl
  | .array items =>
    obtain ⟨limit, rfl⟩ := Nat.exists_eq_succ_of_ne_zero
      (show limit ≠ 0 by rw [depth] at shallow; omega)
    have each := values?_trees limit items (Nat.le_of_succ_le_succ shallow) ordered
    rw [tree, Tree.value?, each]
    rfl
  | .object members =>
    obtain ⟨limit, rfl⟩ := Nat.exists_eq_succ_of_ne_zero
      (show limit ≠ 0 by rw [depth] at shallow; omega)
    have each := members?_memberTrees limit members (Nat.le_of_succ_le_succ shallow) ordered.2
    rw [tree, Tree.value?, each, Option.map_some, Entries.ofList_of_ascending ordered.1]
termination_by structural j

theorem values?_trees (limit : Nat) (items : List Json) (shallow : itemsDepth items ≤ limit)
    (ordered : ItemsOrdered items) : Tree.values? limit (trees items) = some items := by
  match items with
  | [] => rfl
  | item :: rest =>
    obtain ⟨first, others⟩ := Nat.max_le.1 shallow
    rw [trees, Tree.values?, value?_tree limit item first ordered.1,
      values?_trees limit rest others ordered.2]
    rfl
termination_by structural items

theorem members?_memberTrees (limit : Nat) (members : List (String × Json))
    (shallow : membersDepth members ≤ limit) (ordered : MembersOrdered members) :
    Tree.members? limit (memberTrees members) = some members := by
  match members with
  | [] => rfl
  | (name, member) :: rest =>
    obtain ⟨first, others⟩ := Nat.max_le.1 shallow
    rw [memberTrees, Tree.members?, value?_tree limit member first ordered.1,
      members?_memberTrees limit rest others ordered.2]
    rfl
termination_by structural members

end

end DocumentSchema.Json

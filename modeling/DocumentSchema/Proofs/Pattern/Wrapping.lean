import DocumentSchema.Descriptor.Make
import DocumentSchema.Proofs.Pattern.Nesting
import DocumentSchema.Proofs.Pattern.Search

/-!
Patterns of whole texts.

A pattern of a text is read between anchors, inside a group that is put around it as text. Where the
source is a pattern by itself, that is what the group holds, and exactly the texts match that the
source matches from end to end (`TextPattern.whole_texts_matched`). A source that closes the group
by a parenthesis of its own is no pattern by itself, but may still be accepted, and then the anchors
hold for its ends alone.
-/

namespace DocumentSchema

namespace Pattern

variable {cs : List Char} {text source : String} {tree wrapped : Tree} {final : Reading}

/-! ## Whole patterns -/

/-- The reading at the start of a pattern. -/
def Reading.start : Reading := ⟨[], [], false, []⟩

theorem ofText?_eq_some_iff :
    Tree.ofText? text = some tree ↔ ∃ final, readRest .start text.toList = some final ∧
      final.close = (tree, []) ∧ tree.depth ≤ maxNesting := by
  have reads : readAll? ⟨[], [], false, []⟩ (text.toList.length + 1) text.toList =
    readRest .start text.toList := rfl
  simp only [Tree.ofText?, reads, Option.bind_eq_bind, Option.bind_eq_some_iff]
  refine exists_congr fun final => and_congr_right fun _ => ?_
  split
  · next body closed =>
    rw [closed]
    constructor
    · intro found
      split at found
      · next shallow =>
        cases found
        exact ⟨rfl, shallow⟩
      · cases found
    · rintro ⟨same, shallow⟩
      cases same
      exact if_pos shallow
  · next opened =>
    refine iff_of_false (by simp) fun both => ?_
    exact opened tree both.1

/-- What is open inside a group that sets no flags, behind the parts that stand ahead of it. -/
def around (parts : List Tree) : List Frame :=
  [.group parts (some []) false]

theorem readRest_group {parts : List Tree} :
    readRest ⟨[], parts, false, []⟩ ('(' :: '?' :: ':' :: cs) =
      readRest (Reading.below .start (around parts)) cs := by
  rw [readRest_of_cons rfl]
  rfl

theorem readRest_anchored : readRest .start ('^' :: '(' :: '?' :: ':' :: cs) =
    readRest (Reading.below .start (around [.atom (.assertion .lineStart)])) cs := by
  rw [readRest_of_cons rfl]
  exact readRest_group

theorem readRest_unopened {state : Reading} (outermost : state.close.2 = []) :
    readRest state (')' :: cs) = none := by
  rw [readRest_of_cons (Ends.skipBlank (.inr ⟨cs, rfl⟩))]
  exact congrArg (Option.bind · _) (closeGroup?_of_nil outermost)

theorem readRest_closing {state : Reading} {parts : List Tree} (outermost : state.close.2 = []) :
    readRest (state.below (around parts)) (')' :: cs) =
      readRest (state.closed parts (some []) false) cs := by
  rw [readRest_of_cons (Ends.skipBlank (.inr ⟨cs, rfl⟩))]
  exact congrArg (Option.bind · _) (closeGroup?_below outermost)

/-- The source has a parenthesis that closes the group put around it. -/
def ClosesAround (source : String) : Prop :=
  ∃ head tail : String, source = head ++ ")" ++ tail ∧
    (Tree.ofText? ("(?:" ++ head ++ ")")).isSome = true

/-- The tree of a source between anchors. -/
def anchored (tree : Tree) : Tree :=
  .concat [.atom (.assertion .lineStart), .group [] tree, .atom (.assertion .lineEnd)]

/-- The parenthesis that closes the group around it is one too many in the source itself. -/
theorem ofText?_eq_none_of_closesAround (closes : ClosesAround source) :
    Tree.ofText? source = none := by
  obtain ⟨head, tail, rfl, readable⟩ := closes
  obtain ⟨tree, readable⟩ := Option.isSome_iff_exists.1 readable
  obtain ⟨final, found, finished, -⟩ := ofText?_eq_some_iff.1 readable
  have grouped : ("(?:" ++ head ++ ")").toList = '(' :: '?' :: ':' :: (head.toList ++ [')']) := by
    simp
  rw [grouped] at found
  have found := readRest_group.symm.trans found
  obtain ⟨used, rest, inner, cut, closes, -⟩ := exists_closes found (congrArg Prod.snd finished)
  rw [Option.eq_none_iff_forall_ne_some]
  intro alone readable
  obtain ⟨final, found, -⟩ := ofText?_eq_some_iff.1 readable
  have whole : (head ++ ")" ++ tail).toList = used ++ ')' :: (rest ++ tail.toList) :=
    calc (head ++ ")" ++ tail).toList
      _ = head.toList ++ [')'] ++ tail.toList := by simp
      _ = used ++ ')' :: rest ++ tail.toList := by rw [cut]
      _ = used ++ ')' :: (rest ++ tail.toList) := by simp
  have reads := closes.reads surrounds_nil (.inr ⟨rest ++ tail.toList, rfl⟩)
  rw [below_nil, below_nil, readRest_unopened closes.outermost, ← whole, found] at reads
  cases reads

/-- The parenthesis that closes the group is the one behind the source or one in it. -/
theorem cut_anchored {used rest : List Char} (cut : cs ++ [')', '$'] = used ++ ')' :: rest) :
    (cs = used ∧ rest = ['$']) ∨ ∃ others, cs = used ++ ')' :: others := by
  rcases List.append_eq_append_iff.1 cut with ⟨more, rfl, beyond⟩ | ⟨others, rfl, within⟩
  · rcases more with _ | ⟨c, _ | ⟨d, more⟩⟩
    · exact .inl ⟨(List.append_nil cs).symm, (List.cons.inj beyond).2.symm⟩
    · simp at beyond
    · simp at beyond
  · rcases others with _ | ⟨c, others⟩
    · exact .inl ⟨List.append_nil used, (List.cons.inj within).2⟩
    · obtain ⟨rfl, -⟩ := List.cons.inj within
      exact .inr ⟨others, rfl⟩

/-- A source that can be read between anchors can be read by itself or closes the group that is put
around it. -/
theorem readable_or_closesAround (found : Tree.ofText? ("^(?:" ++ source ++ ")$") = some wrapped) :
    (∃ tree, Tree.ofText? source = some tree ∧ wrapped = anchored tree) ∨ ClosesAround source := by
  obtain ⟨final, found, finished, shallow⟩ := ofText?_eq_some_iff.1 found
  have text : ("^(?:" ++ source ++ ")$").toList =
      '^' :: '(' :: '?' :: ':' :: (source.toList ++ [')', '$']) := by
    simp
  rw [text, readRest_anchored] at found
  obtain ⟨used, rest, inner, cut, closes, onward⟩ :=
    exists_closes found (congrArg Prod.snd finished)
  have depth : (Tree.group [] inner.close.1).depth ≤ maxNesting := by
    have held := (within_of_readRest onward (congrArg Prod.snd finished)).parts
    rw [finished] at held
    exact (held _ List.mem_cons_self).trans shallow
  rcases cut_anchored cut with ⟨rfl, rfl⟩ | ⟨others, inside⟩
  · left
    refine ⟨inner.close.1, ofText?_eq_some_iff.2 ⟨inner, ?_, ?_, ?_⟩, ?_⟩
    · have reads := closes.reads surrounds_nil (.inl rfl)
      rwa [below_nil, below_nil, List.append_nil, readRest_of_nil (Ends.skipBlank (.inl rfl))]
        at reads
    · exact Prod.ext rfl closes.outermost
    · exact Nat.le_of_succ_le depth
    · rw [readRest_of_cons rfl] at onward
      cases onward
      exact (congrArg Prod.fst finished).symm
  · right
    refine ⟨String.ofList used, String.ofList others, ?_, ?_⟩
    · rw [← String.toList_inj]
      simp [inside]
    · refine Option.isSome_iff_exists.2 ⟨.group [] inner.close.1, ofText?_eq_some_iff.2
        ⟨inner.closed [] (some []) false, ?_, rfl, depth⟩⟩
      have grouped : ("(?:" ++ String.ofList used ++ ")").toList =
          '(' :: '?' :: ':' :: (used ++ [')']) := by
        simp
      rw [grouped]
      exact readRest_group.trans <| (closes.reads surrounds_group (.inr ⟨[], rfl⟩)).trans <|
        (readRest_closing closes.outermost).trans (readRest_of_nil rfl)

/-! ## Meaning -/

/-- A group without flags means what its body means. -/
theorem form?_group {flags : Flags} :
    form? flags (.group [] tree) = (form? flags tree).map fun p => (p.1, flags) := by
  have same : flags.set [] = flags := rfl
  rw [form?, same]
  cases form? flags tree <;> rfl

theorem form?_anchored : form? .initial (anchored tree) =
    (form? .initial tree).map fun p =>
      (.ofParts [.anchor .textStart, p.1, .anchor .textEnd], .initial) := by
  have start : form? .initial (.atom (.assertion .lineStart)) =
    some (.anchor .textStart, .initial) := rfl
  rw [anchored, form?]
  simp only [forms?, start, form?_group, Option.bind_eq_bind, Option.bind_some]
  cases form? .initial tree <;> rfl

/-- Between anchors, a form matches the whole text. -/
theorem matches_anchored {form : Form} {before t after : List Char} :
    (Form.ofParts [.anchor .textStart, form, .anchor .textEnd]).regex.Matches before t after ↔
      before = [] ∧ after = [] ∧ form.regex.Matches [] t [] := by
  have joined : (Form.ofParts [.anchor .textStart, form, .anchor .textEnd]).regex.Agrees
      (.seq (.anchor .textStart) (.seq form.regex (.anchor .textEnd))) :=
    Form.agrees_ofParts.trans <| Form.agrees_parts_cons.trans <| .seq (.refl _) <|
      Form.agrees_parts_cons.trans <| .seq (.refl _) <|
        Form.agrees_parts_cons.trans Regex.agrees_seq_epsilon
  exact (joined before t after).trans Regex.matches_anchored

theorem matchesWithin_anchored {form : Form} :
    (Form.ofParts [.anchor .textStart, form, .anchor .textEnd]).regex.matchesWithin text = true ↔
      form.regex.Matches [] text.toList [] := by
  rw [Regex.matchesWithin_iff]
  constructor
  · rintro ⟨before, t, after, cut, matched⟩
    obtain ⟨rfl, rfl, inside⟩ := matches_anchored.1 matched
    rw [cut]
    simpa using inside
  · intro matched
    exact ⟨[], text.toList, [], by simp, matches_anchored.2 ⟨rfl, rfl, matched⟩⟩

theorem ofText?_of_tree (read : Tree.ofText? text = some tree) :
    Form.ofText? text = (form? .initial tree).map Prod.fst := by
  simp only [Form.ofText?, read, Option.bind_eq_bind, Option.bind_some]
  cases form? .initial tree <;> rfl

end Pattern

namespace TextPattern

open Pattern (Form ClosesAround)

variable {source : String} {pattern : TextPattern}

theorem make_of_regexOfText {regex : Regex}
    (meant : Pattern.regexOfText ("^(?:" ++ source ++ ")$") = .ok regex) :
    make source = .ok ⟨source, regex⟩ := by
  rw [make, meant]

theorem make_eq_ok_iff : make source = .ok pattern ↔
    ∃ form, Form.ofText? ("^(?:" ++ source ++ ")$") = some form ∧ form.isSmall = true ∧
      pattern = ⟨source, form.regex⟩ := by
  unfold make Pattern.regexOfText
  cases Form.ofText? ("^(?:" ++ source ++ ")$") with
  | none => simp
  | some form =>
    by_cases small : form.isSmall = true
    · simp only [small, if_true, Except.ok.injEq, Option.some.injEq]
      constructor
      · rintro rfl
        exact ⟨form, rfl, small, rfl⟩
      · rintro ⟨_, rfl, -, rfl⟩
        rfl
    · simp only [small, if_false, Option.some.injEq, reduceCtorEq, false_iff]
      rintro ⟨_, rfl, small', -⟩
      exact small small'

/-- A pattern that is made keeps to the whole text wherever its source is a pattern by itself, which
is wherever the source does not close the group that is put around it. -/
theorem whole_texts_matched (made : make source = .ok pattern) :
    (Form.ofText? source = none ↔ ClosesAround source) ∧
      ∀ form, Form.ofText? source = some form → ∀ text,
        pattern.isMatch text = true ↔ form.regex.Matches [] text.toList [] := by
  obtain ⟨form, read, -, rfl⟩ := make_eq_ok_iff.1 made
  obtain ⟨wrapped, readWrapped, meant⟩ := Option.bind_eq_some_iff.1 read
  obtain ⟨⟨form, flags⟩, meant, same⟩ := Option.bind_eq_some_iff.1 meant
  cases same
  rcases Pattern.readable_or_closesAround readWrapped with ⟨tree, alone, rfl⟩ | closes
  · rw [Pattern.form?_anchored] at meant
    obtain ⟨⟨inner, flags'⟩, meantAlone, same⟩ := Option.map_eq_some_iff.1 meant
    cases same
    have isPattern : Form.ofText? source = some inner := by
      rw [Pattern.ofText?_of_tree alone, meantAlone]
      rfl
    refine ⟨iff_of_false (by simp [isPattern]) fun closes => ?_, ?_⟩
    · rw [Pattern.ofText?_eq_none_of_closesAround closes] at alone
      cases alone
    · intro form isForm text
      rw [isPattern] at isForm
      cases isForm
      exact Pattern.matchesWithin_anchored
  · have unread : Form.ofText? source = none := by
      rw [Form.ofText?, Pattern.ofText?_eq_none_of_closesAround closes]
      rfl
    refine ⟨iff_of_true unread closes, ?_⟩
    rw [unread]
    exact nofun

theorem whole_texts_matched_choice : ∃ pattern form, make "a|bc" = .ok pattern ∧
    Form.ofText? "a|bc" = some form ∧ ¬ClosesAround "a|bc" ∧
      form.regex.Matches [] "bc".toList [] ∧ ¬form.regex.Matches [] "ac".toList [] := by
  have meant : Pattern.regexOfText ("^(?:" ++ "a|bc" ++ ")$") =
      .ok (.seq (.anchor .textStart) (.seq
        (.alt (.chars (.single 'a')) (.seq (.chars (.single 'b')) (.chars (.single 'c'))))
        (.anchor .textEnd))) := by decide +kernel
  have made := make_of_regexOfText meant
  have readable : (Form.ofText? "a|bc").isSome = true := by decide +kernel
  obtain ⟨form, read⟩ := Option.isSome_iff_exists.1 readable
  obtain ⟨unread_iff, matches_iff⟩ := whole_texts_matched made
  refine ⟨_, form, made, read, fun closes => ?_, (matches_iff form read "bc").1 (by decide +kernel),
    fun matched => ?_⟩
  · rw [unread_iff.2 closes] at read
    cases read
  · exact absurd ((matches_iff form read "ac").2 matched) (by decide +kernel)

/-- Each half of the source gets one of the anchors only. -/
theorem prefix_matched : ∃ pattern, make "a)|(?:b" = .ok pattern ∧
    Form.ofText? "a)|(?:b" = none ∧ pattern.isMatch "ax" = true ∧ pattern.isMatch "xb" = true := by
  have meant : Pattern.regexOfText ("^(?:" ++ "a)|(?:b" ++ ")$") =
      .ok (.alt (.seq (.anchor .textStart) (.chars (.single 'a')))
        (.seq (.chars (.single 'b')) (.anchor .textEnd))) := by decide +kernel
  refine ⟨_, make_of_regexOfText meant, ?_, ?_, ?_⟩
  · exact Option.isNone_iff_eq_none.1 (by decide +kernel)
  · decide +kernel
  · decide +kernel

end TextPattern

end DocumentSchema

import DocumentSchema.Proofs.Pattern.Locality

/-!
Reading classes.

A class is read locally, as it ends with its closing bracket. Its members are not: one is read only
where something follows, and whether a bracket opens an ASCII class or a hyphen is the sign of a
range is seen from what follows. What is seen that way never reaches beyond a parenthesis
(`readAsciiClass?_append`, `opensRange_append`).
-/

namespace DocumentSchema.Pattern

open Text (CharSet)
open Text.Unicode (isSpace)

variable {cs rest t more : List Char} {c mark : Char} {verbose : Bool}

/-! ## What follows -/

/-- What is before the first mark does not depend on what follows the text. -/
theorem splitFirst_append {name : List Char} (found : splitFirst mark cs = some (name, rest)) :
    splitFirst mark (cs ++ t) = some (name, rest ++ t) := by
  induction cs generalizing name with
  | nil => cases found
  | cons c cs ih =>
    rw [List.cons_append]
    rw [splitFirst] at found ⊢
    split at found
    · next marked =>
      cases found
      exact if_pos marked
    · next other =>
      obtain ⟨⟨name, rest⟩, found, same⟩ := Option.map_eq_some_iff.1 found
      cases same
      rw [if_neg other, ih found]
      rfl

/-- A mark that is found beyond the text has the whole text before it. -/
theorem splitFirst_append_of_none {name : List Char} (none : splitFirst mark cs = none)
    (found : splitFirst mark (cs ++ t) = some (name, rest)) :
    ∃ others, splitFirst mark t = some (others, rest) ∧ name = cs ++ others := by
  induction cs generalizing name with
  | nil => exact ⟨name, found, rfl⟩
  | cons c cs ih =>
    rw [List.cons_append, splitFirst] at found
    rw [splitFirst] at none
    split at none
    · cases none
    · next other =>
      rw [if_neg other] at found
      obtain ⟨⟨name, rest⟩, found, same⟩ := Option.map_eq_some_iff.1 found
      cases same
      obtain ⟨others, beyond, rfl⟩ := ih (Option.map_eq_none_iff.1 none) found
      exact ⟨others, beyond, rfl⟩

/-- No ASCII class has a parenthesis in its name. -/
theorem asciiClass?_of_parenthesis {name : List Char} (member : ')' ∈ name) :
    asciiClass? name = none := by
  have spelled {known : String} (same : String.ofList name = known) : ')' ∈ known.toList := by
    rw [← same, String.toList_ofList]
    exact member
  unfold asciiClass?
  split
  case h_15 => rfl
  all_goals exact absurd (spelled ‹_›) (by decide)

/-- Whether the name of an ASCII class follows is not seen from beyond a parenthesis. -/
theorem readAsciiName?_append {negated : Bool} (ends : Ends t) :
    readAsciiName? negated (cs ++ t) =
      (readAsciiName? negated cs).map fun p => (p.1, p.2 ++ t) := by
  unfold readAsciiName?
  cases cut : splitFirst ':' cs with
  | some found =>
    obtain ⟨name, rest⟩ := found
    rw [splitFirst_append cut]
    cases known : asciiClass? name with
    | none => simp [known]
    | some set =>
      simp only [known, Option.bind_eq_bind, Option.bind_some]
      rcases rest with _ | ⟨c, rest⟩
      · rcases ends with rfl | ⟨more, rfl⟩ <;> rfl
      · by_cases closing : c = ']'
        · subst closing
          rfl
        · simp [closing]
  | none =>
    -- the colon is beyond the parenthesis, which would belong to the name
    cases beyond : splitFirst ':' (cs ++ t) with
    | none => rfl
    | some found =>
      obtain ⟨name, rest⟩ := found
      obtain ⟨others, found, rfl⟩ := splitFirst_append_of_none cut beyond
      have member : ')' ∈ others := by
        rcases ends with rfl | ⟨more, rfl⟩
        · cases found
        · rw [splitFirst, if_neg (by decide)] at found
          obtain ⟨⟨name, rest⟩, -, same⟩ := Option.map_eq_some_iff.1 found
          cases same
          exact List.mem_cons_self
      simp [asciiClass?_of_parenthesis (List.mem_append_right cs member)]

/-- Reading the name of an ASCII class leaves a rest of the text. -/
theorem readAsciiName?_suffix {item : ClassTree} {negated : Bool}
    (found : readAsciiName? negated cs = some (item, rest)) : rest <:+ cs := by
  obtain ⟨⟨name, after⟩, cut, found⟩ := Option.bind_eq_some_iff.1 found
  obtain ⟨set, -, found⟩ := Option.bind_eq_some_iff.1 found
  refine List.IsSuffix.trans ?_ (splitFirst_suffix cut)
  split at found
  · cases found
    exact List.suffix_cons _ _
  · cases found

/-- Reading an ASCII class leaves a rest of the text. -/
theorem readAsciiClass?_suffix {item : ClassTree}
    (found : readAsciiClass? cs = some (item, rest)) : rest <:+ cs := by
  unfold readAsciiClass? at found
  split at found
  · exact ((readAsciiName?_suffix found).trans (List.suffix_cons _ _)).trans (List.suffix_cons _ _)
  · exact (readAsciiName?_suffix found).trans (List.suffix_cons _ _)
  · cases found

theorem readAsciiClass?_of_head (other : cs.head? ≠ some '^') :
    readAsciiClass? (':' :: cs) = readAsciiName? false cs := by
  unfold readAsciiClass?
  split
  · next same => exact absurd (congrArg List.head? (List.cons.inj same).2) other
  · next same => rw [(List.cons.inj same).2]
  · next none => exact absurd rfl (none cs)

/-- Whether an ASCII class follows is not seen from beyond a parenthesis. -/
theorem readAsciiClass?_append (ends : Ends t) :
    readAsciiClass? (cs ++ t) = (readAsciiClass? cs).map fun p => (p.1, p.2 ++ t) := by
  by_cases colon : cs.head? = some ':'
  · obtain ⟨cs, rfl⟩ := List.head?_eq_some_iff.1 colon
    by_cases caret : cs.head? = some '^'
    · obtain ⟨cs, rfl⟩ := List.head?_eq_some_iff.1 caret
      exact readAsciiName?_append ends
    · rw [List.cons_append, readAsciiClass?_of_head caret,
        readAsciiClass?_of_head ((ends.head?_append_iff (by decide)).not.2 caret)]
      exact readAsciiName?_append ends
  · have none {cs : List Char} (other : cs.head? ≠ some ':') : readAsciiClass? cs = none := by
      unfold readAsciiClass?
      split
      · exact absurd rfl other
      · exact absurd rfl other
      · rfl
    rw [none colon, none ((ends.head?_append_iff (by decide)).not.2 colon)]
    rfl

/-- Whether an operator between classes follows is not seen from beyond a parenthesis. -/
theorem readClassOp?_append (ends : Ends t) :
    readClassOp? (cs ++ t) = (readClassOp? cs).map fun p => (p.1, p.2 ++ t) := by
  rcases cs with _ | ⟨c, _ | ⟨d, cs⟩⟩
  · rcases ends with rfl | ⟨more, rfl⟩ <;> rfl
  · unfold readClassOp?
    rcases ends with rfl | ⟨more, rfl⟩ <;> simp
  · simp only [List.cons_append]
    unfold readClassOp?
    split <;> simp_all

/-- An operator takes at least one character. -/
theorem readClassOp?_suffix {op : ClassOp} (found : readClassOp? cs = some (op, rest)) :
    rest <:+ cs.tail := by
  unfold readClassOp? at found
  split at found
  all_goals
    cases found
    try exact List.suffix_cons _ _

/-- Blanks are dropped up to a parenthesis at most. -/
theorem dropSpace_append (ends : Ends t) :
    (cs ++ t).dropWhile isSpace = cs.dropWhile isSpace ++ t := by
  rw [List.dropWhile_append, ends.dropSpace]
  split
  · next none => rw [List.isEmpty_iff.1 none, List.nil_append]
  · rfl

theorem behindBlanks_of_number (number : cs.dropWhile isSpace = '#' :: rest) :
    behindBlanks cs = rest.dropWhile isSpace := by
  rw [behindBlanks, number]
  rfl

theorem behindBlanks_of_head (other : (cs.dropWhile isSpace).head? ≠ some '#') :
    behindBlanks cs = cs.dropWhile isSpace := by
  unfold behindBlanks
  split
  · next same => exact absurd (congrArg List.head? same) other
  · rfl

/-- What stands behind blanks and a comment sign is not changed from beyond a parenthesis. -/
theorem behindBlanks_append (ends : Ends t) : behindBlanks (cs ++ t) = behindBlanks cs ++ t := by
  have dropped : (cs ++ t).dropWhile isSpace = _ := dropSpace_append ends
  by_cases number : (cs.dropWhile isSpace).head? = some '#'
  · obtain ⟨rest, number⟩ := List.head?_eq_some_iff.1 number
    rw [number] at dropped
    rw [behindBlanks_of_number number, ← dropSpace_append ends]
    exact behindBlanks_of_number dropped
  · rw [behindBlanks_of_head number, ← dropped]
    refine behindBlanks_of_head ?_
    rw [dropped]
    exact (ends.head?_append_iff (by decide)).not.2 number

/-- Where only blanks and a comment sign are left, the first character is one of them. -/
theorem head?_of_behindBlanks (none : behindBlanks cs = []) (first : cs.head? = some c) :
    isSpace c = true ∨ c = '#' := by
  obtain ⟨cs, rfl⟩ := List.head?_eq_some_iff.1 first
  by_contra other
  obtain ⟨printed, number⟩ := not_or.1 other
  rw [behindBlanks, List.dropWhile_cons_of_neg printed] at none
  split at none
  · next same => exact number (List.cons.inj same).1
  · cases none

/-- What stands behind a hyphen is the same, but for a blank or the parenthesis itself. -/
theorem charBehind?_append (ends : Ends t) (inside : c ≠ ')') (printed : isSpace c = false)
    (number : c ≠ '#') :
    charBehind? verbose (cs ++ t) = some c ↔ charBehind? verbose cs = some c := by
  cases verbose with
  | false => exact ends.head?_append_iff inside
  | true =>
    simp only [charBehind?, if_true, behindBlanks_append ends]
    cases behind : behindBlanks cs with
    | cons d rest => exact Iff.rfl
    | nil =>
      have notFirst : cs.head? ≠ some c := fun first =>
        (head?_of_behindBlanks behind first).elim (by rw [printed]; exact nofun) number
      rw [List.nil_append, List.head?_nil, Option.none_or, iff_false_right notFirst]
      rcases ends with rfl | ⟨more, rfl⟩
      · rwa [List.append_nil]
      · exact fun same => inside (Option.some.inj same).symm

/-- Only a hyphen opens a range. -/
theorem opensRange_of_head (other : cs.head? ≠ some '-') : opensRange verbose cs = false := by
  unfold opensRange
  split
  · exact absurd rfl other
  · rfl

/-- Whether a hyphen opens a range is not seen from beyond a parenthesis. -/
theorem opensRange_append (ends : Ends t) :
    opensRange verbose (cs ++ t) = opensRange verbose cs := by
  by_cases hyphen : cs.head? = some '-'
  · obtain ⟨cs, rfl⟩ := List.head?_eq_some_iff.1 hyphen
    have closing : charBehind? verbose (cs ++ t) = some ']' ↔ charBehind? verbose cs = some ']' :=
      charBehind?_append ends (by decide) (by decide) (by decide)
    have hyphen : charBehind? verbose (cs ++ t) = some '-' ↔ charBehind? verbose cs = some '-' :=
      charBehind?_append ends (by decide) (by decide) (by decide)
    rw [Bool.eq_iff_iff]
    simp only [List.cons_append, opensRange, Bool.and_eq_true, bne_iff_ne, ne_eq, closing, hyphen]
  · rw [opensRange_of_head hyphen,
      opensRange_of_head ((ends.head?_append_iff (by decide)).not.2 hyphen)]

/-! ## Members -/

/-- Reading the hyphens and the bracket at the start of a class leaves a rest of the text. -/
theorem readClassHead?_suffix {hyphens members : List ClassTree} {fuel : Nat}
    (found : readClassHead? verbose hyphens fuel cs = some (members, rest)) : rest <:+ cs := by
  induction fuel generalizing hyphens cs with
  | zero => cases found
  | succ fuel ih =>
    rcases cs with _ | ⟨c, cs⟩
    · cases found
    rw [readClassHead?] at found
    dsimp only at found
    split_ifs at found
    · exact ((ih found).trans skipBlank_suffix).trans (List.suffix_cons c cs)
    · cases found
      exact skipBlank_suffix.trans (List.suffix_cons c cs)
    · cases found
      exact List.suffix_refl _

/-- The start of a class that is read before a parenthesis is read the same before any other end. -/
theorem readClassHead?_carry {hyphens members : List ClassTree} {fuel enough : Nat}
    (found : readClassHead? verbose hyphens fuel (cs ++ ')' :: more) =
      some (members, rest ++ ')' :: more))
    (ends : Ends t) (follows : rest ++ t ≠ []) (short : (cs ++ t).length < enough) :
    readClassHead? verbose hyphens enough (cs ++ t) = some (members, rest ++ t) := by
  induction fuel generalizing hyphens cs enough with
  | zero => cases found
  | succ fuel ih =>
    obtain _ | enough := enough
    · cases short
    rcases cs with _ | ⟨c, cs⟩
    · rw [List.nil_append, readClassHead?, if_neg (by decide), if_neg (by simp)] at found
      obtain ⟨rfl, same⟩ := Prod.mk.inj (Option.some.inj found)
      obtain rfl : [] = rest := List.append_cancel_right same
      rcases ends with rfl | ⟨others, rfl⟩
      · exact absurd rfl follows
      · rw [List.nil_append, readClassHead?, if_neg (by decide), if_neg (by simp)]
    · rw [List.cons_append, readClassHead?] at found ⊢
      dsimp only at found ⊢
      split_ifs at found with hyphen bracket none
      · obtain ⟨middle, skipped⟩ := cut_of_suffix (readClassHead?_suffix found)
        have fewer := skipBlank_length_le verbose (cs ++ t)
        rw [skipped] at found
        rw [if_pos hyphen]
        rw [skipBlank_carry skipped ends] at fewer ⊢
        simp only [List.cons_append, List.length_cons] at short
        exact ih found (by omega)
      · obtain ⟨rfl, skipped⟩ := Prod.mk.inj (Option.some.inj found)
        rw [if_neg hyphen, if_pos bracket, skipBlank_carry skipped ends, if_neg]
        simpa using follows
      · rw [if_neg hyphen, if_neg bracket]
        obtain ⟨rfl, same⟩ := Prod.mk.inj (Option.some.inj found)
        obtain rfl : c :: cs = rest := List.append_cancel_right same
        rfl

/-- A sign of negation is read locally. -/
theorem local_readNegation (verbose : Bool) : Local fun cs => some (readNegation verbose cs) := by
  refine .peek '^' (by decide) ((local_skipBlank verbose).map fun _ => true) (.pure false) ?_
  intro cs other
  unfold readNegation
  split
  · exact absurd rfl other
  · rfl

section Open

variable {opened : Bool × List ClassTree}

/-- A class opens with a sign of negation, and hyphens and a bracket that stand for themselves. -/
theorem openClass?_eq_some_iff :
    openClass? verbose cs = some (opened, rest) ↔ ∃ inner,
      readNegation verbose (skipBlank verbose cs) = (opened.1, inner) ∧
        readClassHead? verbose [] (inner.length + 1) inner = some (opened.2, rest) := by
  obtain ⟨negated, members⟩ := opened
  simp only [openClass?, Option.bind_eq_bind, Option.bind_eq_some_iff, Option.pure_def,
    Option.some.injEq]
  constructor
  · rintro ⟨⟨members, rest⟩, taken, same⟩
    cases same
    exact ⟨_, rfl, taken⟩
  · rintro ⟨inner, signed, taken⟩
    rw [signed]
    exact ⟨_, taken, rfl⟩

/-- Opening a class leaves a rest of the text. -/
theorem openClass?_suffix (found : openClass? verbose cs = some (opened, rest)) :
    rest <:+ cs := by
  obtain ⟨inner, signed, taken⟩ := openClass?_eq_some_iff.1 found
  exact (readClassHead?_suffix taken).trans
    ((local_readNegation verbose).skip.suffix (congrArg some signed))

/-- A class that opens before a parenthesis opens the same before any other end. -/
theorem openClass?_carry
    (found : openClass? verbose (cs ++ ')' :: more) = some (opened, rest ++ ')' :: more))
    (ends : Ends t) (follows : rest ++ t ≠ []) :
    openClass? verbose (cs ++ t) = some (opened, rest ++ t) := by
  obtain ⟨inner, signed, taken⟩ := openClass?_eq_some_iff.1 found
  obtain ⟨middle, rfl⟩ := cut_of_suffix (readClassHead?_suffix taken)
  exact openClass?_eq_some_iff.2 ⟨middle ++ t,
    Option.some.inj ((local_readNegation verbose).skip.carry (congrArg some signed) ends),
    readClassHead?_carry taken ends follows (Nat.lt_succ_self _)⟩

end Open

section Members

variable {atom first last : Atom} {item : ClassTree}

/-- A character other than a backslash stands for itself. -/
theorem readClassAtom?_of_head (plain : c ≠ '\\') :
    readClassAtom? verbose (c :: cs) = some (.literal c false, cs) := by
  unfold readClassAtom?
  split
  · next same => cases same
  · next same => exact absurd (List.cons.inj same).1 plain
  · next same =>
    cases same
    rfl

/-- A member takes at least one character. -/
theorem readClassAtom?_suffix (found : readClassAtom? verbose cs = some (atom, rest)) :
    rest <:+ cs.tail := by
  rcases cs with _ | ⟨c, cs⟩
  · cases found
  by_cases escape : c = '\\'
  · subst escape
    exact readEscape?_suffix found
  · rw [readClassAtom?_of_head escape] at found
    cases found
    exact List.suffix_refl _

/-- Assertions are no members of classes. -/
theorem readClassAtom?_carry
    (found : readClassAtom? verbose (cs ++ ')' :: more) = some (atom, rest ++ ')' :: more))
    (ends : Ends t) (member : ∀ kind, atom ≠ .assertion kind) :
    readClassAtom? verbose (cs ++ t) = some (atom, rest ++ t) := by
  rcases cs with _ | ⟨c, cs⟩
  · exact (not_suffix_of_cons (readClassAtom?_suffix found)).elim
  by_cases escape : c = '\\'
  · subst escape
    exact readEscape?_carry found ends fun boundary => absurd boundary (member _)
  · rw [List.cons_append, readClassAtom?_of_head escape] at found ⊢
    exact (Local.pure _).carry found ends

/-- No assertion is a member of a class. -/
theorem ne_assertion_of_member (found : classMember? atom = some item) :
    ∀ kind, atom ≠ .assertion kind := by
  rintro kind rfl
  cases found

/-- No assertion is a bound of a range. -/
theorem ne_assertion_of_range (found : rangeBetween? first last = some item) :
    (∀ kind, first ≠ .assertion kind) ∧ ∀ kind, last ≠ .assertion kind := by
  obtain ⟨lo, isFirst, found⟩ := Option.bind_eq_some_iff.1 found
  obtain ⟨hi, isLast, -⟩ := Option.bind_eq_some_iff.1 found
  refine ⟨?_, ?_⟩
  · rintro kind rfl
    cases isFirst
  · rintro kind rfl
    cases isLast

/-- A member is a range if a hyphen opens one behind it, and otherwise stands alone, with something
behind it. -/
theorem readClassRange?_eq_some_iff :
    readClassRange? verbose cs = some (item, rest) ↔ ∃ first after,
      readClassAtom? verbose cs = some (first, after) ∧
        if opensRange verbose (skipBlank verbose after) = true then
          ∃ last, readClassAtom? verbose (skipBlank verbose (skipBlank verbose after).tail) =
            some (last, rest) ∧ rangeBetween? first last = some item
        else skipBlank verbose after = rest ∧ rest ≠ [] ∧ classMember? first = some item := by
  simp only [readClassRange?, Option.bind_eq_bind, Option.bind_eq_some_iff, Prod.exists]
  refine exists_congr fun first => exists_congr fun after => and_congr_right fun _ => ?_
  split
  · simp only [Option.bind_eq_some_iff, Prod.exists, Option.pure_def, Option.some.injEq,
      Prod.mk.injEq]
    constructor
    · rintro ⟨last, rest, taken, _, between, rfl, rfl⟩
      exact ⟨last, taken, between⟩
    · rintro ⟨last, taken, between⟩
      exact ⟨last, rest, taken, item, between, rfl, rfl⟩
  · split
    · next none =>
      refine iff_of_false nofun ?_
      rintro ⟨rfl, some, -⟩
      exact some (List.isEmpty_iff.1 none)
    · next some =>
      simp only [Option.bind_eq_some_iff, Option.pure_def, Option.some.injEq, Prod.mk.injEq]
      constructor
      · rintro ⟨_, member, rfl, rfl⟩
        exact ⟨rfl, fun none => some (List.isEmpty_iff.2 none), member⟩
      · rintro ⟨skipped, -, member⟩
        exact ⟨item, member, rfl, skipped⟩

/-- A range or member takes at least one character. -/
theorem readClassRange?_suffix (found : readClassRange? verbose cs = some (item, rest)) :
    rest <:+ cs.tail := by
  obtain ⟨first, after, taken, found⟩ := readClassRange?_eq_some_iff.1 found
  refine List.IsSuffix.trans ?_ (readClassAtom?_suffix taken)
  split at found
  · obtain ⟨last, found, -⟩ := found
    refine (readClassAtom?_suffix found).trans <| (List.tail_suffix _).trans <|
      skipBlank_suffix.trans <| (List.tail_suffix _).trans skipBlank_suffix
  · obtain ⟨rfl, -, -⟩ := found
    exact skipBlank_suffix

/-- A range or member that is read before a parenthesis is read the same before any other end. -/
theorem readClassRange?_carry
    (found : readClassRange? verbose (cs ++ ')' :: more) = some (item, rest ++ ')' :: more))
    (ends : Ends t) (follows : rest ++ t ≠ []) :
    readClassRange? verbose (cs ++ t) = some (item, rest ++ t) := by
  obtain ⟨first, after, taken, found⟩ := readClassRange?_eq_some_iff.1 found
  refine readClassRange?_eq_some_iff.2 ⟨first, ?_⟩
  split at found
  · next range =>
    obtain ⟨last, found, between⟩ := found
    obtain ⟨firstMember, lastMember⟩ := ne_assertion_of_range between
    have hyphen : (skipBlank verbose after).head? = some '-' := by
      by_contra other
      rw [opensRange_of_head other] at range
      cases range
    obtain ⟨behind, sign⟩ := List.head?_eq_some_iff.1 hyphen
    rw [sign, List.tail_cons] at found
    -- what is read last ends ahead of the parenthesis, and so does all before it
    have inLast := (readClassAtom?_suffix found).trans (List.tail_suffix _)
    have inBehind := inLast.trans skipBlank_suffix
    have signed : behind <:+ skipBlank verbose after := sign ▸ List.suffix_cons _ _
    have inAfter := inBehind.trans signed
    obtain ⟨after, rfl⟩ := cut_of_suffix (inAfter.trans skipBlank_suffix)
    obtain ⟨behind, rfl⟩ := cut_of_suffix inBehind
    obtain ⟨lastly, lastCut⟩ := cut_of_suffix inLast
    refine ⟨after ++ t, readClassAtom?_carry taken ends firstMember, ?_⟩
    have sign' : skipBlank verbose (after ++ t) = '-' :: behind ++ t := skipBlank_carry sign ends
    rw [sign, ← List.cons_append, opensRange_append (.inr ⟨more, rfl⟩)] at range
    rw [sign', opensRange_append ends, if_pos range, List.cons_append, List.tail_cons,
      skipBlank_carry lastCut ends]
    rw [lastCut] at found
    exact ⟨last, readClassAtom?_carry found ends lastMember, between⟩
  · next noRange =>
    obtain ⟨skipped, -, isMember⟩ := found
    obtain ⟨middle, rfl⟩ := cut_of_suffix (skipped ▸ skipBlank_suffix)
    refine ⟨middle ++ t, readClassAtom?_carry taken ends (ne_assertion_of_member isMember), ?_⟩
    rw [skipped, opensRange_append (.inr ⟨more, rfl⟩)] at noRange
    rw [skipBlank_carry skipped ends, opensRange_append ends, if_neg noRange]
    exact ⟨rfl, follows, isMember⟩

end Members

/-! ## Whole classes -/

section Whole

variable {frames : List ClassFrame} {items : List ClassTree} {progress : ClassProgress}
  {tree : Tree} {fuel enough : Nat}

theorem classStep?_of_head (noOpening : cs.head? ≠ some '[') (noClosing : cs.head? ≠ some ']') :
    classStep? verbose frames items cs =
      match readClassOp? cs with
      | some (op, rest) => some (openOperator frames items op, rest)
      | none => (readClassRange? verbose cs).bind fun p =>
        some (.reading frames (p.1 :: items), p.2) := by
  unfold classStep?
  split
  · exact absurd rfl noOpening
  · exact absurd rfl noClosing
  · cases readClassOp? cs <;> rfl

/-- A step that meets no bracket is the same whatever follows, but for the rest. -/
theorem classStep?_append (ends : Ends t) (noOpening : cs.head? ≠ some '[')
    (noClosing : cs.head? ≠ some ']') :
    classStep? verbose frames items (cs ++ t) =
      match readClassOp? cs with
      | some (op, rest) => some (openOperator frames items op, rest ++ t)
      | none => (readClassRange? verbose (cs ++ t)).bind fun p =>
        some (.reading frames (p.1 :: items), p.2) := by
  rw [classStep?_of_head ((ends.head?_append_iff (by decide)).not.2 noOpening)
    ((ends.head?_append_iff (by decide)).not.2 noClosing), readClassOp?_append ends]
  cases readClassOp? cs <;> rfl

/-- A step takes at least one character. -/
theorem classStep?_suffix (found : classStep? verbose frames items cs = some (progress, rest)) :
    rest <:+ cs.tail := by
  by_cases opening : cs.head? = some '['
  · obtain ⟨cs, rfl⟩ := List.head?_eq_some_iff.1 opening
    simp only [classStep?] at found
    split at found
    · next known =>
      cases found
      exact readAsciiClass?_suffix known
    · obtain ⟨⟨opened, after⟩, taken, same⟩ := Option.bind_eq_some_iff.1 found
      cases same
      exact openClass?_suffix taken
  by_cases closing : cs.head? = some ']'
  · obtain ⟨cs, rfl⟩ := List.head?_eq_some_iff.1 closing
    exact (Local.ofOption _).suffix found
  · rw [classStep?_of_head opening closing] at found
    split at found
    · next isOp =>
      cases found
      exact readClassOp?_suffix isOp
    · obtain ⟨⟨item, after⟩, taken, same⟩ := Option.bind_eq_some_iff.1 found
      cases same
      exact readClassRange?_suffix taken

/-- A step that is taken before a parenthesis is taken the same before any other end. -/
theorem classStep?_carry
    (found : classStep? verbose frames items (cs ++ ')' :: more) =
      some (progress, rest ++ ')' :: more))
    (ends : Ends t) (follows : (∃ tree, progress = .done tree) ∨ rest ++ t ≠ []) :
    classStep? verbose frames items (cs ++ t) = some (progress, rest ++ t) := by
  by_cases opening : cs.head? = some '['
  · obtain ⟨cs, rfl⟩ := List.head?_eq_some_iff.1 opening
    simp only [List.cons_append, classStep?, readAsciiClass?_append ends,
      readAsciiClass?_append (.inr ⟨more, rfl⟩)] at found ⊢
    cases ascii : readAsciiClass? cs with
    | some known =>
      simp only [ascii, Option.map_some] at found ⊢
      exact (Local.pure _).carry found ends
    | none =>
      simp only [ascii, Option.map_none] at found ⊢
      obtain ⟨⟨opened, after⟩, taken, same⟩ := Option.bind_eq_some_iff.1 found
      cases same
      have follows := follows.resolve_left nofun
      exact Option.bind_eq_some_iff.2 ⟨_, openClass?_carry taken ends follows, rfl⟩
  by_cases closing : cs.head? = some ']'
  · obtain ⟨cs, rfl⟩ := List.head?_eq_some_iff.1 closing
    exact (Local.ofOption _).carry found ends
  · rw [classStep?_append (.inr ⟨more, rfl⟩) opening closing] at found
    rw [classStep?_append ends opening closing]
    cases isOp : readClassOp? cs with
    | some op =>
      simp only [isOp] at found ⊢
      exact (Local.pure _).carry found ends
    | none =>
      simp only [isOp] at found ⊢
      obtain ⟨⟨item, after⟩, taken, same⟩ := Option.bind_eq_some_iff.1 found
      cases same
      have follows := follows.resolve_left nofun
      exact Option.bind_eq_some_iff.2 ⟨_, readClassRange?_carry taken ends follows, rfl⟩

/-- Reading the rest of a class takes at least one character behind the blanks. -/
theorem readClass?_suffix_tail
    (found : readClass? verbose frames items fuel cs = some (tree, rest)) :
    rest <:+ (skipBlank verbose cs).tail := by
  induction fuel generalizing frames items cs with
  | zero => cases found
  | succ fuel ih =>
    rw [readClass?] at found
    split at found
    · next stepped =>
      cases found
      exact classStep?_suffix stepped
    · next stepped =>
      exact ((ih found).trans (List.tail_suffix _)).trans
        (skipBlank_suffix.trans (classStep?_suffix stepped))
    · cases found

/-- Reading the rest of a class leaves a rest of the text. -/
theorem readClass?_suffix (found : readClass? verbose frames items fuel cs = some (tree, rest)) :
    rest <:+ cs :=
  ((readClass?_suffix_tail found).trans (List.tail_suffix _)).trans skipBlank_suffix

/-- Something is read ahead of the parenthesis. -/
theorem readClass?_ne_nil
    (found : readClass? verbose frames items fuel (cs ++ ')' :: more) =
      some (tree, rest ++ ')' :: more)) : cs ≠ [] := by
  rintro rfl
  have later := readClass?_suffix_tail found
  rw [List.nil_append, Ends.skipBlank (.inr ⟨more, rfl⟩)] at later
  exact not_suffix_of_cons later

/-- The rest of a class that is read before a parenthesis is read the same before any other end. -/
theorem readClass?_carry
    (found : readClass? verbose frames items fuel (cs ++ ')' :: more) =
      some (tree, rest ++ ')' :: more))
    (ends : Ends t) (short : (cs ++ t).length < enough) :
    readClass? verbose frames items enough (cs ++ t) = some (tree, rest ++ t) := by
  induction fuel generalizing frames items cs enough with
  | zero => cases found
  | succ fuel ih =>
    obtain _ | enough := enough
    · cases short
    have later := (readClass?_suffix_tail found).trans (List.tail_suffix _)
    obtain ⟨middle, skipped⟩ := cut_of_suffix later
    have fewer := skipBlank_length_le verbose (cs ++ t)
    rw [readClass?, skipped] at found
    rw [skipBlank_carry skipped ends] at fewer
    rw [readClass?, skipBlank_carry skipped ends]
    split at found
    · next stepped =>
      cases found
      rw [classStep?_carry stepped ends (.inl ⟨_, rfl⟩)]
    · next stepped =>
      obtain ⟨after, rfl⟩ := cut_of_suffix (readClass?_suffix found)
      have some : after ++ t ≠ [] := by
        simp [readClass?_ne_nil found]
      have stepped := classStep?_carry stepped ends (.inr some)
      have fewer' := (classStep?_suffix stepped).length_le
      have positive := List.length_pos_iff.2 some
      rw [List.length_tail] at fewer'
      rw [stepped]
      exact ih found (by omega)
    · cases found

/-- A class is read locally. -/
theorem local_readBracketed? : Local (readBracketed? verbose) where
  suffix found := by
    obtain ⟨⟨opened, after⟩, taken, found⟩ := Option.bind_eq_some_iff.1 found
    exact (readClass?_suffix found).trans (openClass?_suffix taken)
  carry found ends := by
    obtain ⟨⟨opened, after⟩, taken, found⟩ := Option.bind_eq_some_iff.1 found
    obtain ⟨after, rfl⟩ := cut_of_suffix (readClass?_suffix found)
    refine Option.bind_eq_some_iff.2 ⟨_, openClass?_carry taken ends ?_,
      readClass?_carry found ends (Nat.lt_succ_self _)⟩
    simp [readClass?_ne_nil found]

end Whole

end DocumentSchema.Pattern

import DocumentSchema.Pattern.Reader
import Mathlib.Data.List.Basic

/-!
Reading up to a closing parenthesis.

The readers of a pattern take characters off the front of a text. A reader is `Local` when what it
takes does not depend on what follows: if it leaves a closing parenthesis, it takes the same where
that parenthesis is the end of the text or where other characters stand behind it. Readers that are
built from local ones are local.
-/

namespace DocumentSchema.Pattern

open Text (isDigit)
open Text.Unicode (isSpace)

/-- Nothing follows, or a closing parenthesis. -/
def Ends (t : List Char) : Prop :=
  t = [] ∨ ∃ more, t = ')' :: more

/-- A reader leaves an end of the text that it takes off the front, and takes the same ahead of
another text if a closing parenthesis follows in the one and a parenthesis or nothing in the
other. -/
structure Local {α : Type} (read : List Char → Option (α × List Char)) : Prop where
  suffix {cs rest : List Char} {x : α} (found : read cs = some (x, rest)) : rest <:+ cs
  carry {cs rest more t : List Char} {x : α}
    (found : read (cs ++ ')' :: more) = some (x, rest ++ ')' :: more)) (ends : Ends t) :
    read (cs ++ t) = some (x, rest ++ t)

variable {α β : Type} {read other : List Char → Option (α × List Char)}
  {cs rest s t more : List Char} {c : Char} {verbose : Bool}

/-- An end begins with nothing but a parenthesis. -/
theorem Ends.head?_ne (ends : Ends t) (other : c ≠ ')') : t.head? ≠ some c := by
  rcases ends with rfl | ⟨more, rfl⟩
  · exact nofun
  · exact fun same => other (Option.some.inj same).symm

/-- Characters other than a parenthesis are seen in the text itself. -/
theorem Ends.head?_append_iff (ends : Ends t) (other : c ≠ ')') :
    (cs ++ t).head? = some c ↔ cs.head? = some c := by
  cases cs with
  | nil => exact iff_of_false (ends.head?_ne other) nofun
  | cons d cs => exact Iff.rfl

/-- What is left holds what followed the text. -/
theorem cut_of_suffix (later : rest ++ s <:+ cs) : ∃ middle, cs = middle ++ s := by
  obtain ⟨before, rfl⟩ := later
  exact ⟨before ++ rest, (List.append_assoc ..).symm⟩

theorem not_suffix_of_cons (later : rest ++ c :: s <:+ s) : False := by
  have := later.length_le
  simp only [List.length_append, List.length_cons] at this
  omega

namespace Local

/-- Reading nothing is local. -/
theorem pure (x : α) : Local fun cs => some (x, cs) where
  suffix found := by cases found; exact List.suffix_refl _
  carry found ends := by
    obtain ⟨rfl, same⟩ := Prod.mk.inj (Option.some.inj found)
    rw [List.append_cancel_right same]

/-- Failing is local. -/
theorem fail : Local fun _ => (none : Option (α × List Char)) where
  suffix := nofun
  carry := nofun

theorem ofOption : ∀ found : Option α, Local fun cs => found.map fun x => (x, cs)
  | none => fail
  | some x => pure x

/-- A choice that does not depend on the text. -/
theorem choose {next : β → List Char → Option (α × List Char)} (inner : ∀ y, Local (next y)) :
    ∀ found : Option β, Local fun cs => found.bind fun y => next y cs
  | none => fail
  | some y => inner y

/-- One local reader behind another is local. -/
theorem bind {next : α → List Char → Option (β × List Char)} (first : Local read)
    (second : ∀ x, Local (next x)) : Local fun cs => (read cs).bind fun p => next p.1 p.2 where
  suffix found := by
    obtain ⟨⟨x, middle⟩, taken, found⟩ := Option.bind_eq_some_iff.1 found
    exact ((second x).suffix found).trans (first.suffix taken)
  carry found ends := by
    obtain ⟨⟨x, middle⟩, taken, found⟩ := Option.bind_eq_some_iff.1 found
    obtain ⟨middle, rfl⟩ := cut_of_suffix ((second x).suffix found)
    exact Option.bind_eq_some_iff.2 ⟨_, first.carry taken ends, (second x).carry found ends⟩

theorem of_eq (inner : Local other) (same : ∀ cs, read cs = other cs) : Local read := by
  rwa [funext same]

/-- What is made of what is read does not matter. -/
theorem map (inner : Local read) (f : α → β) :
    Local fun cs => (read cs).map fun p => (f p.1, p.2) :=
  (inner.bind fun x => pure (f x)).of_eq fun _ => Option.map_eq_bind

/-- A reader that takes the first character, whatever it is. -/
theorem ofCons (empty : read [] = none) (cons : ∀ c, Local fun rest => read (c :: rest)) :
    Local read where
  suffix {cs rest x} found := by
    cases cs with
    | nil => rw [empty] at found; cases found
    | cons c cs => exact ((cons c).suffix found).trans (List.suffix_cons c cs)
  carry {cs rest more t x} found ends := by
    cases cs with
    | nil => exact (not_suffix_of_cons ((cons ')').suffix found)).elim
    | cons c cs => exact (cons c).carry found ends

/-- A reader that looks whether a mark comes first. -/
theorem look {marked unmarked : List Char → Option (α × List Char)} (mark : Char)
    (opens : mark ≠ ')') (first : Local marked) (second : Local unmarked)
    (same_marked : ∀ cs, cs.head? = some mark → read cs = marked cs)
    (same_unmarked : ∀ cs, cs.head? ≠ some mark → read cs = unmarked cs) : Local read where
  suffix {cs rest x} found := by
    by_cases leads : cs.head? = some mark
    · exact first.suffix (same_marked cs leads ▸ found)
    · exact second.suffix (same_unmarked cs leads ▸ found)
  carry {cs rest more t x} found ends := by
    by_cases leads : cs.head? = some mark
    · rw [same_marked _ ((Ends.head?_append_iff (.inr ⟨more, rfl⟩) opens).2 leads)] at found
      rw [same_marked _ ((ends.head?_append_iff opens).2 leads)]
      exact first.carry found ends
    · rw [same_unmarked _ ((Ends.head?_append_iff (.inr ⟨more, rfl⟩) opens).not.2 leads)] at found
      rw [same_unmarked _ ((ends.head?_append_iff opens).not.2 leads)]
      exact second.carry found ends

/-- A reader that takes a mark if it comes first. -/
theorem peek (mark : Char) (opens : mark ≠ ')') (marked : Local fun rest => read (mark :: rest))
    (unmarked : Local other) (same : ∀ cs, cs.head? ≠ some mark → read cs = other cs) :
    Local read := by
  have taken : Local fun cs => cs.head?.bind fun _ => read (mark :: cs.tail) :=
    ofCons rfl fun _ => marked
  refine look mark opens taken unmarked (fun cs leads => ?_) same
  obtain ⟨rest, rfl⟩ := List.head?_eq_some_iff.1 leads
  rfl

end Local

/-! ## Blanks and comments -/

/-- Dropping comments leaves a rest of the text. -/
theorem dropComments_suffix {inComment : Bool} : dropComments inComment cs <:+ cs := by
  induction cs generalizing inComment with
  | nil => exact List.suffix_refl _
  | cons c cs ih =>
    rw [dropComments]
    split_ifs
    · exact ih.trans (List.suffix_cons c cs)
    · exact ih.trans (List.suffix_cons c cs)
    · exact ih.trans (List.suffix_cons c cs)
    · exact List.suffix_refl _

/-- At an end no comment is dropped. -/
theorem Ends.dropComments (ends : Ends t) : dropComments false t = t := by
  rcases ends with rfl | ⟨more, rfl⟩
  · rfl
  · rw [Pattern.dropComments, if_neg nofun, if_neg (by decide), if_neg (by decide)]

/-- Comments that end before a parenthesis are the same before any other end. -/
theorem dropComments_carry {inComment : Bool}
    (found : dropComments inComment (cs ++ ')' :: more) = rest ++ ')' :: more) (ends : Ends t) :
    dropComments inComment (cs ++ t) = rest ++ t := by
  induction cs generalizing inComment with
  | nil =>
    cases inComment with
    | false =>
      rw [List.nil_append, Ends.dropComments (.inr ⟨more, rfl⟩)] at found
      obtain rfl : [] = rest := List.append_cancel_right found
      exact ends.dropComments
    | true =>
      rw [List.nil_append, dropComments, if_pos rfl] at found
      exact (not_suffix_of_cons (found ▸ dropComments_suffix)).elim
  | cons c cs ih =>
    rw [List.cons_append, dropComments] at found ⊢
    split_ifs at found ⊢
    · exact ih found
    · exact ih found
    · exact ih found
    · obtain rfl : c :: cs = rest := List.append_cancel_right found
      rfl

/-- Skipping blanks leaves a rest of the text. -/
theorem skipBlank_suffix : skipBlank verbose cs <:+ cs := by
  cases verbose
  · exact List.suffix_refl _
  · exact dropComments_suffix

/-- At an end nothing is skipped. -/
theorem Ends.skipBlank (ends : Ends t) : skipBlank verbose t = t := by
  cases verbose
  · rfl
  · exact ends.dropComments

theorem skipBlank_length_le (verbose : Bool) (cs : List Char) :
    (skipBlank verbose cs).length ≤ cs.length :=
  skipBlank_suffix.length_le

/-- What is skipped before a parenthesis is the same before any other end. -/
theorem skipBlank_carry (found : skipBlank verbose (cs ++ ')' :: more) = rest ++ ')' :: more)
    (ends : Ends t) : skipBlank verbose (cs ++ t) = rest ++ t := by
  cases verbose with
  | false => exact congrArg (· ++ t) (List.append_cancel_right found)
  | true => exact dropComments_carry found ends

theorem Ends.dropSpace (ends : Ends t) : t.dropWhile isSpace = t := by
  rcases ends with rfl | ⟨more, rfl⟩
  · rfl
  · exact List.dropWhile_cons_of_neg (by decide)

/-- Blanks that end before a parenthesis are the same before any other end. -/
theorem dropSpace_carry (found : (cs ++ ')' :: more).dropWhile isSpace = rest ++ ')' :: more)
    (ends : Ends t) : (cs ++ t).dropWhile isSpace = rest ++ t := by
  induction cs with
  | nil =>
    rw [List.nil_append, Ends.dropSpace (.inr ⟨more, rfl⟩)] at found
    obtain rfl : [] = rest := List.append_cancel_right found
    exact ends.dropSpace
  | cons c cs ih =>
    rw [List.cons_append, List.dropWhile_cons] at found ⊢
    split_ifs at found ⊢
    · exact ih found
    · obtain rfl : c :: cs = rest := List.append_cancel_right found
      rfl

/-- Unless a comment swallows it, the parenthesis is still there behind blanks. -/
theorem skipBlank_cut (within : more.length < (skipBlank verbose (cs ++ ')' :: more)).length) :
    ∃ middle, skipBlank verbose (cs ++ ')' :: more) = middle ++ ')' :: more := by
  obtain ⟨before, cut⟩ := List.suffix_of_suffix_length_le (List.suffix_append cs (')' :: more))
    skipBlank_suffix within
  exact ⟨before, cut.symm⟩

/-- Dropping blanks is a reader that takes nothing. -/
theorem local_drop {drop : List Char → List Char} (suffix : ∀ cs, drop cs <:+ cs)
    (carry : ∀ {cs rest more t}, drop (cs ++ ')' :: more) = rest ++ ')' :: more → Ends t →
      drop (cs ++ t) = rest ++ t) : Local fun cs => some ((), drop cs) where
  suffix found := by
    cases found
    exact suffix _
  carry found ends :=
    congrArg (fun rest => some ((), rest)) (carry (Prod.mk.inj (Option.some.inj found)).2 ends)

/-- Skipping blanks is local. -/
theorem local_skipBlank (verbose : Bool) : Local fun cs => some ((), skipBlank verbose cs) :=
  local_drop (fun _ => skipBlank_suffix) skipBlank_carry

/-- Dropping spaces is local. -/
theorem local_dropSpace : Local fun cs => some ((), cs.dropWhile isSpace) :=
  local_drop (fun _ => List.dropWhile_suffix _) dropSpace_carry

/-- A reader behind blanks. -/
theorem Local.skip (inner : Local read) : Local fun cs => read (skipBlank verbose cs) :=
  (local_skipBlank verbose).bind fun _ => inner

/-! ## Loops -/

/-- A reader that goes from character to character, past blanks, until one of them makes it end. The
fuel bounds the number of characters. -/
structure Loop {σ : Type} (verbose : Bool)
    (loop : σ → Nat → List Char → Option (α × List Char)) : Prop where
  dry {state : σ} {cs : List Char} : loop state 0 cs = none
  empty {state : σ} {fuel : Nat} : loop state fuel [] = none
  cons (state : σ) (c : Char) :
    (∃ next, ∀ fuel rest,
      loop state (fuel + 1) (c :: rest) = loop next fuel (skipBlank verbose rest)) ∨
    ∃ last, Local last ∧ ∀ fuel rest, loop state (fuel + 1) (c :: rest) = last rest

namespace Loop

variable {σ : Type} {loop : σ → Nat → List Char → Option (α × List Char)} {state : σ} {x : α}
  {fuel enough : Nat}

/-- A loop leaves a rest of the text. -/
theorem suffix (goes : Loop verbose loop) (found : loop state fuel cs = some (x, rest)) :
    rest <:+ cs := by
  induction fuel generalizing state cs with
  | zero => rw [goes.dry] at found; cases found
  | succ fuel ih =>
    cases cs with
    | nil => rw [goes.empty] at found; cases found
    | cons c cs =>
      refine List.IsSuffix.trans ?_ (List.suffix_cons c cs)
      rcases goes.cons state c with ⟨next, eq⟩ | ⟨last, isLocal, eq⟩
      · rw [eq] at found
        exact (ih found).trans skipBlank_suffix
      · rw [eq] at found
        exact isLocal.suffix found

/-- What a loop reads before a parenthesis, it reads before any other end, given enough fuel. -/
theorem carry (goes : Loop verbose loop)
    (found : loop state fuel (cs ++ ')' :: more) = some (x, rest ++ ')' :: more))
    (ends : Ends t) (short : (cs ++ t).length < enough) :
    loop state enough (cs ++ t) = some (x, rest ++ t) := by
  induction fuel generalizing state cs enough with
  | zero => rw [goes.dry] at found; cases found
  | succ fuel ih =>
    obtain _ | enough := enough
    · cases short
    cases cs with
    | nil =>
      -- the parenthesis itself is not taken
      refine (not_suffix_of_cons (?_ : rest ++ ')' :: more <:+ more)).elim
      rw [List.nil_append] at found
      rcases goes.cons state ')' with ⟨next, eq⟩ | ⟨last, isLocal, eq⟩
      · rw [eq] at found
        exact (goes.suffix found).trans skipBlank_suffix
      · rw [eq] at found
        exact isLocal.suffix found
    | cons c cs =>
      rw [List.cons_append] at found ⊢
      rcases goes.cons state c with ⟨next, eq⟩ | ⟨last, isLocal, eq⟩
      · rw [eq] at found ⊢
        obtain ⟨middle, skipped⟩ := cut_of_suffix (goes.suffix found)
        have fewer := skipBlank_length_le verbose (cs ++ t)
        rw [skipped] at found
        rw [skipBlank_carry skipped ends] at fewer ⊢
        simp only [List.cons_append, List.length_cons] at short
        exact ih found (by omega)
      · rw [eq] at found ⊢
        exact isLocal.carry found ends

/-- A loop with fuel for all characters, behind blanks. -/
theorem toLocal (goes : Loop verbose loop) (state : σ) :
    Local fun cs => loop state (cs.length + 1) (skipBlank verbose cs) where
  suffix found := (goes.suffix found).trans skipBlank_suffix
  carry {cs rest more t x} found ends := by
    obtain ⟨middle, skipped⟩ := cut_of_suffix (goes.suffix found)
    have fewer := skipBlank_length_le verbose (cs ++ t)
    rw [skipped] at found
    rw [skipBlank_carry skipped ends] at fewer ⊢
    exact goes.carry found ends (by omega)

end Loop

/-! ## Numbers, names and properties -/

/-- A number of hexadecimal digits is read locally. -/
theorem local_readHexDigits? (verbose : Bool) (value count : Nat) :
    Local (readHexDigits? verbose value count) := by
  induction count generalizing value with
  | zero => exact .pure value
  | succ count ih =>
    refine .ofCons rfl fun c => ?_
    cases digit : hexDigit? c with
    | none => exact Local.fail.of_eq fun rest => by rw [readHexDigits?, digit]; rfl
    | some digit' => exact (ih _).skip.of_eq fun rest => by rw [readHexDigits?, digit]; rfl

theorem loop_readHexBraces? : Loop verbose (readHexBraces? verbose) where
  dry := rfl
  empty {_ fuel} := by cases fuel <;> rfl
  cons found c := by
    by_cases closing : c = '\x7d'
    · exact .inr ⟨_, (Local.ofOption found).skip, fun fuel rest => by
        rw [readHexBraces?, if_pos closing]⟩
    · cases digit : hexDigit? c with
      | none =>
        exact .inr ⟨_, .fail, fun fuel rest => by rw [readHexBraces?, if_neg closing, digit]; rfl⟩
      | some digit' =>
        exact .inl ⟨_, fun fuel rest => by rw [readHexBraces?, if_neg closing, digit]; rfl⟩

theorem loop_readBraces? : Loop verbose (readBraces? verbose) where
  dry := rfl
  empty {_ fuel} := by cases fuel <;> rfl
  cons reversed c := by
    by_cases closing : c = '\x7d'
    · exact .inr ⟨_, .pure reversed.reverse, fun fuel rest => by rw [readBraces?, if_pos closing]⟩
    · exact .inl ⟨_, fun fuel rest => by rw [readBraces?, if_neg closing]⟩

/-- What is behind the first mark is a rest of the text. -/
theorem splitFirst_suffix {mark : Char} {name : List Char}
    (found : splitFirst mark cs = some (name, rest)) : rest <:+ cs := by
  induction cs generalizing name with
  | nil => cases found
  | cons c cs ih =>
    refine List.IsSuffix.trans ?_ (List.suffix_cons c cs)
    rw [splitFirst] at found
    split at found
    · cases found
      exact List.suffix_refl _
    · obtain ⟨⟨name, rest⟩, found, same⟩ := Option.map_eq_some_iff.1 found
      cases same
      exact ih found

/-- A text up to a mark is read locally. -/
theorem local_splitFirst {mark : Char} : Local (splitFirst mark) where
  suffix := splitFirst_suffix
  carry {cs rest more t x} found ends := by
    induction cs generalizing x with
    | nil =>
      refine (not_suffix_of_cons (?_ : rest ++ ')' :: more <:+ more)).elim
      rw [List.nil_append, splitFirst] at found
      split at found
      · exact (Local.pure []).suffix found
      · obtain ⟨⟨name, rest⟩, found, same⟩ := Option.map_eq_some_iff.1 found
        cases same
        exact splitFirst_suffix found
    | cons c cs ih =>
      rw [List.cons_append, splitFirst] at found ⊢
      split at found
      · next marked =>
        rw [if_pos marked]
        exact (Local.pure []).carry found ends
      · next other =>
        obtain ⟨⟨name, rest⟩, found, same⟩ := Option.map_eq_some_iff.1 found
        cases same
        rw [if_neg other, ih found]
        rfl

theorem loop_readBoundaryName? : Loop verbose (readBoundaryName? verbose) where
  dry := rfl
  empty {_ fuel} := by cases fuel <;> rfl
  cons reversed c := by
    by_cases named : isBoundaryChar c
    · exact .inl ⟨_, fun fuel rest => by rw [readBoundaryName?, if_pos named]⟩
    · by_cases closing : c = '\x7d'
      · exact .inr ⟨_, .ofOption (namedBoundary? reversed.reverse), fun fuel rest => by
          rw [readBoundaryName?, if_neg named, if_pos closing]⟩
      · exact .inr ⟨_, .fail, fun fuel rest => by
          rw [readBoundaryName?, if_neg named, if_neg closing]⟩

/-- The character of a code point that was read. -/
theorem Local.character {read : List Char → Option (Nat × List Char)} (inner : Local read)
    (byte : Bool) : Local fun cs =>
      (read cs).bind fun p => (charOfCode? p.1).bind fun c => some (Atom.literal c byte, p.2) :=
  inner.bind fun n => choose (fun c => pure (Atom.literal c byte)) (charOfCode? n)

/-- A code point in base sixteen is read locally. -/
theorem local_readHex? {digits : Nat} : Local (readHex? verbose digits) := by
  refine .peek '\x7b' (by decide) ?_
    ((local_readHexDigits? verbose 0 digits).character (digits == 2)) ?_
  · exact (loop_readHexBraces?.toLocal none).character false
  · intro cs other
    unfold readHex?
    split
    · exact absurd rfl other
    · rfl

/-- A property of characters is read locally. -/
theorem local_readProperty? {negated : Bool} : Local (readProperty? verbose negated) := by
  refine .ofCons rfl fun c => ?_
  by_cases escape : c = '\\'
  · subst escape
    exact .fail
  by_cases brace : c = '\x7b'
  · subst brace
    exact (loop_readBraces?.toLocal []).bind fun name => .pure (propertyAtom negated name)
  · have short : Local fun rest => (some ((), skipBlank verbose rest)).map fun p =>
        (Atom.property (.single (String.singleton c)) negated, p.2) :=
      (local_skipBlank verbose).map fun _ => Atom.property (.single (String.singleton c)) negated
    refine short.of_eq fun rest => ?_
    unfold readProperty?
    split <;> simp_all

section Boundary

variable {inner inside : List Char} {atom : Atom}

/-- Without a brace, the boundary is that of a word. -/
theorem readBoundary?_of_head (other : cs.head? ≠ some '\x7b') :
    readBoundary? verbose cs = some (.assertion .wordBoundary, cs) := by
  unfold readBoundary?
  split
  · exact absurd rfl other
  · rfl

/-- A brace with a letter behind it opens the name of a boundary. -/
theorem readBoundary?_of_name (skipped : skipBlank verbose inside = c :: inner)
    (named : isBoundaryChar c = true) :
    readBoundary? verbose ('\x7b' :: inside) =
      (readBoundaryName? verbose [] ((c :: inner).length + 1) (c :: inner)).map fun p =>
        (.assertion p.1, p.2) := by
  simp only [readBoundary?, skipped, named, if_true, List.length_cons]

/-- A brace without a letter behind it belongs to what follows. -/
theorem readBoundary?_of_noName
    (unnamed : ∀ c inner, skipBlank verbose inside = c :: inner → isBoundaryChar c = false) :
    readBoundary? verbose ('\x7b' :: inside) =
      some (.assertion .wordBoundary, '\x7b' :: inside) := by
  cases skipped : skipBlank verbose inside with
  | nil => simp only [readBoundary?, skipped]
  | cons c inner =>
    simp only [readBoundary?, skipped, unnamed c inner skipped, Bool.false_eq_true, if_false]

/-- Reading a boundary leaves a rest of the text. -/
theorem readBoundary?_suffix (found : readBoundary? verbose cs = some (atom, rest)) :
    rest <:+ cs := by
  by_cases brace : cs.head? = some '\x7b'
  · obtain ⟨inside, rfl⟩ := List.head?_eq_some_iff.1 brace
    by_cases name : ∃ c inner, skipBlank verbose inside = c :: inner ∧ isBoundaryChar c = true
    · obtain ⟨c, inner, skipped, named⟩ := name
      rw [readBoundary?_of_name skipped named] at found
      obtain ⟨⟨kind, after⟩, taken, same⟩ := Option.map_eq_some_iff.1 found
      cases same
      have behind := loop_readBoundaryName?.suffix taken
      rw [← skipped] at behind
      exact (behind.trans skipBlank_suffix).trans (List.suffix_cons _ _)
    · rw [readBoundary?_of_noName (by simpa using name)] at found
      cases found
      exact List.suffix_refl _
  · rw [readBoundary?_of_head brace] at found
    cases found
    exact List.suffix_refl _

/-- The first character past blanks decides whether braces hold a name. So what is taken is local
unless a comment in the braces runs past the parenthesis. -/
theorem readBoundary?_carry
    (found : readBoundary? verbose (cs ++ ')' :: more) = some (atom, rest ++ ')' :: more))
    (ends : Ends t)
    (within : atom = .assertion .wordBoundary → ∀ inside, rest = '\x7b' :: inside →
      more.length < (skipBlank verbose (inside ++ ')' :: more)).length) :
    readBoundary? verbose (cs ++ t) = some (atom, rest ++ t) := by
  by_cases brace : cs.head? = some '\x7b'
  · obtain ⟨inside, rfl⟩ := List.head?_eq_some_iff.1 brace
    rw [List.cons_append] at found ⊢
    by_cases name :
        ∃ c inner, skipBlank verbose (inside ++ ')' :: more) = c :: inner ∧ isBoundaryChar c = true
    · obtain ⟨c, inner, skipped, named⟩ := name
      rw [readBoundary?_of_name skipped named] at found
      obtain ⟨⟨kind, after⟩, taken, same⟩ := Option.map_eq_some_iff.1 found
      cases same
      obtain ⟨_ | ⟨c', middle⟩, cut⟩ := cut_of_suffix (loop_readBoundaryName?.suffix taken)
      · rw [(List.cons.inj cut).1] at named
        cases named
      · rw [cut] at skipped taken
        rw [(List.cons.inj cut).1] at named
        rw [readBoundary?_of_name (skipBlank_carry skipped ends) named]
        exact Option.map_eq_some_iff.2
          ⟨_, loop_readBoundaryName?.carry taken ends (Nat.lt_succ_self _), rfl⟩
    · rw [readBoundary?_of_noName (by simpa using name)] at found
      obtain ⟨rfl, same⟩ := Prod.mk.inj (Option.some.inj found)
      obtain rfl : '\x7b' :: inside = rest := List.append_cancel_right same
      obtain ⟨middle, cut⟩ := skipBlank_cut (within rfl inside rfl)
      refine readBoundary?_of_noName fun c inner skipped => ?_
      rw [skipBlank_carry cut ends] at skipped
      cases middle with
      | nil =>
        rcases ends with rfl | ⟨others, rfl⟩
        · cases skipped
        · cases skipped
          rfl
      | cons c' middle =>
        rw [← (List.cons.inj skipped).1]
        simpa using (not_exists.1 (not_exists.1 name c') _ ⟨cut, ·⟩)
  · have stays {t : List Char} (ends : Ends t) : readBoundary? verbose (cs ++ t) =
        some (.assertion .wordBoundary, cs ++ t) :=
      readBoundary?_of_head ((ends.head?_append_iff (by decide)).not.2 brace)
    rw [stays (.inr ⟨more, rfl⟩)] at found
    obtain ⟨rfl, same⟩ := Prod.mk.inj (Option.some.inj found)
    obtain rfl := List.append_cancel_right same
    exact stays ends

/-- Of the backslash sequences, only a word boundary looks beyond the characters that it takes. -/
theorem readEscape?_local (other : c ≠ 'b') :
    Local fun rest => readEscape? verbose (c :: rest) := by
  by_cases hex2 : c = 'x'
  · subst hex2
    exact local_readHex?.skip
  by_cases hex4 : c = 'u'
  · subst hex4
    exact local_readHex?.skip
  by_cases hex8 : c = 'U'
  · subst hex8
    exact local_readHex?.skip
  by_cases property : c = 'p'
  · subst property
    exact local_readProperty?.skip
  by_cases notProperty : c = 'P'
  · subst notProperty
    exact local_readProperty?.skip
  · refine (Local.ofOption (escaped? c)).of_eq fun rest => ?_
    unfold readEscape?
    split <;> simp_all

/-- Reading an escape leaves a rest of the text. -/
theorem readEscape?_suffix (found : readEscape? verbose cs = some (atom, rest)) : rest <:+ cs := by
  cases cs with
  | nil => cases found
  | cons c cs =>
    refine List.IsSuffix.trans ?_ (List.suffix_cons c cs)
    by_cases boundary : c = 'b'
    · subst boundary
      exact readBoundary?_suffix found
    · exact (readEscape?_local boundary).suffix found

/-- An escape that is read before a parenthesis is read the same before any other end, unless it is
a boundary whose brace is not closed. -/
theorem readEscape?_carry
    (found : readEscape? verbose (cs ++ ')' :: more) = some (atom, rest ++ ')' :: more))
    (ends : Ends t)
    (within : atom = .assertion .wordBoundary → ∀ inside, rest = '\x7b' :: inside →
      more.length < (skipBlank verbose (inside ++ ')' :: more)).length) :
    readEscape? verbose (cs ++ t) = some (atom, rest ++ t) := by
  cases cs with
  | nil => exact (not_suffix_of_cons ((readEscape?_local (by decide)).suffix found)).elim
  | cons c cs =>
    by_cases boundary : c = 'b'
    · subst boundary
      exact readBoundary?_carry found ends within
    · exact (readEscape?_local boundary).carry found ends

end Boundary

end DocumentSchema.Pattern

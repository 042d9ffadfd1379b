import DocumentSchema.Proofs.Pattern.Locality

/-!
Openings of groups and bounds of repetitions.

What follows an opening parenthesis and what repeats a part are read locally.
-/

namespace DocumentSchema.Pattern

open Text (isDigit)
open Text.Unicode (isSpace)

variable {cs rest t more reversed found : List Char} {verbose : Bool} {fuel enough : Nat}

/-! ## Repetitions -/

theorem digits_suffix : (readCount?.digits verbose reversed cs fuel).2 <:+ cs := by
  induction fuel generalizing reversed cs with
  | zero => exact List.suffix_refl _
  | succ fuel ih =>
    cases cs with
    | nil => exact List.suffix_refl _
    | cons c cs =>
      rw [readCount?.digits]
      split_ifs
      · exact (ih.trans skipBlank_suffix).trans (List.suffix_cons c cs)
      · exact List.suffix_refl _

theorem digits_of_ends (ends : Ends t) :
    readCount?.digits verbose reversed t fuel = (reversed, t) := by
  cases fuel with
  | zero => rw [readCount?.digits]
  | succ fuel =>
    rcases ends with rfl | ⟨more, rfl⟩
    · rfl
    · exact if_neg (by decide)

theorem digits_carry
    (read : readCount?.digits verbose reversed (cs ++ ')' :: more) fuel =
      (found, rest ++ ')' :: more))
    (ends : Ends t) (long : (cs ++ ')' :: more).length ≤ fuel) (long' : (cs ++ t).length ≤ enough) :
    readCount?.digits verbose reversed (cs ++ t) enough = (found, rest ++ t) := by
  induction fuel generalizing reversed cs enough with
  | zero => simp at long
  | succ fuel ih =>
    cases cs with
    | nil =>
      rw [List.nil_append, digits_of_ends (.inr ⟨more, rfl⟩)] at read
      obtain ⟨rfl, same⟩ := Prod.mk.inj read
      obtain rfl : [] = rest := List.append_cancel_right same
      exact digits_of_ends ends
    | cons c cs =>
      obtain _ | enough := enough
      · simp at long'
      rw [List.cons_append, readCount?.digits] at read ⊢
      split_ifs at read ⊢
      · obtain ⟨middle, skipped⟩ := cut_of_suffix (congrArg Prod.snd read ▸ digits_suffix)
        have fewer := skipBlank_length_le verbose (cs ++ ')' :: more)
        have fewer' := skipBlank_length_le verbose (cs ++ t)
        rw [skipped] at read fewer
        rw [skipBlank_carry skipped ends] at fewer' ⊢
        simp only [List.cons_append, List.length_cons] at long long'
        exact ih read (by omega) (by omega)
      · obtain ⟨rfl, same⟩ := Prod.mk.inj read
        obtain rfl : c :: cs = rest := List.append_cancel_right same
        rfl

/-- The digits of a number behind blanks. -/
theorem local_digits (verbose : Bool) : Local fun cs =>
    some (readCount?.digits verbose [] (cs.dropWhile isSpace) cs.length) where
  suffix {cs rest x} found := by
    have behind : (x, rest).2 <:+ cs.dropWhile isSpace := Option.some.inj found ▸ digits_suffix
    exact behind.trans (List.dropWhile_suffix _)
  carry {cs rest more t x} found ends := by
    have found := Option.some.inj found
    have behind : (x, rest ++ ')' :: more).2 <:+ _ := found ▸ digits_suffix
    obtain ⟨middle, dropped⟩ := cut_of_suffix behind
    have fewer := (List.dropWhile_suffix isSpace (l := cs ++ ')' :: more)).length_le
    have fewer' := (List.dropWhile_suffix isSpace (l := cs ++ t)).length_le
    rw [dropped] at found fewer
    rw [dropSpace_carry dropped ends] at fewer' ⊢
    exact congrArg some (digits_carry found ends fewer fewer')

theorem local_readCount? (verbose : Bool) : Local (readCount? verbose) := by
  have value (reversed : List Char) : Local fun cs =>
      if (reversed.isEmpty || decide (2 ^ 32 ≤ Text.decimalValue reversed.reverse)) = true then none
      else some (Text.decimalValue reversed.reverse, cs.dropWhile isSpace) := by
    by_cases none :
        (reversed.isEmpty || decide (2 ^ 32 ≤ Text.decimalValue reversed.reverse)) = true
    · exact Local.fail.of_eq fun cs => if_pos none
    · exact (local_dropSpace.map fun _ => Text.decimalValue reversed.reverse).of_eq fun cs =>
        if_neg none
  exact ((local_digits verbose).bind value).of_eq fun cs => rfl

theorem local_readLazy (least : Nat) (most : Option Nat) :
    Local fun cs => some (readLazy least most cs) := by
  refine .peek '?' (by decide) (.pure (Bounds.mk least most true))
    (.pure (Bounds.mk least most false)) ?_
  intro cs other
  unfold readLazy
  split
  · exact absurd rfl other
  · rfl

theorem local_readMost? (verbose : Bool) : Local (readMost? verbose) := by
  refine .look '\x7d' (by decide) (.pure none) ((local_readCount? verbose).map some) ?_ ?_
  · intro cs closing
    obtain ⟨rest, rfl⟩ := List.head?_eq_some_iff.1 closing
    rfl
  · intro cs other
    unfold readMost?
    split
    · exact absurd rfl other
    · rfl

theorem local_readUpper? (verbose : Bool) (least : Nat) : Local (readUpper? verbose least) := by
  refine .peek ',' (by decide) (local_readMost? verbose).skip (.pure (some least)) ?_
  intro cs other
  unfold readUpper?
  split
  · exact absurd rfl other
  · rfl

theorem local_closeBounds? (verbose : Bool) (least : Nat) (most : Option Nat) :
    Local (closeBounds? verbose least most) := by
  refine .peek '\x7d' (by decide) ?_ .fail ?_
  · by_cases ordered : most.all (least ≤ ·) = true
    · exact (local_readLazy least most).skip.of_eq fun rest => if_pos ordered
    · exact Local.fail.of_eq fun rest => if_neg ordered
  · intro cs other
    unfold closeBounds?
    split
    · exact absurd rfl other
    · rfl

theorem local_readBounds? (verbose : Bool) : Local (readBounds? verbose) :=
  (local_readCount? verbose).skip.bind fun least =>
    (local_readUpper? verbose least).bind fun most => local_closeBounds? verbose least most

theorem readBounds?_suffix {bounds : Bounds}
    (found : readBounds? verbose cs = some (bounds, rest)) : rest <:+ skipBlank verbose cs := by
  obtain ⟨⟨least, behind⟩, count, found⟩ := Option.bind_eq_some_iff.1 found
  obtain ⟨⟨most, after⟩, upper, found⟩ := Option.bind_eq_some_iff.1 found
  exact ((local_closeBounds? verbose least most).suffix found).trans <|
    ((local_readUpper? verbose least).suffix upper).trans ((local_readCount? verbose).suffix count)

theorem local_readRepetition? (verbose : Bool) (sign : Char) :
    Local (readRepetition? verbose sign) := by
  by_cases question : sign = '?'
  · subst question
    exact local_readLazy 0 (some 1)
  by_cases star : sign = '*'
  · subst star
    exact local_readLazy 0 none
  by_cases plus : sign = '+'
  · subst plus
    exact local_readLazy 1 none
  · refine (local_readBounds? verbose).of_eq fun cs => ?_
    unfold readRepetition?
    split <;> simp_all

/-! ## Openings -/

/-- Flags go on to the next character, or end with one that is the colon or the parenthesis. -/
theorem readFlags?_cons {settings : List (Flag × Bool)} {on dangling : Bool} {c : Char} :
    (∃ settings' on' dangling', ∀ rest, readFlags? settings on dangling (c :: rest) =
      readFlags? settings' on' dangling' rest) ∨
    ∃ found : Option (List (Flag × Bool) × Char), ∀ rest,
      readFlags? settings on dangling (c :: rest) =
        found.map fun settings => (settings, rest) := by
  by_cases last : c = ':' ∨ c = ')'
  · refine .inr ⟨if dangling then none else some (settings, c), fun rest => ?_⟩
    rw [readFlags?, if_pos last]
    cases dangling <;> rfl
  by_cases hyphen : c = '-'
  · cases on with
    | true => exact .inl ⟨settings, false, true, fun rest => by
        rw [readFlags?, if_neg last, if_pos hyphen, if_pos rfl]⟩
    | false => exact .inr ⟨none, fun rest => by
        rw [readFlags?, if_neg last, if_pos hyphen]; rfl⟩
  cases known : flag? c with
  | none => exact .inr ⟨none, fun rest => by
      rw [readFlags?, if_neg last, if_neg hyphen, known]; rfl⟩
  | some flag =>
    cases again : settings.any fun setting => setting.1 == flag with
    | true => exact .inr ⟨none, fun rest => by
        rw [readFlags?, if_neg last, if_neg hyphen, known]
        exact if_pos again⟩
    | false => exact .inl ⟨settings ++ [(flag, on)], on, false, fun rest => by
        rw [readFlags?, if_neg last, if_neg hyphen, known]
        exact if_neg (by simp [again])⟩

theorem readFlags?_suffix {settings : List (Flag × Bool)} {on dangling : Bool}
    {flags : List (Flag × Bool) × Char}
    (found : readFlags? settings on dangling cs = some (flags, rest)) : rest <:+ cs := by
  induction cs generalizing settings on dangling with
  | nil => cases found
  | cons c cs ih =>
    refine List.IsSuffix.trans ?_ (List.suffix_cons c cs)
    obtain ⟨settings', on', dangling', eq⟩ | ⟨last, eq⟩ := readFlags?_cons
    · exact ih (eq cs ▸ found)
    · exact (Local.ofOption last).suffix (eq cs ▸ found)

theorem local_readFlags? {settings : List (Flag × Bool)} {on dangling : Bool} :
    Local (readFlags? settings on dangling) where
  suffix := readFlags?_suffix
  carry {cs rest more t x} found ends := by
    induction cs generalizing settings on dangling with
    | nil =>
      refine (not_suffix_of_cons (?_ : rest ++ ')' :: more <:+ more)).elim
      obtain ⟨settings', on', dangling', eq⟩ | ⟨last, eq⟩ := readFlags?_cons
      · exact readFlags?_suffix (eq more ▸ found)
      · exact (Local.ofOption last).suffix (eq more ▸ found)
    | cons c cs ih =>
      rw [List.cons_append] at found ⊢
      obtain ⟨settings', on', dangling', eq⟩ | ⟨last, eq⟩ := readFlags?_cons
      · rw [eq] at found ⊢
        exact ih found
      · rw [eq] at found ⊢
        exact (Local.ofOption last).carry found ends

theorem local_readGroupName? : Local readGroupName? :=
  local_splitFirst.bind fun name => .choose (fun name => .pure name) (groupName? name)

theorem local_readExtension? : Local readExtension? := by
  have named : Local fun rest =>
      (readGroupName? rest).map fun p => (Opening.capture (some p.1), p.2) :=
    local_readGroupName?.map fun name => Opening.capture (some name)
  have flags : Local fun cs => (readFlags? [] true false cs).bind fun p =>
      (flagOpening? p.1.1 p.1.2).bind fun opening => some (opening, p.2) :=
    local_readFlags?.bind fun p => .choose (fun opening => .pure opening) (flagOpening? p.1 p.2)
  have letter : Local fun rest => readExtension? ('P' :: rest) := by
    refine .peek '<' (by decide) named .fail fun rest other => ?_
    unfold readExtension?
    split
    · next same => exact absurd (congrArg List.head? (List.cons.inj same).2) other
    · cases ‹_›
    · rfl
  have others : Local fun cs => if cs.head? = some '<' then
      (readGroupName? cs.tail).map fun p => (Opening.capture (some p.1), p.2)
      else (readFlags? [] true false cs).bind fun p =>
        (flagOpening? p.1.1 p.1.2).bind fun opening => some (opening, p.2) :=
    .peek '<' (by decide) named flags fun cs other => if_neg other
  refine .peek 'P' (by decide) letter others fun cs other => ?_
  unfold readExtension?
  split
  · exact absurd rfl other
  · rfl
  · next unnamed =>
    refine (if_neg fun leads => ?_).symm
    obtain ⟨rest, same⟩ := List.head?_eq_some_iff.1 leads
    exact unnamed rest same

theorem local_readOpening? : Local readOpening? := by
  refine .peek '?' (by decide) local_readExtension? (.pure (Opening.capture none)) ?_
  intro cs other
  unfold readOpening?
  split
  · exact absurd rfl other
  · rfl

end DocumentSchema.Pattern

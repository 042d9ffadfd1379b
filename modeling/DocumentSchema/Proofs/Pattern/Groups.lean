import DocumentSchema.Proofs.Pattern.Classes
import DocumentSchema.Proofs.Pattern.Pieces

/-!
Reading inside a group.

A pattern that is read inside a group is read as it is by itself (`take?_below`), up to the
parenthesis that closes the group. By `exists_closes`, a reading that leaves nothing open has closed
the group somewhere; what it read up to there would be read the same at the end of a text, ahead of
another text behind a parenthesis, and inside another group or none.
-/

namespace DocumentSchema.Pattern

variable {cs rest t more used : List Char} {c : Char} {verbose : Bool} {piece : Piece}
  {state inner final : Reading} {outer : List Frame} {parts : List Tree}
  {settings : Option (List (Flag × Bool))} {blank : Bool} {fuel enough : Nat}

/-! ## Pieces -/

/-- Of the pieces, only a backslash sequence looks beyond the characters that it takes. -/
theorem readPiece?_local (other : c ≠ '\\') : Local (readPiece? verbose c) := by
  by_cases opening : c = '('
  · subst opening
    exact local_readOpening?.skip.map Piece.opening
  by_cases closing : c = ')'
  · subst closing
    exact .pure Piece.closing
  by_cases bar : c = '|'
  · subst bar
    exact .pure Piece.bar
  by_cases bracket : c = '['
  · subst bracket
    exact local_readBracketed?.map Piece.item
  by_cases dot : c = '.'
  · subst dot
    exact .pure (Piece.item _)
  by_cases caret : c = '^'
  · subst caret
    exact .pure (Piece.item _)
  by_cases dollar : c = '$'
  · subst dollar
    exact .pure (Piece.item _)
  by_cases sign : c = '?' ∨ c = '*' ∨ c = '+' ∨ c = '\x7b'
  · refine ((local_readRepetition? verbose c).map Piece.repetition).of_eq fun rest => ?_
    unfold readPiece?
    split <;> simp_all
  · refine (Local.pure (Piece.item (.atom (.literal c false)))).of_eq fun rest => ?_
    unfold readPiece?
    split <;> simp_all

theorem readPiece?_suffix (found : readPiece? verbose c cs = some (piece, rest)) : rest <:+ cs := by
  by_cases escape : c = '\\'
  · subst escape
    obtain ⟨⟨atom, after⟩, taken, same⟩ := Option.map_eq_some_iff.1 found
    cases same
    exact readEscape?_suffix taken
  · exact (readPiece?_local escape).suffix found

/-- What a piece takes is local, unless it is a word boundary ahead of a repetition with a comment
that runs past the parenthesis. -/
theorem readPiece?_carry
    (found : readPiece? verbose c (cs ++ ')' :: more) = some (piece, rest ++ ')' :: more))
    (ends : Ends t)
    (within : (∃ tree, piece = .item tree) → ∀ inside, rest = '\x7b' :: inside →
      more.length < (skipBlank verbose (inside ++ ')' :: more)).length) :
    readPiece? verbose c (cs ++ t) = some (piece, rest ++ t) := by
  by_cases escape : c = '\\'
  · subst escape
    obtain ⟨⟨atom, after⟩, taken, same⟩ := Option.map_eq_some_iff.1 found
    cases same
    exact Option.map_eq_some_iff.2
      ⟨_, readEscape?_carry taken ends fun _ => within ⟨_, rfl⟩, rfl⟩
  · exact (readPiece?_local escape).carry found ends

/-- A repetition behind a brace begins past blanks. -/
theorem readPiece?_brace_suffix (found : readPiece? verbose '\x7b' cs = some (piece, rest)) :
    rest <:+ skipBlank verbose cs := by
  obtain ⟨⟨bounds, after⟩, taken, same⟩ := Option.map_eq_some_iff.1 found
  cases same
  exact readBounds?_suffix taken

theorem eq_of_closing (found : readPiece? verbose c cs = some (.closing, rest)) :
    c = ')' ∧ cs = rest := by
  by_cases closing : c = ')'
  · subst closing
    cases found
    exact ⟨rfl, rfl⟩
  · unfold readPiece? at found
    split at found
    case h_2 => exact absurd rfl closing
    case h_9 =>
      split at found
      · simp at found
      · cases found
    all_goals simp at found

/-! ## Groups -/

/-- A reading inside what is open around it. -/
def Reading.below (state : Reading) (outer : List Frame) : Reading :=
  { state with frames := state.frames ++ outer }

/-- What is open around a group does not begin with a choice, as that would be in the group. -/
def Surrounds (outer : List Frame) : Prop :=
  ∀ branches frames, outer ≠ .choice branches :: frames

theorem below_nil : state.below [] = state := by
  rw [Reading.below, List.append_nil]

theorem close_below (surrounds : Surrounds outer) :
    (state.below outer).close = (state.close.1, state.close.2 ++ outer) := by
  obtain ⟨frames, parts, blank, names⟩ := state
  rcases frames with _ | ⟨⟨_, _, _⟩ | branches, frames⟩
  · rcases outer with _ | ⟨⟨_, _, _⟩ | branches, outer⟩
    · rfl
    · rfl
    · exact absurd rfl (surrounds branches outer)
  · rfl
  · rfl

theorem closeGroup?_of_group
    (opened : state.close.2 = .group parts settings blank :: outer) :
    state.closeGroup? = some { state with
      frames := outer, parts := enclose settings state.close.1 :: parts, verbose := blank } := by
  rw [Reading.closeGroup?]
  split
  · next same =>
    rw [same] at opened
    cases opened
    rw [same]
  · next none => exact (none _ _ _ _ _ (Prod.ext rfl opened)).elim

theorem closeGroup?_of_choice {branches : List Tree}
    (opened : state.close.2 = .choice branches :: outer) : state.closeGroup? = none := by
  rw [Reading.closeGroup?]
  split
  · next same =>
    rw [same] at opened
    cases opened
  · rfl

theorem closeGroup?_of_nil (closed : state.close.2 = []) : state.closeGroup? = none := by
  rw [Reading.closeGroup?]
  split
  · next same =>
    rw [same] at closed
    cases closed
  · rfl

/-- Inside a group a piece does what it does by itself, but for the parenthesis that closes the
group. -/
theorem take?_below (surrounds : Surrounds outer)
    (inside : piece = .closing → state.close.2 ≠ []) :
    (state.below outer).take? piece = (state.take? piece).map (·.below outer) := by
  cases piece with
  | opening opening =>
    cases opening with
    | capture name =>
      obtain ⟨frames, parts, blank, names⟩ := state
      by_cases known : name.any names.contains = true
      · have taken (frames : List Frame) : (Reading.mk frames parts blank names).take?
          (.opening (.capture name)) = none := if_pos known
        rw [taken]
        exact taken _
      · have taken (frames : List Frame) : (Reading.mk frames parts blank names).take?
          (.opening (.capture name)) = some
            ⟨.group parts none blank :: frames, [], blank, name.toList ++ names⟩ := if_neg known
        rw [taken]
        exact taken _
    | group settings => rfl
    | flags settings => rfl
  | closing =>
    have closes : (state.below outer).close = _ := close_below surrounds
    obtain ⟨frame, frames, opened⟩ := List.exists_cons_of_ne_nil (inside rfl)
    rw [opened] at closes
    cases frame with
    | group parts settings blank =>
      simp only [Reading.take?]
      rw [closeGroup?_of_group opened, closeGroup?_of_group (congrArg Prod.snd closes), closes]
      rfl
    | choice branches =>
      simp only [Reading.take?]
      rw [closeGroup?_of_choice opened, closeGroup?_of_choice (congrArg Prod.snd closes)]
      rfl
  | bar =>
    obtain ⟨frames, parts, blank, names⟩ := state
    rcases frames with _ | ⟨⟨_, _, _⟩ | branches, frames⟩
    · rcases outer with _ | ⟨⟨_, _, _⟩ | branches, outer⟩
      · rfl
      · rfl
      · exact absurd rfl (surrounds branches outer)
    · rfl
    · rfl
  | item tree => rfl
  | repetition bounds =>
    obtain ⟨frames, parts, blank, names⟩ := state
    rcases parts with _ | ⟨part, parts⟩
    · rfl
    · cases part <;> rfl

/-! ## Reading on -/

/-- The reading at the end of the text. -/
def readRest (state : Reading) (cs : List Char) : Option Reading :=
  readAll? state (cs.length + 1) cs

theorem readAll?_eq_of_enough (short : cs.length < fuel) (short' : cs.length < enough) :
    readAll? state fuel cs = readAll? state enough cs := by
  induction fuel generalizing state cs enough with
  | zero => cases short
  | succ fuel ih =>
    obtain _ | enough := enough
    · cases short'
    have fewer := skipBlank_length_le state.verbose cs
    rw [readAll?, readAll?]
    split
    · rfl
    · next c rest skipped =>
      rw [skipped, List.length_cons] at fewer
      refine Option.bind_congr fun ⟨piece, rest'⟩ taken => Option.bind_congr fun next _ => ?_
      have fewer' := (readPiece?_suffix taken).length_le
      exact ih (by omega) (by omega)

theorem readRest_of_nil (skipped : skipBlank state.verbose cs = []) :
    readRest state cs = some state := by
  rw [readRest, readAll?, skipped]

theorem readRest_of_cons (skipped : skipBlank state.verbose cs = c :: rest) :
    readRest state cs = (readPiece? state.verbose c rest).bind fun p =>
      (state.take? p.1).bind fun next => readRest next p.2 := by
  have fewer := skipBlank_length_le state.verbose cs
  rw [skipped, List.length_cons] at fewer
  rw [readRest, readAll?, skipped]
  refine Option.bind_congr fun ⟨piece, rest'⟩ taken => Option.bind_congr fun next _ => ?_
  have fewer' := (readPiece?_suffix taken).length_le
  exact readAll?_eq_of_enough (by omega) (Nat.lt_succ_self _)

/-- What holds at the end of the text, and ahead of a piece whenever it holds behind it, holds where
a reading starts. -/
theorem readRest_induction {motive : Reading → List Char → Prop}
    (stop : ∀ {cs}, skipBlank final.verbose cs = [] → motive final cs)
    (take : ∀ {state next cs c rest piece after}, skipBlank state.verbose cs = c :: rest →
      readPiece? state.verbose c rest = some (piece, after) → state.take? piece = some next →
      readRest next after = some final → motive next after → motive state cs)
    (found : readRest state cs = some final) : motive state cs := by
  induction length : cs.length using Nat.strongRecOn generalizing state cs with
  | ind length ih =>
    subst length
    cases skipped : skipBlank state.verbose cs with
    | nil =>
      rw [readRest_of_nil skipped] at found
      cases found
      exact stop skipped
    | cons c rest =>
      rw [readRest_of_cons skipped] at found
      obtain ⟨⟨piece, after⟩, taken, found⟩ := Option.bind_eq_some_iff.1 found
      obtain ⟨next, stepped, found⟩ := Option.bind_eq_some_iff.1 found
      have fewer := (readPiece?_suffix taken).length_le
      have fewer' := skipBlank_length_le state.verbose cs
      rw [skipped, List.length_cons] at fewer'
      exact take skipped taken stepped found (ih after.length (by omega) found rfl)

theorem readRest_congr {cs' : List Char}
    (same : skipBlank state.verbose cs = skipBlank state.verbose cs') :
    readRest state cs = readRest state cs' := by
  cases skipped : skipBlank state.verbose cs' with
  | nil => rw [readRest_of_nil skipped, readRest_of_nil (same.trans skipped)]
  | cons c rest => rw [readRest_of_cons skipped, readRest_of_cons (same.trans skipped)]

/-! ## Where a group is closed -/

/-- The reading behind the parenthesis that closes a group. -/
def Reading.closed (state : Reading) (parts : List Tree) (settings : Option (List (Flag × Bool)))
    (blank : Bool) : Reading :=
  { state with frames := [], parts := enclose settings state.close.1 :: parts, verbose := blank }

/-- From a state, what is used leads to an inner one with nothing open that belongs to the group:
inside any group, and ahead of any end. The parenthesis that stands behind `used` is not taken by a
comment in a repetition. -/
structure Closes (state inner : Reading) (used rest : List Char) : Prop where
  outermost : inner.close.2 = []
  reads {outer : List Frame} {t : List Char} (surrounds : Surrounds outer) (ends : Ends t) :
    readRest (state.below outer) (used ++ t) = readRest (inner.below outer) t
  within {inside : List Char} (repeats : used = '\x7b' :: inside) :
    rest.length < (skipBlank state.verbose (inside ++ ')' :: rest)).length

theorem skipBlank_brace : skipBlank verbose ('\x7b' :: cs) = '\x7b' :: cs := by
  cases verbose with
  | false => rfl
  | true => rw [skipBlank, if_pos rfl, dropComments, if_neg (by simp), if_neg (by decide),
      if_neg (by decide)]

/-- Nothing but blanks stands ahead of the parenthesis. -/
theorem closes_of_blank (outermost : state.close.2 = [])
    (skipped : skipBlank state.verbose (used ++ ')' :: rest) = ')' :: rest) :
    Closes state state used rest where
  outermost := outermost
  reads {outer t} surrounds ends := by
    refine readRest_congr ?_
    rw [ends.skipBlank]
    have alone : skipBlank state.verbose (used ++ ')' :: rest) = [] ++ ')' :: rest := skipped
    exact skipBlank_carry alone ends
  within {inside} repeats := by
    rw [repeats, List.cons_append, skipBlank_brace] at skipped
    cases skipped

/-- A piece is read ahead of what leads to the parenthesis. -/
theorem Closes.ahead {next : Reading} {behind middle : List Char}
    (closes : Closes next inner behind rest)
    (skipped : skipBlank state.verbose (used ++ ')' :: rest) = c :: middle ++ ')' :: rest)
    (taken : readPiece? state.verbose c (middle ++ ')' :: rest) =
      some (piece, behind ++ ')' :: rest))
    (stepped : state.take? piece = some next)
    (inside : piece = .closing → state.close.2 ≠ []) : Closes state inner used rest where
  outermost := closes.outermost
  reads {outer t} surrounds ends := by
    have taken := readPiece?_carry taken ends fun ⟨tree, isItem⟩ inside repeats => by
      subst isItem
      cases stepped
      exact closes.within repeats
    have skipped : skipBlank (state.below outer).verbose (used ++ t) = c :: (middle ++ t) :=
      skipBlank_carry skipped ends
    have taken : readPiece? (state.below outer).verbose c (middle ++ t) =
      some (piece, behind ++ t) := taken
    rw [readRest_of_cons skipped, taken, Option.bind_some, take?_below surrounds inside, stepped]
    exact closes.reads surrounds ends
  within {inside} repeats := by
    rw [repeats, List.cons_append, skipBlank_brace] at skipped
    obtain ⟨rfl, cut⟩ := List.cons.inj skipped
    have cut : inside ++ ')' :: rest = middle ++ ')' :: rest := cut
    have behind := (readPiece?_brace_suffix taken).length_le
    rw [cut]
    simp only [List.length_append, List.length_cons] at behind
    omega

section Closing

theorem surrounds_group : Surrounds [.group parts settings blank] :=
  nofun

theorem surrounds_nil : Surrounds [] :=
  nofun

theorem closeGroup?_below (outermost : state.close.2 = []) :
    (state.below [.group parts settings blank]).closeGroup? =
      some (state.closed parts settings blank) := by
  have opened : (state.below [.group parts settings blank]).close =
      (state.close.1, [.group parts settings blank]) := by
    rw [close_below surrounds_group, outermost]
    rfl
  rw [closeGroup?_of_group (congrArg Prod.snd opened), opened]
  rfl

/-- A reading inside a group that leaves nothing open has closed the group. -/
theorem exists_closes
    (found : readRest (state.below [.group parts settings blank]) cs = some final)
    (finished : final.close.2 = []) :
    ∃ used rest inner, cs = used ++ ')' :: rest ∧ Closes state inner used rest ∧
      readRest (inner.closed parts settings blank) rest = some final := by
  refine readRest_induction (motive := fun opened cs =>
    ∀ state : Reading, opened = state.below [.group parts settings blank] →
      ∃ used rest inner, cs = used ++ ')' :: rest ∧ Closes state inner used rest ∧
        readRest (inner.closed parts settings blank) rest = some final) ?_ ?_ found state rfl
  · intro cs _ state opened
    rw [opened, close_below surrounds_group] at finished
    simp at finished
  · rintro _ next cs c rest piece after skipped taken stepped found onward state rfl
    by_cases closing : piece = .closing ∧ state.close.2 = []
    · -- the group is closed here
      obtain ⟨rfl, outermost⟩ := closing
      obtain ⟨rfl, rfl⟩ := eq_of_closing taken
      have skipped : skipBlank state.verbose cs = ')' :: rest := skipped
      obtain ⟨used, rfl⟩ : ')' :: rest <:+ cs := skipped ▸ skipBlank_suffix
      cases stepped.symm.trans (closeGroup?_below outermost)
      exact ⟨used, rest, state, rfl, closes_of_blank outermost skipped, found⟩
    · have inside (isClosing : piece = .closing) : state.close.2 ≠ [] :=
        fun outermost => closing ⟨isClosing, outermost⟩
      rw [take?_below surrounds_group inside] at stepped
      obtain ⟨next, taken', rfl⟩ := Option.map_eq_some_iff.1 stepped
      obtain ⟨used, rest', inner, rfl, closes, onward⟩ := onward next rfl
      obtain ⟨middle, rfl⟩ := cut_of_suffix (readPiece?_suffix taken)
      have skipped : skipBlank state.verbose cs = c :: middle ++ ')' :: rest' := skipped
      obtain ⟨ahead, rfl⟩ := cut_of_suffix (skipped ▸ skipBlank_suffix)
      exact ⟨ahead, rest', inner, rfl, closes.ahead skipped taken taken' inside, onward⟩

end Closing

end DocumentSchema.Pattern

import DocumentSchema.Json.Reader
import DocumentSchema.Json.Writer

/-!
Cutting JSON text that was written.

`CutsTo` says into which pieces a text is cut, whatever was cut before it. Texts are put together at
a bracket, a comma, a colon or a blank, which ends a word if one is open (`CutsTo.append`), or where
no word is open (`CutsAt.append`). A text between quotes is one piece, since every quote and every
backslash in it is escaped (`cutsAt_quote`).
-/

namespace DocumentSchema.Json

/-- The pieces found so far, with an open word as the last one; nothing within a string. -/
def settled? : List Lexeme × LexState → Option (List Lexeme)
  | (found, .between) => some found
  | (found, .inWord reversed) => some (.word reversed.reverse :: found)
  | _ => none

theorem lexemes?_eq (cs : List Char) :
    lexemes? cs = (settled? (cs.foldl lexStep ([], .between))).map List.reverse := by
  unfold lexemes?
  rcases cs.foldl lexStep ([], .between) with ⟨found, - | _ | _ | _⟩ <;> rfl

/-- A text is cut into these pieces, the last of which may be a word that is still open. -/
def CutsTo (cs : List Char) (ls : List Lexeme) : Prop :=
  ∀ found, settled? (cs.foldl lexStep (found, .between)) = some (ls.reverse ++ found)

/-- A text is cut into these pieces, and no word is open at its end. -/
def CutsAt (cs : List Char) (ls : List Lexeme) : Prop :=
  ∀ found, cs.foldl lexStep (found, .between) = (ls.reverse ++ found, .between)

variable {cs ds : List Char} {ls ms : List Lexeme} {c : Char}

theorem lexemes?_of_cutsTo (cuts : CutsTo cs ls) : lexemes? cs = some ls := by
  rw [lexemes?_eq, cuts []]
  simp

theorem CutsAt.cutsTo (cuts : CutsAt cs ls) : CutsTo cs ls := by
  intro found
  rw [cuts found]
  rfl

theorem CutsAt.append (first : CutsAt cs ls) (second : CutsAt ds ms) :
    CutsAt (cs ++ ds) (ls ++ ms) := by
  intro found
  rw [List.foldl_append, first found, second, List.reverse_append, List.append_assoc]

theorem CutsAt.append_cutsTo (first : CutsAt cs ls) (second : CutsTo ds ms) :
    CutsTo (cs ++ ds) (ls ++ ms) := by
  intro found
  rw [List.foldl_append, first found, second, List.reverse_append, List.append_assoc]

/-- A mark or a blank closes what is open. -/
theorem lexStep_of_settled {state : List Lexeme × LexState} {found : List Lexeme}
    (settled : settled? state = some found) (ends : isMark c = true ∨ isBlank c = true) :
    lexStep state c = lexOutside found c := by
  obtain ⟨before, - | reversed | _ | _⟩ := state
  · cases settled
    rfl
  · cases settled
    rw [lexStep, if_pos (.inr ends)]
  · cases settled
  · cases settled

/-- A text that begins with a mark or a blank ends the word in front of it. -/
def EndsWord (cs : List Char) : Prop :=
  ∃ c rest, cs = c :: rest ∧ (isMark c = true ∨ isBlank c = true)

theorem EndsWord.append (ends : EndsWord cs) (ds : List Char) : EndsWord (cs ++ ds) := by
  obtain ⟨c, rest, rfl, mark⟩ := ends
  exact ⟨c, rest ++ ds, rfl, mark⟩

theorem CutsTo.append (first : CutsTo cs ls) (ends : EndsWord ds) (second : CutsAt ds ms) :
    CutsAt (cs ++ ds) (ls ++ ms) := by
  intro found
  obtain ⟨c, rest, rfl, mark⟩ := ends
  have after := second (ls.reverse ++ found)
  rw [List.foldl_cons] at after
  rw [List.foldl_append, List.foldl_cons, lexStep_of_settled (first found) mark]
  rw [List.reverse_append, List.append_assoc]
  exact after

/-! ## Marks, blanks and words -/

theorem cutsAt_mark (mark : isMark c = true) : CutsAt [c] [.mark c] := by
  have noQuote : c ≠ '"' := by
    rintro rfl
    cases mark
  intro found
  simp [lexStep, lexOutside, noQuote, mark]

theorem cutsAt_blank (blank : isBlank c = true) : CutsAt [c] [] := by
  have noQuote : c ≠ '"' := by
    rintro rfl
    cases blank
  have noMark : isMark c = false := by
    simp only [isBlank, Bool.or_eq_true, beq_iff_eq] at blank
    rcases blank with ((rfl | rfl) | rfl) | rfl <;> rfl
  intro found
  simp [lexStep, lexOutside, noQuote, noMark, blank]

theorem cutsAt_blanks (blank : ∀ c ∈ cs, isBlank c = true) : CutsAt cs [] := by
  induction cs with
  | nil => exact fun _ => rfl
  | cons c cs ih =>
    rw [List.forall_mem_cons] at blank
    exact (cutsAt_blank blank.1).append (ih blank.2)

/-- A character that belongs to words: no quote, mark or blank. -/
def isWordChar (c : Char) : Bool :=
  c != '"' && !isMark c && !isBlank c

theorem foldl_word {found : List Lexeme} {reversed : List Char}
    (word : ∀ c ∈ cs, isWordChar c = true) :
    cs.foldl lexStep (found, .inWord reversed) = (found, .inWord (cs.reverse ++ reversed)) := by
  induction cs generalizing reversed with
  | nil => rfl
  | cons c cs ih =>
    rw [List.forall_mem_cons] at word
    obtain ⟨here, rest⟩ := word
    simp only [isWordChar, Bool.and_eq_true, bne_iff_ne, Bool.not_eq_true'] at here
    obtain ⟨⟨noQuote, noMark⟩, noBlank⟩ := here
    rw [List.foldl_cons, lexStep, if_neg (by simp [noQuote, noMark, noBlank]), ih rest,
      List.reverse_cons, List.append_assoc]
    rfl

theorem cutsTo_word (some : cs ≠ []) (word : ∀ c ∈ cs, isWordChar c = true) :
    CutsTo cs [.word cs] := by
  intro found
  obtain ⟨c, cs, rfl⟩ := List.exists_cons_of_ne_nil some
  rw [List.forall_mem_cons] at word
  obtain ⟨here, rest⟩ := word
  simp only [isWordChar, Bool.and_eq_true, bne_iff_ne, Bool.not_eq_true'] at here
  obtain ⟨⟨noQuote, noMark⟩, noBlank⟩ := here
  have first : lexStep (found, .between) c = (found, .inWord [c]) := by
    simp [lexStep, lexOutside, noQuote, noMark, noBlank]
  rw [List.foldl_cons, first, foldl_word rest]
  simp [settled?]

/-! ## Strings -/

/-- The characters that have an escape of two characters, with its second one. -/
def shortEscapes : List (Char × Char) :=
  [('"', '"'), ('\\', '\\'), ('\x08', 'b'), ('\x0c', 'f'), ('\n', 'n'), ('\r', 'r'), ('\t', 't')]

/-- The three ways in which a character of a string is written. -/
theorem escapeChar_cases (c : Char) :
    (∃ letter, (c, letter) ∈ shortEscapes ∧ escapeChar c = ['\\', letter]) ∨
      (c.toNat < 0x20 ∧ escapeChar c =
        ['\\', 'u', '0', '0', Text.hexDigit (c.toNat / 16), Text.hexDigit (c.toNat % 16)]) ∨
      (0x20 ≤ c.toNat ∧ c ≠ '"' ∧ c ≠ '\\' ∧ escapeChar c = [c]) := by
  by_cases short : c ∈ ['"', '\\', '\x08', '\x0c', '\n', '\r', '\t']
  · left
    simp only [List.mem_cons, List.not_mem_nil, or_false] at short
    rcases short with rfl | rfl | rfl | rfl | rfl | rfl | rfl <;>
      exact ⟨_, by simp [shortEscapes], rfl⟩
  · right
    simp only [List.mem_cons, List.not_mem_nil, or_false, not_or] at short
    obtain ⟨quote, backslash, backspace, formFeed, lineFeed, carriageReturn, tab⟩ := short
    rw [escapeChar, if_neg quote, if_neg backslash, if_neg backspace, if_neg formFeed,
      if_neg lineFeed, if_neg carriageReturn, if_neg tab]
    by_cases control : c.toNat < 0x20
    · exact .inl ⟨control, if_pos control⟩
    · exact .inr ⟨Nat.not_lt.1 control, quote, backslash, if_neg control⟩

theorem hexDigit_plain : ∀ n : Fin 16, Text.hexDigit n ≠ '"' ∧ Text.hexDigit n ≠ '\\' := by
  decide

theorem lexStep_plain {found : List Lexeme} {reversed : List Char} (noQuote : c ≠ '"')
    (noBackslash : c ≠ '\\') :
    lexStep (found, .inString reversed) c = (found, .inString (c :: reversed)) := by
  rw [lexStep, if_neg noQuote, if_neg noBackslash]

theorem foldl_escapeChar (found : List Lexeme) (reversed : List Char) (c : Char) :
    (escapeChar c).foldl lexStep (found, .inString reversed) =
      (found, .inString ((escapeChar c).reverse ++ reversed)) := by
  rcases escapeChar_cases c with ⟨letter, -, same⟩ | ⟨control, same⟩ |
    ⟨-, noQuote, noBackslash, same⟩
  · rw [same]
    rfl
  · have high := hexDigit_plain ⟨c.toNat / 16, by omega⟩
    have low := hexDigit_plain ⟨c.toNat % 16, by omega⟩
    rw [same]
    change [Text.hexDigit (c.toNat / 16), Text.hexDigit (c.toNat % 16)].foldl lexStep
      (found, .inString ('0' :: '0' :: 'u' :: '\\' :: reversed)) = _
    rw [List.foldl_cons, lexStep_plain high.1 high.2, List.foldl_cons, lexStep_plain low.1 low.2]
    rfl
  · rw [same, List.foldl_cons, lexStep_plain noQuote noBackslash]
    rfl

theorem foldl_escape (found : List Lexeme) (reversed text : List Char) :
    (text.flatMap escapeChar).foldl lexStep (found, .inString reversed) =
      (found, .inString ((text.flatMap escapeChar).reverse ++ reversed)) := by
  induction text generalizing reversed with
  | nil => rfl
  | cons c text ih =>
    rw [List.flatMap_cons, List.foldl_append, foldl_escapeChar, ih, List.reverse_append,
      List.append_assoc]

theorem toList_quote (text : String) :
    (quote text).toList = '"' :: (text.toList.flatMap escapeChar ++ ['"']) := by
  simp [quote]

/-- A text between quotes is a single piece. -/
theorem cutsAt_quote (text : String) :
    CutsAt (quote text).toList [.quoted (text.toList.flatMap escapeChar)] := by
  intro found
  have opened : lexStep (found, .between) '"' = (found, .inString []) := rfl
  rw [toList_quote, List.foldl_cons, opened, List.foldl_append, foldl_escape, List.append_nil]
  have closed : lexStep (found, .inString (text.toList.flatMap escapeChar).reverse) '"' =
      (.quoted (text.toList.flatMap escapeChar).reverse.reverse :: found, .between) := rfl
  rw [List.foldl_cons, closed, List.reverse_reverse]
  rfl

end DocumentSchema.Json

import DocumentSchema.Proofs.Json.Cutting
import DocumentSchema.Proofs.Range.Bound
import DocumentSchema.Proofs.Traversal
import Mathlib.Data.List.TakeWhile

/-!
Strings and numbers that are read back.

What is written of a string is read as that string (`quotedText?_escape`), and what is written of an
integer of 64 signed bits as that integer (`ofChars?_int`). A float may be read as a neighbour of
the one that was written; `FloatReadsBack` says that it is not.
-/

namespace DocumentSchema.Json

/-! ## Strings -/

/-- A printable character is a piece of its own. -/
theorem stringPieces?_plain {c : Char} {rest : List Char} (printable : 0x20 ≤ c.toNat)
    (noBackslash : c ≠ '\\') :
    stringPieces? (c :: rest) = (stringPieces? rest).map (.char c :: ·) := by
  rw [stringPieces?.eq_4 c rest (fun _ _ _ _ _ same _ => noBackslash same)
    (fun _ _ same _ => noBackslash same)]
  cases stringPieces? rest <;> simp [guard, printable]

/-- A short escape is the character it stands for. -/
theorem stringPieces?_short {letter c : Char} {rest : List Char} (known : letter ≠ 'u')
    (short : shortEscape? letter = some c) :
    stringPieces? ('\\' :: letter :: rest) = (stringPieces? rest).map (.char c :: ·) := by
  rw [stringPieces?.eq_3 letter rest (fun _ _ _ _ _ same _ => known same), short]
  cases stringPieces? rest <;> rfl

theorem anyHexValue?_hexDigit : ∀ n : Fin 16, anyHexValue? (Text.hexDigit n) = some n.val := by
  decide

/-- A control character is written as a unit of two digits. -/
theorem stringPieces?_control {n : Nat} {rest : List Char} (control : n < 0x20) :
    stringPieces? ('\\' :: 'u' :: '0' :: '0' :: Text.hexDigit (n / 16) :: Text.hexDigit (n % 16) ::
      rest) = (stringPieces? rest).map (.unit n :: ·) := by
  have zero : anyHexValue? '0' = some 0 := rfl
  have high := anyHexValue?_hexDigit ⟨n / 16, by omega⟩
  have low := anyHexValue?_hexDigit ⟨n % 16, by omega⟩
  have number : ((0 * 16 + 0) * 16 + n / 16) * 16 + n % 16 = n := by omega
  simp only at high low
  rw [stringPieces?.eq_2, zero, high, low]
  simp only [Option.bind_eq_bind, Option.bind_some, number]
  cases stringPieces? rest <;> rfl

/-- The unit of a control character is the character. -/
theorem assemble?_unit {n : Nat} (control : n < 0x20) (rest : List StringPiece) :
    assemble? (.unit n :: rest) = (assemble? rest).map (Char.ofNat n :: ·) := by
  have noHigh : isHighSurrogate n = false := by
    simp only [isHighSurrogate, Bool.and_eq_false_iff, decide_eq_false_iff_not]
    omega
  have noLow : isLowSurrogate n = false := by
    simp only [isLowSurrogate, Bool.and_eq_false_iff, decide_eq_false_iff_not]
    omega
  rcases rest with - | ⟨c | low, rest⟩
  · simp [assemble?, noHigh, noLow]
  · rw [assemble?.eq_4 n _ (by rintro _ _ ⟨⟩), noHigh, noLow]
    rfl
  · rw [assemble?.eq_3, noHigh, noLow]
    rfl

/-- Every character is written as one element that is read as the character. -/
theorem exists_piece (c : Char) :
    ∃ piece,
      (∀ rest, stringPieces? (escapeChar c ++ rest) = (stringPieces? rest).map (piece :: ·)) ∧
        ∀ rest, assemble? (piece :: rest) = (assemble? rest).map (c :: ·) := by
  rcases escapeChar_cases c with ⟨letter, member, same⟩ | ⟨control, same⟩ |
    ⟨printable, -, noBackslash, same⟩
  · have short : letter ≠ 'u' ∧ shortEscape? letter = some c := by
      simp only [shortEscapes, List.mem_cons, Prod.mk.injEq, List.not_mem_nil, or_false] at member
      rcases member with ⟨rfl, rfl⟩ | ⟨rfl, rfl⟩ | ⟨rfl, rfl⟩ | ⟨rfl, rfl⟩ | ⟨rfl, rfl⟩ |
        ⟨rfl, rfl⟩ | ⟨rfl, rfl⟩ <;> exact ⟨by decide, rfl⟩
    rw [same]
    exact ⟨.char c, fun rest => stringPieces?_short short.1 short.2, fun rest => rfl⟩
  · rw [same]
    refine ⟨.unit c.toNat, fun rest => stringPieces?_control control, fun rest => ?_⟩
    rw [assemble?_unit control, Char.ofNat_toNat]
  · rw [same]
    exact ⟨.char c, fun rest => stringPieces?_plain printable noBackslash, fun rest => rfl⟩

/-- A text is assembled from what is written of it. -/
theorem exists_pieces (text : List Char) :
    ∃ pieces, stringPieces? (text.flatMap escapeChar) = some pieces ∧
      assemble? pieces = some text := by
  induction text with
  | nil => exact ⟨[], rfl, rfl⟩
  | cons c text ih =>
    obtain ⟨pieces, read, whole⟩ := ih
    obtain ⟨piece, first, assembled⟩ := exists_piece c
    refine ⟨piece :: pieces, ?_, ?_⟩
    · rw [List.flatMap_cons, first, read]
      rfl
    · rw [assembled, whole]
      rfl

/-- What is written of a string is read as the string. -/
theorem quotedText?_escape (text : String) :
    quotedText? (text.toList.flatMap escapeChar) = some (some text) := by
  obtain ⟨pieces, read, whole⟩ := exists_pieces text.toList
  rw [quotedText?, read, Option.map_some, whole, Option.map_some, String.ofList_toList]

/-! ## Numbers are words -/

/-- What a number is written with. -/
def isNumberChar (c : Char) : Bool :=
  Text.isDigit c || c == '-' || c == '+' || c == '.' || c == 'e' || c == 'E'

/-- Digits occur in numbers. -/
theorem isNumberChar_of_isDigit {c : Char} (digit : Text.isDigit c = true) :
    isNumberChar c = true := by
  simp [isNumberChar, digit]

/-- What occurs in numbers occurs in words. -/
theorem isWordChar_of_isNumberChar {c : Char} (number : isNumberChar c = true) :
    isWordChar c = true := by
  by_contra other
  have ends : c ∈ ['"', '[', ']', '\x7b', '\x7d', ':', ',', ' ', '\n', '\r', '\t'] := by
    simpa [isWordChar, isMark, isBlank, or_assoc, Classical.or_iff_not_imp_left] using other
  simp only [List.mem_cons, List.not_mem_nil, or_false] at ends
  rcases ends with rfl | rfl | rfl | rfl | rfl | rfl | rfl | rfl | rfl | rfl | rfl <;> cases number

namespace NumberParts

/-- The parts of a number behind its sign. -/
def unsigned? (negative : Bool) (cs : List Char) : Option NumberParts := do
  let (whole, rest) := spanDigits cs
  guard (!whole.isEmpty && (whole.length == 1 || whole.head? != some '0'))
  match rest with
  | '.' :: afterPoint =>
    let (fraction, rest) := spanDigits afterPoint
    guard !fraction.isEmpty
    return ⟨negative, whole, some fraction, ← tail? rest⟩
  | _ => return ⟨negative, whole, none, ← tail? rest⟩

theorem ofChars?_negative (cs : List Char) : ofChars? ('-' :: cs) = unsigned? true cs :=
  rfl

theorem ofChars?_unsigned {cs : List Char} (plain : cs.head? ≠ some '-') :
    ofChars? cs = unsigned? false cs := by
  unfold ofChars?
  split
  next same =>
    split at same
    · exact absurd rfl plain
    · cases same
      rfl

variable {cs : List Char}

/-- An exponent is read from characters of numbers alone. -/
theorem isNumberChar_of_exponent? {result : Bool × List Char} (read : exponent? cs = some result) :
    ∀ c ∈ cs, isNumberChar c = true := by
  have digits : ∀ {ds : List Char}, Text.isDigits ds = true → ∀ c ∈ ds, isNumberChar c = true := by
    intro ds isDigits c member
    simp only [Text.isDigits, Bool.and_eq_true, List.all_eq_true] at isDigits
    exact isNumberChar_of_isDigit (isDigits.2 c member)
  unfold exponent? at read
  split at read
  next same =>
    split at read
    · next valid =>
      split at same
      · cases same
        exact List.forall_mem_cons.2 ⟨rfl, digits valid⟩
      · cases same
        exact List.forall_mem_cons.2 ⟨rfl, digits valid⟩
      · cases same
        exact digits valid
    · cases read

/-- Fractions and exponents are read from characters of numbers alone. -/
theorem isNumberChar_of_tail? {exponent : Option (Bool × List Char)}
    (read : tail? cs = some exponent) : ∀ c ∈ cs, isNumberChar c = true := by
  unfold tail? at read
  split at read
  · exact fun _ member => by cases member
  · split at read
    · next mark =>
      obtain ⟨result, ofDigits, -⟩ := Option.map_eq_some_iff.1 read
      refine List.forall_mem_cons.2 ⟨?_, isNumberChar_of_exponent? ofDigits⟩
      rcases mark with rfl | rfl <;> rfl
    · cases read

theorem isNumberChar_of_spanDigits {whole rest : List Char}
    (span : spanDigits cs = (whole, rest)) (after : ∀ c ∈ rest, isNumberChar c = true) :
    ∀ c ∈ cs, isNumberChar c = true := by
  cases span
  rw [← List.takeWhile_append_dropWhile (p := Text.isDigit) (l := cs)]
  intro c member
  rcases List.mem_append.1 member with digit | later
  · exact isNumberChar_of_isDigit (List.all_eq_true.1 List.all_takeWhile c digit)
  · exact after c later

/-- A number without a sign is read from characters of numbers alone. -/
theorem isNumberChar_of_unsigned? {negative : Bool} {parts : NumberParts}
    (read : unsigned? negative cs = some parts) :
    cs ≠ [] ∧ ∀ c ∈ cs, isNumberChar c = true := by
  unfold unsigned? at read
  obtain ⟨⟨whole, rest⟩, span⟩ : ∃ span, spanDigits cs = span := ⟨_, rfl⟩
  rw [span] at read
  obtain ⟨_, filled, remaining⟩ := Option.bind_eq_some_iff.1 read
  refine ⟨?_, isNumberChar_of_spanDigits span ?_⟩
  · rintro rfl
    cases span
    cases filled
  · clear read
    split at remaining
    · next afterPoint =>
      obtain ⟨⟨fraction, others⟩, spanFraction⟩ : ∃ span, spanDigits afterPoint = span :=
        ⟨_, rfl⟩
      rw [spanFraction] at remaining
      obtain ⟨_, -, remaining⟩ := Option.bind_eq_some_iff.1 remaining
      obtain ⟨exponent, ofTail, -⟩ := Option.bind_eq_some_iff.1 remaining
      exact List.forall_mem_cons.2
        ⟨rfl, isNumberChar_of_spanDigits spanFraction (isNumberChar_of_tail? ofTail)⟩
    · obtain ⟨exponent, ofTail, -⟩ := Option.bind_eq_some_iff.1 remaining
      exact isNumberChar_of_tail? ofTail

/-- Whatever is read as a number is a word. -/
theorem isNumberChar_of_ofChars? {parts : NumberParts} (read : ofChars? cs = some parts) :
    cs ≠ [] ∧ ∀ c ∈ cs, isNumberChar c = true := by
  by_cases negative : cs.head? = some '-'
  · obtain ⟨rest, rfl⟩ := List.head?_eq_some_iff.1 negative
    rw [ofChars?_negative] at read
    obtain ⟨-, digits⟩ := isNumberChar_of_unsigned? read
    exact ⟨List.cons_ne_nil _ _, List.forall_mem_cons.2 ⟨rfl, digits⟩⟩
  · rw [ofChars?_unsigned negative] at read
    exact isNumberChar_of_unsigned? read

end NumberParts

/-! ## Integers -/

/-- The text of an integer: a sign if it is negative, and the digits of its magnitude. -/
theorem toList_toString_int (n : Int) :
    (toString n).toList = (if n < 0 then ['-'] else []) ++ Nat.toDigits 10 n.natAbs := by
  cases n with
  | ofNat n => simp [toString, Int.repr]
  | negSucc n =>
    have negative : Int.negSucc n < 0 := Int.negSucc_lt_zero n
    rw [if_pos negative]
    simp [toString, Int.repr]

/-- More digits do not make a number smaller. -/
theorem le_foldl_digits (ds : List Char) (n : Nat) :
    n ≤ ds.foldl (fun n c => 10 * n + Text.digitValue c) n := by
  induction ds generalizing n with
  | nil => exact Nat.le_refl n
  | cons c ds ih =>
    have more : n ≤ 10 * n + Text.digitValue c := by omega
    exact Nat.le_trans more (ih _)

/-- Digits whose number fits are all read. -/
theorem readSignificand_of_le {ds : List Char} {n : Nat}
    (fits : ds.foldl (fun n c => 10 * n + Text.digitValue c) n ≤ maxSignificand) :
    readSignificand n ds = (ds.foldl (fun n c => 10 * n + Text.digitValue c) n, 0) := by
  induction ds generalizing n with
  | nil => rfl
  | cons c ds ih =>
    have next : 10 * n + Text.digitValue c ≤ maxSignificand :=
      Nat.le_trans (le_foldl_digits ds _) fits
    rw [readSignificand, if_pos next, ih fits]
    rfl

/-- A significand that fits is read whole. -/
theorem readSignificand_toDigits {n : Nat} (fits : n ≤ maxSignificand) :
    readSignificand 0 (Nat.toDigits 10 n) = (n, 0) := by
  have value : (Nat.toDigits 10 n).foldl (fun n c => 10 * n + Text.digitValue c) 0 = n :=
    Text.decimalValue_toDigits n
  rw [readSignificand_of_le (by rwa [value]), value]

theorem digitChar_ne_zero : ∀ n : Fin 10, n ≠ 0 → Nat.digitChar n ≠ '0' := by
  decide

/-- The digits of a number other than zero do not begin with a zero. -/
theorem head?_toDigits_ne {n : Nat} (positive : 0 < n) :
    (Nat.toDigits 10 n).head? ≠ some '0' := by
  induction n using Nat.strongRecOn with
  | _ n ih =>
    by_cases small : n < 10
    · rw [Nat.toDigits_of_lt_base small]
      have digit := digitChar_ne_zero ⟨n, small⟩ (by simpa using Nat.ne_of_gt positive)
      simpa using digit
    · have whole : 10 * (n / 10) + n % 10 = n := by omega
      have split := Nat.toDigits_append_toDigits (b := 10) (by decide)
        (show 0 < n / 10 by omega) (show n % 10 < 10 by omega)
      rw [whole] at split
      rw [← split, List.head?_append_of_ne_nil _ Nat.toDigits_ne_nil]
      exact ih (n / 10) (by omega) (by omega)

/-- Digits are spanned to the end. -/
theorem spanDigits_of_digits {ds : List Char} (digits : ∀ c ∈ ds, Text.isDigit c = true) :
    NumberParts.spanDigits ds = (ds, []) := by
  rw [NumberParts.spanDigits, List.takeWhile_eq_self_iff.2 digits,
    List.dropWhile_eq_nil_iff.2 digits]

/-- The digits of a number are the whole part of it. -/
theorem unsigned?_toDigits (negative : Bool) (n : Nat) :
    NumberParts.unsigned? negative (Nat.toDigits 10 n) =
      some ⟨negative, Nat.toDigits 10 n, none, none⟩ := by
  have leading : (!(Nat.toDigits 10 n).isEmpty && ((Nat.toDigits 10 n).length == 1 ||
      (Nat.toDigits 10 n).head? != some '0')) = true := by
    rcases Nat.eq_zero_or_pos n with rfl | positive
    · rfl
    · simp [Nat.toDigits_ne_nil, head?_toDigits_ne positive]
  rw [NumberParts.unsigned?, spanDigits_of_digits fun c => Text.isDigit_of_mem_toDigits]
  simp only [leading, guard, if_true]
  rfl

/-- What is written of an integer of 64 signed bits is read as the integer. -/
theorem ofChars?_int {n : Int} (fits : fitsInt64 n = true) :
    (NumberParts.ofChars? (toString n).toList).bind NumberParts.value? = some (.int n) := by
  simp only [fitsInt64, Bool.and_eq_true, decide_eq_true_eq] at fits
  obtain ⟨least, most⟩ := fits
  have small : n.natAbs ≤ maxSignificand := by
    have limit : maxSignificand = 2 ^ 64 - 1 := rfl
    omega
  rw [toList_toString_int]
  by_cases negative : n < 0
  · rw [if_pos negative, List.singleton_append, NumberParts.ofChars?_negative, unsigned?_toDigits,
      Option.bind_some]
    have bounded : ¬(n.natAbs = 0 ∨ 2 ^ 63 < n.natAbs) := by omega
    have number : -(n.natAbs : Int) = n := by omega
    simp only [NumberParts.value?, readSignificand_toDigits small, if_neg bounded, number]
    rfl
  · have plain : (Nat.toDigits 10 n.natAbs).head? ≠ some '-' := by
      intro head
      have digit := Text.isDigit_of_mem_toDigits (List.mem_of_mem_head? head)
      cases digit
    rw [if_neg negative, List.nil_append, NumberParts.ofChars?_unsigned plain, unsigned?_toDigits,
      Option.bind_some]
    have number : (n.natAbs : Int) = n := by omega
    simp [NumberParts.value?, readSignificand_toDigits small, number]

/-! ## Words that are read back -/

/-- The text of a float is read as that float, with the same bits. -/
def FloatReadsBack (x : Binary64) : Prop :=
  (NumberParts.ofChars? x.jsonText.toList).bind NumberParts.value? = some (.float x)

/-- The number of a float. -/
def float? : Json → Option Binary64
  | .float x => some x
  | _ => none

/-- When a float is read back from its text. -/
theorem floatReadsBack_iff {x : Binary64} : FloatReadsBack x ↔
    ((NumberParts.ofChars? x.jsonText.toList).bind NumberParts.value?).bind float? = some x := by
  unfold FloatReadsBack
  cases (NumberParts.ofChars? x.jsonText.toList).bind NumberParts.value? with
  | none => simp
  | some value => cases value <;> simp [float?]

instance (x : Binary64) : Decidable (FloatReadsBack x) :=
  decidable_of_iff _ floatReadsBack_iff.symm

/-- A number is a word that is read as the number. -/
theorem wordTree?_number {cs : List Char} {value : Json}
    (read : (NumberParts.ofChars? cs).bind NumberParts.value? = some value) :
    CutsTo cs [.word cs] ∧ wordTree? cs = some (.scalar (some value)) := by
  obtain ⟨parts, ofChars, number⟩ := Option.bind_eq_some_iff.1 read
  obtain ⟨some, chars⟩ := NumberParts.isNumberChar_of_ofChars? ofChars
  refine ⟨cutsTo_word some fun c member => isWordChar_of_isNumberChar (chars c member), ?_⟩
  have noName : cs ≠ ['n', 'u', 'l', 'l'] ∧ cs ≠ ['t', 'r', 'u', 'e'] ∧
      cs ≠ ['f', 'a', 'l', 's', 'e'] := by
    refine ⟨?_, ?_, ?_⟩ <;> rintro rfl <;> cases ofChars
  obtain ⟨noNull, noTrue, noFalse⟩ := noName
  rw [wordTree?, if_neg noNull, if_neg noTrue, if_neg noFalse, ofChars, Option.map_some, number]

end DocumentSchema.Json

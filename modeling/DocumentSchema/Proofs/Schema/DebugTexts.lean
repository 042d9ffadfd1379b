import DocumentSchema.Schema.Registry
import Mathlib.Data.List.Basic

/-!
What is shown while programs are debugged.

A text between quotes ends at its closing quote, whatever follows, and tells the text
(`Text.Quoted.encode_append_inj`). So what is shown of a registry tells the names in each of its
tables (`Registry.debugText_eq_iff`), and what is shown of a callback tells its name
(`CallbackId.debugText_eq_iff`).
-/

namespace DocumentSchema

namespace Text.Quoted

variable {c c' : Char} {s t : List Char} {a b : String}

/-! ## Code points -/

/-- The digit of a number below sixteen tells the number. -/
theorem digitChar_inj : ∀ m n : Fin 16, Nat.digitChar m = Nat.digitChar n → m = n := by
  decide

theorem digitChar_ne_brace : ∀ n : Fin 16, Nat.digitChar n ≠ '\x7d' := by
  decide

/-- No digit is the brace that closes a code point. -/
theorem brace_notMem_hexDigits (n : Nat) : '\x7d' ∉ hexDigits n := by
  induction n using Nat.strongRecOn with
  | ind n ih =>
    unfold hexDigits
    have last := digitChar_ne_brace ⟨n % 16, Nat.mod_lt n (by decide)⟩
    rw [Nat.toDigits_eq_if (by decide)]
    split
    · next small =>
      rw [List.mem_singleton]
      simpa only [Nat.mod_eq_of_lt small] using last.symm
    · next large =>
      rw [List.mem_append, List.mem_singleton, not_or]
      exact ⟨ih (n / 16) (by omega), last.symm⟩

/-- The digits of a number tell the number. -/
theorem hexDigits_injective {m n : Nat} (same : hexDigits m = hexDigits n) : m = n := by
  unfold hexDigits at same
  induction m using Nat.strongRecOn generalizing n with
  | ind m ih =>
    have lastOf := digitChar_inj ⟨m % 16, Nat.mod_lt m (by decide)⟩
      ⟨n % 16, Nat.mod_lt n (by decide)⟩
    simp only [Fin.mk.injEq] at lastOf
    rw [Nat.toDigits_eq_if (by decide), Nat.toDigits_eq_if (n := n) (by decide)] at same
    split at same <;> split at same
    · next smallM smallN =>
      have last := lastOf (by simpa [Nat.mod_eq_of_lt smallM, Nat.mod_eq_of_lt smallN] using same)
      omega
    · next smallM largeN =>
      have front := congrArg List.dropLast same
      rw [List.dropLast_concat] at front
      exact absurd front.symm Nat.toDigits_ne_nil
    · next largeM smallN =>
      have front := congrArg List.dropLast same
      rw [List.dropLast_concat] at front
      exact absurd front Nat.toDigits_ne_nil
    · next largeM largeN =>
      obtain ⟨front, last⟩ := List.append_inj' same rfl
      have high := ih (m / 16) (by omega) front
      have low := lastOf (List.singleton_inj.1 last)
      omega

/-! ## Characters -/

/-- What comes before the first brace is the same in the same text. -/
theorem append_brace_inj {x y : List Char} (inX : '\x7d' ∉ x) (inY : '\x7d' ∉ y)
    (same : x ++ '\x7d' :: s = y ++ '\x7d' :: t) : x = y ∧ s = t := by
  induction x generalizing y with
  | nil =>
    cases y with
    | nil => exact ⟨rfl, (List.cons.inj same).2⟩
    | cons d y =>
      obtain ⟨rfl, -⟩ := List.cons.inj same
      exact absurd List.mem_cons_self inY
  | cons d x ih =>
    cases y with
    | nil =>
      obtain ⟨rfl, -⟩ := List.cons.inj same
      exact absurd List.mem_cons_self inX
    | cons e y =>
      obtain ⟨rfl, later⟩ := List.cons.inj same
      rw [List.mem_cons, not_or] at inX inY
      obtain ⟨rfl, rest⟩ := ih inX.2 inY.2 later
      exact ⟨rfl, rest⟩

/-- A letter stands for one character. -/
theorem letter?_injective {letter : Char} (first : letter? c = some letter)
    (second : letter? c' = some letter) : c = c' := by
  unfold letter? at first second
  split at first <;> cases first <;> split at second <;> cases second <;> rfl

/-- No character is written by the letter that opens a code point. -/
theorem letter?_ne_u : letter? c ≠ some 'u' := by
  unfold letter?
  split <;> decide

/-- The three forms in which characters are written between quotes. -/
inductive Escapes (c : Char) : List Char → Prop
  | byLetter {letter : Char} : letter? c = some letter → Escapes c ['\\', letter]
  | asItself : letter? c = none → Escapes c [c]
  | byCode : Escapes c ('\\' :: 'u' :: '\x7b' :: hexDigits c.toNat ++ ['\x7d'])

/-- Every character is written in one of these forms. -/
theorem escapes_escape (c : Char) : Escapes c (escape c) := by
  unfold escape
  split
  · next letter named => exact .byLetter named
  · next plain =>
    split
    · exact .asItself plain
    · exact .byCode

/-- A character that is written as itself is neither a quote nor a backslash. -/
theorem ne_of_letter?_eq_none (plain : letter? c = none) : c ≠ '"' ∧ c ≠ '\\' := by
  constructor <;> rintro rfl <;> cases plain

/-- What is written of a character tells the character, whatever follows. -/
theorem escapes_append_inj {x y : List Char} (first : Escapes c x) (second : Escapes c' y)
    (same : x ++ s = y ++ t) : c = c' ∧ s = t := by
  cases first with
  | byLetter named =>
    cases second with
    | byLetter named' =>
      cases same
      exact ⟨letter?_injective named named', rfl⟩
    | asItself plain =>
      cases same
      exact absurd rfl (ne_of_letter?_eq_none plain).2
    | byCode =>
      cases same
      exact absurd named letter?_ne_u
  | asItself plain =>
    cases second with
    | byLetter =>
      cases same
      exact absurd rfl (ne_of_letter?_eq_none plain).2
    | asItself =>
      cases same
      exact ⟨rfl, rfl⟩
    | byCode =>
      cases same
      exact absurd rfl (ne_of_letter?_eq_none plain).2
  | byCode =>
    cases second with
    | byLetter named =>
      cases same
      exact absurd named letter?_ne_u
    | asItself plain =>
      cases same
      exact absurd rfl (ne_of_letter?_eq_none plain).2
    | byCode =>
      simp only [List.cons_append, List.append_assoc, List.nil_append, List.cons.injEq,
        true_and] at same
      obtain ⟨digits, same⟩ :=
        append_brace_inj (brace_notMem_hexDigits _) (brace_notMem_hexDigits _) same
      exact ⟨Char.toNat_inj.1 (hexDigits_injective digits), same⟩

/-- No character is written with a quote in front. -/
theorem escape_append_ne_quote : escape c ++ s ≠ '"' :: t := by
  intro same
  have form := escapes_escape c
  revert same
  generalize escape c = written at form
  intro same
  cases form with
  | byLetter => cases same
  | asItself plain =>
    cases same
    exact absurd rfl (ne_of_letter?_eq_none plain).1
  | byCode => cases same

/-! ## Texts -/

theorem toList_encode (a : String) :
    (encode a).toList = '"' :: (a.toList.flatMap escape ++ ['"']) := by
  rw [encode, String.toList_ofList]
  rfl

/-- Between its quotes, a text is told from what follows. -/
theorem encode_append_inj (same : (encode a).toList ++ s = (encode b).toList ++ t) :
    a = b ∧ s = t := by
  have inside : ∀ x y : List Char, x.flatMap escape ++ '"' :: s = y.flatMap escape ++ '"' :: t →
      x = y ∧ s = t := by
    intro x
    induction x with
    | nil =>
      intro y same
      cases y with
      | nil => exact ⟨rfl, (List.cons.inj same).2⟩
      | cons d y =>
        rw [List.flatMap_cons, List.append_assoc] at same
        exact absurd same.symm escape_append_ne_quote
    | cons c x ih =>
      intro y same
      cases y with
      | nil =>
        rw [List.flatMap_cons, List.append_assoc] at same
        exact absurd same escape_append_ne_quote
      | cons d y =>
        rw [List.flatMap_cons, List.flatMap_cons, List.append_assoc, List.append_assoc] at same
        obtain ⟨rfl, later⟩ := escapes_append_inj (escapes_escape c) (escapes_escape d) same
        obtain ⟨rfl, rest⟩ := ih y later
        exact ⟨rfl, rest⟩
  simp only [toList_encode, List.append_assoc, List.cons_append, List.nil_append,
    List.cons.injEq, true_and] at same
  obtain ⟨letters, rest⟩ := inside _ _ same
  exact ⟨String.toList_inj.1 letters, rest⟩

end Text.Quoted

/-! ## Callbacks and registries -/

/-- What is shown of a callback tells its name; callbacks without one show the same. -/
theorem CallbackId.debugText_eq_iff {a b : CallbackId} :
    a.debugText = b.debugText ↔ a = b ∨ ∃ token token', a = .bound token ∧ b = .bound token' := by
  cases a with
  | named name =>
    cases b with
    | named name' =>
      simp only [debugText, named.injEq, reduceCtorEq, false_and, exists_const, or_false]
      refine ⟨fun same => ?_, fun same => by rw [same]⟩
      have letters := congrArg String.toList same
      simp only [String.toList_append, List.append_assoc] at letters
      exact (Text.Quoted.encode_append_inj (List.append_cancel_left letters)).1
    | bound token =>
      refine iff_of_false (fun same => ?_) (by simp)
      have letters := congrArg String.toList same
      simp [debugText] at letters
  | bound token =>
    cases b with
    | named name =>
      refine iff_of_false (fun same => ?_) (by simp)
      have letters := congrArg String.toList same
      simp [debugText] at letters
    | bound token' => simp [debugText]

namespace Registry

variable {as bs : List String} {s t : List Char}

/-- What is shown of names behind the first one. -/
def laterNames (names : List String) : List Char :=
  names.flatMap fun name => ',' :: ' ' :: (Text.Quoted.encode name).toList

theorem laterNames_cons (name : String) (names : List String) :
    laterNames (name :: names) =
      ',' :: ' ' :: ((Text.Quoted.encode name).toList ++ laterNames names) :=
  rfl

theorem toList_debugNames_cons (name : String) (names : List String) :
    (debugNames (name :: names)).toList =
      '[' :: (Text.Quoted.encode name).toList ++ laterNames names ++ [']'] := by
  have joined : (String.intercalate ", " ((name :: names).map Text.Quoted.encode)).toList =
      (Text.Quoted.encode name).toList ++ laterNames names := by
    rw [String.toList_intercalate]
    induction names generalizing name with
    | nil => simp [laterNames, List.intercalate]
    | cons later names ih =>
      have tail := ih later
      simp only [List.map_cons, List.intercalate, List.intersperse_cons_cons, List.flatten_cons]
        at tail ⊢
      rw [tail]
      simp [laterNames]
  rw [debugNames, String.toList_append, String.toList_append, joined]
  simp

/-- Later names are told from each other and from what follows the bracket. -/
theorem laterNames_append_inj (same : laterNames as ++ ']' :: s = laterNames bs ++ ']' :: t) :
    as = bs ∧ s = t := by
  induction as generalizing bs with
  | nil =>
    cases bs with
    | nil => exact ⟨rfl, (List.cons.inj same).2⟩
    | cons b bs =>
      rw [laterNames_cons] at same
      exact absurd (List.cons.inj same).1 (by decide)
  | cons a as ih =>
    cases bs with
    | nil =>
      rw [laterNames_cons] at same
      exact absurd (List.cons.inj same).1 (by decide)
    | cons b bs =>
      simp only [laterNames_cons, List.cons_append, List.append_assoc, List.cons.injEq,
        true_and] at same
      obtain ⟨rfl, later⟩ := Text.Quoted.encode_append_inj same
      obtain ⟨rfl, rest⟩ := ih later
      exact ⟨rfl, rest⟩

/-- Names that are shown one behind the other are told from each other and from what follows. -/
theorem debugNames_append_inj
    (same : (debugNames as).toList ++ s = (debugNames bs).toList ++ t) : as = bs ∧ s = t := by
  have none : (debugNames []).toList = ['[', ']'] := rfl
  cases as with
  | nil =>
    cases bs with
    | nil => exact ⟨rfl, List.append_cancel_left same⟩
    | cons b bs =>
      rw [none, toList_debugNames_cons, Text.Quoted.toList_encode] at same
      exact absurd (List.cons.inj (List.cons.inj same).2).1 (by decide)
  | cons a as =>
    cases bs with
    | nil =>
      rw [none, toList_debugNames_cons, Text.Quoted.toList_encode] at same
      exact absurd (List.cons.inj (List.cons.inj same).2).1 (by decide)
    | cons b bs =>
      rw [toList_debugNames_cons, toList_debugNames_cons] at same
      simp only [List.cons_append, List.append_assoc, List.nil_append, List.cons.injEq,
        true_and] at same
      obtain ⟨rfl, later⟩ := Text.Quoted.encode_append_inj same
      obtain ⟨rfl, rest⟩ := laterNames_append_inj later
      exact ⟨rfl, rest⟩

/-- What is shown of a registry tells the names in each of its tables, and nothing else. -/
theorem debugText_eq_iff {a b : Registry} :
    a.debugText = b.debugText ↔
      Entries.keys a.generators = Entries.keys b.generators ∧
        Entries.keys a.validators = Entries.keys b.validators ∧
        Entries.keys a.fallbacks = Entries.keys b.fallbacks := by
  constructor
  · intro same
    unfold debugText at same
    have letters := congrArg String.toList same
    simp only [String.toList_append, List.append_assoc] at letters
    rw [List.append_right_inj] at letters
    obtain ⟨generators, later⟩ := debugNames_append_inj letters
    rw [List.append_right_inj] at later
    obtain ⟨validators, later⟩ := debugNames_append_inj later
    rw [List.append_right_inj] at later
    exact ⟨generators, validators, (debugNames_append_inj later).1⟩
  · rintro ⟨generators, validators, fallbacks⟩
    unfold debugText
    rw [generators, validators, fallbacks]

end Registry

end DocumentSchema

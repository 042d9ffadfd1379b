import DocumentSchema.Text.Hex
import DocumentSchema.Text.Unicode.Newest

/-!
Texts between double quotes.

Characters that would end a text or leave no trace of their own on a page are escaped: some have a
letter of their own behind a backslash, and the others are given by their code points.
-/

namespace DocumentSchema.Text.Quoted

/-- The letter that stands for a character behind a backslash. -/
def letter? (c : Char) : Option Char :=
  match c with
  | '\x00' => some '0'
  | '\t' => some 't'
  | '\n' => some 'n'
  | '\r' => some 'r'
  | '"' => some '"'
  | '\\' => some '\\'
  | _ => none

/-- Whether a character shows as itself: no control, no blank but the space, nothing that is not
assigned, and no mark that would join the character before it. -/
def isVisible (c : Char) : Bool :=
  if c.toNat < 0x80 then ' ' ≤ c && c ≤ '~'
  else !Unicode.Newest.graphemeExtend.contains c && !Unicode.Newest.invisible.contains c

/-- The digits of a number in base sixteen. -/
def hexDigits (n : Nat) : List Char :=
  Nat.toDigits 16 n

/-- A character as it is written between quotes. -/
def escape (c : Char) : List Char :=
  match letter? c with
  | some letter => ['\\', letter]
  | none =>
    if isVisible c then [c] else ['\\', 'u', '\x7b'] ++ hexDigits c.toNat ++ ['\x7d']

/-- A text between quotes. -/
def encode (text : String) : String :=
  String.ofList (['"'] ++ text.toList.flatMap escape ++ ['"'])

end DocumentSchema.Text.Quoted

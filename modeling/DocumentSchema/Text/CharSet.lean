import DocumentSchema.Text.Hex
import DocumentSchema.Text.Parts

/-!
Sets of characters.

A set is a list of ranges of code points, ascending and with a gap between any two, so that sets
with the same members are equal. The half code points that stand in pairs for others are no
characters and belong to no set; `complement` leaves them out.
-/

namespace DocumentSchema.Text

/-- A set of characters, given by inclusive ranges of code points. -/
structure CharSet where
  ranges : List (Nat × Nat)
  deriving DecidableEq, Repr

namespace CharSet

/-- Whether a code point is in the set. -/
def containsCode (s : CharSet) (n : Nat) : Bool :=
  s.ranges.any fun (lo, hi) => lo ≤ n && n ≤ hi

/-- Whether a character is in the set. -/
def contains (s : CharSet) (c : Char) : Bool :=
  s.containsCode c.toNat

/-- The set without members. -/
def empty : CharSet := ⟨[]⟩

/-- All characters. -/
def all : CharSet := ⟨[(0, 0xD7FF), (0xE000, 0x10FFFF)]⟩

/-- The set of one character. -/
def single (c : Char) : CharSet := ⟨[(c.toNat, c.toNat)]⟩

/-- Joins each range to the next where they overlap or touch; the lower ends must ascend. -/
def joinRanges : List (Nat × Nat) → List (Nat × Nat)
  | [] => []
  | range :: rest => go range rest
where
  go (current : Nat × Nat) : List (Nat × Nat) → List (Nat × Nat)
    | [] => [current]
    | (lo, hi) :: rest =>
      if lo ≤ current.2 + 1 then go (current.1, max current.2 hi) rest
      else current :: go (lo, hi) rest

/-- The set of all code points in some range. -/
def ofRanges (ranges : List (Nat × Nat)) : CharSet :=
  ⟨joinRanges (ranges.mergeSort fun a b => a.1 ≤ b.1)⟩

/-- Members of either set. -/
def union (s t : CharSet) : CharSet :=
  ofRanges (s.ranges ++ t.ranges)

/-- Members of any of the sets. -/
def unionAll (sets : List CharSet) : CharSet :=
  ofRanges (sets.flatMap ranges)

/-- The ranges between ascending ranges, from `start` to the last code point. -/
def gaps (start : Nat) : List (Nat × Nat) → List (Nat × Nat)
  | [] => if start ≤ 0x10FFFF then [(start, 0x10FFFF)] else []
  | (lo, hi) :: rest =>
    if start < lo then (start, lo - 1) :: gaps (hi + 1) rest else gaps (hi + 1) rest

/-- The characters that are not in the set. -/
def complement (s : CharSet) : CharSet :=
  ⟨gaps 0 (ofRanges ((0xD800, 0xDFFF) :: s.ranges)).ranges⟩

/-- Members of both sets. -/
def inter (s t : CharSet) : CharSet :=
  (s.complement.union t.complement).complement

/-- Members of the first set that are not in the second. -/
def difference (s t : CharSet) : CharSet :=
  s.inter t.complement

/-- Members of exactly one of the sets. -/
def symmetricDifference (s t : CharSet) : CharSet :=
  (s.difference t).union (t.difference s)

/-- Whether all members are ASCII characters. -/
def isAscii (s : CharSet) : Bool :=
  s.ranges.all fun (_, hi) => hi < 0x80

/-! ## Tables -/

/-- The words of a text, which blanks and line breaks separate. -/
def words (cs : List Char) : List (List Char) :=
  ((parts '\n' cs).flatMap (parts ' ')).filter fun word => !word.isEmpty

/-- A number in base sixteen with capital letters. -/
def hexNumber (cs : List Char) : Nat :=
  cs.foldl (fun n c => 16 * n + (hexValue? c.toLower).getD 0) 0

/-- The set that a table lists: code points and ranges of code points, in hexadecimal and in
ascending order. -/
def ofTable (table : String) : CharSet :=
  ⟨(words table.toList).map fun word =>
    match parts '-' word with
    | [lo, hi] => (hexNumber lo, hexNumber hi)
    | _ => (hexNumber word, hexNumber word)⟩

end CharSet

end DocumentSchema.Text

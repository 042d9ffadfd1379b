/-!
The UTF-8 form of characters.

A code point takes one to four bytes, and larger code points have forms that come later in the order
of bytes. `Utf8.sequences` writes a range of characters as sequences of byte ranges: a form belongs
to the range when its bytes lie, one by one, in the ranges of one sequence.
-/

namespace DocumentSchema.Text.Utf8

/-- The bytes of a code point. -/
def bytes (n : Nat) : List Nat :=
  if n < 0x80 then [n]
  else if n < 0x800 then [0xC0 + n / 0x40, 0x80 + n % 0x40]
  else if n < 0x10000 then [0xE0 + n / 0x1000, 0x80 + n / 0x40 % 0x40, 0x80 + n % 0x40]
  else [0xF0 + n / 0x40000, 0x80 + n / 0x1000 % 0x40, 0x80 + n / 0x40 % 0x40, 0x80 + n % 0x40]

/-- The code points whose forms have the same length, in ascending order; those that are no
characters are left out. -/
def blocks : List (Nat × Nat) :=
  [(0, 0x7F), (0x80, 0x7FF), (0x800, 0xD7FF), (0xE000, 0xFFFF), (0x10000, 0x10FFFF)]

/-- The part of a range that lies in a block, if there is any. -/
def within? (block range : Nat × Nat) : Option (Nat × Nat) :=
  let lo := max block.1 range.1
  let hi := min block.2 range.2
  if lo ≤ hi then some (lo, hi) else none

/-- Cuts a range where the code points share no longer all but their last bytes: `sizes` says how
many code points share all but one byte, all but two bytes, and so on. In each piece, the bytes from
some place on run through all of their values, and those before them are fixed but for one. -/
def aligned : List Nat → Nat × Nat → List (Nat × Nat)
  | [], range => [range]
  | size :: sizes, (lo, hi) =>
    if lo / size = hi / size then [(lo, hi)]
    else
      let first := (lo + size - 1) / size * size
      let last := (hi + 1) / size * size
      (if lo < first then [(lo, first - 1)] else []) ++
        (if first < last then aligned sizes (first, last - 1) else []) ++
        if last ≤ hi then [(last, hi)] else []

/-- The sequences of byte ranges for the characters of a range, in ascending order. -/
def sequences (range : Nat × Nat) : List (List (Nat × Nat)) :=
  (blocks.filterMap (within? · range)).flatMap fun (lo, hi) =>
    let pieces := if hi < 0x80 then [(lo, hi)] else aligned [0x40, 0x1000, 0x40000] (lo, hi)
    pieces.map fun (lo, hi) => (bytes lo).zip (bytes hi)

end DocumentSchema.Text.Utf8

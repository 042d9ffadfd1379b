import DocumentSchema.Text.Unicode.Property

/-!
Word characters, decimal digits and blanks of all scripts.

A word character is a letter or mark of some script, a decimal digit, or a sign that joins words,
such as the underscore. `isWord` and `isSpace` decide ASCII characters by the ASCII part of the
class alone, which is written out here.
-/

namespace DocumentSchema.Text.Unicode

/-- The ASCII word characters: letters, digits and the underscore. -/
def asciiWord : CharSet :=
  ⟨[(0x30, 0x39), (0x41, 0x5A), (0x5F, 0x5F), (0x61, 0x7A)]⟩

/-- The ASCII digits. -/
def asciiDigit : CharSet :=
  ⟨[(0x30, 0x39)]⟩

/-- The ASCII blanks. -/
def asciiSpace : CharSet :=
  ⟨[(0x09, 0x0D), (0x20, 0x20)]⟩

/-- Word characters. -/
def word : CharSet :=
  .unionAll [alphabetic, mark, decimalNumber, connectorPunctuation, joinControl]

/-- Whether a character is a word character. -/
def isWord (c : Char) : Bool :=
  if c.toNat < 0x80 then asciiWord.contains c else word.contains c

/-- Whether a character is a blank. -/
def isSpace (c : Char) : Bool :=
  if c.toNat < 0x80 then asciiSpace.contains c else whiteSpace.contains c

end DocumentSchema.Text.Unicode

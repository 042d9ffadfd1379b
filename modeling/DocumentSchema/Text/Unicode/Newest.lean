import DocumentSchema.Text.Unicode.Property

/-!
Characters of the newest edition.

Names of groups and texts in diagnostics follow a newer edition of the standard than patterns do.
The sets here are those of the older edition with the characters that the newer one adds.
-/

namespace DocumentSchema.Text.Unicode.Newest

/-- Letters that the edition adds, and marks that belong to them. -/
def newAlphabetic : CharSet :=
  .ofTable "88F C5C CDC A7CE-A7CF A7D2 A7D4 A7F1 10940-10959 10EC5-10EC7 10EFA-10EFB 11B60-11B67
  11DB0-11DDB 16EA0-16EB8 16EBB-16ED3 16FF2-16FF6 187F8-187FF 18D09-18D1E 18D80-18DF2 1E6C0-1E6DE
  1E6E0-1E6F5 1E6FE-1E6FF 2B73A-2B73F 2CEA2-2CEAD 323B0-33479"

/-- Numbers that the edition adds. -/
def newNumber : CharSet :=
  .ofTable "11DE0-11DE9 16FF4-16FF6"

/-- Marks that the edition adds and that extend the character before them. -/
def newGraphemeExtend : CharSet :=
  .ofTable "1ACF-1ADD 1AE0-1AEB 10EFA-10EFB 11B60 11B62-11B64 11B66 1E6E3 1E6E6 1E6EE-1E6EF 1E6F5"

/-- All characters that the edition adds. -/
def newAssigned : CharSet :=
  .ofTable "88F C5C CDC 1ACF-1ADD 1AE0-1AEB 20C1 2B96 A7CE-A7CF A7D2 A7D4 A7F1 FBC3-FBD2 FD90-FD91
  FDC8-FDCE 10940-10959 10EC5-10EC7 10ED0-10ED8 10EFA-10EFB 11B60-11B67 11DB0-11DDB 11DE0-11DE9
  16EA0-16EB8 16EBB-16ED3 16FF2-16FF6 187F8-187FF 18D09-18D1E 18D80-18DF2 1CCFA-1CCFC 1CEBA-1CED0
  1CEE0-1CEF0 1E6C0-1E6DE 1E6E0-1E6F5 1E6FE-1E6FF 1F6D8 1F777-1F77A 1F8D0-1F8D8 1FA54-1FA57 1FA8A
  1FA8E 1FAC8 1FACD 1FAEA 1FAEF 1FBFA 2B73A-2B73F 2CEA2-2CEAD 323B0-33479"

/-- Letters of alphabets and other scripts, and marks that belong to them. -/
def alphabetic : CharSet :=
  Unicode.alphabetic.union newAlphabetic

/-- Numbers. -/
def number : CharSet :=
  Unicode.number.union newNumber

/-- Marks that extend the character before them. -/
def graphemeExtend : CharSet :=
  Unicode.graphemeExtend.union newGraphemeExtend

/-- Characters that leave no trace of their own on a page: blanks, controls, formats, private use
and what is not assigned. -/
def invisible : CharSet :=
  (other.union separator).difference newAssigned

end DocumentSchema.Text.Unicode.Newest

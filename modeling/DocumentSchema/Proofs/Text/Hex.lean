import DocumentSchema.Value.ObjectId

/-!
The written form of identifiers.

Writing and reading bytes in base sixteen undo each other, so an identifier has exactly one text and
a text at most one identifier. That text is twenty-four lower-case hexadecimal digits. Identifiers
are read from the bytes of a text, first checked and then decoded without a check; that is the same
as reading pairs of digits that are checked on the way (`ObjectId.ofText?_eq_bind`).
-/

namespace DocumentSchema

namespace Text

/-- One of the digits `0` to `9` and the letters `a` to `f`. -/
def IsHexDigit (c : Char) : Prop :=
  ('0' ≤ c ∧ c ≤ '9') ∨ ('a' ≤ c ∧ c ≤ 'f')

/-- Every number below sixteen is read back from its digit. -/
theorem hexValue?_hexDigit : ∀ n : Fin 16, hexValue? (hexDigit n) = some n.val := by
  decide

/-- The digits that are written are digits. -/
theorem isHexDigit_hexDigit : ∀ n : Fin 16, IsHexDigit (hexDigit n) := by
  unfold IsHexDigit
  decide

/-- A digit that is read is the one of its number. -/
theorem hexDigit_of_hexValue? {c : Char} {n : Nat} (value : hexValue? c = some n) :
    n < 16 ∧ hexDigit n = c := by
  unfold hexValue? at value
  split at value
  · next decimal =>
    obtain ⟨low, high⟩ := decimal
    have lower : 48 ≤ c.toNat := low
    have upper : c.toNat ≤ 57 := high
    have digit : c.toNat - 48 = n := Option.some.inj value
    refine ⟨by omega, ?_⟩
    have code : '0'.toNat + n = c.toNat := by
      have zero : '0'.toNat = 48 := rfl
      omega
    rw [hexDigit, if_pos (by omega), code, Char.ofNat_toNat]
  · split at value
    · next letter =>
      obtain ⟨low, high⟩ := letter
      have lower : 97 ≤ c.toNat := low
      have upper : c.toNat ≤ 102 := high
      have digit : c.toNat - 97 + 10 = n := Option.some.inj value
      refine ⟨by omega, ?_⟩
      have code : 'a'.toNat + (n - 10) = c.toNat := by
        have first : 'a'.toNat = 97 := rfl
        omega
      rw [hexDigit, if_neg (by omega), code, Char.ofNat_toNat]
    · cases value

/-- Bytes are read back from their digits. -/
theorem bytesOfHex?_hexOfBytes (bytes : List UInt8) :
    bytesOfHex? (hexOfBytes bytes) = some bytes := by
  induction bytes with
  | nil => rfl
  | cons b rest ih =>
    have small : b.toNat < 256 := b.toNat_lt
    have high := hexValue?_hexDigit ⟨b.toNat / 16, by omega⟩
    have low := hexValue?_hexDigit ⟨b.toNat % 16, by omega⟩
    have whole : 16 * (b.toNat / 16) + b.toNat % 16 = b.toNat := by omega
    simp only at high low
    rw [hexOfBytes, bytesOfHex?, high, low, ih]
    simp only [Option.bind_eq_bind, Option.bind_some, whole, UInt8.ofNat_toNat, Option.pure_def]

/-- Digits that are read are those of the bytes they are read as. -/
theorem hexOfBytes_of_bytesOfHex? {cs : List Char} {bytes : List UInt8}
    (read : bytesOfHex? cs = some bytes) : hexOfBytes bytes = cs := by
  fun_induction bytesOfHex? cs generalizing bytes with
  | case1 =>
    cases read
    rfl
  | case2 => cases read
  | case3 high low rest ih =>
    simp only [Option.bind_eq_bind, Option.bind_eq_some_iff, Option.pure_def,
      Option.some.injEq] at read
    obtain ⟨h, highValue, l, lowValue, others, othersRead, rfl⟩ := read
    obtain ⟨hSmall, hDigit⟩ := hexDigit_of_hexValue? highValue
    obtain ⟨lSmall, lDigit⟩ := hexDigit_of_hexValue? lowValue
    have number : (UInt8.ofNat (16 * h + l)).toNat = 16 * h + l := by
      rw [UInt8.toNat_ofNat']
      omega
    rw [hexOfBytes, number, ih othersRead, show (16 * h + l) / 16 = h by omega,
      show (16 * h + l) % 16 = l by omega, hDigit, lDigit]

/-- Each byte takes two digits. -/
theorem length_hexOfBytes (bytes : List UInt8) :
    (hexOfBytes bytes).length = 2 * bytes.length := by
  induction bytes with
  | nil => rfl
  | cons b rest ih =>
    rw [hexOfBytes, List.length_cons, List.length_cons, List.length_cons, ih]
    omega

/-- Bytes are written with digits alone. -/
theorem isHexDigit_of_mem_hexOfBytes {bytes : List UInt8} {c : Char}
    (member : c ∈ hexOfBytes bytes) : IsHexDigit c := by
  induction bytes with
  | nil => cases member
  | cons b rest ih =>
    have small : b.toNat < 256 := b.toNat_lt
    rw [hexOfBytes, List.mem_cons, List.mem_cons] at member
    rcases member with rfl | rfl | later
    · exact isHexDigit_hexDigit ⟨b.toNat / 16, by omega⟩
    · exact isHexDigit_hexDigit ⟨b.toNat % 16, by omega⟩
    · exact ih later

/-- The characters that are read as numbers are the digits. -/
theorem exists_hexValue?_iff {c : Char} : (∃ n, hexValue? c = some n) ↔ IsHexDigit c := by
  unfold hexValue? IsHexDigit
  split
  · exact iff_of_true ⟨_, rfl⟩ (.inl ‹_›)
  · split
    · exact iff_of_true ⟨_, rfl⟩ (.inr ‹_›)
    · exact iff_of_false (by simp) (not_or.2 ⟨‹_›, ‹_›⟩)

/-- The texts of a number of bytes are the runs of twice as many digits. -/
theorem exists_bytesOfHex?_iff {cs : List Char} (count : Nat) :
    (∃ bytes, bytesOfHex? cs = some bytes ∧ bytes.length = count) ↔
      cs.length = 2 * count ∧ ∀ c ∈ cs, IsHexDigit c := by
  constructor
  · rintro ⟨bytes, read, rfl⟩
    rw [← hexOfBytes_of_bytesOfHex? read]
    exact ⟨length_hexOfBytes bytes, fun c => isHexDigit_of_mem_hexOfBytes⟩
  · rintro ⟨length, digits⟩
    induction count generalizing cs with
    | zero =>
      rw [Nat.mul_zero, List.length_eq_zero_iff] at length
      subst length
      exact ⟨[], rfl, rfl⟩
    | succ count ih =>
      obtain ⟨high, cs, rfl⟩ := List.exists_cons_of_length_pos (by omega : 0 < cs.length)
      rw [List.length_cons] at length
      obtain ⟨low, cs, rfl⟩ := List.exists_cons_of_length_pos (by omega : 0 < cs.length)
      rw [List.length_cons] at length
      rw [List.forall_mem_cons, List.forall_mem_cons] at digits
      obtain ⟨highDigit, lowDigit, digits⟩ := digits
      obtain ⟨h, highValue⟩ := exists_hexValue?_iff.2 highDigit
      obtain ⟨l, lowValue⟩ := exists_hexValue?_iff.2 lowDigit
      obtain ⟨bytes, read, rfl⟩ := ih (by omega) digits
      refine ⟨UInt8.ofNat (16 * h + l) :: bytes, ?_, rfl⟩
      simp [bytesOfHex?, highValue, lowValue, read]

end Text

namespace ObjectId

variable {c : Char} {cs : List Char} {text : String}

/-! ## Bytes of texts -/

/-- The byte of a character that takes only one. -/
def byte (c : Char) : UInt8 :=
  UInt8.ofNat c.toNat

/-- The bytes of a text are those of its characters. -/
theorem bytes_eq_flatMap (text : String) :
    text.toUTF8.data.toList = text.toList.flatMap String.utf8EncodeChar := by
  rw [String.toUTF8, ← String.utf8Encode_toList, List.utf8Encode]
  exact List.toList_data_toByteArray

/-- The bytes that pass are the codes of `0` to `9` and `a` to `f`. -/
theorem isDigit_ofNat_iff {n : Nat} (small : n < 256) :
    isDigit (UInt8.ofNat n) = true ↔ (48 ≤ n ∧ n ≤ 57) ∨ (97 ≤ n ∧ n ≤ 102) := by
  simp [isDigit, UInt8.le_iff_toNat_le, Nat.mod_eq_of_lt small]

/-- A character that takes several bytes begins with one that is no digit. -/
theorem not_all_isDigit {n : Nat} (large : 128 ≤ n) (small : n < 256) (rest : List UInt8) :
    ¬(UInt8.ofNat n :: rest).all isDigit = true := by
  rw [List.all_cons, Bool.and_eq_true, isDigit_ofNat_iff small]
  omega

/-- The bytes of a character are digits exactly if it is one. -/
theorem all_isDigit_iff : (String.utf8EncodeChar c).all isDigit = true ↔ Text.IsHexDigit c := by
  have code : Text.IsHexDigit c ↔
      (48 ≤ c.val.toNat ∧ c.val.toNat ≤ 57) ∨ (97 ≤ c.val.toNat ∧ c.val.toNat ≤ 102) := Iff.rfl
  rw [code]
  unfold String.utf8EncodeChar
  dsimp only
  split
  · rw [List.all_cons, List.all_nil, Bool.and_true, isDigit_ofNat_iff (by omega)]
  · split
    · exact iff_of_false (not_all_isDigit (by omega) (by omega) _) (by omega)
    · split
      · exact iff_of_false (not_all_isDigit (by omega) (by omega) _) (by omega)
      · exact iff_of_false (not_all_isDigit (by omega) (by omega) _) (by omega)

/-- A digit takes one byte. -/
theorem utf8EncodeChar_of_isHexDigit (digit : Text.IsHexDigit c) :
    String.utf8EncodeChar c = [byte c] := by
  have small : c.toNat ≤ 127 := by
    rcases digit with ⟨-, high⟩ | ⟨-, high⟩
    · exact Nat.le_trans high (by decide)
    · exact Nat.le_trans high (by decide)
  exact if_pos small

/-- Each digit is one byte. -/
theorem bytes_of_digits (digits : ∀ c ∈ text.toList, Text.IsHexDigit c) :
    text.toUTF8.data.toList = text.toList.map byte := by
  rw [bytes_eq_flatMap, List.map_eq_flatMap]
  exact congrArg List.flatten (List.map_congr_left fun c member =>
    utf8EncodeChar_of_isHexDigit (digits c member))

/-- The bytes of a text are checked to be twenty-four digits. -/
theorem isValid_iff :
    isValid text = true ↔ text.toList.length = 24 ∧ ∀ c ∈ text.toList, Text.IsHexDigit c := by
  have all : text.toUTF8.data.toList.all isDigit = true ↔ ∀ c ∈ text.toList, Text.IsHexDigit c := by
    rw [bytes_eq_flatMap, List.all_flatMap, List.all_eq_true]
    exact forall₂_congr fun c _ => all_isDigit_iff
  have size : text.utf8ByteSize = text.toUTF8.data.toList.length := rfl
  rw [isValid, Bool.and_eq_true, all, beq_iff_eq, size]
  refine and_congr_left fun digits => ?_
  rw [bytes_of_digits digits, List.length_map]

/-! ## Decoding -/

/-- The byte of a digit stands for the number of the digit. -/
theorem digitValue_byte_hexDigit :
    ∀ n : Fin 16, digitValue (byte (Text.hexDigit n)) = UInt8.ofNat n := by
  decide

/-- Shifting and joining two halves of a byte is counting in sixteens. -/
theorem halves_eq : ∀ h l : Fin 16,
    UInt8.ofNat h <<< 4 ||| UInt8.ofNat l = UInt8.ofNat (16 * h + l) := by
  decide

/-- Decoding needs no check where the reader of pairs of digits finds bytes. -/
theorem decode_of_bytesOfHex? {bytes : List UInt8} (read : Text.bytesOfHex? cs = some bytes) :
    decode (cs.map byte) = bytes := by
  fun_induction Text.bytesOfHex? cs generalizing bytes with
  | case1 =>
    cases read
    rfl
  | case2 => cases read
  | case3 high low rest ih =>
    simp only [Option.bind_eq_bind, Option.bind_eq_some_iff, Option.pure_def,
      Option.some.injEq] at read
    obtain ⟨h, highValue, l, lowValue, others, othersRead, rfl⟩ := read
    obtain ⟨hSmall, rfl⟩ := Text.hexDigit_of_hexValue? highValue
    obtain ⟨lSmall, rfl⟩ := Text.hexDigit_of_hexValue? lowValue
    rw [List.map_cons, List.map_cons, decode, ih othersRead,
      digitValue_byte_hexDigit ⟨h, hSmall⟩, digitValue_byte_hexDigit ⟨l, lSmall⟩,
      halves_eq ⟨h, hSmall⟩ ⟨l, lSmall⟩]

/-- Checking the bytes of a text and decoding them is reading it by pairs of digits. -/
theorem ofText?_eq_bind (text : String) :
    ofText? text = (Text.bytesOfHex? text.toList).bind ofBytes? := by
  unfold ofText?
  split
  · next valid =>
    have written := isValid_iff.1 valid
    obtain ⟨bytes, read, -⟩ := (Text.exists_bytesOfHex?_iff 12).2 written
    rw [bytes_of_digits written.2, decode_of_bytesOfHex? read, read, Option.bind_some]
  · next invalid =>
    refine (Option.bind_eq_none_iff.2 fun bytes read => ?_).symm
    refine dif_neg fun length => invalid (isValid_iff.2 ?_)
    exact (Text.exists_bytesOfHex?_iff 12).1 ⟨bytes, read, length⟩

/-! ## Texts -/

/-- An identifier is read back from its text. -/
theorem ofText?_hex (i : ObjectId) : ofText? i.hex = some i := by
  rw [ofText?_eq_bind, hex, String.toList_ofList, Text.bytesOfHex?_hexOfBytes, Option.bind_some,
    ofBytes?, dif_pos i.length_eq]

/-- A text is that of the identifier it is read as. -/
theorem hex_of_ofText? {i : ObjectId} (read : ofText? text = some i) : i.hex = text := by
  rw [ofText?_eq_bind] at read
  obtain ⟨bytes, bytesRead, made⟩ := Option.bind_eq_some_iff.1 read
  unfold ofBytes? at made
  split at made
  · cases made
    rw [hex, Text.hexOfBytes_of_bytesOfHex? bytesRead, String.ofList_toList]
  · cases made

/-- The text of an identifier has twenty-four characters. -/
theorem length_hex (i : ObjectId) : i.hex.toList.length = 24 := by
  rw [hex, String.toList_ofList, Text.length_hexOfBytes, i.length_eq]

/-- The text of an identifier has digits alone. -/
theorem isHexDigit_of_mem_hex {i : ObjectId} {c : Char} (member : c ∈ i.hex.toList) :
    Text.IsHexDigit c := by
  rw [hex, String.toList_ofList] at member
  exact Text.isHexDigit_of_mem_hexOfBytes member

end ObjectId

end DocumentSchema

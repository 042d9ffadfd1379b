import DocumentSchema.Numeric.Power
import DocumentSchema.Text.Hex

/-!
Document identifiers: twelve bytes, written as twenty-four lower-case hexadecimal digits.

`ObjectId.isValid` checks the bytes of a text for that form, so that `ObjectId.decode` need not
check again; `ObjectId.ofText?` does one after the other. `ObjectId.hex` writes the form, and
`ObjectId.compare` orders identifiers byte by byte.
-/

namespace DocumentSchema

/-- A document identifier. -/
structure ObjectId where
  bytes : List UInt8
  length_eq : bytes.length = 12
  deriving DecidableEq

namespace ObjectId

/-- The last four bytes of a number, the greatest first. -/
def fourBytes (n : Nat) : List UInt8 :=
  [.ofNat (n / 2 ^ 24), .ofNat (n / 2 ^ 16), .ofNat (n / 2 ^ 8), .ofNat n]

/-- A new identifier: the seconds since the start of 1970 and random bytes. -/
def minted (seconds : Int) (random : Vector UInt8 8) : ObjectId :=
  ⟨fourBytes (seconds % 2 ^ 32).toNat ++ random.toList, by simp [fourBytes]⟩

/-- The identifier of twelve bytes. -/
def ofBytes? (bytes : List UInt8) : Option ObjectId :=
  if h : bytes.length = 12 then some ⟨bytes, h⟩ else none

/-- Whether a byte is one of the digits `0` to `9` or the letters `a` to `f`. -/
def isDigit (b : UInt8) : Bool :=
  (48 ≤ b && b ≤ 57) || (97 ≤ b && b ≤ 102)

/-- Whether a text is the written form of an identifier: twenty-four bytes, all of them digits. -/
def isValid (text : String) : Bool :=
  text.utf8ByteSize == 24 && text.toUTF8.data.toList.all isDigit

/-- The number a digit stands for; any other byte is taken for a letter. -/
def digitValue (b : UInt8) : UInt8 :=
  if 48 ≤ b ∧ b ≤ 57 then b - 48 else b - 97 + 10

/-- The bytes that pairs of digits write, the high half first. -/
def decode : List UInt8 → List UInt8
  | high :: low :: rest => (digitValue high <<< 4 ||| digitValue low) :: decode rest
  | _ => []

/-- The identifier that a text is the written form of. -/
def ofText? (text : String) : Option ObjectId :=
  if isValid text then ofBytes? (decode text.toUTF8.data.toList) else none

/-- The written form. -/
def hex (id : ObjectId) : String :=
  String.ofList (Text.hexOfBytes id.bytes)

/-- Byte by byte, the first byte weighing most. -/
def compare (a b : ObjectId) : Ordering :=
  go a.bytes b.bytes
where
  go : List UInt8 → List UInt8 → Ordering
  | [], [] => .eq
  | [], _ :: _ => .lt
  | _ :: _, [] => .gt
  | a :: as, b :: bs => if a < b then .lt else if b < a then .gt else go as bs

/-- What is said of a text that is no identifier. -/
def invalidMessage (text : String) : String :=
  "invalid object id '" ++ text ++ "': expected 24 lowercase hex characters"

end ObjectId

end DocumentSchema

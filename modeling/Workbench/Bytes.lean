/-!
Byte strings.  Texts of the wire are handled as lists of octets; large opaque blobs (file contents,
piped data) stay in a `ByteArray` and are viewed as lists where their octets matter.
-/

namespace Workbench

/-- A string of octets. -/
abbrev Bytes := List UInt8

/-- Blobs are equal when their octets are. -/
instance Blob.decidableEq : DecidableEq ByteArray := fun a b =>
  decidable_of_iff (a.data = b.data) ByteArray.ext_iff.symm

/-- The octets of a blob, in order. -/
def Blob.toBytes (blob : ByteArray) : Bytes := blob.data.toList

/-- The blob that holds the given octets. -/
def Blob.ofBytes (bytes : Bytes) : ByteArray := ⟨bytes.toArray⟩

theorem Blob.toBytes_ofBytes (bytes : Bytes) : Blob.toBytes (Blob.ofBytes bytes) = bytes := by
  simp [Blob.toBytes, Blob.ofBytes]

theorem Blob.ofBytes_toBytes (blob : ByteArray) : Blob.ofBytes (Blob.toBytes blob) = blob := by
  simp [Blob.toBytes, Blob.ofBytes]

namespace Bytes

/-- The UTF-8 form of a text. -/
def ofText (text : String) : Bytes := Blob.toBytes text.toUTF8

/-- `count` octets of `n`, most significant first. -/
def bigEndian : (count : Nat) → (n : Nat) → Bytes
  | 0, _ => []
  | count + 1, n => UInt8.ofNat (n >>> (8 * count)) :: bigEndian count n

/-- The number whose octets, most significant first, are given. -/
def toNat (bytes : Bytes) : Nat :=
  bytes.foldl (fun n b => n * 256 + b.toNat) 0

theorem length_bigEndian (count n : Nat) : (bigEndian count n).length = count := by
  induction count with
  | zero => rfl
  | succ count ih => simp [bigEndian, ih]

/-- A lower-case hexadecimal digit. -/
def hexDigit (n : Nat) : Char :=
  if n < 10 then Char.ofNat (48 + n) else Char.ofNat (87 + n)

/-- Two lower-case hexadecimal digits for each octet. -/
def hex (bytes : Bytes) : String :=
  String.ofList (bytes.flatMap fun b => [hexDigit (b.toNat / 16), hexDigit (b.toNat % 16)])

/-- The value of a hexadecimal digit of either case. -/
def hexValue? (c : Char) : Option Nat :=
  if '0' ≤ c ∧ c ≤ '9' then some (c.toNat - 48)
  else if 'a' ≤ c ∧ c ≤ 'f' then some (c.toNat - 87)
  else if 'A' ≤ c ∧ c ≤ 'F' then some (c.toNat - 55)
  else none

/-- Reads pairs of hexadecimal digits. -/
def ofHexDigits? : List Char → Option Bytes
  | [] => some []
  | a :: b :: rest => do
    let high ← hexValue? a
    let low ← hexValue? b
    let tail ← ofHexDigits? rest
    return UInt8.ofNat (high * 16 + low) :: tail
  | [_] => none

/-- Reads a text of pairs of hexadecimal digits. -/
def ofHex? (text : String) : Option Bytes := ofHexDigits? text.toList

end Bytes

end Workbench

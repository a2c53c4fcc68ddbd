import Workbench.Datum

/-!
CBOR writing: definite lengths, integers and heads as short as they go, and doubles at the least of
three widths that holds them exactly.
-/

namespace Workbench.Cbor

/-- The major types of an item's head. -/
inductive Major where
  | natural
  | negative
  | bytes
  | text
  | array
  | map
  | tag
  | simple
deriving DecidableEq, Repr

def Major.code : Major → Nat
  | natural => 0
  | negative => 1
  | bytes => 2
  | text => 3
  | array => 4
  | map => 5
  | tag => 6
  | simple => 7

/-- The first octet of a head. -/
def lead (major : Major) (low : Nat) : UInt8 := UInt8.ofNat (major.code * 32 + low)

/-- A head with its argument in as few octets as it needs. -/
def head (major : Major) (n : Nat) : Bytes :=
  if n < 24 then [lead major n]
  else if n < 0x100 then lead major 24 :: Bytes.bigEndian 1 n
  else if n < 0x10000 then lead major 25 :: Bytes.bigEndian 2 n
  else if n < 0x100000000 then lead major 26 :: Bytes.bigEndian 4 n
  else lead major 27 :: Bytes.bigEndian 8 n

/-- An integer of either sign. -/
def integer (n : Int) : Bytes :=
  if 0 ≤ n then head .natural n.toNat else head .negative (-n - 1).toNat

/-- A binary floating-point format by its field widths. -/
structure FloatFormat where
  exponentBits : Nat
  fractionBits : Nat
deriving DecidableEq, Repr

/-- Two octets. -/
def half : FloatFormat := ⟨5, 10⟩

/-- Four octets. -/
def single : FloatFormat := ⟨8, 23⟩

namespace FloatFormat

/-- The weight of the leading digit that normal numbers do not store, above the fraction. -/
def hiddenBit (f : FloatFormat) : Nat := 1 <<< f.fractionBits

/-- The weight of the sign bit, above all bits of the magnitude. -/
def signBit (f : FloatFormat) : Nat := 1 <<< (f.exponentBits + f.fractionBits)

/-- The magnitude bits of the infinities; those of not-a-number lie above. -/
def infiniteBits (f : FloatFormat) : Nat := f.signBit - f.hiddenBit

/-- What is added to exponents before they are stored. -/
def bias (f : FloatFormat) : Nat := 1 <<< (f.exponentBits - 1) - 1

/-- The exponent of the last place of the smallest numbers. -/
def leastExponent (f : FloatFormat) : Int := 1 - (f.bias : Int) - f.fractionBits

/-- Widens stored bits to a double; every number of a smaller format is one. -/
def widen (f : FloatFormat) (bits : Nat) : Binary64 :=
  let sign := decide (f.signBit ≤ bits)
  let magnitude := bits % f.signBit
  let exponent := magnitude / f.hiddenBit
  let fraction := magnitude % f.hiddenBit
  if f.infiniteBits ≤ magnitude then
    if fraction = 0 then Binary64.infinity sign
    else Binary64.withSign sign (Binary64.infiniteBits + fraction <<< (52 - f.fractionBits))
  else
    let (m, e) : Nat × Int :=
      if exponent = 0 then (fraction, f.leastExponent)
      else (f.hiddenBit + fraction, f.leastExponent + (exponent - 1 : Nat))
    let (num, den) := Binary64.fraction m e
    Binary64.nearest sign num den

/-- The stored magnitude bits of a finite `m * 2 ^ e`, if the format has room for it. -/
def finiteBits? (f : FloatFormat) (m : Nat) (e : Int) : Option Nat :=
  let (num, den) := Binary64.scaled m 1 (e - f.leastExponent)
  if num % den ≠ 0 then none
  else
    let units := num / den
    let excess := Nat.log2 units - f.fractionBits
    let significand := units >>> excess
    if significand <<< excess ≠ units then none
    else
      let bits := excess * f.hiddenBit + significand
      if bits < f.infiniteBits then some bits else none

/-- The stored bits that widen to a double, if there are any. -/
def narrow? (f : FloatFormat) (x : Binary64) : Option Nat :=
  let sign := if x.negative then f.signBit else 0
  let magnitude := match x.magnitude with
    | .finite m e => f.finiteBits? m e
    | .infinite => some f.infiniteBits
    | .nan => some (f.infiniteBits + (x.magnitudeBits % Binary64.hiddenBit) >>> (52 - f.fractionBits))
  magnitude.bind fun bits =>
    if f.widen (sign + bits) = x then some (sign + bits) else none

end FloatFormat

/-- A double at the least width that holds it exactly. -/
def double (x : Binary64) : Bytes :=
  match half.narrow? x with
  | some bits => lead .simple 25 :: Bytes.bigEndian 2 bits
  | none =>
    match single.narrow? x with
    | some bits => lead .simple 26 :: Bytes.bigEndian 4 bits
    | none => lead .simple 27 :: Bytes.bigEndian 8 x.bits.toNat

mutual
/-- The octets of a datum. -/
def encode : Datum → Bytes
  | .null => [lead .simple 22]
  | .bool b => [lead .simple (if b then 21 else 20)]
  | .int n => integer n.val
  | .double x => double x
  | .text s => let b := Bytes.ofText s; head .text b.length ++ b
  | .bytes b => head .bytes b.length ++ b
  | .seq items => head .array items.length ++ encodeItems items
  | .map entries => head .map entries.length ++ encodeEntries entries

def encodeItems : List Datum → Bytes
  | [] => []
  | item :: rest => encode item ++ encodeItems rest

def encodeEntries : List (Datum × Datum) → Bytes
  | [] => []
  | (key, value) :: rest => encode key ++ encode value ++ encodeEntries rest
end

end Workbench.Cbor

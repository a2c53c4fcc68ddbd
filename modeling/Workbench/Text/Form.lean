import Workbench.Text.Utf8

/-!
Form-encoded pairs: keys and values with `=` between them, pairs with `&` between them, a plus sign for
a blank and a percent sign before two hexadecimal digits for any octet.
-/

namespace Workbench.Form

/-- The octets of the marks. -/
def ampersand : UInt8 := 38
def equals : UInt8 := 61
def plus : UInt8 := 43
def percent : UInt8 := 37
def blank : UInt8 := 32

/-- The value of a hexadecimal digit's octet. -/
def digit? (octet : UInt8) : Option Nat := Bytes.hexValue? (Char.ofNat octet.toNat)

/-- Octets with percent signs resolved; a percent sign without two digits stands for itself. -/
def percentDecode : Bytes → Bytes
  | [] => []
  | [a] => [a]
  | [a, b] => [a, b]
  | a :: b :: c :: rest =>
    match if a = percent then (digit? b).bind fun h => (digit? c).map (h * 16 + ·) else none with
    | some n => UInt8.ofNat n :: percentDecode rest
    | none => a :: percentDecode (b :: c :: rest)

/-- A key or a value as a text. -/
def decode (octets : Bytes) : String :=
  Utf8.decodeLossy (percentDecode (octets.map fun b => if b = plus then blank else b))

/-- Octets up to a mark, and those after it. -/
def cut (mark : UInt8) : Bytes → Bytes × Bytes
  | [] => ([], [])
  | b :: rest =>
    if b = mark then ([], rest) else
      let (before, after) := cut mark rest
      (b :: before, after)

/-- Octets between marks. -/
def split (mark : UInt8) : Bytes → List Bytes
  | [] => [[]]
  | b :: rest =>
    if b = mark then [] :: split mark rest
    else
      match split mark rest with
      | [] => [[b]]
      | part :: parts => (b :: part) :: parts

/-- The pairs of a form; where nothing stands between two marks there is no pair. -/
def parse (octets : Bytes) : List (String × String) :=
  ((split ampersand octets).filter fun part => !part.isEmpty).map fun part =>
    let (key, value) := cut equals part
    (decode key, decode value)

/-- An octet that stands for itself. -/
def isPlain (b : UInt8) : Bool :=
  let n := b.toNat
  (48 ≤ n && n ≤ 57) || (65 ≤ n && n ≤ 90) || (97 ≤ n && n ≤ 122)
    || n == 42 || n == 45 || n == 46 || n == 95

/-- The octet of an upper-case hexadecimal digit. -/
def hexOctet (n : Nat) : UInt8 := UInt8.ofNat (if n < 10 then 48 + n else 55 + n)

/-- The written form of one octet. -/
def encodeOctet (b : UInt8) : Bytes :=
  if isPlain b then [b]
  else if b = blank then [plus]
  else [percent, hexOctet (b.toNat / 16), hexOctet (b.toNat % 16)]

/-- The written form of a key or a value. -/
def encode (text : String) : Bytes := (Bytes.ofText text).flatMap encodeOctet

/-- The written form of pairs. -/
def write : List (String × String) → Bytes
  | [] => []
  | [(k, v)] => encode k ++ equals :: encode v
  | (k, v) :: rest => encode k ++ equals :: encode v ++ ampersand :: write rest

end Workbench.Form

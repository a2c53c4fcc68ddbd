import Workbench.Bytes

/-!
Base64 with the plus-and-slash alphabet.  Padding is required and canonical, and the bits of the last
symbol that carry nothing must be zero, so each byte string has one written form.
-/

namespace Workbench.Base64

/-- Why a text is not base64.  Offsets count octets of the text. -/
inductive Failure where
  | symbol (octet : UInt8) (offset : Nat)
  | lastSymbol (octet : UInt8) (offset : Nat)
  | padding
  | length (n : Nat)
deriving DecidableEq, Repr

def Failure.message : Failure → String
  | symbol octet offset => s!"Invalid symbol {octet}, offset {offset}."
  | lastSymbol octet offset => s!"Invalid last symbol {octet}, offset {offset}."
  | padding => "Invalid padding"
  | length n => s!"Invalid input length: {n}"

/-- The symbol of six bits. -/
def symbol (n : Nat) : Char :=
  if n < 26 then Char.ofNat (65 + n)
  else if n < 52 then Char.ofNat (71 + n)
  else if n < 62 then Char.ofNat (n - 4)
  else if n = 62 then '+'
  else '/'

/-- The six bits of a symbol's octet. -/
def value? (octet : UInt8) : Option Nat :=
  let n := octet.toNat
  if 65 ≤ n ∧ n ≤ 90 then some (n - 65)
  else if 97 ≤ n ∧ n ≤ 122 then some (n - 71)
  else if 48 ≤ n ∧ n ≤ 57 then some (n + 4)
  else if n = 43 then some 62
  else if n = 47 then some 63
  else none

/-- The octet that pads. -/
def pad : UInt8 := 61

/-- Symbols for octets, three at a time, put before those already written, which are in reverse. -/
def encodeOnto : (soFar : List Char) → Bytes → List Char
  | s, [] => s.reverse
  | s, [a] => ('=' :: '=' :: symbol (a.toNat % 4 * 16) :: symbol (a.toNat / 4) :: s).reverse
  | s, [a, b] =>
    ('=' :: symbol (b.toNat % 16 * 4) :: symbol (a.toNat % 4 * 16 + b.toNat / 16) ::
      symbol (a.toNat / 4) :: s).reverse
  | s, a :: b :: c :: rest =>
    encodeOnto (symbol (c.toNat % 64) :: symbol (b.toNat % 16 * 4 + c.toNat / 64) ::
      symbol (a.toNat % 4 * 16 + b.toNat / 16) :: symbol (a.toNat / 4) :: s) rest

/-- The written form of octets. -/
def encode (b : Bytes) : String := String.ofList (encodeOnto [] b)

/-- The bits of a symbol at an offset. -/
def valueAt (offset : Nat) (octet : UInt8) : Except Failure Nat :=
  match value? octet with
  | some n => .ok n
  | none => .error (.symbol octet offset)

/-- Three octets of four symbols. -/
def unpack (a b c d : Nat) : Bytes :=
  [UInt8.ofNat (a * 4 + b / 16), UInt8.ofNat (b % 16 * 16 + c / 4), UInt8.ofNat (c % 4 * 64 + d)]

/-- Reads full groups of four symbols.  Yields the octets in reverse and what is left of the text. -/
def groups : (count offset : Nat) → (soFar : Bytes) → Bytes → Except Failure (Bytes × Bytes)
  | 0, _, s, rest => .ok (s, rest)
  | count + 1, offset, s, a :: b :: c :: d :: rest => do
    let a ← valueAt offset a
    let b ← valueAt (offset + 1) b
    let c ← valueAt (offset + 2) c
    let d ← valueAt (offset + 3) d
    groups count (offset + 4) ((unpack a b c d).reverse ++ s) rest
  | _, _, s, rest => .ok (s, rest)

/-- The last group as read: its symbols with their octets, and the padding after them. -/
structure Tail where
  symbols : List (UInt8 × Nat) := []
  padding : Nat := 0
  firstPad : Nat := 0

/-- Reads the last group, symbol by symbol: padding stands only after two symbols and ends the text. -/
def tail (start : Nat) : (index : Nat) → Tail → Bytes → Except Failure Tail
  | _, t, [] => .ok t
  | index, t, octet :: rest =>
    if octet = pad then
      if index < 2 then .error (.symbol octet (start + index))
      else
        tail start (index + 1)
          { t with padding := t.padding + 1, firstPad := if t.padding = 0 then index else t.firstPad } rest
    else if 0 < t.padding then .error (.symbol pad (start + t.firstPad))
    else do
      let n ← valueAt (start + index) octet
      tail start (index + 1) { t with symbols := t.symbols ++ [(octet, n)] } rest

/-- Closes the last group. -/
def finish (empty : Bool) (start : Nat) (t : Tail) : Except Failure Bytes :=
  let count := t.symbols.length
  if !empty && count < 2 then .error (.length (start + count))
  else if (t.padding + count) % 4 ≠ 0 then .error .padding
  else
    let octets := count * 6 / 8
    let bits := (t.symbols.map (·.2)) ++ List.replicate (4 - count) 0
    let whole := bits.foldl (fun n b => n * 64 + b) 0
    let unused := 1 <<< (8 * (3 - octets))
    if whole % unused ≠ 0 then
      match t.symbols.getLast? with
      | some (octet, _) => .error (.lastSymbol octet (start + count - 1))
      | none => .ok []
    else .ok ((Bytes.bigEndian 3 whole).take octets)

/-- Reads the octets that a text's octets write. -/
def decode (text : Bytes) : Except Failure Bytes :=
  let n := text.length
  let extra := n % 4
  let stray := match text.getLast? with
    | some octet => if extra = 1 ∧ octet ≠ pad ∧ value? octet = none then some octet else none
    | none => none
  match stray with
  | some octet => .error (.symbol octet (n - 1))
  | none => do
    let count := if extra = 0 then n / 4 - 1 else n / 4
    let (octets, rest) ← groups count 0 [] text
    let t ← tail (count * 4) 0 {} rest
    let last ← finish text.isEmpty (count * 4) t
    return octets.reverse ++ last

/-- Reads the octets that a text writes. -/
def decodeText (text : String) : Except Failure Bytes := decode (Bytes.ofText text)

end Workbench.Base64

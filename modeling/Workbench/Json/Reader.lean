import Workbench.Bytes
import Workbench.Json
import Workbench.Number.Decimal

/-!
Reading of JSON text.  Arrays and objects nest at most 127 deep; of a key given twice the last value
stays; integers outside the 64-bit words and all numbers with a point or an exponent are doubles.
-/

namespace Workbench.Json.Reader

/-- Blanks between tokens. -/
def isBlank (c : Char) : Bool := c = ' ' || c = '\t' || c = '\n' || c = '\r'

def skipBlanks (cs : List Char) : List Char := cs.dropWhile isBlank

def digitValue? (c : Char) : Option Nat :=
  if '0' ≤ c ∧ c ≤ '9' then some (c.toNat - 48) else none

/-- Digits are taken into the significand as long as it fits 64 bits.  Yields the significand, how many
digits were taken, and the rest. -/
def takeDigits : (significand taken : Nat) → List Char → Nat × Nat × List Char
  | s, n, c :: rest =>
    match digitValue? c with
    | some d => if s * 10 + d < 0x10000000000000000 then takeDigits (s * 10 + d) (n + 1) rest else (s, n, c :: rest)
    | none => (s, n, c :: rest)
  | s, n, [] => (s, n, [])

/-- Digits that no longer fit are counted and dropped. -/
def dropDigits (cs : List Char) : Nat × List Char :=
  let dropped := cs.takeWhile (digitValue? · |>.isSome)
  (dropped.length, cs.drop dropped.length)

def signed (negative : Bool) (x : Binary64) : Json := .double (if negative then x.neg else x)

/-- The exponent part, if one stands here, and with it the number. -/
def exponentPart (negative : Bool) (significand : Nat) (exponent : Int) (cs : List Char) :
    Option (Json × List Char) :=
  match cs with
  | 'e' :: rest | 'E' :: rest =>
    let (minus, rest) := match rest with
      | '+' :: r => (false, r)
      | '-' :: r => (true, r)
      | r => (false, r)
    let ds := rest.takeWhile (digitValue? · |>.isSome)
    if ds.isEmpty then none
    else
      let after := rest.drop ds.length
      let n : Nat := ds.foldl (fun n c => n * 10 + (c.toNat - 48)) 0
      if 0x80000000 ≤ n then
        if significand ≠ 0 ∧ ¬minus then none else some (.double (Binary64.zero negative), after)
      else do
        let x ← Decimal.ofParts? significand (if minus then exponent - n else exponent + n)
        return (signed negative x, after)
  | _ => do
    let x ← Decimal.ofParts? significand exponent
    return (signed negative x, cs)

/-- The digits after the point. -/
def fractionPart (negative : Bool) (significand : Nat) (exponent : Int) (cs : List Char) :
    Option (Json × List Char) :=
  let (s, taken, rest) := takeDigits significand 0 cs
  let (dropped, rest) := dropDigits rest
  if taken = 0 ∧ dropped = 0 then none else exponentPart negative s (exponent - taken) rest

/-- A number, after its sign. -/
def number (negative : Bool) (cs : List Char) : Option (Json × List Char) :=
  let leading := cs.takeWhile (digitValue? · |>.isSome)
  match leading with
  | [] => none
  | '0' :: _ :: _ => none
  | _ =>
    let (s, _, rest) := takeDigits 0 0 cs
    let (dropped, rest) := dropDigits rest
    match rest with
    | '.' :: r => fractionPart negative s dropped r
    | 'e' :: _ | 'E' :: _ => exponentPart negative s dropped rest
    | _ =>
      if dropped ≠ 0 then exponentPart negative s dropped rest
      else if negative then
        if s = 0 ∨ 0x8000000000000000 < s then some (signed true (Binary64.ofNat s), rest)
        else (WordInt.ofInt? (-(s : Int))).map fun n => (.int n, rest)
      else (WordInt.ofInt? s).map fun n => (.int n, rest)

/-- Four hexadecimal digits. -/
def hex4 : List Char → Option (Nat × List Char)
  | a :: b :: c :: d :: rest => do
    let a ← Bytes.hexValue? a
    let b ← Bytes.hexValue? b
    let c ← Bytes.hexValue? c
    let d ← Bytes.hexValue? d
    return (((a * 16 + b) * 16 + c) * 16 + d, rest)
  | _ => none

/-- The character of an escape, after the backslash.  A high surrogate needs its low one. -/
def escape : List Char → Option (Char × List Char)
  | '"' :: r => some ('"', r)
  | '\\' :: r => some ('\\', r)
  | '/' :: r => some ('/', r)
  | 'b' :: r => some (Char.ofNat 8, r)
  | 'f' :: r => some (Char.ofNat 12, r)
  | 'n' :: r => some ('\n', r)
  | 'r' :: r => some ('\r', r)
  | 't' :: r => some ('\t', r)
  | 'u' :: r => do
    let (n, rest) ← hex4 r
    if 0xDC00 ≤ n ∧ n < 0xE000 then none
    else if 0xD800 ≤ n ∧ n < 0xDC00 then
      match rest with
      | '\\' :: 'u' :: r => do
        let (m, rest) ← hex4 r
        if 0xDC00 ≤ m ∧ m < 0xE000 then
          some (Char.ofNat (0x10000 + (n - 0xD800) * 0x400 + (m - 0xDC00)), rest)
        else none
      | _ => none
    else some (Char.ofNat n, rest)
  | _ => none

/-- The rest of a string, after its opening quote. -/
def string : (fuel : Nat) → (soFar : List Char) → List Char → Option (String × List Char)
  | 0, _, _ => none
  | fuel + 1, soFar, cs =>
    match cs with
    | [] => none
    | '"' :: rest => some (String.ofList soFar.reverse, rest)
    | '\\' :: rest => do
      let (c, rest) ← escape rest
      string fuel (c :: soFar) rest
    | c :: rest => if c.toNat < 0x20 then none else string fuel (c :: soFar) rest

/-- A word that must stand here. -/
def word (w : List Char) (value : Json) (cs : List Char) : Option (Json × List Char) :=
  if w.isPrefixOf cs then some (value, cs.drop w.length) else none

mutual
/-- A value.  `fuel` bounds the steps, `depth` the nesting that is still allowed. -/
def value : (fuel depth : Nat) → List Char → Option (Json × List Char)
  | 0, _, _ => none
  | fuel + 1, depth, cs =>
    match skipBlanks cs with
    | 'n' :: rest => word ['u', 'l', 'l'] .null rest
    | 't' :: rest => word ['r', 'u', 'e'] (.bool true) rest
    | 'f' :: rest => word ['a', 'l', 's', 'e'] (.bool false) rest
    | '"' :: rest => (string (rest.length + 1) [] rest).map fun (s, r) => (.str s, r)
    | '-' :: rest => number true rest
    | '[' :: rest =>
      if depth ≤ 1 then none
      else match skipBlanks rest with
        | ']' :: r => some (.arr [], r)
        | r => items fuel (depth - 1) [] r
    | '{' :: rest =>
      if depth ≤ 1 then none
      else match skipBlanks rest with
        | '}' :: r => some (.obj [], r)
        | r => members fuel (depth - 1) [] r
    | rest => number false rest

/-- Items up to the closing bracket. -/
def items : (fuel depth : Nat) → (soFar : List Json) → List Char → Option (Json × List Char)
  | 0, _, _, _ => none
  | fuel + 1, depth, soFar, cs => do
    let (v, rest) ← value fuel depth cs
    match skipBlanks rest with
    | ',' :: r => items fuel depth (v :: soFar) r
    | ']' :: r => some (.arr (v :: soFar).reverse, r)
    | _ => none

/-- Members up to the closing brace. -/
def members : (fuel depth : Nat) → (soFar : List (String × Json)) → List Char →
    Option (Json × List Char)
  | 0, _, _, _ => none
  | fuel + 1, depth, soFar, cs =>
    match skipBlanks cs with
    | '"' :: rest => do
      let (key, rest) ← string (rest.length + 1) [] rest
      match skipBlanks rest with
      | ':' :: rest => do
        let (v, rest) ← value fuel depth rest
        match skipBlanks rest with
        | ',' :: r => members fuel depth ((key, v) :: soFar) r
        | '}' :: r => some (ofPairs ((key, v) :: soFar).reverse, r)
        | _ => none
      | _ => none
    | _ => none
end

/-- The deepest nesting read. -/
def maxDepth : Nat := 128

end Reader

/-- Reads a text that holds one value and blanks. -/
def parse? (text : String) : Option Json := do
  let cs := text.toList
  let (v, rest) ← Reader.value (2 * cs.length + 2) Reader.maxDepth cs
  if (Reader.skipBlanks rest).isEmpty then some v else none

end Workbench.Json

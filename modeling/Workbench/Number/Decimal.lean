import Workbench.Number.Binary64

/-!
Decimal text of binary64 numbers: the fewest digits that read back, a fixed number of places, and
the reading of a digit string through a 64-bit significand and one scaling in double arithmetic.
-/

namespace Workbench.Decimal

open Workbench (Binary64)

/-- Decimal digits of a natural, most significant first; zero has one digit. -/
def digits (n : Nat) : List Char := Nat.toDigits 10 n

/-- A power of ten. -/
def tenTo (n : Nat) : Nat := Nat.pow 10 n

/-- A decimal number `coefficient * 10 ^ exponent`. -/
structure Scientific where
  coefficient : Nat
  exponent : Int
deriving DecidableEq, Repr

/-- `num / den` divided by a power of ten, as a quotient. -/
def overPowerOfTen (num den : Nat) (exponent : Int) : Nat × Nat :=
  if 0 ≤ exponent then (num, den * tenTo exponent.toNat) else (num * tenTo (-exponent).toNat, den)

/-- The exponent `p` with `10 ^ p ≤ num / den < 10 ^ (p + 1)`, searched upward from an estimate that is
never too large. -/
def magnitudeOfTen (num den : Nat) : Int :=
  let estimate : Int := ((Nat.log2 num : Int) - Nat.log2 den - 1) * 30103 / 100000 - 1
  let fits (p : Int) : Bool := let (n, d) := overPowerOfTen num den p; n / d < 10
  let rec climb : Nat → Int → Int
    | 0, p => p
    | fuel + 1, p => if fits p then p else climb fuel (p + 1)
  climb 5 estimate

/-- Whether a decimal rounds to the binary64 with magnitude bits `bits`. -/
def readsBack (bits : Nat) (s : Scientific) : Bool :=
  let (num, den) := if 0 ≤ s.exponent then (s.coefficient * tenTo s.exponent.toNat, 1)
    else (s.coefficient, tenTo (-s.exponent).toNat)
  (Binary64.nearest false num den).magnitudeBits = bits

/-- The point of the decimal grid `10 ^ exponent` nearest to `num / den` that reads back, if one of the
two neighbours does. -/
def onGrid? (bits num den : Nat) (exponent : Int) : Option Scientific :=
  let (n, d) := overPowerOfTen num den exponent
  let low : Scientific := ⟨n / d, exponent⟩
  let high : Scientific := ⟨n / d + 1, exponent⟩
  let r := n % d
  let lowFirst := 2 * r < d || (2 * r == d && low.coefficient % 2 == 0)
  let (first, second) := if lowFirst then (low, high) else (high, low)
  if readsBack bits first then some first
  else if readsBack bits second then some second
  else none

/-- Drops trailing zeros of the coefficient. -/
def Scientific.trim : Nat → Scientific → Scientific
  | 0, s => s
  | fuel + 1, s =>
    if s.coefficient ≠ 0 ∧ s.coefficient % 10 = 0 then
      trim fuel ⟨s.coefficient / 10, s.exponent + 1⟩
    else s

/-- The fewest digits that read back as `m * 2 ^ e`, the nearest such decimal; seventeen always do. -/
def shortest (bits m : Nat) (e : Int) : Scientific :=
  if m = 0 then ⟨0, 0⟩
  else
    let (num, den) := Binary64.fraction m e
    let top := magnitudeOfTen num den
    let found := (List.range 17).findSome? fun (k : Nat) => onGrid? bits num den (top - k)
    (found.getD ⟨0, 0⟩).trim 400

/-- Zeros. -/
def zeros (n : Nat) : List Char := List.replicate n '0'

/-- Digits with the point after the first `point` of them; missing places are zeros. -/
def positional (ds : List Char) (point : Int) (keepPoint : Bool) : List Char :=
  if point ≤ 0 then '0' :: '.' :: zeros (-point).toNat ++ ds
  else if point.toNat < ds.length then ds.take point.toNat ++ '.' :: ds.drop point.toNat
  else ds ++ zeros (point.toNat - ds.length) ++ if keepPoint then ['.', '0'] else []

/-- An exponent: sign and at least two digits. -/
def exponentText (n : Int) : List Char :=
  let ds := digits n.natAbs
  'e' :: (if n < 0 then '-' else '+') :: (if ds.length < 2 then '0' :: ds else ds)

/-- The exact text of a finite number in a data format: positional from `1e-5` up to but not including
`1e16`, with a point always, and an exponent elsewhere. -/
def dataText (x : Binary64) : String :=
  let sign := if x.negative then ['-'] else []
  match x.magnitude with
  | .nan => "NaN"
  | .infinite => String.ofList (sign ++ "inf".toList)
  | .finite m e =>
    if m = 0 then String.ofList (sign ++ "0.0".toList)
    else
      let s := shortest x.magnitudeBits m e
      let ds := digits s.coefficient
      let point : Int := ds.length + s.exponent
      let body :=
        if -5 < point ∧ point ≤ 16 then positional ds point true
        else
          let mantissa := match ds with
            | d :: [] => [d]
            | d :: rest => d :: '.' :: rest
            | [] => []
          mantissa ++ exponentText (point - 1)
      String.ofList (sign ++ body)

/-- The fewest digits that read back, never with an exponent, the point only where it is needed. -/
def plainText (x : Binary64) : String :=
  let sign := if x.negative then ['-'] else []
  match x.magnitude with
  | .nan => "NaN"
  | .infinite => String.ofList (sign ++ "inf".toList)
  | .finite m e =>
    if m = 0 then String.ofList (sign ++ ['0'])
    else
      let s := shortest x.magnitudeBits m e
      let ds := digits s.coefficient
      String.ofList (sign ++ positional ds (ds.length + s.exponent) false)

/-- The exact value with `places` digits after the point, a half going to the even neighbour. -/
def fixedText (places : Nat) (x : Binary64) : String :=
  let sign := if x.negative then ['-'] else []
  match x.magnitude with
  | .nan => "NaN"
  | .infinite => String.ofList (sign ++ "inf".toList)
  | .finite m e =>
    let (num, den) := Binary64.fraction m e
    let q := Binary64.roundDiv (num * tenTo places) den
    let ds := digits q
    let padded := zeros (places + 1 - ds.length) ++ ds
    let whole := padded.length - places
    String.ofList (sign ++ padded.take whole ++
      if places = 0 then [] else '.' :: padded.drop whole)

/-- Reads a decimal with sign, point and exponent, correctly rounded. -/
def parse? (text : String) : Option Binary64 :=
  let (negative, cs) := match text.toList with
    | '-' :: cs => (true, cs)
    | '+' :: cs => (false, cs)
    | cs => (false, cs)
  let isDigit (c : Char) : Bool := '0' ≤ c ∧ c ≤ '9'
  let number (ds : List Char) : Nat := ds.foldl (fun n c => n * 10 + (c.toNat - 48)) 0
  let whole := cs.takeWhile isDigit
  let (places, rest) := match cs.drop whole.length with
    | '.' :: r => let ds := r.takeWhile isDigit; (ds, r.drop ds.length)
    | r => ([], r)
  let exponent? : Option Int := match rest with
    | [] => some 0
    | e :: r =>
      if e ≠ 'e' ∧ e ≠ 'E' then none
      else
        let (minus, ds) := match r with
          | '-' :: ds => (true, ds)
          | '+' :: ds => (false, ds)
          | ds => (false, ds)
        if ds.isEmpty ∨ !ds.all isDigit then none
        else some (if minus then -(number ds : Int) else number ds)
  if whole.isEmpty ∧ places.isEmpty then none
  else
    exponent?.map fun e =>
      let (num, den) := overPowerOfTen (number (whole ++ places)) 1 (places.length - e)
      Binary64.nearest negative num den

/-- The largest power of ten that one scaling step uses. -/
def maxStep : Nat := 308

/-- Scales a double by a power of ten: one multiplication or division by a correctly rounded power,
after as many divisions by the largest power as the exponent needs.  `none` when the result is too
large. -/
def scale? : (fuel : Nat) → Binary64 → Int → Option Binary64
  | 0, x, _ => some x
  | fuel + 1, x, exponent =>
    if exponent.natAbs ≤ maxStep then
      let power := Binary64.ofNat (tenTo exponent.natAbs)
      if 0 ≤ exponent then
        let y := x.mul power
        if y.isFinite then some y else none
      else some (x.div power)
    else if x.magnitudeBits = 0 then some x
    else if 0 ≤ exponent then none
    else scale? fuel (x.div (Binary64.ofNat (tenTo maxStep))) (exponent + maxStep)

/-- The double that a 64-bit significand and a power of ten are read as.  Beyond two thousand the
exponent only decides between zero and overflow. -/
def ofParts? (significand : Nat) (exponent : Int) : Option Binary64 :=
  scale? 9 (Binary64.ofNat significand) (max exponent (-2400))

end Workbench.Decimal

/-!
Double-precision numbers by their bit pattern, with exact arithmetic in `Nat`.  Every operation
rounds an exact quotient of naturals once, to the nearest representable value, ties to even.
-/

namespace Workbench

/-- A binary64 number.  Two are equal when their bits are. -/
structure Binary64 where
  bits : UInt64
deriving DecidableEq, Repr

instance : Inhabited Binary64 := ⟨⟨0⟩⟩

namespace Binary64

/-- What a bit pattern stands for; a finite magnitude is `m * 2 ^ e`. -/
inductive Magnitude where
  | nan
  | infinite
  | finite (m : Nat) (e : Int)
deriving DecidableEq, Repr

/-- The weight of the sign bit, above all bits of the magnitude. -/
def signBit : Nat := 0x8000000000000000

/-- The weight of the leading digit that normal numbers do not store, above the fraction. -/
def hiddenBit : Nat := 0x10000000000000

/-- The magnitude bits of the infinities; those of not-a-number lie above. -/
def infiniteBits : Nat := 0x7FF * hiddenBit

/-- The sign bit is set. -/
def negative (x : Binary64) : Bool := signBit ≤ x.bits.toNat

/-- The bit pattern without its sign. -/
def magnitudeBits (x : Binary64) : Nat := x.bits.toNat % signBit

def magnitude (x : Binary64) : Magnitude :=
  let exponent : Nat := x.magnitudeBits / hiddenBit
  let fraction : Nat := x.magnitudeBits % hiddenBit
  if exponent = 0x7FF then if fraction = 0 then .infinite else .nan
  else if exponent = 0 then .finite fraction (-1074)
  else .finite (hiddenBit + fraction) ((exponent : Int) - 1075)

/-- Puts a sign before the bits of a magnitude. -/
def withSign (negative : Bool) (magnitudeBits : Nat) : Binary64 :=
  ⟨UInt64.ofNat (magnitudeBits + if negative then signBit else 0)⟩

def infinity (negative : Bool) : Binary64 := withSign negative infiniteBits

def zero (negative : Bool) : Binary64 := withSign negative 0

def nan : Binary64 := ⟨0x7FF8000000000000⟩

/-- The quotient rounded to the nearest integer, ties to even. -/
def roundDiv (num den : Nat) : Nat :=
  let q := num / den
  let r := num % den
  if 2 * r < den ∨ (2 * r = den ∧ q % 2 = 0) then q else q + 1

/-- `num / den` scaled by a power of two, as a quotient. -/
def scaled (num den : Nat) (e : Int) : Nat × Nat :=
  if 0 ≤ e then (num <<< e.toNat, den) else (num, den <<< (-e).toNat)

/-- The exponent at which `num / den` has a 53-bit integer part, never below the least one. -/
def gridExponent (num den : Nat) : Int :=
  let guess : Int := (Nat.log2 num : Int) - Nat.log2 den - 53
  let e := max guess (-1074)
  let (n, d) := scaled num den (-e)
  if n / d < 2 * hiddenBit then e else e + 1

/-- The binary64 nearest to `num / den`; magnitudes beyond the largest finite one become infinite. -/
def nearest (negative : Bool) (num den : Nat) : Binary64 :=
  if num = 0 then zero negative
  else
    let e := gridExponent num den
    let (n, d) := scaled num den (-e)
    let bits := (e + 1074).toNat * hiddenBit + roundDiv n d
    if bits < infiniteBits then withSign negative bits else infinity negative

def ofNat (n : Nat) : Binary64 := nearest false n 1

/-- The exact quotient of naturals that a magnitude is. -/
def fraction (m : Nat) (e : Int) : Nat × Nat := scaled m 1 e

def neg (x : Binary64) : Binary64 := withSign (!x.negative) x.magnitudeBits

def mul (x y : Binary64) : Binary64 :=
  let sign := x.negative != y.negative
  match x.magnitude, y.magnitude with
  | .nan, _ | _, .nan => nan
  | .infinite, .finite 0 _ | .finite 0 _, .infinite => nan
  | .infinite, _ | _, .infinite => infinity sign
  | .finite m e, .finite n f =>
    let (num, den) := fraction (m * n) (e + f)
    nearest sign num den

def div (x y : Binary64) : Binary64 :=
  let sign := x.negative != y.negative
  match x.magnitude, y.magnitude with
  | .nan, _ | _, .nan | .infinite, .infinite => nan
  | .infinite, _ => infinity sign
  | _, .infinite => zero sign
  | .finite m e, .finite n f =>
    if n = 0 then if m = 0 then nan else infinity sign
    else
      let (num, den) := fraction m e
      let (num', den') := fraction n f
      nearest sign (num * den') (den * num')

/-- Orders all numbers but not-a-number by value; zeros of both signs count as one. -/
def key? (x : Binary64) : Option Int :=
  match x.magnitude with
  | .nan => none
  | _ => some (if x.negative then -(x.magnitudeBits : Int) else x.magnitudeBits)

def lt (x y : Binary64) : Bool :=
  match x.key?, y.key? with
  | some a, some b => a < b
  | _, _ => false

def le (x y : Binary64) : Bool :=
  match x.key?, y.key? with
  | some a, some b => a ≤ b
  | _, _ => false

def isFinite (x : Binary64) : Bool :=
  match x.magnitude with
  | .finite _ _ => true
  | _ => false

end Binary64
end Workbench

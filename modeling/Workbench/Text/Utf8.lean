import Workbench.Bytes

/-!
UTF-8 as a machine that takes one octet at a time.  An octet that cannot continue the character in
progress closes it as one replacement character and is then read as a first octet, so each maximal
ill-formed part counts once.  Because the machine is a fold, a text may arrive cut anywhere.
-/

namespace Workbench.Utf8

/-- The character in progress: the octets still owed, the value so far, and the least and the
greatest octet that may come next. -/
structure Partial where
  owed : Nat
  value : Nat
  low : Nat
  high : Nat
deriving DecidableEq, Repr

/-- What one octet yields. -/
structure Step where
  /-- Characters completed, and `none` for each ill-formed part closed. -/
  out : List (Option Char)
  state : Option Partial
deriving Repr

/-- An octet between characters. -/
def start (b : Nat) : Step :=
  if b < 0x80 then ⟨[some (Char.ofNat b)], none⟩
  else if 0xC2 ≤ b ∧ b ≤ 0xDF then ⟨[], some ⟨1, b - 0xC0, 0x80, 0xBF⟩⟩
  else if b = 0xE0 then ⟨[], some ⟨2, 0, 0xA0, 0xBF⟩⟩
  else if b = 0xED then ⟨[], some ⟨2, 0xD, 0x80, 0x9F⟩⟩
  else if 0xE1 ≤ b ∧ b ≤ 0xEF then ⟨[], some ⟨2, b - 0xE0, 0x80, 0xBF⟩⟩
  else if b = 0xF0 then ⟨[], some ⟨3, 0, 0x90, 0xBF⟩⟩
  else if 0xF1 ≤ b ∧ b ≤ 0xF3 then ⟨[], some ⟨3, b - 0xF0, 0x80, 0xBF⟩⟩
  else if b = 0xF4 then ⟨[], some ⟨3, 4, 0x80, 0x8F⟩⟩
  else ⟨[none], none⟩

/-- One octet. -/
def step (state : Option Partial) (octet : UInt8) : Step :=
  let b := octet.toNat
  match state with
  | none => start b
  | some p =>
    if p.low ≤ b ∧ b ≤ p.high then
      let value := p.value * 64 + (b - 0x80)
      if p.owed ≤ 1 then ⟨[some (Char.ofNat value)], none⟩
      else ⟨[], some ⟨p.owed - 1, value, 0x80, 0xBF⟩⟩
    else
      let next := start b
      ⟨none :: next.out, next.state⟩

/-- A text being read: what was completed so far, and the character left open. -/
structure Reading where
  done : Array (Option Char) := #[]
  state : Option Partial := none
deriving Repr

/-- Takes one octet. -/
def Reading.take (r : Reading) (octet : UInt8) : Reading :=
  let next := step r.state octet
  ⟨r.done ++ next.out, next.state⟩

/-- Takes octets in order. -/
def Reading.feed (r : Reading) (bytes : Bytes) : Reading := bytes.foldl Reading.take r

/-- Cutting the octets changes nothing. -/
theorem Reading.feed_append (r : Reading) (left right : Bytes) :
    r.feed (left ++ right) = (r.feed left).feed right := List.foldl_append

/-- The character that stands for an ill-formed part. -/
def replacement : Char := Char.ofNat 0xFFFD

/-- Completed characters as text, ill-formed parts replaced. -/
def shown (out : List (Option Char)) : List Char :=
  out.map (·.getD replacement)

/-- Reads octets as text; every maximal ill-formed part, also one that the end cuts off, becomes one
replacement character. -/
def decodeLossy (bytes : Bytes) : String :=
  let whole := ({} : Reading).feed bytes
  String.ofList (shown whole.done.toList ++ if whole.state.isSome then [replacement] else [])

/-- Reads octets that are well-formed throughout. -/
def decode? (bytes : Bytes) : Option String :=
  let whole := ({} : Reading).feed bytes
  if whole.state.isSome then none
  else (whole.done.toList.mapM id).map String.ofList

end Workbench.Utf8

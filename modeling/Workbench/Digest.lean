import Workbench.Bytes

/-!
The SHA-1 digest of a byte string.
-/

namespace Workbench.Sha1

/-- The five words that are worked on. -/
structure State where
  a : UInt32
  b : UInt32
  c : UInt32
  d : UInt32
  e : UInt32

/-- The words before anything has been read. -/
def State.start : State := ⟨0x67452301, 0xEFCDAB89, 0x98BADCFE, 0x10325476, 0xC3D2E1F0⟩

/-- Bits moved to the left, those that leave coming back on the right. -/
def rotate (x : UInt32) (n : UInt32) : UInt32 := (x <<< n) ||| (x >>> (32 - n))

/-- The octets with a one bit, zeros up to a multiple of 64, and their number of bits behind them. -/
def padded (octets : Bytes) : Bytes :=
  let zeros := (119 - octets.length % 64) % 64
  octets ++ 0x80 :: (List.replicate zeros 0 ++ Bytes.bigEndian 8 (8 * octets.length))

/-- Words of four octets, most significant first. -/
def words : Bytes → List UInt32
  | a :: b :: c :: d :: rest =>
    ((a.toUInt32 <<< 24) ||| (b.toUInt32 <<< 16) ||| (c.toUInt32 <<< 8) ||| d.toUInt32) :: words rest
  | _ => []

/-- Words grown by `count`, each from four earlier ones; the newest is in front. -/
def grow : (count : Nat) → List UInt32 → List UInt32
  | 0, ws => ws
  | count + 1, ws =>
    let back (n : Nat) : UInt32 := ws.getD (n - 1) 0
    grow count (rotate (back 3 ^^^ back 8 ^^^ back 14 ^^^ back 16) 1 :: ws)

/-- The function and the constant of a round. -/
def mix (t : Nat) (s : State) : UInt32 × UInt32 :=
  if t < 20 then ((s.b &&& s.c) ||| (~~~s.b &&& s.d), 0x5A827999)
  else if t < 40 then (s.b ^^^ s.c ^^^ s.d, 0x6ED9EBA1)
  else if t < 60 then ((s.b &&& s.c) ||| (s.b &&& s.d) ||| (s.c &&& s.d), 0x8F1BBCDC)
  else (s.b ^^^ s.c ^^^ s.d, 0xCA62C1D6)

/-- One round. -/
def round (s : State) (w : UInt32 × Nat) : State :=
  let (f, k) := mix w.2 s
  ⟨rotate s.a 5 + f + s.e + k + w.1, s.a, rotate s.b 30, s.c, s.d⟩

/-- One block of sixteen words. -/
def block (s : State) (ws : List UInt32) : State :=
  let t := ((grow 64 ws.reverse).reverse.zipIdx).foldl round s
  ⟨s.a + t.a, s.b + t.b, s.c + t.c, s.d + t.d, s.e + t.e⟩

/-- Blocks one after the other; `count` is how many there are. -/
def blocks : (count : Nat) → State → List UInt32 → State
  | 0, s, _ => s
  | count + 1, s, ws => blocks count (block s (ws.take 16)) (ws.drop 16)

/-- The digest, of twenty octets. -/
def digest (octets : Bytes) : Bytes :=
  let ws := words (padded octets)
  let s := blocks (ws.length / 16) State.start ws
  [s.a, s.b, s.c, s.d, s.e].flatMap fun w => Bytes.bigEndian 4 w.toNat

end Workbench.Sha1

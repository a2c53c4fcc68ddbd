import Workbench.Fault
import Workbench.Frame.Cbor

/-!
Length-prefixed payloads on a byte stream: four octets of length, most significant first, and then as
many octets of payload.  A decoder takes the stream in any pieces and gives out whole payloads.
-/

namespace Workbench.Framing

/-- The largest payload taken from a peer. -/
def maxPayload : Nat := 16 * 1024 * 1024

/-- Octets of the length in front of a payload. -/
def prefixSize : Nat := 4

/-- A payload behind its length. -/
def frame (payload : Bytes) : Bytes := Bytes.bigEndian prefixSize payload.length ++ payload

/-- A frame of the session socket as it stands on a byte stream. -/
def encode (f : Frame) : Bytes := frame f.cbor

/-- Octets that have arrived and not been given out. -/
structure Decoder where
  buffer : Bytes := []
deriving DecidableEq, Repr

namespace Decoder

/-- Takes octets from the stream. -/
def extend (d : Decoder) (bytes : Bytes) : Decoder := ⟨d.buffer ++ bytes⟩

/-- Octets waiting. -/
def pending (d : Decoder) : Nat := d.buffer.length

/-- Gives out the payload in front, if it is whole.  A length beyond the largest is refused and stays
in front. -/
def next (d : Decoder) : Outcome (Option Bytes) × Decoder :=
  if d.buffer.length < prefixSize then (.ok none, d)
  else
    let length := Bytes.toNat (d.buffer.take prefixSize)
    let rest := d.buffer.drop prefixSize
    if maxPayload < length then
      (.error (.invalidMessage s!"frame too large: {length} bytes (max {maxPayload})"), d)
    else if rest.length < length then (.ok none, d)
    else (.ok (some (rest.take length)), ⟨rest.drop length⟩)

end Decoder
end Workbench.Framing

import Workbench.Text.Utf8

/-!
Frames of a web socket as they stand on a byte stream: two octets, a length, a mask where there is one,
and a payload.
-/

namespace Workbench.WebSocket

/-- What a frame is. -/
inductive Opcode where
  | continuation
  | text
  | binary
  | close
  | ping
  | pong
deriving DecidableEq, Repr

namespace Opcode

def code : Opcode → Nat
  | continuation => 0
  | text => 1
  | binary => 2
  | close => 8
  | ping => 9
  | pong => 10

def ofCode? : Nat → Option Opcode
  | 0 => some continuation
  | 1 => some text
  | 2 => some binary
  | 8 => some close
  | 9 => some ping
  | 10 => some pong
  | _ => none

def isControl (o : Opcode) : Bool := 8 ≤ o.code

end Opcode

/-- What stands in front of a payload. -/
structure Header where
  final : Bool
  /-- One of the three bits is set that no extension has given a meaning. -/
  reserved : Bool
  opcode : Opcode
  mask : Option Bytes
  length : Nat
deriving DecidableEq, Repr

/-- A frame with its payload unmasked. -/
structure Message where
  header : Header
  payload : Bytes
deriving DecidableEq, Repr

/-- Why a stream cannot be read on. -/
inductive Failure where
  | opcode
  | tooLong
  | reservedBits
  | unmasked
  | control
  | fragments
  | text
  | closeReason
  /-- The peer has gone without saying so. -/
  | reset
  /-- Something was to be sent after the end. -/
  | sendAfterClose
deriving DecidableEq, Repr

/-- The largest payload of one frame. -/
def maxFrame : Nat := 16 * 1024 * 1024

/-- The largest message, however many frames it takes. -/
def maxMessage : Nat := 64 * 1024 * 1024

/-- Octets under a mask of four, or out of it again. -/
def applyMask (mask : Bytes) (octets : Bytes) : Bytes :=
  octets.zipIdx.map fun (b, i) => b ^^^ mask.getD (i % 4) 0

/-- Octets of the length that the seven bits announce. -/
def lengthOctets (n : Nat) : Nat := if n = 126 then 2 else if n = 127 then 8 else 0

/-- The header in front of some octets, if all of it is there. -/
def Header.parse (octets : Bytes) : Except Failure (Option (Header × Bytes)) :=
  match octets with
  | first :: second :: rest =>
    let short := second.toNat % 128
    let count := lengthOctets short
    let masked := 128 ≤ second.toNat
    let maskCount := if masked then 4 else 0
    if rest.length < count + maskCount then .ok none
    else
      match Opcode.ofCode? (first.toNat % 16) with
      | none => .error .opcode
      | some opcode =>
        .ok (some ({
          final := 128 ≤ first.toNat
          reserved := first.toNat / 16 % 8 ≠ 0
          opcode
          mask := if masked then some ((rest.drop count).take 4) else none
          length := if count = 0 then short else Bytes.toNat (rest.take count) },
          rest.drop (count + maskCount)))
  | _ => .ok none

/-- The frame in front of some octets, if all of it is there; one that is too long fails as soon as its
length is known. -/
def Message.parse (octets : Bytes) : Except Failure (Option (Message × Bytes)) :=
  match Header.parse octets with
  | .error e => .error e
  | .ok none => .ok none
  | .ok (some (h, rest)) =>
    if maxFrame < h.length then .error .tooLong
    else if rest.length < h.length then .ok none
    else
      let payload := rest.take h.length
      .ok (some (⟨h, (h.mask.map (applyMask · payload)).getD payload⟩, rest.drop h.length))

/-- A length as it stands in a header without a mask. -/
def encodeLength (n : Nat) : Bytes :=
  if n < 126 then [UInt8.ofNat n]
  else if n < 65536 then 126 :: Bytes.bigEndian 2 n
  else 127 :: Bytes.bigEndian 8 n

/-- A whole message in one frame without a mask, as servers send it. -/
def encode (opcode : Opcode) (payload : Bytes) : Bytes :=
  UInt8.ofNat (128 + opcode.code) :: encodeLength payload.length ++ payload

/-- A code that may be given as the reason for an end. -/
def isAllowedCode (n : Nat) : Bool :=
  [1000, 1001, 1002, 1003, 1007, 1008, 1009, 1010, 1011, 1012, 1013].contains n
    || (3000 ≤ n && n ≤ 4999)

/-- The answer to a peer that ends the connection: its own reason, unless that is not a reason one may
give. -/
def closeAnswer (payload : Bytes) : Except Failure Bytes :=
  match payload with
  | [] => .ok []
  | [_] => .error .closeReason
  | a :: b :: reason =>
    if (Utf8.decode? reason).isNone then .error .closeReason
    else if isAllowedCode (Bytes.toNat [a, b]) then .ok payload
    else .ok (Bytes.bigEndian 2 1002 ++ Bytes.ofText "Protocol violation")

/-- The octets so far can still become well-formed text. -/
def isTextStart (octets : Bytes) : Bool :=
  (({} : Utf8.Reading).feed octets).done.all Option.isSome

end Workbench.WebSocket

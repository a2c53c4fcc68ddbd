import Workbench.Disk.Errno
import Workbench.File.Provider

/-!
Reads of a stretch of a file.  The system may give fewer octets than it is asked for, or fail.  A plain
read goes on until it has all it wants; a streamed one sends pieces of bounded size, then the end.
-/

namespace Workbench

/-- The most octets of one read; its reply has to fit in a frame. -/
def maxReadLength : Nat := 8 * 1024 * 1024

/-- Octets of a piece when the client asks for no size. -/
def defaultPiece : Nat := 64 * 1024

/-- What the system gives for each read in turn: so many octets, or a failure.  It gives no fewer than
one and no more than there are. -/
abbrev Supply := Nat → Except Errno Nat

/-- A supply that never fails and gives all that is asked for, up to the most it gives at once. -/
def Supply.upTo (most : Nat) : Supply := fun _ => .ok most

namespace StreamOptions

/-- The position that a streamed read begins at. -/
def start (o : StreamOptions) : Nat := (o.position.map UInt64.toNat).getD 0

/-- Octets that a piece may have. -/
def piece (o : StreamOptions) : Nat :=
  match o.bufferSize with
  | some n => if n = 0 then defaultPiece else min n maxReadLength
  | none => defaultPiece

/-- Octets that the next read asks for. -/
def want (piece : Nat) : (remaining : Option Nat) → Nat
  | some n => min piece n
  | none => piece

end StreamOptions

/-- Reads pieces from a position until nothing is left to read, or a read fails. -/
def readPieces (supply : Supply) (content : ByteArray) (piece : Nat) :
    (fuel round position : Nat) → (remaining : Option Nat) → List ByteArray × Option Errno
  | 0, _, _, _ => ([], none)
  | fuel + 1, round, position, remaining =>
    let asked := min (StreamOptions.want piece remaining) (content.size - position)
    if StreamOptions.want piece remaining = 0 then ([], none)
    else
      match supply round with
      | .error e => ([], some e)
      | .ok given =>
        let n := min (max 1 given) asked
        if n = 0 then ([], none)
        else
          let (rest, failure) :=
            readPieces supply content piece fuel (round + 1) (position + n) (remaining.map (· - n))
          (content.extract position (position + n) :: rest, failure)

/-- Pieces as one. -/
def joinPieces (pieces : List ByteArray) : ByteArray := pieces.foldr (· ++ ·) .empty

/-- Octets from a position, as many as are wanted unless the file ends before: each read asks for all
that is still missing. -/
def readAt (supply : Supply) (content : ByteArray) (position length : Nat) : Except Errno ByteArray :=
  match readPieces supply content length (content.size + 1) 0 position (some length) with
  | (pieces, none) => .ok (joinPieces pieces)
  | (_, some e) => .error e

/-- The steps of a streamed read of a file: its pieces, a failure if there is one, and the end. -/
def streamSteps (supply : Supply) (content : ByteArray) (o : StreamOptions) : List StreamEvent :=
  let (pieces, failure) := readPieces supply content o.piece (content.size + 1) 0 o.start
    (o.length.map UInt64.toNat)
  pieces.map .data ++ (failure.map fun e => StreamEvent.failed e.toFault.message).toList ++ [.finished]

/-- A streamed read that could not begin. -/
def failedSteps (e : Errno) : List StreamEvent := [.failed e.toFault.message, .finished]

end Workbench

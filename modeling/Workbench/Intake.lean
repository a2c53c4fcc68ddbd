import Workbench.Transport

/-!
A stream that is read ahead.  A read gives what has arrived, however much that is; what is not taken of it stays in
front of what further reads give.
-/

namespace Workbench

structure Intake where
  /-- Octets that have been read and not been taken. -/
  buffer : Bytes := []
  /-- What the reads to come give, one after the other. -/
  reads : List Bytes := []
  /-- The stream ends behind them.  Otherwise more may still arrive. -/
  ended : Bool := false
deriving DecidableEq, Repr

namespace Intake

def lineFeed : UInt8 := 10

/-- All that is left of the stream. -/
def content (s : Intake) : Bytes := s.buffer ++ s.reads.flatten

/-- Octets up to the end of the first line, or all of them. -/
def firstLine : Bytes → Bytes
  | [] => []
  | b :: rest => if b = lineFeed then [b] else b :: firstLine rest

/-- Takes a line, or what a limit or the end of the stream leaves of one; what has been read ahead is used up before
the next read is made.  Nothing if more has to arrive first. -/
def takeLine? (ended : Bool) (limit : Nat) (buffer : Bytes) (reads : List Bytes) : Option (Bytes × Intake) :=
  if lineFeed ∈ buffer ∨ limit ≤ buffer.length then
    let line := firstLine (buffer.take limit)
    some (line, ⟨buffer.drop line.length, reads, ended⟩)
  else
    match reads with
    | [] => if ended then some (buffer, ⟨[], [], ended⟩) else none
    | read :: reads =>
      (takeLine? ended (limit - buffer.length) read reads).map fun (more, rest) => (buffer ++ more, rest)

def line? (s : Intake) (limit : Nat) : Option (Bytes × Intake) := takeLine? s.ended limit s.buffer s.reads

/-- A socket goes on with what is left of a stream. -/
def handOver (s : Intake) (t : Transport) : Transport :=
  let t := s.reads.foldl Transport.feed (t.feed s.buffer)
  if s.ended then t.finish else t

end Intake
end Workbench

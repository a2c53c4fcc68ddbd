import Workbench.Program

/-!
A program that runs: what it has been given and not read, what it has said, and how it ended.
-/

namespace Workbench

/-- What a process finds around it. -/
structure Surroundings where
  /-- The rows and columns of its terminal, if it has one. -/
  size : Option (Nat × Nat)
  /-- What it complains of is seen with what it prints. -/
  errorsShown : Bool
  isDir : String → Bool

structure Process where
  /-- What is still to be done. -/
  program : Program
  /-- Where the process is. -/
  dir : String
  input : Bytes := []
  /-- No more input will come. -/
  inputDone : Bool := false
  /-- What has been said and not been taken. -/
  output : Array UInt8 := #[]
  /-- The terminal is to show what is typed. -/
  echo : Bool := true
  /-- The status of a process that has ended. -/
  status : Option Nat := none

namespace Process

/-- Whoever sleeps for so many seconds is not seen to wake up. -/
def longSleep : Nat := 10

/-- The first line of some octets without its end, and what stands behind it. -/
def line? : Bytes → Option (Bytes × Bytes)
  | [] => none
  | b :: rest =>
    if b = 10 then some ([], rest)
    else (line? rest).map fun (line, rest) => (b :: line, rest)

def say (p : Process) (octets : Bytes) : Process := { p with output := p.output ++ octets.toArray }

/-- Does what is still to be done, until it is over or something is waited for. -/
def runOn (w : Surroundings) : Program → Process → Process
  | .exit status, p => { p with program := .exit status, status := some status }
  | .print octets next, p => runOn w next (p.say octets)
  | .complain octets next, p => runOn w next (if w.errorsShown then p.say octets else p)
  | .readLine next, p =>
    match line? p.input with
    | some (line, rest) => runOn w (next line true) { p with input := rest }
    | none =>
      if p.inputDone then runOn w (next p.input false) { p with input := [] }
      else { p with program := .readLine next }
  | .takeInput count next, p =>
    if count ≤ p.input.length || p.inputDone then
      runOn w (next (p.input.take count)) { p with input := p.input.drop count }
    else { p with program := .takeInput count next }
  | .copyInput next, p =>
    let p := { p.say p.input with input := [] }
    if p.inputDone then runOn w next p else { p with program := .copyInput next }
  | .askSize next, p => runOn w (next w.size) p
  | .setEcho on next, p => runOn w next { p with echo := on }
  | .enter dir next, p =>
    if w.isDir dir then runOn w (next true) { p with dir } else runOn w (next false) p
  | .sleep seconds next, p =>
    if seconds < longSleep then runOn w next p else { p with program := .sleep seconds next }

/-- Lets a process run on, unless it has ended. -/
def run (w : Surroundings) (p : Process) : Process :=
  if p.status.isSome then p else runOn w p.program p

/-- Gives a process something to read. -/
def feed (p : Process) (octets : Bytes) : Process := { p with input := p.input ++ octets }

def endInput (p : Process) : Process := { p with inputDone := true }

/-- The status of a process that a signal has ended. -/
def killedStatus : Nat := 1

/-- Ends a process from outside. -/
def kill (p : Process) : Process :=
  if p.status.isSome then p else { p with status := some killedStatus }

/-- Takes what has been said. -/
def takeOutput (p : Process) : Bytes × Process := (p.output.toList, { p with output := #[] })

end Process
end Workbench

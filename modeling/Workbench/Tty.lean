import Workbench.Process

/-!
A process on a terminal.  What is typed is shown and handed on a line at a time; what the process says
is shown with its lines ended the way that terminals want it.
-/

namespace Workbench

structure Tty where
  process : Process
  rows : Nat
  cols : Nat
  /-- The line that is being typed. -/
  line : Bytes := []
  /-- What has been shown and not been taken. -/
  screen : Array UInt8 := #[]

namespace Tty

def lineEnd : Bytes := [13, 10]

def display (t : Tty) (octets : Bytes) : Tty := { t with screen := t.screen ++ octets.toArray }

/-- Ends of lines as a terminal wants them. -/
def withLineEnds (octets : Bytes) : Bytes := octets.flatMap fun b => if b = 10 then lineEnd else [b]

/-- Lets the process run on and shows what it says. -/
def run (isDir : String → Bool) (t : Tty) : Tty :=
  let p := t.process.run ⟨some (t.rows, t.cols), true, isDir⟩
  let (octets, process) := p.takeOutput
  { t with process }.display (withLineEnds octets)

/-- How an octet that is typed is shown. -/
def echo (b : UInt8) : Bytes :=
  if b < 32 ∧ b ≠ 9 then [94, b + 64] else if b = 127 then [94, 63] else [b]

/-- Shows what is typed, unless the process does not want that. -/
def showTyped (t : Tty) (octets : Bytes) : Tty := if t.process.echo then t.display octets else t

/-- An octet is typed.  The end of a line hands it on; a line can also be handed on without an end, which
ends the input if nothing is on it.  Two octets stop the process, one takes back the last octet and one
the whole line. -/
def typeOctet (t : Tty) (b : UInt8) : Tty :=
  let b := if b = 13 then 10 else b
  if b = 10 then
    { t with line := [], process := t.process.feed (t.line ++ [10]) }.showTyped lineEnd
  else if b = 4 then
    { t with line := [], process := if t.line.isEmpty then t.process.endInput else t.process.feed t.line }
  else if b = 3 ∨ b = 28 then { t with line := [], process := t.process.kill }.showTyped (echo b)
  else if b = 127 then
    if t.line.isEmpty then t else { t with line := t.line.dropLast }.showTyped [8, 32, 8]
  else if b = 21 then
    { t with line := [] }.showTyped (t.line.flatMap fun _ => [8, 32, 8])
  else { t with line := t.line ++ [b] }.showTyped (echo b)

/-- Octets are typed, all of them before the process can answer to any. -/
def type (isDir : String → Bool) (t : Tty) (octets : Bytes) : Tty :=
  (octets.foldl typeOctet (t.run isDir)).run isDir

def resize (t : Tty) (cols rows : Nat) : Tty := { t with cols := max cols 1, rows := max rows 1 }

def kill (t : Tty) : Tty := { t with process := t.process.kill }

/-- Takes what has been shown. -/
def takeScreen (t : Tty) : Bytes × Tty := (t.screen.toList, { t with screen := #[] })

end Tty
end Workbench

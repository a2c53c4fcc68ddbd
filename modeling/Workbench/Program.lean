import Workbench.Bytes

/-!
Programs by what they do to the world around them.  A program is the first thing that it does and what
follows on it, which may depend on what it is told.
-/

namespace Workbench

inductive Program where
  | exit (status : Nat)
  | print (octets : Bytes) (next : Program)
  /-- Says something where errors are said. -/
  | complain (octets : Bytes) (next : Program)
  /-- Reads a line; `whole` if it has an end, and not just the input. -/
  | readLine (next : (line : Bytes) → (whole : Bool) → Program)
  /-- Reads so many octets, or as many as there are before the input ends. -/
  | takeInput (count : Nat) (next : (octets : Bytes) → Program)
  /-- Passes everything that comes in on, until the input ends. -/
  | copyInput (next : Program)
  /-- Asks for the rows and columns of the terminal, if there is one. -/
  | askSize (next : Option (Nat × Nat) → Program)
  /-- Says whether the terminal is to show what is typed. -/
  | setEcho (on : Bool) (next : Program)
  /-- Goes to a directory, if it is there. -/
  | enter (dir : String) (next : Bool → Program)
  | sleep (seconds : Nat) (next : Program)

namespace Program

/-- Goes on when a program ends, with its status. -/
def andThen (next : Nat → Program) : Program → Program
  | exit status => next status
  | print octets p => print octets (p.andThen next)
  | complain octets p => complain octets (p.andThen next)
  | readLine k => readLine fun line whole => (k line whole).andThen next
  | takeInput count k => takeInput count fun octets => (k octets).andThen next
  | copyInput p => copyInput (p.andThen next)
  | askSize k => askSize fun size => (k size).andThen next
  | setEcho on p => setEcho on (p.andThen next)
  | enter dir k => enter dir fun there => (k there).andThen next
  | sleep seconds p => sleep seconds (p.andThen next)

end Program
end Workbench

import Workbench.Console.History
import Workbench.Text.Blank

/-!
The input line of the console, and recall of submitted commands.  A cursor walks over the history; at the write head
nothing is being recalled, and only there a command is recorded.  Arrow keys recall commands only while nothing has
been typed, so a half-typed command is never lost.
-/

namespace Workbench.Console

/-- Submitted commands and the key the cursor is at. -/
structure Recall where
  entries : History String
  cursor : Nat := 0
deriving Repr

namespace Recall

/-- How many commands are remembered unless told otherwise. -/
def defaultCapacity : Nat := 200

def ofCapacity (capacity : Nat) : Recall := { entries := { capacity } }

/-- The cursor is past the newest command. -/
def atHead (r : Recall) : Bool := r.cursor == r.entries.nextKey

/-- Puts the cursor past the newest command. -/
def toHead (r : Recall) : Recall := { r with cursor := r.entries.nextKey }

/-- Records a command, unless one is being recalled; either way recalling ends. -/
def push (r : Recall) (command : String) : Recall :=
  if r.atHead then toHead { r with entries := (r.entries.push command).2 } else r.toHead

/-- One command back; at the oldest it stays. -/
def back (r : Recall) : Option String × Recall :=
  let cursor := if r.entries.firstKey < r.cursor then r.cursor - 1 else r.entries.firstKey
  (r.entries.get? cursor, { r with cursor })

/-- One command forward; at the write head there is none. -/
def forward (r : Recall) : Option String × Recall :=
  if r.entries.nextKey ≤ r.cursor then (none, r)
  else (r.entries.get? (r.cursor + 1), { r with cursor := r.cursor + 1 })

end Recall

/-- A key press, as far as the input line tells them apart. -/
inductive Key where
  | enter
  | up
  | down
  | other
deriving DecidableEq, Repr

/-- The input line. -/
structure Input where
  value : String := ""
  /-- Something that is not blank has been typed. -/
  dirty : Bool := false
  commands : Recall
deriving Repr

namespace Input

/-- Reacts to a key; Enter yields the command, unless the line is blank. -/
def press (i : Input) (key : Key) : Option String × Input :=
  match key with
  | .enter =>
    let command := Text.trim i.value
    if command = "" then (none, { i with dirty := false })
    else (some command, { value := "", dirty := false, commands := i.commands.push command })
  | .up =>
    if i.dirty then (none, i)
    else
      let (found, commands) := i.commands.back
      (none, { i with value := found.getD "", commands })
  | .down =>
    if i.dirty then (none, i)
    else
      let (found, commands) := i.commands.forward
      (none, { i with value := found.getD "", commands })
  | .other => (none, { i with dirty := Text.trim i.value != "" })

/-- The text as the user types it. -/
def type (i : Input) (value : String) : Input := ({ i with value }.press .other).2

end Input
end Workbench.Console

import Workbench.Emitter
import Workbench.Fault
import Workbench.Json.Printer
import Workbench.Resource.Addressing

/-!
Commands that the server asks its clients to run.  Every request has a number of its own; the result
that names it completes it, once, and results that name no waiting request change nothing.
-/

namespace Workbench

/-- The commands asked for. -/
structure ClientCommands where
  /-- The number of the last request. -/
  last : Nat := 0
  /-- Requests that are waited for, and how resources in their results are to be read. -/
  pending : List (Nat × Addressing) := []
  /-- Results that have not been collected. -/
  answered : List (Nat × Outcome Json) := []
  requests : Emitter Json := {}

namespace ClientCommands

/-- Asks for a command.  Resources in its arguments are readdressed for the client. -/
def start (c : ClientCommands) (a : Addressing) (command : String) (args : Json) :
    Nat × ClientCommands :=
  let id := c.last + 1
  (id, { c with
    last := id
    pending := c.pending ++ [(id, a)]
    requests := c.requests.fire (.obj [("commandArgs", a.outgoingJson args),
      ("commandId", .str command), ("reqId", Json.nat id)]) })

def addressing? (c : ClientCommands) (id : Nat) : Option Addressing :=
  (c.pending.find? fun e => e.1 == id).map (·.2)

/-- The fault that a failed command reports: its message, or all of it. -/
def failure (report : Json) : Fault :=
  .channel (((report.get? "message").bind Json.str?).getD report.compact)

/-- Takes the result of a request. -/
def answer (c : ClientCommands) (id : Nat) (failed : Bool) (payload : Json) : ClientCommands :=
  match c.addressing? id with
  | none => c
  | some a =>
    let payload := a.incomingJson payload
    { c with
      pending := c.pending.filter fun e => e.1 != id
      answered := c.answered ++ [(id, if failed then .error (failure payload) else .ok payload)] }

/-- Gives up waiting for a request. -/
def abandon (c : ClientCommands) (id : Nat) : ClientCommands :=
  { c with
    pending := c.pending.filter fun e => e.1 != id
    answered := c.answered.filter fun e => e.1 != id }

/-- Who waits for a request goes on, if its result has come in, and waits no more. -/
def finish (c : ClientCommands) (id : Nat) : Option (Outcome Json) × ClientCommands :=
  match c.answered.find? fun e => e.1 == id with
  | none => (none, c)
  | some (_, outcome) => (some outcome, c.abandon id)

/-- All go on whose results have come in. -/
def collect (c : ClientCommands) : List (Nat × Outcome Json) × ClientCommands :=
  (c.answered, c.answered.foldl (fun c (id, _) => (c.finish id).2) c)

end ClientCommands
end Workbench

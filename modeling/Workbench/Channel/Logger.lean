import Workbench.Channel
import Workbench.Channel.Arguments
import Workbench.LogLevel

/-!
The logger channel: clients read, change and follow the level of the server's log.
-/

namespace Workbench.Logger

def levelAt : Parameter := ⟨0, "level"⟩

/-- The parameters of a command, by position. -/
def parameters : (command : String) → List Parameter
  | "setLevel" => [levelAt]
  | _ => []

def call (_ : ChannelContext) (command : String) (args : Json) : StateM LogControl (Outcome Json) :=
  fun c =>
    match command with
    | "setLevel" =>
      match levelAt.read LogLevel.shape args >>= c.setLevel with
      | .ok c => (.ok .null, c)
      | .error e => (.error e, c)
    | "getLevel" => (.ok c.level.toJson, c)
    | other => (.error (.invalidCall other), c)

def listen (_ : ChannelContext) (event : String) (_ : Json) : StateM LogControl (Outcome Nat) :=
  fun c =>
    match event with
    | "onDidChangeLogLevel" =>
      let (id, _, changes) := c.changes.subscribe
      (.ok id, { c with changes })
    | other => (.error (.invalidListen other), c)

def channel : Channel (StateM LogControl) Nat where
  call ctx command args := return some (← call ctx command args)
  listen := listen

/-- Streams of level changes. -/
def streams : Streams (StateM LogControl) Nat where
  take id := fun c =>
    match c.changes.drain id with
    | (some (values, ended), changes) => ((values.toList, ended), { c with changes })
    | (none, _) => (([], true), c)
  drop id := fun c => ((), { c with changes := (c.changes.drop id).2 })

end Workbench.Logger

import Workbench.Channel
import Workbench.Emitter

/-!
A channel for trying out what carries channels: calls answer with their arguments, fail as they are told
or never answer, and events tick when they are fired.
-/

namespace Workbench

/-- Streams of the echo channel. -/
inductive EchoStream where
  | tick (id : Nat)
  | items (feed : Nat)

/-- The state of an echo channel. -/
structure Echo where
  ticks : Emitter Json := {}
  lists : Feeds Json := {}

namespace Echo

/-- The channel; `faultOf` reads the fault that a failing call is told. -/
def channel (faultOf : Json → Fault) : Channel (StateM Echo) EchoStream where
  call ctx command args := return match command with
    | "echo" => some (.ok args)
    | "context" => some (.ok (.arr [.str ctx.authority, .str ctx.token]))
    | "never" => none
    | "fail" => some (.error (faultOf args))
    | other => some (.error (.invalidCall other))
  listen _ event args := fun e =>
    match event with
    | "tick" =>
      let (id, _, ticks) := e.ticks.subscribe
      (.ok (.tick id), { e with ticks })
    | "list" =>
      let (feed, lists) := e.lists.start
      let lists := (args.arr?.getD []).foldl (fun lists v => lists.push feed v) lists
      (.ok (.items feed), { e with lists := lists.finish feed })
    | other => (.error (.invalidListen other), e)

def streams : Streams (StateM Echo) EchoStream where
  take
    | .tick id => fun e =>
      match e.ticks.drain id with
      | (some (values, ended), ticks) => ((values.toList, ended), { e with ticks })
      | (none, _) => (([], true), e)
    | .items feed => fun e =>
      let (got, lists) := e.lists.take feed
      (got, { e with lists })
  drop
    | .tick id => fun e => ((), { e with ticks := (e.ticks.drop id).2 })
    | .items feed => fun e => ((), { e with lists := e.lists.drop feed })

end Echo

end Workbench

import Workbench.Emitter
import Workbench.Terminal.Host

/-!
A host of terminals that runs nothing and keeps a record of what it was asked, for trying out the
terminal channel.
-/

namespace Workbench

/-- What the host answers, and what it was asked. -/
structure TerminalRehearsal where
  /-- Every call fails. -/
  failing : Bool := false
  nextId : Nat := 1
  env : Vars := []
  /-- Calls since they were last looked at, each a name and its arguments. -/
  calls : List Json := []
  data : Emitter Json := {}
  ready : Emitter Json := {}
  exits : Emitter Json := {}

namespace TerminalRehearsal

/-- Notes a call, which fails or gives the value. -/
def ask (call : List Json) (value : α) : StateM TerminalRehearsal (Outcome α) := fun r =>
  (if r.failing then .error (.channel "pty down") else .ok value,
    { r with calls := r.calls ++ [Json.arr call] })

def word (id : UInt32) : Json := .int (.ofUInt32 id)

/-- A request for a process as it is noted. -/
def requestJson (p : ProcessRequest) : Json := Json.ofPairs [
  ("launch", p.launch.toJson), ("cwd", .str p.cwd), ("cols", Json.nat p.cols),
  ("rows", Json.nat p.rows), ("unicode_version", .str p.unicodeVersion), ("env", p.env.toJson),
  ("should_persist", .bool p.persistent), ("workspace_id", .str p.workspaceId),
  ("workspace_name", .str p.workspaceName)]

def events (r : TerminalRehearsal) : ProcessEvent → Emitter Json
  | .data => r.data
  | .ready => r.ready
  | .exit => r.exits

def setEvents (r : TerminalRehearsal) (kind : ProcessEvent) (e : Emitter Json) : TerminalRehearsal :=
  match kind with
  | .data => { r with data := e }
  | .ready => { r with ready := e }
  | .exit => { r with exits := e }

/-- Tells the listeners of a stream. -/
def fire (r : TerminalRehearsal) (kind : ProcessEvent) (value : Json) : TerminalRehearsal :=
  r.setEvents kind ((r.events kind).fire value)

def host : TerminalHost (StateM TerminalRehearsal) where
  create p := fun r =>
    let (answer, next) := (ask [.str "create_process", requestJson p] (UInt32.ofNat r.nextId)).run r
    (answer, if r.failing then next else { next with nextId := r.nextId + 1 })
  start id := ask [.str "start", word id] (.obj [("started", word id)])
  input id data := ask [.str "input", word id, .str data] ()
  inputOctets id data := ask [.str "process_binary", word id, .str data] ()
  resize id cols rows := ask [.str "resize", word id, Json.nat cols, Json.nat rows] ()
  shutdown id immediate := ask [.str "shutdown", word id, .bool immediate] ()
  acknowledge id chars := ask [.str "acknowledge_data_event", word id, .int (.ofUInt64 chars)] ()
  initialDir id := ask [.str "get_initial_cwd", word id] "/initial"
  currentDir id := ask [.str "get_cwd", word id] "/cwd"
  processes := ask [.str "list_processes"] (.arr [])
  defaultShell := ask [.str "get_default_system_shell"] "/bin/fake"
  environment := fun r => (ask [.str "get_environment"] r.env).run r
  listen kind := fun r =>
    let (id, _, e) := (r.events kind).subscribe
    (id, r.setEvents kind e)
  take kind id := fun r =>
    match (r.events kind).drain id with
    | (some (values, ended), e) => ((values.toList, ended), r.setEvents kind e)
    | (none, _) => (([], true), r)
  drop kind id := fun r => ((), r.setEvents kind ((r.events kind).drop id).2)

end TerminalRehearsal
end Workbench

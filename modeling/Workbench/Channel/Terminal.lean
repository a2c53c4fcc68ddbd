import Workbench.Channel
import Workbench.Channel.Arguments
import Workbench.Terminal.ClientCommands
import Workbench.Terminal.Environment
import Workbench.Terminal.Host

/-!
The terminal channel.  It works out what a client's request for a terminal means, hands processes on to
a host of terminals and carries commands of the server to the client and their results back.
-/

namespace Workbench

/-- A call on a process, or on the host of processes. -/
inductive ProcessCall where
  | start (id : UInt32)
  | input (id : UInt32) (data : String)
  | inputOctets (id : UInt32) (data : String)
  | resize (id : UInt32) (cols rows : Nat)
  | shutdown (id : UInt32) (immediate : Bool)
  | acknowledge (id : UInt32) (chars : UInt64)
  | initialDir (id : UInt32)
  | currentDir (id : UInt32)
  | processes
  | defaultShell
  | environment
deriving DecidableEq, Repr

namespace ProcessCall

/-- The commands by name. -/
inductive Command where
  | start | input | inputOctets | resize | shutdown | acknowledge | initialDir | currentDir
  | processes | defaultShell | environment
deriving DecidableEq, Repr

def Command.table : List (String × Command) := [
  ("$start", start), ("$input", input), ("$processBinary", inputOctets), ("$resize", resize),
  ("$shutdown", shutdown), ("$acknowledgeDataEvent", acknowledge), ("$getInitialCwd", initialDir),
  ("$getCwd", currentDir), ("$listProcesses", processes), ("$getDefaultSystemShell", defaultShell),
  ("$getEnvironment", environment)]

def Command.ofName? (name : String) : Option Command :=
  (table.find? fun e => e.1 == name).map (·.2)

def idAt : Parameter := ⟨0, "id"⟩
def dataAt : Parameter := ⟨1, "data"⟩
def colsAt : Parameter := ⟨1, "cols"⟩
def rowsAt : Parameter := ⟨2, "rows"⟩
def immediateAt : Parameter := ⟨1, "immediate"⟩
def charCountAt : Parameter := ⟨1, "charCount"⟩

/-- The parameters of a command, by position. -/
def Command.parameters : Command → List Parameter
  | start | initialDir | currentDir => [idAt]
  | input | inputOctets => [idAt, dataAt]
  | resize => [idAt, colsAt, rowsAt]
  | shutdown => [idAt, immediateAt]
  | acknowledge => [idAt, charCountAt]
  | processes | defaultShell | environment => []

/-- The call that a command and its arguments make. -/
def ofCommand (command : Command) (args : Json) : Outcome ProcessCall :=
  let id : Outcome UInt32 := idAt.read Shape.u32 args
  match command with
  | .start => do return start (← id)
  | .input => do return input (← id) (← dataAt.read Shape.text args)
  | .inputOctets => do return inputOctets (← id) (← dataAt.read Shape.text args)
  | .resize => do
    let cols ← colsAt.read Shape.u16 args
    let rows ← rowsAt.read Shape.u16 args
    return resize (← id) cols rows
  | .shutdown => do return shutdown (← id) (← immediateAt.readOr Shape.bool false args)
  | .acknowledge => do return acknowledge (← id) (← charCountAt.read Shape.u64 args)
  | .initialDir => do return initialDir (← id)
  | .currentDir => do return currentDir (← id)
  | .processes => .ok processes
  | .defaultShell => .ok defaultShell
  | .environment => .ok environment

variable {m : Type → Type} [Monad m]

/-- Carries a call out. -/
def perform (host : TerminalHost m) : ProcessCall → m (Outcome Json)
  | start id => host.start id
  | input id data => return (← host.input id data).map fun _ => .null
  | inputOctets id data => return (← host.inputOctets id data).map fun _ => .null
  | resize id cols rows => return (← host.resize id cols rows).map fun _ => .null
  | shutdown id immediate => return (← host.shutdown id immediate).map fun _ => .null
  | acknowledge id chars => return (← host.acknowledge id chars).map fun _ => .null
  | initialDir id => return (← host.initialDir id).map .str
  | currentDir id => return (← host.currentDir id).map .str
  | processes => host.processes
  | defaultShell => return (← host.defaultShell).map .str
  | environment => return (← host.environment).map Vars.toJson

end ProcessCall

/-- The stream of events that a name means; it may end in `Event`. -/
def ProcessEvent.ofName? : String → Option ProcessEvent
  | "$onProcessData" | "$onProcessDataEvent" => some .data
  | "$onProcessReady" | "$onProcessReadyEvent" => some .ready
  | "$onProcessExit" | "$onProcessExitEvent" => some .exit
  | _ => none

/-- Streams of the terminal channel. -/
inductive TerminalStream where
  /-- Commands for the client. -/
  | commands (id : Nat)
  | events (kind : ProcessEvent) (id : Nat)

/-- What stays the same while a server runs. -/
structure TerminalPlace where
  settings : TerminalSettings
  /-- The environment of the server. -/
  env : Vars
  /-- The directory that the server runs in. -/
  workingDir : String

namespace TerminalChannel

variable {m : Type → Type} [Monad m]

/-- The request for a terminal: the first argument, or the arguments themselves. -/
def requestOf (args : Json) : Outcome TerminalRequest :=
  TerminalRequest.shape.read <| match args with
    | .arr (first :: _) => first
    | other => other

/-- The process that a request means, given the host's environment. -/
def processOf (place : TerminalPlace) (a : Addressing) (r : TerminalRequest) (base : Vars) :
    ProcessRequest :=
  let v := Variables.ofRequest a r place.env place.settings.home place.workingDir
  let cwd := r.workingDir a v place.settings.home
  { launch := TerminalRequest.resolvedLaunch v cwd r.launch
    cwd
    cols := r.cols
    rows := r.rows
    unicodeVersion := r.unicodeVersion
    env := r.environment v place.settings base
    persistent := r.persistent
    workspaceId := r.workspaceId
    workspaceName := r.workspaceName }

/-- Registers a process for a request.  A strict launch does not ask for the host's environment. -/
def createProcess (host : TerminalHost m) (place : TerminalPlace) (a : Addressing)
    (r : TerminalRequest) : m (Outcome Json) := do
  let base ← if r.launch.strict then pure (.ok []) else host.environment
  match base with
  | .error e => return .error e
  | .ok base =>
    let process := processOf place a r base
    return (← host.create process).map fun id =>
      .obj [("persistentTerminalId", .int (.ofUInt32 id)),
        ("resolvedShellLaunchConfig", process.launch.toJson)]

def requestIdAt : Parameter := ⟨0, "reqId"⟩
def failedAt : Parameter := ⟨1, "isError"⟩
def payloadAt : Parameter := ⟨2, "payload"⟩

/-- The parameters of a command, by position.  What a terminal is asked for with has no parameters: it is the request
itself. -/
def parameters : (command : String) → List Parameter
  | "$sendCommandResult" => [requestIdAt, failedAt, payloadAt]
  | other => ((ProcessCall.Command.ofName? other).map ProcessCall.Command.parameters).getD []

/-- Takes the result of a command that a client has run. -/
def takeResult (args : Json) (c : ClientCommands) : Outcome ClientCommands := do
  let id ← requestIdAt.read Shape.u64 args
  let failed ← failedAt.readOr Shape.bool false args
  let payload ← payloadAt.read Shape.json args
  return c.answer id.toNat failed payload

/-- Answers a call; commands that nobody knows are answered by null. -/
def call (host : TerminalHost m) (place : TerminalPlace) (ctx : ChannelContext) (command : String)
    (args : Json) : StateT ClientCommands m (Outcome Json) := fun c => do
  match command with
  | "$createProcess" =>
    match requestOf args with
    | .error e => return (.error e, c)
    | .ok r => return (← createProcess host place ctx.addressing r, c)
  | "$sendCommandResult" =>
    match takeResult args c with
    | .error e => return (.error e, c)
    | .ok c => return (.ok .null, c)
  | other =>
    match ProcessCall.Command.ofName? other with
    | none => return (.ok .null, c)
    | some command =>
      match ProcessCall.ofCommand command args with
      | .error e => return (.error e, c)
      | .ok call => return (← call.perform host, c)

def listen (host : TerminalHost m) (event : String) : StateT ClientCommands m (Outcome TerminalStream) :=
  fun c => do
    if event = "$onExecuteCommand" then
      let (id, _, requests) := c.requests.subscribe
      return (.ok (.commands id), { c with requests })
    match ProcessEvent.ofName? event with
    | some kind => return (.ok (.events kind (← host.listen kind)), c)
    | none => return (.error (.invalidListen event), c)

def take (host : TerminalHost m) : TerminalStream → StateT ClientCommands m (List Json × Bool)
  | .commands id => fun c =>
    match c.requests.drain id with
    | (some (values, ended), requests) => return ((values.toList, ended), { c with requests })
    | (none, _) => return (([], true), c)
  | .events kind id => fun c => return (← host.take kind id, c)

def drop (host : TerminalHost m) : TerminalStream → StateT ClientCommands m Unit
  | .commands id => fun c => return ((), { c with requests := (c.requests.drop id).2 })
  | .events kind id => fun c => return (← host.drop kind id, c)

/-- The channel over a host, with the commands for clients as a part of its state. -/
def channel (host : TerminalHost (StateM σ)) (place : TerminalPlace) :
    Channel (StateM (ClientCommands × σ)) TerminalStream where
  call ctx command args := return some (← overHost (call host place ctx command args))
  listen _ event _ := overHost (listen host event)

/-- Its streams. -/
def streams (host : TerminalHost (StateM σ)) : Streams (StateM (ClientCommands × σ)) TerminalStream where
  take s := overHost (take host s)
  drop s := overHost (drop host s)

end TerminalChannel
end Workbench

import Workbench.Emitter
import Workbench.Executable
import Workbench.Terminal.Host
import Workbench.Tty

/-!
A host that runs terminals on this machine.  A terminal is registered first; starting it gives it a child
process, whose output and end are told to whoever listens.  The end of a child takes the number of its terminal
out of the table.
-/

namespace Workbench

namespace Terminal

/-- The text of what has arrived, and what has to wait: a character that is not complete at the end of
octets that are well-formed before it.  What is ill-formed is replaced. -/
def takeText (octets : Bytes) : String × Bytes :=
  let r := ({} : Utf8.Reading).feed octets
  match r.done.toList.mapM id, r.state with
  | some chars, none => (String.ofList chars, [])
  | some chars, some _ =>
    let text := String.ofList chars
    (text, octets.drop text.utf8ByteSize)
  | none, _ => (Utf8.decodeLossy octets, [])

end Terminal

/-- A child process, by its number. -/
abbrev ChildId := Nat

/-- A child process on its terminal. -/
structure Child where
  terminal : UInt32
  tty : Tty
  /-- Output that has been read and is not a whole character. -/
  unread : Bytes := []
  /-- Its end has been told. -/
  told : Bool := false

/-- A terminal that has been registered. -/
structure LocalTerminal where
  id : UInt32
  request : ProcessRequest
  child : Option ChildId := none

structure LocalTerminals where
  nextId : UInt32 := 1
  /-- Every terminal there has been, oldest first. -/
  terminals : List LocalTerminal := []
  /-- The terminals that can be reached: the place of each among all of them, by number. -/
  table : List (UInt32 × Nat) := []
  /-- Every child there has been, by number. -/
  children : List Child := []
  data : Emitter Json := {}
  ready : Emitter Json := {}
  exits : Emitter Json := {}

namespace LocalTerminals

def missing (id : UInt32) : Fault := .channel s!"no terminal process with id {id}"

def notStarted (id : UInt32) : Fault := .channel s!"terminal {id} has not been started"

/-- A terminal that can be reached, and its place. -/
def terminal? (t : LocalTerminals) (id : UInt32) : Option (Nat × LocalTerminal) :=
  match t.table.find? fun row => row.1 == id with
  | some (_, place) => t.terminals[place]?.map fun x => (place, x)
  | none => none

def find (t : LocalTerminals) (id : UInt32) : Outcome (Nat × LocalTerminal) :=
  match t.terminal? id with
  | some found => .ok found
  | none => .error (missing id)

/-- The child of a terminal that can be reached. -/
def childOf (t : LocalTerminals) (id : UInt32) : Outcome (ChildId × Child) := do
  let (_, x) ← t.find id
  match x.child.bind fun c => t.children[c]?.map fun child => (c, child) with
  | some found => .ok found
  | none => .error (notStarted id)

/-- Registers a terminal.  Numbers are given out again once all have been used. -/
def create (t : LocalTerminals) (request : ProcessRequest) : UInt32 × LocalTerminals :=
  (t.nextId, { t with
    nextId := t.nextId + 1
    terminals := t.terminals ++ [{ id := t.nextId, request }]
    table := t.table.filter (·.1 != t.nextId) ++ [(t.nextId, t.terminals.length)] })

/-- Takes a number out of the table. -/
def unlist (t : LocalTerminals) (id : UInt32) : LocalTerminals :=
  { t with table := t.table.filter (·.1 != id) }

/-- The executable that runs in a terminal. -/
def executable (env : Vars) (request : ProcessRequest) : String :=
  match request.launch.executable.filter (· ≠ "") with
  | some path => path
  | none => (env.get? "SHELL").getD "/bin/sh"

/-- The variables of a child: what a terminal needs is added if it is not there. -/
def childVars (request : ProcessRequest) : Vars :=
  let add (vars : Vars) (name value : String) : Vars :=
    if (vars.get? name).isSome then vars else vars.set name value
  add (add request.env "TERM" "xterm-256color") "SHELL" "/bin/bash"

/-- Why a child could not be started. -/
def notSpawned (path reason : String) : String := s!"failed to spawn {path}: {reason}"

/-- How a search for an executable names what it met. -/
def accessText : Errno → String
  | .noEntry => "ENOENT: No such file or directory"
  | .notDirectory => "ENOTDIR: Not a directory"
  | .loop => "ELOOP: Too many symbolic links encountered"
  | .nameTooLong => "ENAMETOOLONG: File name too long"
  | _ => "EACCES: Permission denied"

/-- The file of an executable: a path as it stands, if it can be executed, or a name that is looked for,
first beside the child, where anything will do. -/
def locate (disk : Disk) (vars : Vars) (dir path : String) : Except String String :=
  if Path.isAbsolute path then
    match Executable.check disk path with
    | .ok () => .ok path
    | .error e => .error
        s!"Unable to spawn {path} because it doesn't exist on the filesystem or is not executable ({accessText e})"
  else
    let beside := Path.join dir path
    let found := (Executable.candidates ((vars.get? "PATH").getD "") path).find? fun p =>
      (Executable.check disk p).isOk
    match (if Executable.isThere disk beside then some beside else found) with
    | some p => .ok p
    | none => .error
        s!"Unable to spawn {path} because it doesn't exist on the filesystem and was not found in PATH"

/-- Where a child starts: in the directory asked for if it is one, and at home if not. -/
def startDir (disk : Disk) (vars : Vars) (cwd : String) : String :=
  if disk.isDir cwd then cwd else (vars.get? "HOME").getD "/root"

/-- Starts what a terminal asks for. -/
def spawn (disk : Disk) (env : Vars) (request : ProcessRequest) : Except String Tty := do
  let path := executable env request
  let vars := childVars request
  let dir := startDir disk vars request.cwd
  let args := (request.launch.args.map LaunchArgs.argv).getD []
  let failed (reason : String) : String := notSpawned path reason
  let file ← (locate disk vars dir path).mapError failed
  if !disk.isDir dir then .error (failed Errno.noEntry.message)
  let process ← (Executable.start disk file args vars dir).mapError fun e => failed e.message
  return { process, cols := max request.cols 1, rows := max request.rows 1 }

/-- Adds a child. -/
def addChild (t : LocalTerminals) (id : UInt32) (tty : Tty) : ChildId × LocalTerminals :=
  (t.children.length, { t with children := t.children ++ [{ terminal := id, tty }] })

/-- Gives a terminal its child. -/
def attach (t : LocalTerminals) (place : Nat) (child : ChildId) : LocalTerminals :=
  { t with terminals := t.terminals.modify place fun x => { x with child := some child } }

/-- The process numbers of children. -/
def pid (child : ChildId) : Nat := 4000 + child

def fireReady (t : LocalTerminals) (id : UInt32) (child : ChildId) (cwd : String) : LocalTerminals :=
  { t with ready := t.ready.fire (processEvent id (.obj [("cwd", .str cwd), ("pid", Json.nat (pid child))])) }

/-- What a start comes to once the child has been made, or could not be.  Other requests may have been carried out
since the terminal was found. -/
def launched (t : LocalTerminals) (place : Nat) (x : LocalTerminal) : (made : Except String Tty) →
    Outcome Json × LocalTerminals
  | .error reason => (.ok (.obj [("message", .str reason)]), t)
  | .ok tty =>
    let (child, t) := t.addChild x.id tty
    (.ok .null, (t.attach place child).fireReady x.id child x.request.cwd)

/-- Starts a terminal, with nothing in between. -/
def start (disk : Disk) (env : Vars) (t : LocalTerminals) (id : UInt32) : Outcome Json × LocalTerminals :=
  match t.find id with
  | .error e => (.error e, t)
  | .ok (place, x) => t.launched place x (spawn disk env x.request)

def setTty (t : LocalTerminals) (child : ChildId) (f : Tty → Tty) : LocalTerminals :=
  { t with children := t.children.modify child fun c => { c with tty := f c.tty } }

/-- Does something with the child of a terminal. -/
def onChild (t : LocalTerminals) (id : UInt32) (f : Tty → Tty) : Outcome Unit × LocalTerminals :=
  match t.childOf id with
  | .error e => (.error e, t)
  | .ok (child, _) => (.ok (), t.setTty child f)

/-- Stops the child of a terminal.  Without one nothing would tell the end, so its number is taken out of the table
at once. -/
def shutdown (disk : Disk) (t : LocalTerminals) (id : UInt32) : Outcome Unit × LocalTerminals :=
  match t.find id, t.childOf id with
  | .error e, _ => (.error e, t)
  | .ok _, .ok (child, _) => (.ok (), t.setTty child fun tty => (tty.run disk.isDir).kill)
  | .ok _, .error _ => (.ok (), t.unlist id)

/-- What a child has said is told. -/
def tellOutput (t : LocalTerminals) (child : ChildId) (octets : Bytes) : LocalTerminals :=
  match t.children[child]? with
  | none => t
  | some c =>
    let (text, unread) := Terminal.takeText (c.unread ++ octets)
    let t := { t with children := t.children.set child { c with unread } }
    if text.isEmpty then t else { t with data := t.data.fire (processEvent c.terminal (.str text)) }

/-- The end of a child is told, once. -/
def tellEnd (t : LocalTerminals) (child : ChildId) (status : Nat) : LocalTerminals :=
  match t.children[child]? with
  | none => t
  | some c =>
    { t.unlist c.terminal with
      children := t.children.set child { c with told := true }
      exits := t.exits.fire (processEvent c.terminal (Json.nat status)) }

/-- Lets a child run on, and tells what comes of it. -/
def turn (disk : Disk) (t : LocalTerminals) (child : ChildId) : LocalTerminals :=
  match t.children[child]? with
  | none => t
  | some c =>
    if c.told then t
    else
      let (octets, tty) := (c.tty.run disk.isDir).takeScreen
      let t := (t.setTty child fun _ => tty).tellOutput child octets
      match tty.process.status with
      | some status => t.tellEnd child status
      | none => t

/-- Lets every child run on. -/
def settle (disk : Disk) (t : LocalTerminals) : LocalTerminals :=
  (List.range t.children.length).foldl (turn disk) t

/-- A terminal as it is listed. -/
def entryJson (x : LocalTerminal) : Json := Json.ofPairs [
  ("id", .int (.ofUInt32 x.id)), ("pid", match x.child with
    | some c => Json.nat (pid c)
    | none => .null),
  ("title", .str (x.request.launch.name.getD "")), ("cwd", .str x.request.cwd),
  ("workspaceId", .str x.request.workspaceId), ("workspaceName", .str x.request.workspaceName),
  ("isOrphan", .bool false)]

/-- The terminals that clients can come back to, by number. -/
def entries (t : LocalTerminals) : List Json :=
  let reached := t.table.filterMap fun row => t.terminals[row.2]?
  ((reached.filter (·.request.persistent)).mergeSort fun x y => x.id ≤ y.id).map entryJson

def events (t : LocalTerminals) : ProcessEvent → Emitter Json
  | .data => t.data
  | .ready => t.ready
  | .exit => t.exits

def setEvents (t : LocalTerminals) (kind : ProcessEvent) (e : Emitter Json) : LocalTerminals :=
  match kind with
  | .data => { t with data := e }
  | .ready => { t with ready := e }
  | .exit => { t with exits := e }

/-- Where a terminal is now. -/
def currentDir (t : LocalTerminals) (id : UInt32) : Outcome String := do
  let (_, x) ← t.find id
  return match t.childOf id with
    | .ok (_, c) => c.tty.process.dir
    | .error _ => x.request.cwd

/-- The octets of a text that holds one octet a character. -/
def octetsOf (data : String) : Bytes := data.toList.map fun c => UInt8.ofNat c.toNat

/-- The host, on a machine with an environment and a disk. -/
def host (env : Vars) : TerminalHost (StateM (LocalTerminals × Disk)) :=
  let act {α : Type} (f : Disk → LocalTerminals → α × LocalTerminals) :
      StateM (LocalTerminals × Disk) α := fun (t, disk) =>
    let (r, t) := f disk t
    (r, (t, disk))
  { create := fun request => act fun _ t =>
      let (id, t) := t.create request
      (.ok id, t)
    start := fun id => act fun disk t => start disk env t id
    input := fun id data => act fun disk t => t.onChild id fun tty => tty.type disk.isDir (Bytes.ofText data)
    inputOctets := fun id data => act fun disk t => t.onChild id fun tty => tty.type disk.isDir (octetsOf data)
    resize := fun id cols rows => act fun _ t => t.onChild id fun tty => tty.resize cols rows
    shutdown := fun id _ => act fun disk t => shutdown disk t id
    acknowledge := fun _ _ => pure (.ok ())
    initialDir := fun id => act fun _ t => ((t.find id).map fun found => found.2.request.cwd, t)
    currentDir := fun id => act fun _ t => (t.currentDir id, t)
    processes := act fun _ t => (.ok (.arr t.entries), t)
    defaultShell := pure (.ok ((env.get? "SHELL").getD "/bin/sh"))
    environment := pure (.ok env)
    listen := fun kind => act fun _ t =>
      let (id, _, e) := (t.events kind).subscribe
      (id, t.setEvents kind e)
    take := fun kind id => act fun _ t =>
      match (t.events kind).drain id with
      | (some (values, ended), e) => ((values.toList, ended), t.setEvents kind e)
      | (none, _) => (([], true), t)
    drop := fun kind id => act fun _ t => ((), t.setEvents kind ((t.events kind).drop id).2) }

end LocalTerminals
end Workbench

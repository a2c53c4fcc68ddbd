import Workbench.Executable
import Workbench.Frame
import Workbench.Json.Printer

/-!
A process that hosts extensions for one session.  Data of the client is queued for its input, so that a
process that does not read holds nobody up; one that lets too much of it wait is stopped.
-/

namespace Workbench

/-- Which process hosts extensions.  Without a command there is none. -/
structure ExtensionHostConfig where
  command : String := ""
  args : List String := []
  language : String := "en"
deriving DecidableEq, Repr

structure ExtensionHost where
  process : Process
  /-- Payloads that wait for the input of the process, oldest first. -/
  waiting : List ByteArray := []
  /-- How many octets of the first of them have been written. -/
  written : Nat := 0
  /-- The octets of the payloads whose writing has not finished. -/
  queued : Nat := 0
  /-- Payloads are still taken. -/
  accepting : Bool := true
  /-- A payload could not be written, and none is any more. -/
  failed : Bool := false
  /-- Nobody takes payloads off the queue any more. -/
  abandoned : Bool := false

namespace ExtensionHost

/-- So many octets may wait. -/
def maxQueued : Nat := 64 * 1024 * 1024

/-- So many octets of its input can be written before the process reads any. -/
def pipeRoom : Nat := 64 * 1024

/-- The variable that carries the arguments of the handshake. -/
def argsVariable : String := "FXCODE_EXTHOST_ARGS"

/-- Arguments of a handshake with the language among them. -/
def withLanguage (args : Json) (language : String) : Json :=
  .obj (Json.Fields.insert (args.obj?.getD []) "language" (.str language))

def disabled : Fault := .handshake "extension host connections are not enabled"

/-- Starts a process. -/
def spawn (disk : Disk) (env : Vars) (dir : String) (config : ExtensionHostConfig) (language : String)
    (args : Json) : Outcome ExtensionHost :=
  if config.command = "" then .error disabled
  else
    let vars := env.set argsVariable (withLanguage args language).compact
    let argv := config.args ++ ["--language", language]
    let started := do
      let path ← Executable.locate disk ((vars.get? "PATH").getD "/bin:/usr/bin") config.command
      Executable.start disk path argv vars dir
    (started.map fun process => { process := process }).mapError Errno.toFault

/-- Takes no more input. -/
def closeInput (h : ExtensionHost) : ExtensionHost := { h with accepting := false }

def kill (h : ExtensionHost) : ExtensionHost := { h with process := h.process.kill }

/-- Queues a payload, unless too much is waiting: then the process is stopped. -/
def deliver (h : ExtensionHost) (data : ByteArray) : ExtensionHost :=
  if !h.accepting then h
  else
    let h := { h with queued := h.queued + data.size }
    if maxQueued < h.queued then h.closeInput.kill
    else if h.abandoned then h.closeInput
    else { h with waiting := h.waiting ++ [data] }

/-- So many more octets of the first payload come to the process, or as many as there are. -/
def put (h : ExtensionHost) (count : Nat) : ExtensionHost :=
  match h.waiting with
  | first :: _ =>
    if h.failed then h
    else
      let upTo := min first.size (h.written + count)
      { h with process := h.process.feed (Blob.toBytes (first.extract h.written upTo)), written := upTo }
  | [] => h

/-- The first payload is done with and counted no more. -/
def release (h : ExtensionHost) : ExtensionHost :=
  match h.waiting with
  | first :: rest => { h with waiting := rest, written := 0, queued := h.queued - first.size }
  | [] => h

/-- Goes on to the next payload when the first has been written to its end. -/
def finishWrite (h : ExtensionHost) : ExtensionHost :=
  if h.failed || h.waiting.head?.map ByteArray.size ≠ some h.written then h else h.release

/-- The first payload cannot be written, or not to its end. -/
def failWrite (h : ExtensionHost) : ExtensionHost :=
  if h.failed || h.waiting.isEmpty then h else { h.release with failed := true }

/-- Leaves the queue, after a failure or when nothing is left and nothing will come; the process gets no more. -/
def abandon (h : ExtensionHost) : ExtensionHost :=
  if h.failed || h.waiting.isEmpty && !h.accepting then
    { h with waiting := [], written := 0, abandoned := true, process := h.process.endInput }
  else h

/-- Writes as much of the first payload as there is room for.  One that is written is counted no more; nor
is one that cannot be, because the process has ended. -/
def write (h : ExtensionHost) : ExtensionHost :=
  if h.waiting.isEmpty then h.abandon
  else if h.process.status.isSome then h.failWrite.abandon
  else (h.put (pipeRoom - h.process.input.length)).finishWrite

/-- What the process finds around it: pipes, and no terminal. -/
def surroundings (disk : Disk) : Surroundings := ⟨none, false, disk.isDir⟩

/-- Lets the process run on. -/
def run (disk : Disk) (h : ExtensionHost) : ExtensionHost :=
  { h with process := h.process.run (surroundings disk) }

/-- Writes and lets the process run in turns, as long as something is written.  `fuel` bounds the turns. -/
def settle (disk : Disk) : (fuel : Nat) → ExtensionHost → ExtensionHost
  | 0, h => h.run disk
  | fuel + 1, h =>
    let next := (h.run disk).write
    if next.queued = h.queued && next.written = h.written then next.run disk else settle disk fuel next

/-- More turns than anything takes. -/
def maxTurns : Nat := 100000

/-- Takes what the process has said; true if it will never say more. -/
def takeOutput (disk : Disk) (h : ExtensionHost) : Bytes × Bool × ExtensionHost :=
  let h := h.settle disk maxTurns
  let (octets, process) := h.process.takeOutput
  (octets, process.status.isSome, { h with process })

/-- Takes a payload of the client: data. -/
def take (h : ExtensionHost) : Payload → ExtensionHost
  | .data blob => h.deliver blob
  | _ => h

/-- Stops the process. -/
def shut (h : ExtensionHost) : ExtensionHost := h.closeInput.kill

end ExtensionHost
end Workbench

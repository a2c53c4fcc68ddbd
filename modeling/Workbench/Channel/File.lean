import Workbench.Channel
import Workbench.File.Request

/-!
The file channel.  Watches are grouped into sessions that clients name; a session opens when somebody
listens for its changes and closes, with all its watches, when the listener goes.  Files can also be
listened to while they are read.
-/

namespace Workbench

/-- A group of watches. -/
structure WatchSession where
  /-- The stream that gets the changes. -/
  feed : Nat
  addressing : Addressing
  /-- Numbers of watches by the client's request. -/
  watches : List (UInt64 × Nat) := []

/-- Where the changes of a watch go, and how they are addressed there. -/
structure ChangeSink where
  feed : Nat
  addressing : Addressing
  addressed : Resource

/-- What a stream of the channel is about. -/
inductive FileFeed where
  | changes (session : String)
  | reading (run : Nat)
deriving DecidableEq, Repr

/-- The state of the file channel. -/
structure FileDesk where
  feeds : Feeds Json := {}
  subjects : List (Nat × FileFeed) := []
  sessions : List (String × WatchSession) := []
  sinks : List (Nat × ChangeSink) := []

namespace FileDesk

def session? (d : FileDesk) (name : String) : Option WatchSession :=
  (d.sessions.find? fun e => e.1 == name).map (·.2)

/-- What a stream is about. -/
def subject? (d : FileDesk) (feed : Nat) : Option FileFeed :=
  (d.subjects.find? fun e => e.1 == feed).map (·.2)

/-- How many watches a session has; nothing if nobody listens. -/
def watchCount (d : FileDesk) (name : String) : Option Nat :=
  (d.session? name).map (·.watches.length)

def noSession (name : String) : Fault := .channel s!"no watch session '{name}'"

/-- Numbers of the watches of a session. -/
def handles (d : FileDesk) (name : String) : List Nat :=
  match d.session? name with
  | some s => s.watches.map (·.2)
  | none => []

/-- Opens a session under a name for a new listener; watches of one that has the name are given up. -/
def attach (d : FileDesk) (addressing : Addressing) (name : String) : Nat × List Nat × FileDesk :=
  let (feed, feeds) := d.feeds.start
  (feed, d.handles name,
    { d with
      feeds
      subjects := (feed, .changes name) :: d.subjects
      sessions := (name, ⟨feed, addressing, []⟩) :: d.sessions.filter (·.1 != name) })

/-- Closes the session of a name; its watches are given up. -/
def closeSession (d : FileDesk) (name : String) : List Nat × FileDesk :=
  (d.handles name, { d with sessions := d.sessions.filter (·.1 != name) })

/-- Gives a session a watch; one that has the same request number is given up, and so is the watch if
the session has gone. -/
def register (d : FileDesk) (name : String) (request : UInt64) (watch : Nat) :
    Outcome Unit × List Nat × FileDesk :=
  match d.session? name with
  | none => (.error (noSession name), [watch], d)
  | some s =>
    let replaced := (s.watches.filter (·.1 == request)).map (·.2)
    let watches := s.watches.filter (·.1 != request) ++ [(request, watch)]
    (.ok (), replaced,
      { d with sessions := d.sessions.map fun e => if e.1 = name then (name, { s with watches }) else e })

/-- Takes a watch from a session. -/
def unregister (d : FileDesk) (name : String) (request : UInt64) : List Nat × FileDesk :=
  match d.session? name with
  | none => ([], d)
  | some s =>
    ((s.watches.filter (·.1 == request)).map (·.2),
      { d with sessions := d.sessions.map fun e =>
          if e.1 = name then (name, { s with watches := s.watches.filter (·.1 != request) }) else e })

/-- Changes as a listener gets them: in the address space in which the watch was asked for. -/
def changePayload (sink : ChangeSink) (changes : List FileChange) : Json :=
  .arr <| changes.map fun change => Json.ofPairs [
    ("resource", (sink.addressing.restore (Resource.file change.path) sink.addressed).toJson),
    ("type", Json.nat change.kind.code)]

/-- Passes on what a watch reports.  A watch that has been given up may still report. -/
def report (d : FileDesk) (watch : Nat) (changes : List FileChange) : FileDesk :=
  match d.sinks.find? fun e => e.1 == watch with
  | some (_, sink) => { d with feeds := d.feeds.push sink.feed (changePayload sink changes) }
  | none => d

/-- A step of a streamed read as a listener gets it. -/
def streamPayload : StreamEvent → Json
  | .data piece => Json.ofPairs [("type", .str "data"), ("data", Buffer.toJson piece)]
  | .failed message => Json.ofPairs [("type", .str "error"), ("message", .str message)]
  | .finished => .str "end"

/-- Steps up to the end, the end included, and whether it was reached. -/
def upToEnd : List StreamEvent → List StreamEvent × Bool
  | [] => ([], false)
  | .finished :: _ => ([.finished], true)
  | e :: rest => ((e :: (upToEnd rest).1), (upToEnd rest).2)

/-- A stream for a read that has been started. -/
def followRead (d : FileDesk) (run : StreamRun) : Nat × FileDesk :=
  let (feed, feeds) := d.feeds.start
  let (events, reachedEnd) := upToEnd run.events
  let feeds := events.foldl (fun feeds e => feeds.push feed (streamPayload e)) feeds
  let feeds := if reachedEnd || !run.held then feeds.finish feed else feeds
  (feed, { d with feeds, subjects := (feed, .reading run.id) :: d.subjects })

variable {m : Type → Type} [Monad m]

/-- Gives up watches. -/
def releaseAll (p : FileProvider m) (watches : List Nat) : m Unit := watches.forM p.release

/-- Carries out a request.  What is watched is resolved by the addressing of the session, whoever asks. -/
def perform (p : FileProvider m) : FileRequest → StateT FileDesk m (Outcome Json)
  | .stat path => fun d => return ((← p.stat path).map FileStat.toJson, d)
  | .openFile path create => fun d => return ((← p.openFile path create).map (.int ∘ .ofUInt64), d)
  | .close fd => fun d => return ((← p.close fd).map fun _ => .null, d)
  | .read fd pos length => fun d =>
    return ((← p.read fd pos length).map fun data =>
      .arr [Json.nat data.size, Buffer.toJson data], d)
  | .readFile path => fun d => return ((← p.readFile path).map Buffer.toJson, d)
  | .write fd pos data => fun d => return ((← p.write fd pos data).map Json.nat, d)
  | .writeFile path data options => fun d =>
    return ((← p.writeFile path data options).map fun _ => .null, d)
  | .delete path options => fun d => return ((← p.delete path options).map fun _ => .null, d)
  | .makeDir path => fun d => return ((← p.makeDir path).map fun _ => .null, d)
  | .readDir path => fun d =>
    return ((← p.readDir path).map fun entries =>
      .arr (entries.map fun (name, type) => .arr [.str name, .int (.ofUInt32 type)]), d)
  | .rename source target overwrite => fun d =>
    return ((← p.rename source target overwrite).map fun _ => .null, d)
  | .copy source target overwrite => fun d =>
    return ((← p.copy source target overwrite).map fun _ => .null, d)
  | .watch name request addressed options => fun d => do
    match d.session? name with
    | none => return (.error (noSession name), d)
    | some s =>
      match ← p.watch (s.addressing.resolve addressed).fsPath options with
      | .error e => return (.error e, d)
      | .ok watch =>
        let sink : ChangeSink := ⟨s.feed, s.addressing, addressed⟩
        let (r, released, d) := ({ d with sinks := (watch, sink) :: d.sinks }).register name request watch
        releaseAll p released
        return (r.map fun _ => .null, d)
  | .unwatch name request => fun d => do
    let (released, d) := d.unregister name request
    releaseAll p released
    return (.ok .null, d)

/-- What becomes of a command and its arguments. -/
def dispatch (p : FileProvider m) (a : Addressing) (command : String) (args : Json) :
    StateT FileDesk m (Outcome Json) :=
  match FileRequest.ofCall a command args with
  | .ok request => perform p request
  | .error e => pure (.error e)

/-- Answers a call.  Failures on quiet configuration files are answered by null. -/
def call (p : FileProvider m) (ctx : ChannelContext) (command : String) (args : Json) :
    StateT FileDesk m (Outcome Json) := do
  match ← dispatch p ctx.addressing command args with
  | .ok v => return .ok v
  | .error e => return if touchesQuietConfig ctx.addressing args then .ok .null else .error e

/-- Opens a stream of changes, or of a file's contents. -/
def listen (p : FileProvider m) (ctx : ChannelContext) (event : String) (args : Json) :
    StateT FileDesk m (Outcome Nat) := fun d => do
  match event with
  | "fileChange" =>
    match FileRequest.sessionAt.read Shape.text args with
    | .error e => return (.error e, d)
    | .ok name =>
      let (feed, released, d) := d.attach ctx.addressing name
      releaseAll p released
      return (.ok feed, d)
  | "readFileStream" =>
    let asked : Outcome (String × StreamOptions) := do
      let path ← FileRequest.localPath ctx.addressing FileRequest.resourceAt args
      return (path, ← (FileRequest.optionsAt 1).readOr StreamOptions.shape {} args)
    match asked with
    | .error e => return (.error e, d)
    | .ok (path, options) =>
      let (feed, d) := d.followRead (← p.readStream path options)
      return (.ok feed, d)
  | other => return (.error (.invalidListen other), d)

/-- What a stream has sent. -/
def take (feed : Nat) : StateT FileDesk m (List Json × Bool) := fun d =>
  let (got, feeds) := d.feeds.take feed
  return (got, { d with feeds })

/-- Drops a stream: a session loses its listener, and a read that has not ended is cancelled. -/
def drop (p : FileProvider m) (feed : Nat) : StateT FileDesk m Unit := fun d => do
  let ended := ((d.feeds.find? feed).map (·.ended)).getD true
  let rest := { d with feeds := d.feeds.drop feed, subjects := d.subjects.filter (·.1 != feed) }
  match d.subject? feed with
  | some (.changes name) =>
    let (released, rest) := rest.closeSession name
    releaseAll p released
    return ((), rest)
  | some (.reading run) =>
    if !ended then p.cancel run
    return ((), rest)
  | none => return ((), rest)

/-- The channel over a provider. -/
def channel (p : FileProvider (StateM σ)) : Channel (StateM (FileDesk × σ)) Nat where
  call ctx command args := return some (← overHost (call p ctx command args))
  listen ctx event args := overHost (listen p ctx event args)

/-- Its streams. -/
def streams (p : FileProvider (StateM σ)) : Streams (StateM (FileDesk × σ)) Nat where
  take feed := overHost (take feed)
  drop feed := overHost (drop p feed)

/-- Passes on what several watches report, in order. -/
def reportAll (d : FileDesk) (reports : List (Nat × List FileChange)) : FileDesk :=
  reports.foldl (fun d (watch, changes) => d.report watch changes) d

end FileDesk
end Workbench

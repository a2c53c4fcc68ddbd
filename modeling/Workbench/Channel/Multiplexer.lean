import Workbench.Channel
import Workbench.Frame

/-!
Requests of one session, carried out side by side.  Every call and every subscription is a task; the
table of active requests says which task a request number means at present, so that the client, or the
end of the session, can abort it.  A number may be taken again while its task still runs: the table then
means the later task, and the earlier one runs on.
-/

namespace Workbench

/-- What a task is at. -/
inductive Work (τ : Type) where
  /-- A call that has not been made yet. -/
  | call (channel command : String) (args : Json)
  /-- A call that has been made and not been answered. -/
  | waiting
  /-- Events of a stream are passed on. -/
  | stream (s : τ)

/-- A task, by a number of its own and the number of its request. -/
structure RequestTask (τ : Type) where
  serial : Nat
  id : UInt32
  work : Work τ

/-- The tasks of one session and the responses they have given. -/
structure Multiplexer (τ : Type) where
  /-- Tasks that have neither finished nor been aborted, oldest first. -/
  tasks : List (RequestTask τ) := []
  /-- The task that each active request number means. -/
  active : List (UInt32 × Nat) := []
  nextSerial : Nat := 0
  /-- Responses not yet taken, oldest first. -/
  responses : Array ChannelResponse := #[]

namespace Multiplexer

variable {τ : Type}

def respond (x : Multiplexer τ) (r : ChannelResponse) : Multiplexer τ :=
  { x with responses := x.responses.push r }

/-- Starts a task for a request; the request's number means it from now on. -/
def spawn (x : Multiplexer τ) (id : UInt32) (work : Work τ) : Multiplexer τ :=
  { x with
    tasks := x.tasks ++ [⟨x.nextSerial, id, work⟩]
    active := x.active.filter (·.1 != id) ++ [(id, x.nextSerial)]
    nextSerial := x.nextSerial + 1 }

def task? (x : Multiplexer τ) (serial : Nat) : Option (RequestTask τ) :=
  x.tasks.find? (·.serial == serial)

/-- Ends a task; its request's number becomes free, whichever task it means. -/
def finish (x : Multiplexer τ) (serial : Nat) : Multiplexer τ :=
  match x.task? serial with
  | none => x
  | some t =>
    { x with
      tasks := x.tasks.filter (·.serial != serial)
      active := x.active.filter (·.1 != t.id) }

/-- The outcome of a call as a response. -/
def answer (id : UInt32) : Outcome Json → ChannelResponse
  | .ok v => .ok id v
  | .error f => .err id f.report

/-- A call is answered. -/
def finishCall (x : Multiplexer τ) (serial : Nat) (outcome : Outcome Json) : Multiplexer τ :=
  match x.task? serial with
  | none => x
  | some t => (x.finish serial).respond (answer t.id outcome)

/-- A call has been made and is waited for. -/
def markWaiting (x : Multiplexer τ) (serial : Nat) : Multiplexer τ :=
  { x with tasks := x.tasks.map fun t => if t.serial = serial then { t with work := .waiting } else t }

/-- A stream's values become events. -/
def forward (x : Multiplexer τ) (serial : Nat) (values : List Json) : Multiplexer τ :=
  match x.task? serial with
  | none => x
  | some t => values.foldl (fun x v => x.respond (.event t.id v)) x

/-- Aborts tasks.  Their streams are to be dropped. -/
def abort (x : Multiplexer τ) (serials : List Nat) : List τ × Multiplexer τ :=
  let gone := x.tasks.filter fun t => serials.contains t.serial
  (gone.filterMap fun t => match t.work with
    | .stream s => some s
    | _ => none,
    { x with tasks := x.tasks.filter fun t => !serials.contains t.serial })

/-- Aborts the task that a number means. -/
def disposeRequest (x : Multiplexer τ) (id : UInt32) : List τ × Multiplexer τ :=
  let meant := (x.active.filter fun e => e.1 == id).map fun e => e.2
  ({ x with active := x.active.filter (·.1 != id) }).abort meant

/-- Aborts every task in the table. -/
def dispose (x : Multiplexer τ) : List τ × Multiplexer τ :=
  let all := x.active.map fun e => e.2
  ({ x with active := [] }).abort all

def activeRequests (x : Multiplexer τ) : Nat := x.active.length

/-- Takes the responses given so far. -/
def takeResponses (x : Multiplexer τ) : List ChannelResponse × Multiplexer τ :=
  (x.responses.toList, { x with responses := #[] })

variable {m : Type → Type} [Monad m]

/-- Takes a request.  A call is only noted; a subscription is made at once and may fail at once. -/
def handle (registry : Registry m τ) (streams : Streams m τ) (ctx : ChannelContext) :
    ChannelRequest → StateT (Multiplexer τ) m Unit
  | .call id channel command args => fun x => return ((), x.spawn id (.call channel command args))
  | .listen id channel event args => fun x => do
    let made ← match registry.find channel with
      | .ok c => c.listen ctx event args
      | .error e => pure (.error e)
    match made with
    | .ok s => return ((), x.spawn id (.stream s))
    | .error e => return ((), x.respond (.err id e.report))
  | .dispose id => fun x => do
    let (gone, x) := x.disposeRequest id
    gone.forM streams.drop
    return ((), x)

/-- Ends everything. -/
def disposeAll (streams : Streams m τ) : StateT (Multiplexer τ) m Unit := fun x => do
  let (gone, x) := x.dispose
  gone.forM streams.drop
  return ((), x)

/-- Makes one call. -/
def makeCall (registry : Registry m τ) (ctx : ChannelContext) (t : RequestTask τ) :
    StateT (Multiplexer τ) m Unit := fun x => do
  match t.work with
  | .call channel command args =>
    let outcome ← match registry.find channel with
      | .ok c => c.call ctx command args
      | .error e => pure (some (.error e))
    match outcome with
    | some outcome => return ((), x.finishCall t.serial outcome)
    | none => return ((), x.markWaiting t.serial)
  | _ => return ((), x)

/-- Makes the calls that have been noted, in order. -/
def makeCalls (registry : Registry m τ) (ctx : ChannelContext) : StateT (Multiplexer τ) m Unit :=
  fun x => (x.tasks.forM fun t => makeCall registry ctx t).run x

/-- Passes on what one stream has sent. -/
def pumpStream (streams : Streams m τ) (t : RequestTask τ) : StateT (Multiplexer τ) m Unit :=
  fun x => do
    match t.work with
    | .stream s =>
      let (values, ended) ← streams.take s
      let x := x.forward t.serial values
      if ended then
        streams.drop s
        return ((), x.finish t.serial)
      else return ((), x)
    | _ => return ((), x)

/-- Passes on what the streams have sent, in the order of their tasks. -/
def pump (streams : Streams m τ) : StateT (Multiplexer τ) m Unit :=
  fun x => (x.tasks.forM fun t => pumpStream streams t).run x

/-- Lets every task run until it has to wait. -/
def settle (registry : Registry m τ) (streams : Streams m τ) (ctx : ChannelContext) :
    StateT (Multiplexer τ) m Unit := do
  makeCalls registry ctx
  pump streams

end Multiplexer
end Workbench

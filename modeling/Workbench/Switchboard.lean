import Workbench.Link
import Workbench.Session.Table

/-!
Sockets, sessions and their runtimes joined: the effects that sessions have are carried out, and every
session is given turns until none of them has anything left to do.
-/

namespace Workbench

/-- What stands behind a session.  It works on a state that all of them share. -/
structure RuntimeOps (ρ σ : Type) where
  deliver : Payload → ρ → StateM σ ρ
  /-- Takes what there is for the client; true when nothing more will ever come. -/
  produce : ρ → StateM σ (List Payload × Bool × ρ)
  shut : ρ → StateM σ Unit

structure Switchboard (ρ : Type) where
  now : Instant := 0
  /-- Sockets by number. -/
  links : List Link := []
  table : SessionTable := {}
  /-- The runtimes of the sessions, by number; nothing for one that has been shut. -/
  runtimes : List (Option ρ) := []

/-- Work at a switchboard, over the state that runtimes share. -/
abbrev Switching (ρ σ : Type) : Type → Type := StateT (Switchboard ρ) (StateM σ)

namespace Switchboard

variable {ρ σ : Type}

/-- Sets up a socket. -/
def addLink (link : Link) : Switching ρ σ SocketId :=
  modifyGet fun b => (b.links.length, { b with links := b.links ++ [link] })

def onLink (socket : SocketId) (f : Link → Link) : Switching ρ σ Unit :=
  modify fun b => { b with links := b.links.modify socket f }

def link? (socket : SocketId) : Switching ρ σ (Option Link) := return (← get).links[socket]?

def send (socket : SocketId) (frame : Frame) : Switching ρ σ Unit :=
  onLink socket fun l => ({ l with near := (l.near.send frame).2 }).carry

/-- Closes the server's end of a socket and lets go of it. -/
def close (socket : SocketId) : Switching ρ σ Unit :=
  onLink socket fun l => ({ l with near := l.near.close }).dropNear

/-- Sends a fault and closes. -/
def refuse (socket : SocketId) (fault : Fault) : Switching ρ σ Unit :=
  onLink socket fun l => ({ l with near := l.near.reject fault }).dropNear

/-- Looks at what a client has sent. -/
def receive (socket : SocketId) : Switching ρ σ Transport.Received := do
  match ← link? socket with
  | none => return .closed
  | some l =>
    let (r, near) := l.carry.near.receive
    onLink socket fun l => { l.carry with near }
    return r

def runtime? (id : SessionId) : Switching ρ σ (Option ρ) := return ((← get).runtimes[id]?).join

def setRuntime (id : SessionId) (r : Option ρ) : Switching ρ σ Unit :=
  modify fun b => { b with runtimes := b.runtimes.set id r }

/-- Carries out one effect of a session. -/
def perform (ops : RuntimeOps ρ σ) (id : SessionId) : Effect → Switching ρ σ Unit
  | .send socket frame => send socket frame
  | .close socket => close socket
  | .refuse socket fault => refuse socket fault
  | .deliver payload => do
    if let some r ← runtime? id then setRuntime id (some (← ops.deliver payload r))
  | .shutRuntime => do
    if let some r ← runtime? id then
      ops.shut r
      setRuntime id none

/-- Makes a step of a session. -/
def step (ops : RuntimeOps ρ σ) (id : SessionId) (f : Session → List Effect × Session) :
    Switching ρ σ Unit := do
  if let some s := (← get).table.session? id then
    let (effects, s) := f s
    modify fun b => { b with table := b.table.setSession id s }
    effects.forM (perform ops id)

/-- Starts a session on a socket for a reserved key. -/
def start (s : Session) (r : ρ) : Switching ρ σ SessionId :=
  modifyGet fun b =>
    let (id, table) := b.table.register s
    (id, { b with table, runtimes := b.runtimes ++ [some r] })

/-- What has become of a socket that asked for a session. -/
inductive Seated where
  | created (id : SessionId)
  | resumed (id : SessionId)

/-- Admits a socket to a session; if it takes a new one, `make` makes its runtime, or fails. -/
def seat (key : SessionKey) (reconnection : Bool) (socket : SocketId) (grace : Nat)
    (make : Switching ρ σ (Outcome ρ)) : Switching ρ σ (Outcome Seated) := do
  match (← get).table.seat key reconnection socket with
  | .error e => return .error e
  | .ok (.resumed id, table) =>
    modify fun b => { b with table }
    return .ok (.resumed id)
  | .ok (.reserved, table) =>
    modify fun b => { b with table }
    match ← make with
    | .error e =>
      modify fun b => { b with table := b.table.release key }
      return .error e
    | .ok r => return .ok (.created (← start (.start key.token key.kind grace socket) r))

/-- Takes what the runtime of a session has for its client; true if there was something. -/
def produce (ops : RuntimeOps ρ σ) (id : SessionId) : Switching ρ σ Bool := do
  match ← runtime? id with
  | none => return false
  | some r =>
    let (payloads, ended, r) ← ops.produce r
    setRuntime id (some r)
    payloads.forM fun p => step ops id (·.produce p)
    if ended then step ops id Session.leave
    return ended || !payloads.isEmpty

/-- Lets a session that has nothing else to do look at its timers; true if one was due. -/
def timers (ops : RuntimeOps ρ σ) (id : SessionId) (s : Session) : Switching ρ σ Bool := do
  let now := (← get).now
  let due := match s.phase with
    | .online _ next => next ≤ now
    | .waiting deadline => deadline ≤ now
    | _ => false
  if due then
    step ops id (·.keepAlive now)
    step ops id (·.expire now)
  return due

/-- Gives a session one turn; true if it had something to do. -/
def turn (ops : RuntimeOps ρ σ) (id : SessionId) : Switching ρ σ Bool := do
  let b ← get
  let some s := b.table.session? id | return false
  let idle : Switching ρ σ Bool := do
    if ← produce ops id then return true else timers ops id s
  let wanted (otherwise : Switching ρ σ Bool) : Switching ρ σ Bool := do
    if s.stopping then
      step ops id Session.stop
      return true
    else if !s.queue.isEmpty then
      step ops id Session.takeNext
      return true
    else otherwise
  match s.phase with
  | .closed => return false
  | .ending =>
    step ops id Session.finish
    return true
  | .adopting _ _ =>
    step ops id (·.adopt b.now)
    return true
  | .waiting _ => wanted idle
  | .online socket _ =>
    wanted do
      match ← receive socket with
      | .frame f =>
        step ops id (·.receive f)
        return true
      | .closed | .failed _ =>
        step ops id (·.lose b.now)
        return true
      | .pending => idle

/-- Gives every session one turn. -/
def turns (ops : RuntimeOps ρ σ) : Switching ρ σ Bool := do
  let n := (← get).table.sessions.length
  (List.range n).foldlM (fun busy id => return (← turn ops id) || busy) false

/-- Repeats rounds until one of them finds nothing to do.  `fuel` bounds the rounds. -/
def settle {m : Type → Type} [Monad m] (round : m Bool) : (fuel : Nat) → m Unit
  | 0 => pure ()
  | fuel + 1 => do if ← round then settle round fuel

/-- More rounds than anything takes. -/
def maxRounds : Nat := 1000000

/-- Lets time pass. -/
def advance (ms : Nat) : Switching ρ σ Unit := modify fun b => { b with now := b.now + ms }

end Switchboard
end Workbench

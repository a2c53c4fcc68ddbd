import Workbench.Inspect
import Workbench.Server.Runtime
import Workbench.Tunnel
import Workbench.Upgrade

/-!
A server of sessions.  A socket that has been upgraded shows in its first frame what it is for, and is
then seated at a session, or becomes a tunnel, or is told why not.
-/

namespace Workbench

/-- A socket whose first frame is waited for. -/
structure Knock where
  socket : SocketId
  query : ConnectionQuery
  deadline : Instant

structure Server where
  board : Switchboard ServerRuntime := {}
  knocks : List Knock := []
  tunnels : List Tunnel := []
  /-- Tokens of new management sessions that have not been told. -/
  announced : List String := []

/-- Work of a server. -/
abbrev Serving : Type → Type := StateT Server (StateM Facilities)

namespace Server

/-- Works at the switchboard. -/
def onBoard (act : Switching ServerRuntime Facilities α) : Serving α := fun s => do
  let (r, board) ← act s.board
  return (r, { s with board })

/-- Takes a request for an upgrade, and the octets behind it; gives the response, and the socket if there
is one.  The client's end is one that skips messages.  Nothing comes of it while the request is not complete,
unless no more octets come. -/
def connect (p : ServerPlace) (octets : Bytes) (ended : Bool := false) :
    Serving (Option (Http.Response × Option SocketId)) := do
  match Upgrade.run? octets ended with
  | none => return none
  | some u =>
    match u.result with
    | .error _ => return some (u.response, none)
    | .ok (query, near) =>
      let socket ← onBoard (Switchboard.addLink ⟨near, .raw⟩)
      modify fun s => { s with knocks := s.knocks ++
        [⟨socket, query, s.board.now + 1000 * p.config.handshakeSeconds⟩] }
      return some (u.response, some socket)

/-- The authority that a client says it has reached, or the one of the server. -/
def authorityOf (p : ServerPlace) (h : Handshake) : String :=
  (((h.args.get? "remoteAuthority").bind Json.str?).filter (· ≠ "")).getD p.config.authority

/-- The language of a client, or the one of the server. -/
def languageOf (p : ServerPlace) (h : Handshake) : String :=
  ((h.args.get? "language").bind Json.str?).getD p.config.extensionHost.language

/-- Makes what is to stand behind a session. -/
def makeRuntime (p : ServerPlace) (h : Handshake) (token : String) :
    StateM Facilities (Outcome ServerRuntime) := do
  match h.kind with
  | .extensionHost =>
    let host := ExtensionHost.spawn (← get).disk.disk p.env p.workingDir p.config.extensionHost
      (languageOf p h) h.args
    return host.map .extensionHost
  | _ =>
    let authority := authorityOf p h
    return .ok (.ofContext ⟨authority, ⟨authority, p.config.installation.roots⟩, token⟩)

def tunnelNeedsPort : Fault := .handshake "tunnel requires a port"

/-- The host and the port that a tunnel is to lead to. -/
def tunnelTarget (h : Handshake) : Outcome (String × Nat) :=
  match ((h.args.get? "port").bind Json.nat?).filter (· < 0x10000) with
  | some port => .ok (((h.args.get? "host").bind Json.str?).getD "127.0.0.1", port)
  | none => .error tunnelNeedsPort

/-- Opens a tunnel. -/
def openTunnel (socket : SocketId) (h : Handshake) : Serving Unit := do
  let network := (← getThe Facilities).network
  let reached := do
    let (host, port) ← tunnelTarget h
    (network.connect host port).mapError Errno.toFault
  match reached with
  | .error e => onBoard (Switchboard.refuse socket e)
  | .ok program =>
    onBoard (Switchboard.send socket (.ok false))
    modify fun s => { s with tunnels := s.tunnels ++ [{ socket, endpoint := { program, dir := "/" } }] }

/-- Admits a socket to a session.  Then offline sessions go, if there are too many of its kind. -/
def seat (p : ServerPlace) (k : Knock) (h : Handshake) : Serving Unit := do
  let token := k.query.token
  let grace := 1000 * p.config.graceSeconds
  let make : Switching ServerRuntime Facilities (Outcome ServerRuntime) := makeRuntime p h token
  match ← onBoard (Switchboard.seat ⟨h.kind, token⟩ k.query.reconnection k.socket grace make) with
  | .error e => onBoard (Switchboard.refuse k.socket e)
  | .ok seated =>
    if seated matches .created _ then
      if h.kind = .management then
        modify fun s => { s with announced := s.announced ++ [token] }
    onBoard <| modify fun b =>
      { b with table := (b.table.sweepOffline h.kind p.config.maxOffline).2 }

/-- Why a frame is not a handshake. -/
def notHandshake (f : Frame) : Fault := .handshake s!"expected handshake, got {f.inspect}"

def forgetKnock (k : Knock) : Serving Unit :=
  modify fun s => { s with knocks := s.knocks.filter (·.socket ≠ k.socket) }

/-- Looks at a socket whose first frame is waited for; true if something has come of it. -/
def hear (p : ServerPlace) (k : Knock) : Serving Bool := do
  let refuse (e : Fault) : Serving Bool := do
    forgetKnock k
    onBoard (Switchboard.refuse k.socket e)
    return true
  match ← onBoard (Switchboard.receive k.socket) with
  | .frame (.handshake h) =>
    forgetKnock k
    match h.kind with
    | .tunnel => openTunnel k.socket h
    | _ => seat p k h
    return true
  | .frame f => refuse (notHandshake f)
  | .failed e => refuse e
  | .closed =>
    forgetKnock k
    return true
  | .pending => if k.deadline ≤ (← get).board.now then refuse .timeout else return false

/-- Carries out what a tunnel does to its socket. -/
def tunnelEffect : Effect → Serving Unit
  | .send socket frame => onBoard (Switchboard.send socket frame)
  | .close socket => onBoard (Switchboard.close socket)
  | _ => pure ()

def setTunnel (t : Tunnel) : Serving Unit :=
  modify fun s => { s with tunnels := s.tunnels.map fun x => if x.socket = t.socket then t else x }

/-- Lets a tunnel look at both its ends; true if something has come of it. -/
def passOn (t : Tunnel) : Serving Bool := do
  if t.closed then return false
  let did (r : List Effect × Tunnel) : Serving Bool := do
    setTunnel r.2
    r.1.forM tunnelEffect
    return true
  match ← onBoard (Switchboard.receive t.socket) with
  | .frame f => did (t.receive f)
  | .closed | .failed _ => did t.leave
  | .pending =>
    let (octets, endpoint) := (t.endpoint.run ⟨none, false, fun _ => false⟩).takeOutput
    let t := { t with endpoint }
    if !octets.isEmpty then did (t.pass octets)
    else if endpoint.status.isSome then did t.leave
    else
      setTunnel t
      return false

/-- Sessions that are closed cannot be found any more. -/
def forgetClosed : Serving Unit := onBoard <| modify fun b =>
  { b with table := (List.range b.table.sessions.length).foldl (fun t id =>
      match t.session? id with
      | some s => if s.phase = .closed then (t.remove id).2 else t
      | none => t) b.table }

/-- Looks at everything once; true if something has come of it. -/
def round (p : ServerPlace) : Serving Bool := do
  let heard ← (← get).knocks.mapM (hear p)
  let passed ← (← get).tunnels.mapM passOn
  let busy ← onBoard (Switchboard.turns (ServerRuntime.ops p))
  forgetClosed
  return heard.any id || passed.any id || busy

/-- Serves until there is nothing left to do. -/
def settle (p : ServerPlace) : Serving Unit := Switchboard.settle (round p) Switchboard.maxRounds

/-- Tells every session to shut down; gives their number. -/
def shutdown : Serving Nat := onBoard <| modifyGet fun b =>
  let (all, table) := b.table.drain
  (all.length, { b with table := (all.map (·.2)).foldl SessionTable.dispose table })

/-- The tokens that have been announced and not told. -/
def takeAnnounced : Serving (List String) :=
  modifyGet fun s => (s.announced, { s with announced := [] })

end Server
end Workbench

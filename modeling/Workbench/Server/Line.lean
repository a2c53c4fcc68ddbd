import Workbench.Server

/-!
A server whose only client is at the other end of a line of octets.  The line carries the request for an
upgrade, its response, and then the frames of the client and the server.
-/

namespace Workbench

structure ServerLine where
  server : Server := {}
  facilities : Facilities := {}
  /-- Octets of a request that is not complete yet. -/
  request : Bytes := []
  socket : Option SocketId := none
  /-- Nothing more is said to the client. -/
  closed : Bool := false

namespace ServerLine

/-- Works at the server. -/
def serve (act : Serving α) (l : ServerLine) : α × ServerLine :=
  let ((r, server), facilities) := (act.run l.server).run l.facilities
  (r, { l with server, facilities })

/-- Octets go to the server on a socket; gives what it sends, and whether it has gone. -/
def exchange (p : ServerPlace) (socket : SocketId) (octets : Bytes) (ended : Bool) :
    Serving (Bytes × Bool) := do
  Server.onBoard <| Switchboard.onLink socket fun l =>
    let l := ({ l with far := l.far.put octets }).carry
    if ended then { l with near := l.near.finish } else l
  Server.settle p
  match ← Server.onBoard (Switchboard.link? socket) with
  | none => return ([], true)
  | some l =>
    let l := l.carry
    Server.onBoard (Switchboard.onLink socket fun _ => { l with far := { l.far with incoming := [] } })
    return (l.far.incoming, l.far.peerDone)

/-- Octets arrive at a time; gives what the client is sent. -/
def receive (p : ServerPlace) (now : Instant) (octets : Bytes) (ended : Bool) (l : ServerLine) :
    Bytes × ServerLine :=
  let l := { l with server := { l.server with board := { l.server.board with now } } }
  let go (l : ServerLine) (socket : SocketId) (said octets : Bytes) : Bytes × ServerLine :=
    let ((answer, gone), l) := l.serve (exchange p socket octets ended)
    (said ++ answer, { l with closed := gone || ended })
  match l.socket with
  | some socket => go l socket [] octets
  | none =>
    let request := l.request ++ octets
    match l.serve (Server.connect p request ended) with
    | (none, l) => ([], { l with request })
    | (some (response, none), l) => (response.encode, { l with closed := true })
    | (some (response, some socket), l) => go { l with socket := some socket, request := [] } socket
        response.encode []

end ServerLine
end Workbench

import Workbench.Delivery
import Workbench.Fault
import Workbench.Frame

/-!
The connection of one client, which outlives its sockets.  While it has no socket it waits for another
one until a grace period is over; what its runtime has to say in the meantime is kept and sent again.
Every step gives the effects that it has on sockets and on the runtime, in their order.
-/

namespace Workbench

/-- A socket, by its number. -/
abbrev SocketId := Nat

/-- A point in time, in milliseconds. -/
abbrev Instant := Nat

/-- What a session is at. -/
inductive Phase where
  /-- A socket has been taken, and its client has not been told so. -/
  | adopting (socket : SocketId) (resumed : Bool)
  | online (socket : SocketId) (nextKeepAlive : Instant)
  /-- Without a socket. -/
  | waiting (deadline : Instant)
  /-- Torn down, except for sockets that came too late. -/
  | ending
  | closed
deriving DecidableEq, Repr

/-- What a step of a session does. -/
inductive Effect where
  | send (socket : SocketId) (frame : Frame)
  /-- Closes a socket and lets go of it. -/
  | close (socket : SocketId)
  /-- Sends a fault to a socket, closes it and lets go of it. -/
  | refuse (socket : SocketId) (fault : Fault)
  /-- Hands a payload to the runtime. -/
  | deliver (payload : Payload)
  | shutRuntime

structure Session where
  token : String
  kind : ConnectionKind
  /-- For how long the session waits for a socket. -/
  grace : Nat
  phase : Phase
  /-- Sockets that have been attached and not been taken, oldest first. -/
  queue : List SocketId := []
  /-- How many sockets have been attached and not been adopted. -/
  pendingAttaches : Nat := 0
  /-- When the socket was lost; nothing while the session counts as online. -/
  offlineSince : Option Instant := none
  /-- The session has been torn down. -/
  disposed : Bool := false
  /-- The session has been told to shut down. -/
  stopping : Bool := false
  delivery : Delivery Payload := {}

namespace Session

/-- Time between two signs of life on a socket. -/
def keepAlivePeriod : Nat := 5000

/-- A new session on a socket. -/
def start (token : String) (kind : ConnectionKind) (grace : Nat) (socket : SocketId) : Session where
  token := token
  kind := kind
  grace := grace
  phase := .adopting socket false

def isOffline (s : Session) : Bool := s.offlineSince.isSome

/-- Attaches a socket.  The session counts as online from now on. -/
def reconnect (s : Session) (socket : SocketId) : Outcome Session :=
  if s.disposed then .error (.sessionDisposed s.token)
  else .ok { s with
    offlineSince := none
    pendingAttaches := s.pendingAttaches + 1
    queue := s.queue ++ [socket] }

/-- Tells the session to shut down. -/
def dispose (s : Session) : Session := { s with stopping := true }

/-- Marks the loss of a socket, unless another one is on its way. -/
def markOffline (s : Session) (now : Instant) : Session :=
  if s.disposed ∨ 0 < s.pendingAttaches ∨ s.offlineSince.isSome then s
  else { s with offlineSince := some now }

/-- A payload as a regular frame. -/
def regular (n : Numbered Payload) : Frame := .regular (.ofNat n.seq) (.ofNat n.ack) n.payload

/-- Tells the client of the socket taken that it is accepted, and sends again what it has not
acknowledged. -/
def adopt (s : Session) (now : Instant) : List Effect × Session :=
  match s.phase with
  | .adopting socket resumed =>
    (.send socket (.ok resumed) :: s.delivery.replay.map fun n => .send socket (regular n),
      { s with
        offlineSince := none
        pendingAttaches := if resumed then s.pendingAttaches - 1 else s.pendingAttaches
        phase := .online socket (now + keepAlivePeriod) })
  | _ => ([], s)

/-- The socket is lost. -/
def lose (s : Session) (now : Instant) : List Effect × Session :=
  match s.phase with
  | .online socket _ => ([.close socket], { s.markOffline now with phase := .waiting (now + s.grace) })
  | _ => ([], s)

/-- Takes the next socket attached, in place of the one there is. -/
def takeNext (s : Session) : List Effect × Session :=
  match s.queue, s.phase with
  | next :: rest, .online socket _ =>
    ([.close socket], { s with queue := rest, phase := .adopting next true })
  | next :: rest, .waiting _ => ([], { s with queue := rest, phase := .adopting next true })
  | _, _ => ([], s)

/-- Tears the session down: a goodbye on its socket, and the runtime is shut. -/
def leave (s : Session) : List Effect × Session :=
  let torn : Session := { s with phase := .ending, disposed := true, offlineSince := none }
  match s.phase with
  | .online socket _ => ([.send socket (.disconnect none), .close socket, .shutRuntime], torn)
  | .waiting _ => ([.shutRuntime], torn)
  | _ => ([], s)

/-- Follows the order to shut down. -/
def stop (s : Session) : List Effect × Session := if s.stopping then s.leave else ([], s)

/-- Takes a frame of the client. -/
def receive (s : Session) (frame : Frame) : List Effect × Session :=
  match s.phase, frame with
  | .online socket _, .regular seq ack payload =>
    let (new, delivery) := s.delivery.accept seq.toNat ack.toNat payload
    ((new.map Effect.deliver).toList ++ [.send socket (.ack (.ofNat delivery.received))],
      { s with delivery })
  | .online _ _, .ack ack => ([], { s with delivery := s.delivery.acknowledge ack.toNat })
  | .online _ _, .disconnect _ => s.leave
  | _, _ => ([], s)

/-- Numbers and keeps a payload of the runtime, and sends it if there is a socket. -/
def produce (s : Session) (payload : Payload) : List Effect × Session :=
  let (numbered, delivery) := s.delivery.enqueue payload
  match s.phase with
  | .online socket _ => ([.send socket (regular numbered)], { s with delivery })
  | .waiting _ => ([], { s with delivery })
  | _ => ([], s)

/-- Gives up waiting for a socket when the grace period is over. -/
def expire (s : Session) (now : Instant) : List Effect × Session :=
  match s.phase with
  | .waiting deadline => if deadline ≤ now then s.leave else ([], s)
  | _ => ([], s)

/-- Sends a sign of life when it is due. -/
def keepAlive (s : Session) (now : Instant) : List Effect × Session :=
  match s.phase with
  | .online socket next =>
    if next ≤ now then
      ([.send socket .keepAlive], { s with phase := .online socket (next + keepAlivePeriod) })
    else ([], s)
  | _ => ([], s)

/-- Refuses the sockets that came too late; the session is closed. -/
def finish (s : Session) : List Effect × Session :=
  match s.phase with
  | .ending => (s.queue.map fun socket => .refuse socket (.sessionDisposed s.token),
      { s with queue := [], phase := .closed })
  | _ => ([], s)

/-- What can be told of a session. -/
def toJson (s : Session) : Json := Json.ofPairs [
  ("token", .str s.token), ("kind", .str s.kind.name), ("offline", .bool s.isOffline),
  ("disposed", .bool s.disposed)]

end Session
end Workbench

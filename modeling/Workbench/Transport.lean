import Workbench.Framing
import Workbench.WebSocket.Endpoint

/-!
A session socket: a stream of octets each way that carries frames, either behind their lengths or in
messages of a web socket.
-/

namespace Workbench

/-- How frames travel on a socket. -/
inductive Carrier where
  | raw (decoder : Framing.Decoder)
  | webSocket (endpoint : WebSocket.Endpoint)

/-- The server's end of a socket. -/
structure Transport where
  carrier : Carrier
  /-- Octets that have arrived and not been read. -/
  incoming : Bytes := []
  /-- The peer sends no more. -/
  peerDone : Bool := false
  /-- Nothing can be sent any more, by this side's will or because the peer is gone. -/
  shut : Bool := false
  /-- Octets sent that the peer has not taken. -/
  outgoing : Bytes := []

namespace Transport

/-- A socket with frames behind their lengths. -/
def raw : Transport := { carrier := .raw {} }

/-- A socket with frames in messages of a web socket. -/
def webSocket : Transport := { carrier := .webSocket {} }

/-- Octets arrive. -/
def feed (t : Transport) (octets : Bytes) : Transport := { t with incoming := t.incoming ++ octets }

/-- The peer stops sending. -/
def finish (t : Transport) : Transport := { t with peerDone := true }

/-- The peer goes away. -/
def lose (t : Transport) : Transport := { t with peerDone := true, shut := true }

/-- The peer takes what has been sent. -/
def takeOutgoing (t : Transport) : Bytes × Transport := (t.outgoing, { t with outgoing := [] })

/-- Puts octets on the stream, if it is open. -/
def put (t : Transport) (octets : Bytes) : Transport :=
  if t.shut then t else { t with outgoing := t.outgoing ++ octets }

def writeFailed : Fault := .transport "socket write failed"

/-- Sends a frame. -/
def send (t : Transport) (f : Frame) : Outcome Unit × Transport :=
  match t.carrier with
  | .raw _ => if t.shut then (.error writeFailed, t) else (.ok (), t.put (Framing.encode f))
  | .webSocket e =>
    match e.send f.cbor with
    | (.error _, e) => (.error writeFailed, { t with carrier := .webSocket e })
    | (.ok out, e) =>
      (if t.shut then .error writeFailed else .ok (), { t with carrier := .webSocket e }.put out)

/-- What a look at the socket finds. -/
inductive Received where
  | frame (f : Frame)
  | closed
  | pending
  | failed (f : Fault)

/-- A payload as a frame. -/
def received (payload : Bytes) : Received :=
  match Frame.ofCbor payload with
  | .ok f => .frame f
  | .error e => .failed e

/-- Looks at a socket with frames behind their lengths: first at what was read before. -/
def lookRaw (t : Transport) (d : Framing.Decoder) : Received × Transport :=
  let taken (r : Outcome (Option Bytes)) (otherwise : Received) : Received :=
    match r with
    | .error e => .failed e
    | .ok (some payload) => received payload
    | .ok none => otherwise
  match d.next with
  | (.ok none, _) =>
    let (r, d) := (d.extend t.incoming).next
    (taken r (if t.peerDone then .closed else .pending), { t with carrier := .raw d, incoming := [] })
  | (r, d) => (taken r .pending, { t with carrier := .raw d })

/-- Looks at a web socket until there is something to hand on; pings are answered at once.  `fuel`
bounds the messages passed over. -/
def lookWebSocket (t : Transport) : (fuel : Nat) → WebSocket.Endpoint → Received × Transport
  | 0, e => (.pending, { t with carrier := .webSocket e })
  | fuel + 1, e =>
    let (out, found, e) := e.look t.peerDone
    let t := t.put out
    let done (r : Received) : Received × Transport := (r, { t with carrier := .webSocket e })
    match found with
    | .event (.binary payload) => done (received payload)
    | .event .close | .finished => done .closed
    | .event (.ping payload) =>
      let (out, e) := e.pong payload
      lookWebSocket (t.put out) fuel e
    | .event .text | .event .pong => lookWebSocket t fuel e
    | .waiting => done .pending
    | .failed _ => done (.failed (.transport "socket read failed"))

/-- Takes the next frame, if one has arrived. -/
def receive (t : Transport) : Received × Transport :=
  match t.carrier with
  | .raw d => t.lookRaw d
  | .webSocket e =>
    let e := { e with input := e.input ++ t.incoming }
    { t with incoming := [] }.lookWebSocket (e.input.length + 2) e

/-- Ends the sending side. -/
def close (t : Transport) : Transport :=
  match t.carrier with
  | .raw _ => { t with shut := true }
  | .webSocket e =>
    let (out, e) := e.close
    { t with carrier := .webSocket e }.put out

/-- Refuses a connection: the fault is sent, and the socket closed. -/
def reject (t : Transport) (fault : Fault) : Transport :=
  (t.send (.error fault.report)).2.close

end Transport
end Workbench

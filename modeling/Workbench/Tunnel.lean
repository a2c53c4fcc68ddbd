import Workbench.Delivery
import Workbench.Process
import Workbench.Session

/-!
A tunnel: data between a client and an endpoint on the network.  It lives and dies with its socket.
-/

namespace Workbench

structure Tunnel where
  socket : SocketId
  endpoint : Process
  delivery : Delivery Payload := {}
  /-- It has been closed. -/
  closed : Bool := false

namespace Tunnel

/-- Says goodbye and closes. -/
def leave (t : Tunnel) : List Effect × Tunnel :=
  ([.send t.socket (.disconnect none), .close t.socket], { t with closed := true })

/-- Takes a frame of the client. -/
def receive (t : Tunnel) : Frame → List Effect × Tunnel
  | .regular seq ack payload =>
    let (new, delivery) := t.delivery.accept seq.toNat ack.toNat payload
    let endpoint := match new with
      | some (.data blob) => t.endpoint.feed (Blob.toBytes blob)
      | _ => t.endpoint
    ([.send t.socket (.ack (.ofNat delivery.received))], { t with delivery, endpoint })
  | .ack ack => ([], { t with delivery := t.delivery.acknowledge ack.toNat })
  | .disconnect _ => t.leave
  | _ => ([], t)

/-- Passes on what the endpoint has said. -/
def pass (t : Tunnel) (octets : Bytes) : List Effect × Tunnel :=
  let (numbered, delivery) := t.delivery.enqueue (.data (Blob.ofBytes octets))
  ([.send t.socket (Session.regular numbered)], { t with delivery })

end Tunnel
end Workbench

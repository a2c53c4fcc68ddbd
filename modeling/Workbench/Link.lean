import Workbench.Transport

/-!
A socket with both its ends: what one end sends arrives at the other in order.
-/

namespace Workbench

/-- Two ends that are joined. -/
structure Link where
  /-- The end of the server. -/
  near : Transport
  /-- The end of the client. -/
  far : Transport

namespace Link

/-- Octets sent by one end arrive at the other, and after them the end of the stream. -/
def convey (source target : Transport) : Transport × Transport :=
  let (octets, source) := source.takeOutgoing
  let target := target.feed octets
  (source, if source.shut then target.finish else target)

/-- Everything sent arrives. -/
def carry (l : Link) : Link :=
  let (near, far) := convey l.near l.far
  let (far, near) := convey far near
  ⟨near, far⟩

/-- The server lets go of its end. -/
def dropNear (l : Link) : Link :=
  let l := l.carry
  { l with far := l.far.lose }

/-- The client lets go of its end. -/
def dropFar (l : Link) : Link :=
  let l := l.carry
  { l with near := l.near.lose }

end Link

namespace Transport

/-- Takes every frame that has arrived, and then what stands behind the last.  `fuel` bounds them. -/
def receiveAll : (fuel : Nat) → Transport → List Frame × Received × Transport
  | 0, t => ([], .pending, t)
  | fuel + 1, t =>
    match t.receive with
    | (.frame f, t) =>
      let (rest, last, t) := receiveAll fuel t
      (f :: rest, last, t)
    | (r, t) => ([], r, t)

end Transport
end Workbench

import Workbench.WebSocket.Message

/-!
The server's side of a web socket.  It hands on messages, answers pings and the peer's wish to end, and
fails for good at the first frame that breaks the rules.
-/

namespace Workbench.WebSocket

/-- How far the end of the connection has come. -/
inductive Phase where
  | active
  | closedByPeer
  | closedByUs
  | acknowledged
  | terminated
deriving DecidableEq, Repr

/-- Messages can still come in. -/
def Phase.canRead : Phase → Bool
  | active | closedByUs => true
  | _ => false

/-- A message that arrives in several frames. -/
structure Fragments where
  isText : Bool
  octets : Bytes

structure Endpoint where
  phase : Phase := .active
  fragments : Option Fragments := none
  /-- A pong or a close that is to go out before anything else. -/
  additional : Option (Opcode × Bytes) := none
  /-- Octets that have arrived. -/
  input : Bytes := []
  /-- The reader has been told of the end or of a failure. -/
  ended : Bool := false

/-- What a look at the stream gives. -/
inductive Event where
  | binary (payload : Bytes)
  | text
  | ping (payload : Bytes)
  | pong
  /-- The peer wants to end. -/
  | close
deriving DecidableEq, Repr

namespace Endpoint

/-- Notes what is to go out first.  A close that waits is not put off by a pong. -/
def setAdditional (e : Endpoint) (opcode : Opcode) (payload : Bytes) : Endpoint :=
  match e.additional with
  | some (.close, _) => e
  | _ => { e with additional := some (opcode, payload) }

/-- What goes out now: the frame given, then what has been noted.  A server that has nothing more to read
ends then; `false` tells so. -/
def write (e : Endpoint) (frame : Bytes) : Bytes × Bool × Endpoint :=
  let out := frame ++ match e.additional with
    | some (opcode, payload) => encode opcode payload
    | none => []
  let e := { e with additional := none }
  if e.phase.canRead then (out, true, e) else (out, false, { e with phase := .terminated })

/-- Takes the peer's wish to end. -/
def takeClose (e : Endpoint) (payload : Bytes) : Except Failure (Option Event × Endpoint) := do
  let answer ← closeAnswer payload
  match e.phase with
  | .active => return (some .close, { e with phase := .closedByPeer }.setAdditional .close answer)
  | .closedByUs => return (some .close, { e with phase := .acknowledged })
  | _ => return (none, e)

/-- Adds to a message; `none` is a message whose end has not come. -/
def extend (e : Endpoint) (f : Fragments) (payload : Bytes) (final : Bool) :
    Except Failure (Option Event × Endpoint) :=
  let f := { f with octets := f.octets ++ payload }
  if maxMessage < f.octets.length then .error .tooLong
  else if f.isText && !isTextStart f.octets then .error .text
  else if !final then .ok (none, { e with fragments := some f })
  else if f.isText && (Utf8.decode? f.octets).isNone then .error .text
  else .ok (some (if f.isText then .text else .binary f.octets), { e with fragments := none })

/-- Takes one frame. -/
def takeMessage (e : Endpoint) (m : Message) : Except Failure (Option Event × Endpoint) :=
  let h := m.header
  if h.reserved then .error .reservedBits
  else if h.mask.isNone then .error .unmasked
  else if h.opcode.isControl && (!h.final || 125 < m.payload.length) then .error .control
  else
    match h.opcode, e.fragments with
    | .close, _ => e.takeClose m.payload
    | .ping, _ =>
      .ok (some (.ping m.payload), if e.phase = .active then e.setAdditional .pong m.payload else e)
    | .pong, _ => .ok (some .pong, e)
    | .continuation, some f => e.extend f m.payload h.final
    | .continuation, none | .text, some _ | .binary, some _ => .error .fragments
    | .text, none => e.extend ⟨true, []⟩ m.payload h.final
    | .binary, none => e.extend ⟨false, []⟩ m.payload h.final

/-- What a look gives, with what goes out. -/
inductive Look where
  | event (e : Event)
  /-- Nothing whole has arrived. -/
  | waiting
  | finished
  | failed (f : Failure)

/-- Takes frames out of the input until one gives something.  `fuel` bounds their number. -/
def takeFrames (peerDone : Bool) : (fuel : Nat) → Endpoint → Look × Endpoint
  | 0, e => (.waiting, e)
  | fuel + 1, e =>
    match Message.parse e.input with
    | .error f => (.failed f, { e with ended := true })
    | .ok none =>
      if peerDone then
        (if e.phase.canRead then .failed .reset else .finished, { e with phase := .terminated, ended := true })
      else (.waiting, e)
    | .ok (some (m, rest)) =>
      match { e with input := rest }.takeMessage m with
      | .error f => (.failed f, { e with input := rest, ended := true })
      | .ok (some event, e) => (.event event, e)
      | .ok (none, e) => takeFrames peerDone fuel e

/-- One look: what has been noted goes out first, and then frames are taken. -/
def look (e : Endpoint) (peerDone : Bool) : Bytes × Look × Endpoint :=
  if e.ended then ([], .finished, e)
  else if e.additional.isSome then
    match e.write [] with
    | (out, false, e) => (out, .finished, { e with ended := true })
    | (out, true, e) =>
      let (found, e) := takeFrames peerDone (e.input.length + 1) e
      (out, found, e)
  else if !e.phase.canRead then ([], .finished, { e with phase := .terminated, ended := true })
  else
    let (found, e) := takeFrames peerDone (e.input.length + 1) e
    ([], found, e)

/-- Sends a message of octets. -/
def send (e : Endpoint) (payload : Bytes) : Except Failure Bytes × Endpoint :=
  if e.phase ≠ .active then (.error .sendAfterClose, e)
  else
    let (out, _, e) := e.write (encode .binary payload)
    (.ok out, e)

/-- Answers a ping. -/
def pong (e : Endpoint) (payload : Bytes) : Bytes × Endpoint :=
  if e.phase ≠ .active then ([], e)
  else
    let (out, _, e) := (e.setAdditional .pong payload).write []
    (out, e)

/-- Ends the connection from this side. -/
def close (e : Endpoint) : Bytes × Endpoint :=
  if e.phase ≠ .active then ([], e)
  else
    let (out, _, e) := { e with phase := .closedByUs }.write (encode .close [])
    (out, e)

end Endpoint
end Workbench.WebSocket

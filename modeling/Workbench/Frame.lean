import Workbench.Fault
import Workbench.Shape

/-!
The frames of a session socket.  Everything a session carries travels as the payload of a regular
frame, which is numbered so that it can be acknowledged and sent again on another socket.
-/

namespace Workbench

/-- What a client connects for. -/
inductive ConnectionKind where
  | management
  | extensionHost
  | tunnel
deriving DecidableEq, Repr

namespace ConnectionKind

/-- The number a client sends. -/
def code : ConnectionKind → UInt8
  | management => 1
  | extensionHost => 2
  | tunnel => 3

def name : ConnectionKind → String
  | management => "management"
  | extensionHost => "extension host"
  | tunnel => "tunnel"

def ofCode? : UInt8 → Option ConnectionKind
  | 1 => some management
  | 2 => some extensionHost
  | 3 => some tunnel
  | _ => none

theorem ofCode?_code (k : ConnectionKind) : ofCode? k.code = some k := by cases k <;> rfl

def shape : Shape ConnectionKind := fun o d => do
  let n ← Shape.u8 o d
  match ofCode? n with
  | some k => return k
  | none => .error (.refused s!"Unrecognized connection type {n}")

end ConnectionKind

/-- The first frame of a client. -/
structure Handshake where
  kind : ConnectionKind
  commit : Option String := none
  args : Json := .null
deriving DecidableEq

/-- An error on the wire: a stable code and a sentence. -/
structure ErrorReport where
  code : String
  message : String
deriving DecidableEq, Repr

/-- The report of a fault. -/
def Fault.report (f : Fault) : ErrorReport := ⟨f.code, f.message⟩

/-- What a client asks of a channel.  Requests are told apart by an id of the client's choice. -/
inductive ChannelRequest where
  | call (id : UInt32) (channel command : String) (args : Json)
  | listen (id : UInt32) (channel event : String) (args : Json)
  /-- Detaches a listener or abandons a call. -/
  | dispose (id : UInt32)
deriving DecidableEq

/-- What a channel answers. -/
inductive ChannelResponse where
  | ok (id : UInt32) (result : Json)
  | err (id : UInt32) (error : ErrorReport)
  | event (id : UInt32) (payload : Json)
deriving DecidableEq

/-- What a session carries. -/
inductive Payload where
  | request (r : ChannelRequest)
  | response (r : ChannelResponse)
  /-- Octets of a pipe. -/
  | data (blob : ByteArray)
deriving DecidableEq

/-- A frame of a session socket. -/
inductive Frame where
  | handshake (h : Handshake)
  /-- The answer to an accepted handshake; `reconnection` when a session was found again. -/
  | ok (reconnection : Bool)
  | error (e : ErrorReport)
  /-- A numbered payload; `ack` is the highest number its sender has received. -/
  | regular (seq ack : UInt64) (payload : Payload)
  | ack (ack : UInt64)
  | keepAlive
  | disconnect (reason : Option String)
deriving DecidableEq

end Workbench

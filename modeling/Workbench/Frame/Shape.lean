import Workbench.Frame

/-!
How frames are written and read as self-describing values.  A frame is a record whose `type` comes
first; requests, responses and payloads are single-key maps under their variant's name.
-/

namespace Workbench

/-- A record as a datum. -/
def Datum.record (fields : List (String × Datum)) : Datum :=
  .map (fields.map fun (name, value) => (.text name, value))

/-- A variant as a datum. -/
def Datum.variant (name : String) (value : Datum) : Datum := .map [(.text name, value)]

/-- A text that may be absent. -/
def Datum.text? : Option String → Datum
  | some s => .text s
  | none => .null

namespace Handshake

def kindField : Field ConnectionKind := .required "desiredConnectionType" ConnectionKind.shape
def commitField : Field (Option String) := .default "commit" (Shape.nullable Shape.text) none
def argsField : Field Json := .default "args" Shape.json .null

def shape : Shape Handshake :=
  Shape.record "struct HandshakeRequest" [kindField.check, commitField.check, argsField.check]
    fun r => do
      return { kind := ← r.get kindField, commit := ← r.get commitField, args := ← r.get argsField }

def fields (h : Handshake) : List (String × Datum) :=
  [("desiredConnectionType", .int (.ofNat h.kind.code.toNat)), ("commit", .text? h.commit),
    ("args", .ofJson h.args)]

end Handshake

def reconnectionField : Field Bool := .required "reconnection" Shape.bool

/-- The answer to an accepted handshake. -/
def acceptedShape : Shape Bool :=
  Shape.record "struct HandshakeOk" [reconnectionField.check] fun r => r.get reconnectionField

namespace ErrorReport

def codeField : Field String := .required "code" Shape.text
def messageField : Field String := .required "message" Shape.text

def shape : Shape ErrorReport :=
  Shape.record "struct ErrorPayload" [codeField.check, messageField.check] fun r => do
    return { code := ← r.get codeField, message := ← r.get messageField }

def fields (e : ErrorReport) : List (String × Datum) :=
  [("code", .text e.code), ("message", .text e.message)]

end ErrorReport

def idField : Field UInt32 := .required "id" Shape.u32
def channelField : Field String := .required "channel" Shape.text

namespace ChannelRequest

def commandField : Field String := .required "command" Shape.text
def eventField : Field String := .required "event" Shape.text
def argsField : Field Json := .default "args" Shape.json .null

def callShape : Shape ChannelRequest :=
  Shape.record "struct variant ChannelRequest::Call"
    [idField.check, channelField.check, commandField.check, argsField.check] fun r => do
      return .call (← r.get idField) (← r.get channelField) (← r.get commandField) (← r.get argsField)

def listenShape : Shape ChannelRequest :=
  Shape.record "struct variant ChannelRequest::Listen"
    [idField.check, channelField.check, eventField.check, argsField.check] fun r => do
      return .listen (← r.get idField) (← r.get channelField) (← r.get eventField) (← r.get argsField)

def disposeShape : Shape ChannelRequest :=
  Shape.record "struct variant ChannelRequest::Dispose" [idField.check] fun r => do
    return .dispose (← r.get idField)

def shape : Shape ChannelRequest := Shape.union [
  .withFields "call" callShape, .withFields "listen" listenShape, .withFields "dispose" disposeShape]

def toDatum : ChannelRequest → Datum
  | .call id channel command args => .variant "call" <| .record
      [("id", .int (.ofUInt32 id)), ("channel", .text channel), ("command", .text command),
        ("args", .ofJson args)]
  | .listen id channel event args => .variant "listen" <| .record
      [("id", .int (.ofUInt32 id)), ("channel", .text channel), ("event", .text event),
        ("args", .ofJson args)]
  | .dispose id => .variant "dispose" <| .record [("id", .int (.ofUInt32 id))]

end ChannelRequest

namespace ChannelResponse

def resultField : Field Json := .required "result" Shape.json
def errorField : Field ErrorReport := .required "error" ErrorReport.shape
def payloadField : Field Json := .required "payload" Shape.json

def okShape : Shape ChannelResponse :=
  Shape.record "struct variant ChannelResponse::Ok" [idField.check, resultField.check] fun r => do
    return .ok (← r.get idField) (← r.get resultField)

def errShape : Shape ChannelResponse :=
  Shape.record "struct variant ChannelResponse::Err" [idField.check, errorField.check] fun r => do
    return .err (← r.get idField) (← r.get errorField)

def eventShape : Shape ChannelResponse :=
  Shape.record "struct variant ChannelResponse::Event" [idField.check, payloadField.check] fun r => do
    return .event (← r.get idField) (← r.get payloadField)

def shape : Shape ChannelResponse := Shape.union [
  .withFields "ok" okShape, .withFields "err" errShape, .withFields "event" eventShape]

def toDatum : ChannelResponse → Datum
  | .ok id result => .variant "ok" <| .record
      [("id", .int (.ofUInt32 id)), ("result", .ofJson result)]
  | .err id error => .variant "err" <| .record
      [("id", .int (.ofUInt32 id)), ("error", .record error.fields)]
  | .event id payload => .variant "event" <| .record
      [("id", .int (.ofUInt32 id)), ("payload", .ofJson payload)]

end ChannelResponse

namespace Payload

/-- Octets as a sequence of small integers. -/
def octets (blob : ByteArray) : Datum :=
  .seq ((Blob.toBytes blob).map fun b => .int (.ofNat b.toNat))

def shape : Shape Payload := Shape.union [
  .holding "request" ChannelRequest.shape .request,
  .holding "response" ChannelResponse.shape .response,
  .holding "data" (Shape.list Shape.u8) fun b => .data (Blob.ofBytes b)]

def toDatum : Payload → Datum
  | .request r => .variant "request" r.toDatum
  | .response r => .variant "response" r.toDatum
  | .data blob => .variant "data" (octets blob)

end Payload

namespace Frame

def seqField : Field UInt64 := .required "seq" Shape.u64
def ackField : Field UInt64 := .required "ack" Shape.u64
def payloadField : Field Payload := .required "payload" Payload.shape
def reasonField : Field (Option String) := .nullable "reason" Shape.text

def regularShape : Shape Frame :=
  Shape.record "struct variant Frame::Regular" [seqField.check, ackField.check, payloadField.check]
    fun r => do return .regular (← r.get seqField) (← r.get ackField) (← r.get payloadField)

def ackShape : Shape Frame :=
  Shape.record "struct variant Frame::Ack" [ackField.check] fun r => do
    return .ack (← r.get ackField)

def disconnectShape : Shape Frame :=
  Shape.record "struct variant Frame::Disconnect" [reasonField.check] fun r => do
    return .disconnect (← r.get reasonField)

/-- A frame without fields: a map's entries do not matter, a sequence must be empty. -/
def keepAliveShape : Shape Frame := fun _ d =>
  match d with
  | .seq [] | .map _ => .ok .keepAlive
  | .seq items => .error (.wrongLength items.length "0 elements in sequence")
  | d => .error (.wrongType d.found "unit variant Frame::KeepAlive")

/-- The names of the types, in order. -/
def typeNames : List String :=
  ["handshake", "ok", "error", "regular", "ack", "keepAlive", "disconnect"]

/-- The shape of the fields beside a type. -/
def shapeOf? : String → Option (Shape Frame)
  | "handshake" => some fun o d => (Handshake.shape o d).map .handshake
  | "ok" => some fun o d => (acceptedShape o d).map .ok
  | "error" => some fun o d => (ErrorReport.shape o d).map .error
  | "regular" => some regularShape
  | "ack" => some ackShape
  | "keepAlive" => some keepAliveShape
  | "disconnect" => some disconnectShape
  | _ => none

/-- Reads the fields beside a type. -/
def ofType (type : String) (fields : Datum) : Except Mismatch Frame :=
  match shapeOf? type with
  | some shape => shape .held fields
  | none => .error (.unknownVariant type typeNames)

/-- The type, as the name a datum holds. -/
def typeName : Datum → Except Mismatch String
  | .text s => .ok s
  | d => .error (.wrongType d.found "variant identifier")

def isTypeKey : Datum → Bool
  | .text s => s == "type"
  | .bytes b => b == Bytes.ofText "type"
  | _ => false

/-- A frame is a map with a `type`, or a sequence that starts with one; what stands beside it is read
once the type is known. -/
def shape : Shape Frame := fun _ d =>
  match d with
  | .map entries =>
    match entries.filter (isTypeKey ·.1) with
    | [] => .error (.missing "type")
    | [(_, type)] => do ofType (← typeName type) (.map (entries.filter fun e => !isTypeKey e.1))
    | _ => .error (.duplicate "type")
  | .seq [] => .error (.missing "type")
  | .seq (type :: rest) => do ofType (← typeName type) (.seq rest)
  | d => .error (.wrongType d.found "internally tagged enum Frame")

/-- A type and the fields beside it. -/
def typed (type : String) (fields : List (String × Datum)) : Datum :=
  .record (("type", .text type) :: fields)

def toDatum : Frame → Datum
  | .handshake h => typed "handshake" h.fields
  | .ok reconnection => typed "ok" [("reconnection", .bool reconnection)]
  | .error e => typed "error" e.fields
  | .regular seq received payload => typed "regular"
      [("seq", .int (.ofUInt64 seq)), ("ack", .int (.ofUInt64 received)), ("payload", payload.toDatum)]
  | .ack received => typed "ack" [("ack", .int (.ofUInt64 received))]
  | .keepAlive => typed "keepAlive" []
  | .disconnect reason => typed "disconnect" [("reason", .text? reason)]

/-- The JSON form of a frame. -/
def toJson (f : Frame) : Json := (f.toDatum.toJson?).getD .null

end Frame
end Workbench

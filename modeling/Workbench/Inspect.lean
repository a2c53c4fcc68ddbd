import Workbench.Frame
import Workbench.Json.Printer
import Workbench.Text.Quoted

/-!
Values as they are shown to somebody who looks into a running server: the names of their constructors
and fields with everything that they hold.
-/

namespace Workbench

/-- A constructor with named fields. -/
def Inspect.record (name : String) (fields : List (String × String)) : String :=
  name ++ " \x7b " ++ String.intercalate ", " (fields.map fun (n, v) => n ++ ": " ++ v) ++ " \x7d"

/-- A constructor around one value. -/
def Inspect.around (name value : String) : String := name ++ "(" ++ value ++ ")"

/-- An optional text. -/
def Inspect.text? : Option String → String
  | some t => Inspect.around "Some" (Text.quoted t)
  | none => "None"

mutual

def Json.inspect : Json → String
  | .null => "Null"
  | .bool b => Inspect.around "Bool" (toString b)
  | .int n => Inspect.around "Number" (Json.int n).compact
  | .double x => Inspect.around "Number" (Json.double x).compact
  | .str s => Inspect.around "String" (Text.quoted s)
  | .arr items => "Array [" ++ String.intercalate ", " (Json.inspectItems items) ++ "]"
  | .obj fields => "Object \x7b" ++ String.intercalate ", " (Json.inspectFields fields) ++ "\x7d"

def Json.inspectItems : List Json → List String
  | [] => []
  | v :: rest => v.inspect :: Json.inspectItems rest

def Json.inspectFields : List (String × Json) → List String
  | [] => []
  | (n, v) :: rest => (Text.quoted n ++ ": " ++ v.inspect) :: Json.inspectFields rest

end

def ErrorReport.inspect (e : ErrorReport) : String :=
  Inspect.record "ErrorPayload" [("code", Text.quoted e.code), ("message", Text.quoted e.message)]

def ChannelRequest.inspect : ChannelRequest → String
  | .call id channel command args => Inspect.record "Call" [("id", toString id),
      ("channel", Text.quoted channel), ("command", Text.quoted command), ("args", args.inspect)]
  | .listen id channel event args => Inspect.record "Listen" [("id", toString id),
      ("channel", Text.quoted channel), ("event", Text.quoted event), ("args", args.inspect)]
  | .dispose id => Inspect.record "Dispose" [("id", toString id)]

def ChannelResponse.inspect : ChannelResponse → String
  | .ok id result => Inspect.record "Ok" [("id", toString id), ("result", result.inspect)]
  | .err id e => Inspect.record "Err" [("id", toString id), ("error", e.inspect)]
  | .event id payload => Inspect.record "Event" [("id", toString id), ("payload", payload.inspect)]

def Payload.inspect : Payload → String
  | .request r => Inspect.around "Request" r.inspect
  | .response r => Inspect.around "Response" r.inspect
  | .data blob => Inspect.around "Data"
      ("[" ++ String.intercalate ", " (blob.toList.map fun b => toString b) ++ "]")

def Handshake.inspect (h : Handshake) : String :=
  Inspect.record "HandshakeRequest" [
    ("desired_connection_type", match h.kind with
      | .management => "Management"
      | .extensionHost => "ExtensionHost"
      | .tunnel => "Tunnel"),
    ("commit", Inspect.text? h.commit), ("args", h.args.inspect)]

def Frame.inspect : Frame → String
  | .handshake h => Inspect.around "Handshake" h.inspect
  | .ok reconnection =>
    Inspect.around "Ok" (Inspect.record "HandshakeOk" [("reconnection", toString reconnection)])
  | .error e => Inspect.around "Error" e.inspect
  | .regular seq upTo payload => Inspect.record "Regular" [("seq", toString seq), ("ack", toString upTo),
      ("payload", payload.inspect)]
  | .ack upTo => Inspect.record "Ack" [("ack", toString upTo)]
  | .keepAlive => "KeepAlive"
  | .disconnect reason => Inspect.record "Disconnect" [("reason", Inspect.text? reason)]

/-- The name of a fault; failures of the operating system and all others have names of their own here. -/
def Fault.inspect (f : Fault) : String :=
  match f with
  | .io kind text => Inspect.around "Io"
      (Inspect.record "Custom" [("kind", kind.name), ("error", Text.quoted text)])
  | .other text => Inspect.around "Other" (Text.quoted text)
  | f =>
    match f.words with
    | some text => Inspect.around f.code (Text.quoted text)
    | none => f.code

end Workbench

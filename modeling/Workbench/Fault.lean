import Workbench.Shape

/-!
Everything that can go wrong in a session, a channel or a command.  Each fault has a stable code for
the peer and a sentence for a person.
-/

namespace Workbench

/-- The kinds of operating-system failure that the peer is told apart. -/
inductive IoKind where
  | notFound
  | alreadyExists
  | permissionDenied
  | invalidInput
  | other
deriving DecidableEq, Repr

/-- A failure, with the words that belong to it. -/
inductive Fault where
  | codec (reason : String)
  | invalidMessage (reason : String)
  | upgrade (reason : String)
  | handshake (reason : String)
  | sessionNotFound (token : String)
  | tokenInUse
  | sessionDisposed (token : String)
  | invalidCall (command : String)
  | invalidListen (event : String)
  | unknownChannel (name : String)
  | channel (reason : String)
  | transport (reason : String)
  | timeout
  | notImplemented (what : String)
  | io (kind : IoKind) (text : String)
  | other (text : String)
deriving DecidableEq, Repr

/-- The name of a kind of failure. -/
def IoKind.name : IoKind → String
  | notFound => "NotFound"
  | alreadyExists => "AlreadyExists"
  | permissionDenied => "PermissionDenied"
  | invalidInput => "InvalidInput"
  | other => "Other"

def IoKind.ofName : String → IoKind
  | "NotFound" => notFound
  | "AlreadyExists" => alreadyExists
  | "PermissionDenied" => permissionDenied
  | "InvalidInput" => invalidInput
  | _ => other

/-- The code of an operating-system failure. -/
def IoKind.code : IoKind → String
  | notFound => "FileNotFound"
  | alreadyExists => "FileExists"
  | permissionDenied => "NoPermissions"
  | invalidInput => "FileIsADirectory"
  | other => "Unknown"

namespace Fault

/-- The stable code sent to the peer. -/
def code : Fault → String
  | codec _ => "Codec"
  | invalidMessage _ => "InvalidMessage"
  | upgrade _ => "Upgrade"
  | handshake _ => "Handshake"
  | sessionNotFound _ => "SessionNotFound"
  | tokenInUse => "TokenInUse"
  | sessionDisposed _ => "SessionDisposed"
  | invalidCall _ => "InvalidCall"
  | invalidListen _ => "InvalidListen"
  | unknownChannel _ => "UnknownChannel"
  | channel _ => "Channel"
  | transport _ => "Transport"
  | timeout => "Timeout"
  | notImplemented _ => "NotImplemented"
  | io kind _ => kind.code
  | other _ => "Unknown"

/-- The sentence shown to a person. -/
def message : Fault → String
  | codec reason => s!"codec error: {reason}"
  | invalidMessage reason => s!"invalid message: {reason}"
  | upgrade reason => s!"upgrade failed: {reason}"
  | handshake reason => s!"handshake failed: {reason}"
  | sessionNotFound token => s!"Unable to reconnect; session no longer exists ({token})"
  | tokenInUse => "Unable to connect; token is already in use"
  | sessionDisposed token => s!"session disposed: {token}"
  | invalidCall command => s!"Invalid call '{command}'"
  | invalidListen event => s!"Invalid listen '{event}'"
  | unknownChannel name => s!"unknown channel: {name}"
  | channel reason => s!"channel error: {reason}"
  | transport reason => s!"transport error: {reason}"
  | timeout => "timeout"
  | notImplemented what => s!"not implemented: {what}"
  | io _ text => s!"io error: {text}"
  | other text => text

/-- The words that a fault holds. -/
def words : Fault → Option String
  | tokenInUse | timeout => none
  | codec t | invalidMessage t | upgrade t | handshake t | sessionNotFound t | sessionDisposed t
  | invalidCall t | invalidListen t | unknownChannel t | channel t | transport t | notImplemented t
  | io _ t | other t => some t

/-- The fault that a name and its words mean. -/
def named (name words : String) : Fault :=
  match name with
  | "Codec" => codec words
  | "InvalidMessage" => invalidMessage words
  | "Upgrade" => upgrade words
  | "Handshake" => handshake words
  | "SessionNotFound" => sessionNotFound words
  | "TokenInUse" => tokenInUse
  | "SessionDisposed" => sessionDisposed words
  | "InvalidCall" => invalidCall words
  | "InvalidListen" => invalidListen words
  | "UnknownChannel" => unknownChannel words
  | "Channel" => channel words
  | "Transport" => transport words
  | "Timeout" => timeout
  | "NotImplemented" => notImplemented words
  | _ => other words

/-- A value that does not have the shape asked for. -/
def ofMismatch (m : Mismatch) : Fault := invalidMessage m.message

end Fault

/-- The outcome of an operation that may fail. -/
abbrev Outcome (α : Type) := Except Fault α

/-- Reads a JSON value of a given shape. -/
def Shape.read (shape : Shape α) (v : Json) : Outcome α := (shape.ofJson v).mapError Fault.ofMismatch

end Workbench

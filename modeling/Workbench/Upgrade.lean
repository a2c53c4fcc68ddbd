import Workbench.Base64
import Workbench.ConnectionQuery
import Workbench.Digest
import Workbench.Http
import Workbench.Intake

/-!
The upgrade of an HTTP request to a session socket.  The head is read line by line, so that nothing
behind it is taken for a part of it; what follows it belongs to the socket.
-/

namespace Workbench.Upgrade

/-- The most octets that a head may have. -/
def maxHead : Nat := 16 * 1024

def malformed (reason : String) : Fault := .upgrade s!"malformed request: {reason}"
def truncated : Fault := .upgrade "request head truncated"
def tooLarge : Fault := .upgrade "request head too large"

/-- What has been taken for the head so far, and the stream behind it. -/
structure Reader where
  head : Bytes := []
  stream : Intake
deriving DecidableEq, Repr

/-- The octets that the head may still take. -/
def Reader.budget (r : Reader) : Nat := maxHead - r.head.length

/-- Takes lines until they are a head or cannot become one; nothing if more has to arrive first.
`fuel` bounds the lines. -/
def readHead : (fuel : Nat) → Reader → Option (Outcome Http.Head × Reader)
  | 0, _ => none
  | fuel + 1, r => do
    let (line, stream) ← r.stream.line? r.budget
    if line.isEmpty then return (.error (if r.budget = 0 then tooLarge else truncated), r)
    let r : Reader := ⟨r.head ++ line, stream⟩
    match Http.Head.scan r.head with
    | .got head _ => return (.ok head, r)
    | .bad e => return (.error (malformed e.message), r)
    | .more => readHead fuel r

/-- The first header of a name, whatever its case. -/
def header? (head : Http.Head) (name : String) : Option Bytes :=
  let lower (octets : Bytes) : Bytes :=
    octets.map fun b => if 65 ≤ b.toNat && b.toNat ≤ 90 then b + 32 else b
  (head.headers.find? fun h => lower h.name == lower (Bytes.ofText name)).map (·.value)

/-- A header's value as text, if it holds nothing but what can be shown. -/
def shown? (value : Bytes) : Option String :=
  if value.all fun b => b == Http.tab || (32 ≤ b.toNat && b.toNat < 127)
  then some (String.ofList (value.map fun b => Char.ofNat b.toNat)) else none

/-- Two texts are the same but for the case of letters. -/
def sameLetters (a b : String) : Bool := a.toList.map Char.toLower == b.toList.map Char.toLower

/-- Words between blanks and commas. -/
def words (text : String) : List String :=
  (text.toList.splitBy fun a b => (a == ' ' || a == ',') == (b == ' ' || b == ',')).map String.ofList

def protocolError (reason : String) : Fault := .upgrade s!"WebSocket protocol error: {reason}"

/-- What proves that a key has been understood. -/
def acceptKey (key : Bytes) : String :=
  Base64.encode (Sha1.digest (key ++ Bytes.ofText "258EAFA5-E914-47DA-95CA-C5AB0DC85B11"))

/-- The response to a request that asks for a web socket in the right way. -/
def accept (head : Http.Head) : Outcome Http.Response := do
  let require (ok : Bool) (reason : String) : Outcome Unit :=
    if ok then .ok () else .error (protocolError reason)
  require (head.method == Bytes.ofText "GET") "Unsupported HTTP method used - only GET is allowed"
  require (head.minor != 0) "HTTP version must be 1.1 or higher"
  require (((header? head "connection").bind shown?).any fun v => (words v).any (sameLetters · "upgrade"))
    "No \"Connection: upgrade\" header"
  require (((header? head "upgrade").bind shown?).any (sameLetters · "websocket"))
    "No \"Upgrade: websocket\" header"
  require (header? head "sec-websocket-version" == some (Bytes.ofText "13"))
    "No \"Sec-WebSocket-Version: 13\" header"
  match header? head "sec-websocket-key" with
  | none => .error (protocolError "No \"Sec-WebSocket-Key\" header")
  | some key => return {
      status := 101
      reason := "Switching Protocols"
      headers := [("connection", "Upgrade"), ("upgrade", "websocket"),
        ("sec-websocket-accept", acceptKey key)] }

/-- The parameters and the response of a request whose target is well-formed. -/
def check (head : Http.Head) : Outcome (ConnectionQuery × Http.Response) := do
  let query ← (Http.Target.query head.target).mapError fun e => malformed e.message
  let response ← accept head
  return (← ConnectionQuery.parse (query.getD []), response)

/-- What comes of an upgrade. -/
structure Upgraded where
  response : Http.Response
  result : Outcome (ConnectionQuery × Transport)

/-- A refusal; its reason is told to the peer. -/
def refused (fault : Fault) : Upgraded := ⟨.badRequest fault.message, .error fault⟩

/-- What comes of a head, or of there being none.  What has been read ahead of a head goes to the socket. -/
def conclude (head : Outcome Http.Head) (left : Intake) : Upgraded :=
  match head >>= check with
  | .error e => refused e
  | .ok (query, response) =>
    ⟨response, .ok (query, left.handOver (if query.raw then Transport.raw else Transport.webSocket))⟩

/-- Upgrades a stream; nothing if more has to arrive first. -/
def upgrade? (s : Intake) : Option Upgraded :=
  (readHead (maxHead + 1) ⟨[], s⟩).map fun (head, r) => conclude head r.stream

/-- Upgrades a stream of which some octets have arrived. -/
def run? (octets : Bytes) (ended : Bool) : Option Upgraded := upgrade? { reads := [octets], ended }

end Workbench.Upgrade

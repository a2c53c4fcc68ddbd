import Workbench.Fault
import Workbench.Text.Form

/-!
What a client says in the query of its upgrade request.
-/

namespace Workbench

/-- The parameters of a connection. -/
structure ConnectionQuery where
  token : String
  reconnection : Bool := false
  /-- Frames travel on the socket itself and not in messages of a web socket. -/
  raw : Bool := false
  /-- The path that the client wants to open first. -/
  path : Option String := none
deriving DecidableEq, Repr

namespace ConnectionQuery

/-- What pairs have said so far. -/
structure Said where
  token : Option String := none
  reconnection : Bool := false
  raw : Bool := false
  path : Option String := none
deriving DecidableEq, Repr

/-- One more pair; what it says takes the place of what was said before. -/
def Said.take (said : Said) (pair : String × String) : Said :=
  match pair.1 with
  | "reconnectionToken" => { said with token := some pair.2 }
  | "reconnection" => { said with reconnection := pair.2 == "true" }
  | "skipWebSocketFrames" => { said with raw := pair.2 == "true" }
  | "path" => { said with path := some pair.2 }
  | _ => said

def missingToken : Fault := .upgrade "missing reconnectionToken"

/-- The parameters that pairs of keys and values give.  There must be a token. -/
def ofPairs (pairs : List (String × String)) : Outcome ConnectionQuery :=
  let said := pairs.foldl Said.take {}
  match said.token.filter (· ≠ "") with
  | none => .error missingToken
  | some token => .ok { token, reconnection := said.reconnection, raw := said.raw, path := said.path }

def parse (query : Bytes) : Outcome ConnectionQuery := ofPairs (Form.parse query)

/-- The pairs that say the same. -/
def toPairs (q : ConnectionQuery) : List (String × String) :=
  [("reconnectionToken", q.token), ("reconnection", if q.reconnection then "true" else "false"),
    ("skipWebSocketFrames", if q.raw then "true" else "false")]
    ++ (match q.path with
      | some path => [("path", path)]
      | none => [])

/-- The parameters as an object. -/
def toJson (q : ConnectionQuery) : Json := Json.ofPairs [
  ("token", .str q.token), ("reconnection", .bool q.reconnection),
  ("skip_websocket_frames", .bool q.raw), ("path", .ofText? q.path)]

end ConnectionQuery
end Workbench

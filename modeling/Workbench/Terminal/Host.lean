import Workbench.Terminal.Launch
import Workbench.Vars

/-!
What runs terminals.  A process is registered first and runs once it is started; what becomes of it is
told in three streams of events.
-/

namespace Workbench

/-- A process with all that it needs. -/
structure ProcessRequest where
  launch : Launch
  cwd : String
  cols : Nat
  rows : Nat
  unicodeVersion : String
  env : Vars
  /-- The client can come back to it. -/
  persistent : Bool
  workspaceId : String
  workspaceName : String

/-- The streams of events. -/
inductive ProcessEvent where
  | data
  | ready
  | exit
deriving DecidableEq, Repr

/-- A host of terminals that works in `m`. -/
structure TerminalHost (m : Type → Type) where
  create : ProcessRequest → m (Outcome UInt32)
  /-- Gives null, or tells why the launch has failed. -/
  start : UInt32 → m (Outcome Json)
  input : UInt32 → String → m (Outcome Unit)
  /-- Input that holds one octet a character. -/
  inputOctets : UInt32 → String → m (Outcome Unit)
  resize : UInt32 → (cols rows : Nat) → m (Outcome Unit)
  shutdown : UInt32 → (immediate : Bool) → m (Outcome Unit)
  acknowledge : UInt32 → (chars : UInt64) → m (Outcome Unit)
  initialDir : UInt32 → m (Outcome String)
  currentDir : UInt32 → m (Outcome String)
  processes : m (Outcome Json)
  defaultShell : m (Outcome String)
  environment : m (Outcome Vars)
  listen : ProcessEvent → m Nat
  /-- What a listener has been sent, and whether it can be sent more. -/
  take : ProcessEvent → Nat → m (List Json × Bool)
  drop : ProcessEvent → Nat → m Unit

/-- An event of one process. -/
def processEvent (id : UInt32) (event : Json) : Json :=
  .obj [("event", event), ("id", .int (.ofUInt32 id))]

/-- Variables as an object. -/
def Vars.toJson (vars : Vars) : Json := Json.ofPairs (vars.map fun (n, v) => (n, .str v))

end Workbench

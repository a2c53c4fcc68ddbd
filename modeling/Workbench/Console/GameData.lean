import Workbench.Console.Log
import Workbench.Console.Output

/-!
State of the game and of the server that the panels of the workbench share.  Every field can be
subscribed to; output and messages are bounded.
-/

namespace Workbench.Console

/-- Subscriptions to a value that changes: who is subscribed, in order.  Numbers are given from one and never again. -/
structure Signal where
  subscribers : List Nat := []
  nextId : Nat := 1
deriving DecidableEq, Repr

namespace Signal

def subscribe (s : Signal) : Nat × Signal :=
  (s.nextId, { subscribers := s.subscribers ++ [s.nextId], nextId := s.nextId + 1 })

/-- Ends a subscription; tells whether it was there. -/
def unsubscribe (s : Signal) (id : Nat) : Bool × Signal :=
  (s.subscribers.contains id, { s with subscribers := s.subscribers.filter (· != id) })

/-- Who is told of a value. -/
def emit (s : Signal) (value : α) : List (Nat × α) := s.subscribers.map (·, value)

end Signal

/-- The life of the game client. -/
inductive GameState where
  | notRunning
  | ready
  | loading
  | connected
  | unloading
deriving DecidableEq, Repr

namespace GameState

def code : GameState → Nat
  | notRunning => 0
  | ready => 1
  | loading => 2
  | connected => 3
  | unloading => 4

def name : GameState → String
  | notRunning => "not running"
  | ready => "ready"
  | loading => "loading"
  | connected => "connected"
  | unloading => "unloading"

def all : List GameState := [notRunning, ready, loading, connected, unloading]

def shape : Shape GameState := fun o d => do
  let n ← Shape.u8 o d
  match all.find? fun s => s.code = n.toNat with
  | some s => return s
  | none => .error (.refused s!"unknown game state {n}")

end GameState

/-- A row of the resource monitor. -/
structure ResourceSample where
  name : String
  averageTick : Binary64
  averageFrameShare : Binary64
  memory : Binary64
  streaming : Binary64
deriving DecidableEq, Repr

namespace ResourceSample

/-- A row is written as its five values in order. -/
def shape : Shape ResourceSample := Shape.tuple 5 fun o items => do
  let nth (i : Nat) : Except Mismatch Datum :=
    match items[i]? with
    | some d => .ok d
    | none => .error (.wrongLength items.length "a tuple of size 5")
  return {
    name := ← Shape.text o (← nth 0)
    averageTick := ← Shape.double o (← nth 1)
    averageFrameShare := ← Shape.double o (← nth 2)
    memory := ← Shape.double o (← nth 3)
    streaming := ← Shape.double o (← nth 4) }

def toJson (s : ResourceSample) : Json :=
  .arr [.str s.name, Datum.finiteOrNull s.averageTick, Datum.finiteOrNull s.averageFrameShare,
    Datum.finiteOrNull s.memory, Datum.finiteOrNull s.streaming]

end ResourceSample

/-- An entry of the key-value data. -/
structure DataEntry where
  key : String
  value : Json
deriving DecidableEq

namespace DataEntry

def keyField : Field String := .required "key" Shape.text
def valueField : Field Json := .required "value" Shape.json

def shape : Shape DataEntry :=
  Shape.record "struct DataEntry" [keyField.check, valueField.check] fun r => do
    return { key := ← r.get keyField, value := ← r.get valueField }

/-- One entry or a list of them. -/
def updateShape : Shape (List DataEntry) := fun _ d =>
  match Shape.list shape .held d with
  | .ok es => .ok es
  | .error _ =>
    match shape .held d with
    | .ok e => .ok [e]
    | .error _ => .error (.noVariant "DataUpdate")

end DataEntry

/-- What can be subscribed to. -/
inductive Topic where
  | clientResources
  | serverResources
  | serverOutput
  | serverMessage
  | clearServerOutputs
  | gameMessage
  | clearGameOutput
  | active
  | gameState
deriving DecidableEq, Repr

/-- The topic that a name means. -/
def Topic.ofName? : String → Option Topic
  | "ClientResources" => some clientResources
  | "ServerResources" => some serverResources
  | "ServerOutput" => some serverOutput
  | "ServerMessage" => some serverMessage
  | "ClearServerOutputs" => some clearServerOutputs
  | "GameMessage" => some gameMessage
  | "ClearGameOutput" => some clearGameOutput
  | "FxcodeActive" => some active
  | "GameState" => some gameState
  | _ => none

/-- A subscription: a topic and a number of its own. -/
structure Subscription where
  topic : Topic
  id : Nat
deriving DecidableEq, Repr

/-- What subscribers are told, as a JSON value. -/
abbrev Notices := List (Subscription × Json)

/-- The shared state. -/
structure GameData where
  outputCapacity : Nat
  data : Json.Fields
  clientResources : List ResourceSample := []
  serverResources : List ResourceSample := []
  serverOutput : Ring outputCapacity
  serverMessages : History Line
  gameMessages : History Line
  active : Bool := false
  state : GameState := .notRunning
  signals : Topic → Signal := fun _ => {}

namespace GameData

def defaultOutputBytes : Nat := 1024 * 1024
def defaultMessageLimit : Nat := 2000

/-- The data before any update. -/
def initialData : Json.Fields :=
  let origin := Json.arr [Json.nat 0, Json.nat 0, Json.nat 0]
  Json.Fields.ofList [("player_ped_pos", origin), ("player_ped_rot", origin),
    ("player_ped_heading", Json.nat 0)]

def new (outputBytes messageLimit : Nat) : GameData where
  outputCapacity := outputBytes
  data := initialData
  serverOutput := Ring.empty outputBytes
  serverMessages := { capacity := messageLimit }
  gameMessages := { capacity := messageLimit }

/-- Whom a change of a topic reaches. -/
def notices (g : GameData) (topic : Topic) (value : Json) : Notices :=
  ((g.signals topic).emit value).map fun (id, v) => (⟨topic, id⟩, v)

/-- Replaces the subscriptions of a topic. -/
def setSignal (g : GameData) (topic : Topic) (s : Signal) : GameData :=
  { g with signals := fun t => if t = topic then s else g.signals t }

def subscribe (g : GameData) (topic : Topic) : Subscription × GameData :=
  let (id, s) := (g.signals topic).subscribe
  (⟨topic, id⟩, g.setSignal topic s)

def unsubscribe (g : GameData) (s : Subscription) : Bool × GameData :=
  let (found, rest) := (g.signals s.topic).unsubscribe s.id
  (found, g.setSignal s.topic rest)

/-- Takes entries in order. -/
def acceptData (g : GameData) (entries : List DataEntry) : GameData :=
  { g with data := entries.foldl (fun data e => data.insert e.key e.value) g.data }

def setClientResources (g : GameData) (samples : List ResourceSample) : Notices × GameData :=
  (g.notices .clientResources (.arr (samples.map (·.toJson))), { g with clientResources := samples })

def setServerResources (g : GameData) (samples : List ResourceSample) : Notices × GameData :=
  (g.notices .serverResources (.arr (samples.map (·.toJson))), { g with serverResources := samples })

/-- The output that is still held. -/
def bufferedOutput (g : GameData) : String := g.serverOutput.text

/-- Appends output; the oldest octets fall off beyond the limit. -/
def appendOutput (g : GameData) (chunk : String) : Notices × GameData :=
  let g := { g with serverOutput := g.serverOutput.write (Bytes.ofText chunk) }
  (g.notices .serverOutput (.str g.bufferedOutput), g)

/-- Replaces the output. -/
def setOutput (g : GameData) (output : String) : Notices × GameData :=
  appendOutput { g with serverOutput := g.serverOutput.clear } output

def receiveServerMessage (g : GameData) (line : Line) : Notices × GameData :=
  (g.notices .serverMessage line.toJson, { g with serverMessages := (g.serverMessages.push line).2 })

/-- Forgets the server's output and messages. -/
def clearServerOutputs (g : GameData) : Notices × GameData :=
  (g.notices .clearServerOutputs .null,
    { g with serverOutput := g.serverOutput.clear, serverMessages := g.serverMessages.reset })

def receiveGameMessage (g : GameData) (line : Line) : Notices × GameData :=
  (g.notices .gameMessage line.toJson, { g with gameMessages := (g.gameMessages.push line).2 })

/-- Forgets the game's messages. -/
def clearGameOutput (g : GameData) : Notices × GameData :=
  (g.notices .clearGameOutput .null, { g with gameMessages := g.gameMessages.reset })

def setActive (g : GameData) (active : Bool) : Notices × GameData :=
  (g.notices .active (.bool active), { g with active })

def setGameState (g : GameData) (state : GameState) : Notices × GameData :=
  (g.notices .gameState (Json.nat state.code), { g with state })

end GameData
end Workbench.Console

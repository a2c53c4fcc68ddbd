import Workbench.Console.GameData
import Workbench.Fault

/-!
Updates of the shared state, as they are sent to it: each has a name and a value of its own shape.
-/

namespace Workbench.Console

/-- A change of the shared state. -/
inductive Update where
  | data (entries : List DataEntry)
  | clientResources (samples : List ResourceSample)
  | serverResources (samples : List ResourceSample)
  | replaceOutput (output : String)
  | output (chunk : String)
  | serverMessage (line : Line)
  | gameMessage (line : Line)
  | active (active : Bool)
  | gameState (state : GameState)
  | clearServer
  | clearGame

namespace Update

/-- The update that a name and a value mean; nothing for an unknown name. -/
def ofNamed? (name : String) (value : Json) : Option (Outcome Update) :=
  match name with
  | "accept_data" => some ((DataEntry.updateShape.read value).map .data)
  | "client_resources" => some (((Shape.list ResourceSample.shape).read value).map .clientResources)
  | "server_resources" => some (((Shape.list ResourceSample.shape).read value).map .serverResources)
  | "set_output" => some ((Shape.text.read value).map .replaceOutput)
  | "append_output" => some ((Shape.text.read value).map .output)
  | "server_message" => some ((Line.shape.read value).map .serverMessage)
  | "game_message" => some ((Line.shape.read value).map .gameMessage)
  | "active" => some ((Shape.bool.read value).map .active)
  | "game_state" => some ((GameState.shape.read value).map .gameState)
  | "clear_server" => some (.ok .clearServer)
  | "clear_game" => some (.ok .clearGame)
  | _ => none

end Update

namespace GameData

/-- Takes an update; tells whom it reaches. -/
def apply (g : GameData) : Update → Notices × GameData
  | .data entries => ([], g.acceptData entries)
  | .clientResources samples => g.setClientResources samples
  | .serverResources samples => g.setServerResources samples
  | .replaceOutput output => g.setOutput output
  | .output chunk => g.appendOutput chunk
  | .serverMessage line => g.receiveServerMessage line
  | .gameMessage line => g.receiveGameMessage line
  | .active active => g.setActive active
  | .gameState state => g.setGameState state
  | .clearServer => g.clearServerOutputs
  | .clearGame => g.clearGameOutput

/-- Everything that is held, by name. -/
def describe (g : GameData) : List (String × Json) :=
  let samples (all : List ResourceSample) : Json := .arr (all.map ResourceSample.toJson)
  let lines (h : History Line) : Json := .arr (h.items.map Line.toJson)
  [("data", .obj g.data), ("client", samples g.clientResources), ("server", samples g.serverResources),
    ("output", .str g.bufferedOutput), ("server_messages", lines g.serverMessages),
    ("game_messages", lines g.gameMessages), ("active", .bool g.active),
    ("state", Json.nat g.state.code)]

end GameData
end Workbench.Console

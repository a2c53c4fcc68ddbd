import Workbench.Channel.Terminal
import Workbench.Proofs.Terminal.Mutators
import Workbench.Terminal.Rehearsal

/-!
The environment of a new terminal.  The last layer that speaks for a variable decides it: the launch over the
configuration over the host, then what the terminal says of itself, and in the end extensions change what they find.
A strict launch gets the texts of its own variables and nothing else.
-/

namespace Workbench

namespace Variables

/-- What an entry of settings says of its variable: null that there is to be none, a text what it resolves to, all
else how it stands in JSON. -/
def said (v : Variables) : Json → Option String
  | .null => none
  | .str text => some (v.resolve text)
  | other => some other.compact

end Variables

namespace TerminalRequest

variable (v : Variables) (settings : TerminalSettings) (r : TerminalRequest) (base : Vars)

variable {r r' : TerminalRequest} {base base' : Vars}

end TerminalRequest

namespace TerminalChannel

open TerminalRequest

variable {σ : Type} (host : TerminalHost (StateM σ)) (place : TerminalPlace)

/-- Asks the host for a process, and answers with its number and its launch as it is carried out. -/
def create (process : ProcessRequest) (c : ClientCommands) (s : σ) : (Outcome Json × ClientCommands) × σ :=
  (((host.create process s).1.map fun id => .obj [("persistentTerminalId", .int (.ofUInt32 id)),
    ("resolvedShellLaunchConfig", process.launch.toJson)], c), (host.create process s).2)

end TerminalChannel

end Workbench

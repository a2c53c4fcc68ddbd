import Workbench.Feeds
import Workbench.Resource.Addressing

/-!
Named surfaces for calls and events.  A call answers once; a subscription gives a stream that its
channel fills until it is dropped.
-/

namespace Workbench

/-- What a channel knows of the connection that calls it. -/
structure ChannelContext where
  authority : String
  addressing : Addressing
  /-- The token of the session. -/
  token : String

/-- A channel that works in `m` and names its streams by `τ`.  A call may stay without an answer. -/
structure Channel (m : Type → Type) (τ : Type) where
  call : ChannelContext → (command : String) → (args : Json) → m (Option (Outcome Json))
  listen : ChannelContext → (event : String) → (args : Json) → m (Outcome τ)

/-- How the streams of channels are read and given up. -/
structure Streams (m : Type → Type) (τ : Type) where
  /-- What a stream has sent since it was last asked, and whether it has ended. -/
  take : τ → m (List Json × Bool)
  drop : τ → m Unit

/-- Runs a computation on a part of a larger state. -/
def onPart (get : ρ → σ) (set : σ → ρ → ρ) (act : StateM σ α) : StateM ρ α := fun whole =>
  let (result, part) := act (get whole)
  (result, set part whole)

/-- Runs a computation with two states as one on their pair. -/
def overHost (act : StateT τ (StateM σ) α) : StateM (τ × σ) α := fun (state, host) =>
  let ((r, state), host) := act state host
  (r, (state, host))

/-- A channel whose state is a part of a larger one. -/
def Channel.embed (c : Channel (StateM σ) τ) (get : ρ → σ) (set : σ → ρ → ρ) (wrap : τ → υ) :
    Channel (StateM ρ) υ where
  call ctx command args := onPart get set (c.call ctx command args)
  listen ctx event args := onPart get set do return (← c.listen ctx event args).map wrap

/-- Channels by name. -/
abbrev Registry (m : Type → Type) (τ : Type) := List (String × Channel m τ)

namespace Registry

def find (r : Registry m τ) (name : String) : Outcome (Channel m τ) :=
  match List.find? (fun e => e.1 == name) r with
  | some (_, channel) => .ok channel
  | none => .error (.unknownChannel name)

/-- Names in order. -/
def names (r : Registry m τ) : List String := (r.map (·.1)).mergeSort (· ≤ ·)

end Registry

/-- The names under which the channels of a server are reached. -/
def fileChannelName : String := "remotefilesystem"
def terminalChannelName : String := "remoteterminal"
def extensionsChannelName : String := "remoteextensionsenvironment"
def telemetryChannelName : String := "telemetry"
def loggerChannelName : String := "logger"

end Workbench

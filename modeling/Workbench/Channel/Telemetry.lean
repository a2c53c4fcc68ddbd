import Workbench.Channel
import Workbench.Channel.Arguments
import Workbench.Telemetry

/-!
The telemetry channel: clients report events and say what may be reported.
-/

namespace Workbench.Telemetry

def eventAt : Parameter := ⟨0, "eventName"⟩
def dataAt : Parameter := ⟨1, "data"⟩
def levelAt : Parameter := ⟨0, "level"⟩

/-- The parameters of a command, by position. -/
def parameters : (command : String) → List Parameter
  | "publicLog" | "publicLog2" => [eventAt, dataAt]
  | "setTelemetryLevel" => [levelAt]
  | _ => []

/-- The event and the data of a report. -/
def reportOf (args : Json) : Outcome (String × Json) := do
  let event ← eventAt.read Shape.text args
  return (event, ← dataAt.readOr Shape.json .null args)

variable {m : Type → Type} [Monad m]

def call (sink : TelemetrySink m) (command : String) (args : Json) : m (Outcome Json) :=
  match command with
  | "publicLog" | "publicLog2" =>
    match reportOf args with
    | .error e => return .error e
    | .ok (event, data) => do
      sink.publicLog event data
      return .ok .null
  | "setTelemetryLevel" =>
    match levelAt.read TelemetryLevel.shape args with
    | .error e => return .error e
    | .ok level => do
      sink.setLevel level
      return .ok .null
  | "getTelemetryLevel" => return .ok (← sink.level).toJson
  | other => return .error (.invalidCall other)

def channel : Channel (StateM TelemetryLevel) Empty where
  call _ command args := return some (← call TelemetrySink.tracing command args)
  listen _ event _ := return .error (.invalidListen event)

end Workbench.Telemetry

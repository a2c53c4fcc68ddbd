import Workbench.Channel.Echo
import Workbench.Channel.Logger
import Workbench.Channel.Multiplexer
import Workbench.Channel.Telemetry

/-!
An echo channel beside the logger and telemetry channels, behind one multiplexer.
-/

namespace Workbench

/-- The states of the three channels. -/
structure EchoHall where
  echo : Echo := {}
  log : LogControl := {}
  telemetry : TelemetryLevel := .usage

namespace EchoHall

/-- Streams of the three channels. -/
inductive Stream where
  | echo (s : EchoStream)
  | log (id : Nat)

def onEcho : StateM Echo α → StateM EchoHall α := onPart echo fun echo h => { h with echo }
def onLog : StateM LogControl α → StateM EchoHall α := onPart log fun log h => { h with log }

def registry (faultOf : Json → Fault) : Registry (StateM EchoHall) Stream := [
  ("echo", (Echo.channel faultOf).embed echo (fun echo h => { h with echo }) .echo),
  ("logger", Logger.channel.embed log (fun log h => { h with log }) .log),
  ("telemetry", Telemetry.channel.embed telemetry (fun telemetry h => { h with telemetry }) nofun)]

def streams : Streams (StateM EchoHall) Stream where
  take
    | .echo s => onEcho (Echo.streams.take s)
    | .log id => onLog (Logger.streams.take id)
  drop
    | .echo s => onEcho (Echo.streams.drop s)
    | .log id => onLog (Logger.streams.drop id)

end EchoHall
end Workbench

import Workbench.Console.GameData
import Workbench.Extension
import Workbench.Frame.Shape
import Workbench.LogLevel
import Workbench.Resource
import Workbench.Telemetry
import Workbench.Terminal.Launch

/-!
The types of values that clients and servers exchange, by name.  Reading a value as a type and writing
what has been read shows what the type makes of it.
-/

namespace Workbench.Vocabulary

/-- What is written for a value that has been read. -/
def written (d : Datum) : Json := (d.toJson?).getD .null

/-- Types that are written as they are read. -/
def plain? (value : Json) : String → Option (Outcome Json)
  | "HandshakeRequest" => some ((Handshake.shape.read value).map (written ∘ .record ∘ Handshake.fields))
  | "HandshakeOk" =>
    some ((acceptedShape.read value).map fun b => Json.ofPairs [("reconnection", .bool b)])
  | "ErrorPayload" => some ((ErrorReport.shape.read value).map (written ∘ .record ∘ ErrorReport.fields))
  | "Frame" => some ((Frame.shape.read value).map Frame.toJson)
  | "Payload" => some ((Payload.shape.read value).map (written ∘ Payload.toDatum))
  | "ChannelRequest" => some ((ChannelRequest.shape.read value).map (written ∘ ChannelRequest.toDatum))
  | "ChannelResponse" => some ((ChannelResponse.shape.read value).map (written ∘ ChannelResponse.toDatum))
  | "UriComponents" => some ((Resource.shape.read value).map Resource.toJson)
  | "StructuredMessage" => some ((Console.Line.shape.read value).map Console.Line.toJson)
  | "ResourceSample" => some ((Console.ResourceSample.shape.read value).map Console.ResourceSample.toJson)
  | "TelemetryLevel" => some ((TelemetryLevel.shape.read value).map TelemetryLevel.toJson)
  | "ShellLaunchConfig" => some ((Launch.shape.read value).map Launch.toJson)
  | _ => none

/-- Types that also have another form, which is shown beside the one that is written. -/
def twofold? (value : Json) : String → Option (Outcome Json)
  | "ConnectionType" => some ((ConnectionKind.shape.read value).map fun k =>
      Json.ofPairs [("wire", Json.nat k.code.toNat), ("display", .str k.name)])
  | "GameState" => some ((Console.GameState.shape.read value).map fun g =>
      Json.ofPairs [("wire", Json.nat g.code), ("display", .str g.name)])
  | "LogLevel" => some ((LogLevel.shape.read value).map fun l =>
      Json.ofPairs [("wire", l.toJson), ("directive", .str l.directive)])
  | "ShellArgs" => some ((LaunchArgs.shape.read value).map fun a =>
      Json.ofPairs [("wire", a.toJson), ("argv", .arr (a.argv.map .str))])
  | _ => none

/-- Reads a value as a type and writes what has been read; null for an unknown type. -/
def reread (type : String) (value : Json) : Outcome Json :=
  match type with
  | "LogLevelName" => .ok (((value.str?.bind LogLevel.ofName?).map LogLevel.toJson).getD .null)
  | "ExtensionIdentifier" =>
    let id : ExtensionId := ⟨value.str?.getD ""⟩
    .ok (Json.ofPairs [("wire", id.toJson), ("key", .str id.key)])
  | _ => (plain? value type).getD ((twofold? value type).getD (.ok .null))

end Workbench.Vocabulary

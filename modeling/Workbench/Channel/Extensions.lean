import Workbench.Channel
import Workbench.Channel.Arguments
import Workbench.Extension.Manifest
import Workbench.Installation
import Workbench.Telemetry

/-!
The channel of an extension host's surroundings: what the server is like, which extensions it has, and
telemetry of the host.
-/

namespace Workbench

/-- A request to look at one directory. -/
structure SingleScan where
  language : Option String
  builtin : Bool
  location : Resource

namespace SingleScan

def languageField : Field (Option String) := .default "language" (.nullable Shape.text) none
def builtinField : Field Bool := .default "isBuiltin" Shape.bool false
def locationField : Field Resource := .required "extensionLocation" Resource.shape

def shape : Shape SingleScan :=
  Shape.record "struct ScanSingleArgs"
    [languageField.check, builtinField.check, locationField.check] fun r => do
      return ⟨← r.get languageField, ← r.get builtinField, ← r.get locationField⟩

end SingleScan

namespace ExtensionChannel

/-- What stays the same while a server runs. -/
structure Place where
  installation : Installation
  /-- The language of clients that name none. -/
  language : String

/-- Clients may put their one argument into an array. -/
def unwrap : Json → Json
  | .arr [item] => item
  | other => other

def languageAt : Parameter := ⟨0, "language"⟩
def eventAt : Parameter := ⟨0, "eventName"⟩
def dataAt : Parameter := ⟨1, "data"⟩

/-- The language of a search. -/
def languageOf (place : Place) (args : Json) : String :=
  match languageAt.given? args with
  | some (.str l) => if l = "" then place.language else l
  | _ => place.language

/-- The searches of a server. -/
def searches (place : Place) (language : String) : List ExtensionSearch :=
  ExtensionSearch.ofDirs language place.installation.builtinDirs place.installation.installedDirs

/-- The extensions that a server has, when its searches have ended in this order and some of them have failed. -/
def scanExtensions (place : Place) (language : String) (d : Disk) (faults : Nat → Option Errno)
    (order : List Nat) : Option (List Extension) :=
  Extension.scanAll d (searches place language) faults order

/-- The extensions that a server has, its searches ending one after the other. -/
def scanAll (place : Place) (language : String) (d : Disk) : List Extension :=
  (scanExtensions place language d (fun _ => none) (List.range (searches place language).length)).getD []

/-- The extension of one directory. -/
def scanSingle (place : Place) (a : Addressing) (args : Json) (d : Disk) : Outcome (Option Extension) := do
  let scan ← SingleScan.shape.read (a.incomingJson args)
  let path := (a.toLocal scan.location).fsPath
  return Extension.read? d path ⟨scan.language.getD place.language, path, scan.builtin, true⟩

/-- Reports an event of the extension host. -/
def logTelemetry (args : Json) : Outcome Json := do
  let _ ← eventAt.read Shape.text args
  let _ ← dataAt.readOr Shape.json .null args
  return .null

/-- Answers a call.  Nothing is written to the disk. -/
def call (place : Place) (ctx : ChannelContext) (command : String) (args : Json) (d : Disk) :
    StateM TelemetryLevel (Outcome Json) := fun level =>
  let args := unwrap args
  let out (v : Json) : Json := ctx.addressing.outgoingJson v
  match command with
  | "getEnvironmentData" => (.ok (out (place.installation.describe ctx.token)), level)
  | "scanExtensions" =>
    let found := scanAll place (languageOf place args) d
    (.ok (out (.arr (found.map Extension.toJson))), level)
  | "scanSingleExtension" =>
    let found := scanSingle place ctx.addressing args d
    (found.map (fun
      | some e => out e.toJson
      | none => .null), level)
  | "getDiagnosticInfo" => (.error (.notImplemented "getDiagnosticInfo"), level)
  | "disableTelemetry" => (.ok .null, .none)
  | "logTelemetry" => (logTelemetry args, level)
  | "flushTelemetry" => (.ok .null, level)
  | other => (.error (.invalidCall other), level)

/-- The channel, which looks at the disk of a larger state. -/
def channel (place : Place) (disk : σ → Disk) : Channel (StateM (TelemetryLevel × σ)) Empty where
  call ctx command args := fun (level, rest) =>
    let (answer, level) := call place ctx command args (disk rest) level
    (some answer, (level, rest))
  listen _ event _ := return .error (.invalidListen event)

end ExtensionChannel
end Workbench

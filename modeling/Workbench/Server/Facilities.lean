import Workbench.Channel.Extensions
import Workbench.Channel.File
import Workbench.Channel.Logger
import Workbench.Channel.Telemetry
import Workbench.Channel.Terminal
import Workbench.Config
import Workbench.Disk.Provider
import Workbench.Terminal.Local

/-!
What the sessions of a server share, and the channels through which they reach it.
-/

namespace Workbench

/-- Hosts that can be reached over the network. -/
inductive Network where
  /-- There is no way to any host. -/
  | unreachable
  /-- These ports of hosts answer, each with a program. -/
  | reaches (ports : List ((String × Nat) × Program))

namespace Network

/-- What answers at a port of a host. -/
def connect (n : Network) (host : String) (port : Nat) : Except Errno Program :=
  match n with
  | unreachable => .error .networkUnreachable
  | reaches ports =>
    match ports.find? fun e => e.1 == (host, port) with
    | some (_, program) => .ok program
    | none => .error .connectionRefused

end Network

/-- The shared part of a server. -/
structure Facilities where
  files : FileDesk := {}
  disk : DiskHost := {}
  commands : ClientCommands := {}
  terminals : LocalTerminals := {}
  telemetry : TelemetryLevel := .usage
  log : LogControl := {}
  network : Network := .unreachable

/-- What stays the same while a server runs. -/
structure ServerPlace where
  config : ServerConfig
  /-- The environment of the server. -/
  env : Vars
  /-- The directory that the server runs in. -/
  workingDir : String

/-- Streams of the channels of a server. -/
inductive ServerStream where
  | file (id : Nat)
  | terminal (s : TerminalStream)
  | log (id : Nat)

namespace Facilities

/-- The version that terminals are told. -/
def version : String := "0.1.0"

def terminalPlace (p : ServerPlace) : TerminalPlace :=
  ⟨⟨version, p.config.extensionHost.language, some (UserDirs.ofVars p.env).home⟩, p.env, p.workingDir⟩

def filePart (f : Facilities) : FileDesk × DiskHost := (f.files, f.disk)

def setFilePart (part : FileDesk × DiskHost) (f : Facilities) : Facilities :=
  { f with files := part.1, disk := part.2 }

def terminalPart (f : Facilities) : ClientCommands × LocalTerminals × Disk :=
  (f.commands, f.terminals, f.disk.disk)

def setTerminalPart (part : ClientCommands × LocalTerminals × Disk) (f : Facilities) : Facilities :=
  { f with commands := part.1, terminals := part.2.1 }

def onFiles : StateM (FileDesk × DiskHost) α → StateM Facilities α := onPart filePart setFilePart

def onTerminals : StateM (ClientCommands × LocalTerminals × Disk) α → StateM Facilities α :=
  onPart terminalPart setTerminalPart

def onLog : StateM LogControl α → StateM Facilities α := onPart log fun log f => { f with log }

/-- The channels of a server. -/
def registry (p : ServerPlace) : Registry (StateM Facilities) ServerStream := [
  (fileChannelName, (FileDesk.channel DiskHost.provider).embed filePart setFilePart .file),
  (terminalChannelName, (TerminalChannel.channel (LocalTerminals.host p.env) (terminalPlace p)).embed
    terminalPart setTerminalPart .terminal),
  (extensionsChannelName,
    (ExtensionChannel.channel ⟨p.config.installation, p.config.extensionHost.language⟩ DiskHost.disk).embed
      (fun f => (f.telemetry, f.disk)) (fun part f => { f with telemetry := part.1 }) nofun),
  (telemetryChannelName,
    Telemetry.channel.embed telemetry (fun telemetry f => { f with telemetry }) nofun),
  (loggerChannelName, Logger.channel.embed log (fun log f => { f with log }) .log)]

/-- Their streams. -/
def streams (p : ServerPlace) : Streams (StateM Facilities) ServerStream :=
  let files := FileDesk.streams DiskHost.provider
  let terminals := TerminalChannel.streams (LocalTerminals.host p.env)
  { take := fun
      | .file id => onFiles (files.take id)
      | .terminal s => onTerminals (terminals.take s)
      | .log id => onLog (Logger.streams.take id)
    drop := fun
      | .file id => onFiles (files.drop id)
      | .terminal s => onTerminals (terminals.drop s)
      | .log id => onLog (Logger.streams.drop id) }

/-- Lets the watches of the disk report and terminals run on. -/
def tick : StateM Facilities Unit := modify fun f =>
  let (reports, disk) := DiskHost.takeReports.run f.disk
  { f with
    files := f.files.reportAll reports
    disk
    terminals := f.terminals.settle disk.disk }

end Facilities
end Workbench

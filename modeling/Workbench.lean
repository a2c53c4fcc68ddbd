import Workbench.Base64
import Workbench.Buffer
import Workbench.Bytes
import Workbench.Cbor
import Workbench.Cbor.Reader
import Workbench.Channel
import Workbench.Channel.Arguments
import Workbench.Channel.Client
import Workbench.Channel.Echo
import Workbench.Channel.Extensions
import Workbench.Channel.File
import Workbench.Channel.Hall
import Workbench.Channel.Logger
import Workbench.Channel.Multiplexer
import Workbench.Channel.Telemetry
import Workbench.Channel.Terminal
import Workbench.CommandLine
import Workbench.Config
import Workbench.ConnectionQuery
import Workbench.Console.Cells
import Workbench.Console.GameData
import Workbench.Console.History
import Workbench.Console.Input
import Workbench.Console.Log
import Workbench.Console.Output
import Workbench.Console.Update
import Workbench.Datum
import Workbench.Delivery
import Workbench.Digest
import Workbench.Disk
import Workbench.Disk.Calls
import Workbench.Disk.Errno
import Workbench.Disk.Plant
import Workbench.Disk.Provider
import Workbench.Disk.Walk
import Workbench.Disk.Watch
import Workbench.Emitter
import Workbench.Emitter.Audience
import Workbench.Executable
import Workbench.Extension
import Workbench.Extension.Localize
import Workbench.Extension.Manifest
import Workbench.ExtensionHost
import Workbench.Fault
import Workbench.Feeds
import Workbench.File.Provider
import Workbench.File.Reading
import Workbench.File.Rehearsal
import Workbench.File.Request
import Workbench.Frame
import Workbench.Frame.Cbor
import Workbench.Frame.Shape
import Workbench.Framing
import Workbench.HostAddress
import Workbench.Http
import Workbench.Inspect
import Workbench.Installation
import Workbench.Json
import Workbench.Json.Printer
import Workbench.Json.Reader
import Workbench.Json.Walk
import Workbench.Link
import Workbench.LogLevel
import Workbench.Main
import Workbench.Number.Binary64
import Workbench.Number.Decimal
import Workbench.Path
import Workbench.Process
import Workbench.Program
import Workbench.Resource
import Workbench.Resource.Addressing
import Workbench.Server
import Workbench.Server.Facilities
import Workbench.Server.Line
import Workbench.Server.Runtime
import Workbench.Session
import Workbench.Session.Echo
import Workbench.Session.Table
import Workbench.Shape
import Workbench.Shell
import Workbench.Shell.Format
import Workbench.Shell.Reader
import Workbench.Shell.Syntax
import Workbench.Switchboard
import Workbench.Switchboard.Clients
import Workbench.Telemetry
import Workbench.Terminal.ClientCommands
import Workbench.Terminal.Environment
import Workbench.Terminal.Host
import Workbench.Terminal.Launch
import Workbench.Terminal.Local
import Workbench.Terminal.Rehearsal
import Workbench.Terminal.Request
import Workbench.Terminal.Variables
import Workbench.Text.Blank
import Workbench.Text.Form
import Workbench.Text.Case
import Workbench.Text.Quoted
import Workbench.Text.Ranges.Hidden
import Workbench.Text.Ranges.Letters
import Workbench.Text.Split
import Workbench.Text.Utf8
import Workbench.Toml
import Workbench.Toml.Reader
import Workbench.Transport
import Workbench.Tty
import Workbench.Tunnel
import Workbench.Upgrade
import Workbench.Vars
import Workbench.Vocabulary
import Workbench.WebSocket.Endpoint
import Workbench.WebSocket.Message
import Workbench.Proofs.Channel.Disposal
import Workbench.Proofs.Console.History
import Workbench.Proofs.Console.Output
import Workbench.Proofs.Delivery.InOrder
import Workbench.Proofs.Delivery.Replay
import Workbench.Proofs.Emitter
import Workbench.Proofs.File.Watching
import Workbench.Proofs.Frame.RoundTrip
import Workbench.Proofs.Framing.Limit
import Workbench.Proofs.Resource.RoundTrip
import Workbench.Proofs.Resource.Walk
import Workbench.Proofs.Session.Admission
import Workbench.Proofs.Session.Attachment
import Workbench.Proofs.Session.Sweep
import Workbench.Proofs.Terminal.Output
import Workbench.Proofs.Text.Pieces
import Workbench.Proofs.Terminal.Transcript
import Workbench.Proofs.Terminal.Commands
import Workbench.Proofs.File.Reading
import Workbench.Proofs.Disk.Overwrite
import Workbench.Proofs.Disk.Change
import Workbench.Proofs.Disk.Way
import Workbench.Proofs.Disk.Effect
import Workbench.Proofs.Disk.Copy
import Workbench.Proofs.Disk.Worklist
import Workbench.Proofs.Disk.SourceKept
import Workbench.Proofs.Terminal.Mutators
import Workbench.Proofs.Terminal.Environment
import Workbench.Proofs.Path.Parent
import Workbench.Proofs.File.Quiet
import Workbench.Proofs.File.Arrival
import Workbench.Proofs.Console.Recall
import Workbench.Proofs.Server.Tending
import Workbench.Proofs.Terminal.References
import Workbench.Proofs.Server.Keeping
import Workbench.Proofs.Extension.Merging
import Workbench.Proofs.Console.Input
import Workbench.Proofs.Base64
import Workbench.Proofs.Base64.Canonical
import Workbench.Proofs.ExtensionHost
import Workbench.Proofs.Disk.WorkingDir
import Workbench.Proofs.Resource.Handed
import Workbench.Proofs.Disk.Exclusion
import Workbench.Proofs.ConnectionQuery
import Workbench.Proofs.Channel.Arguments
import Workbench.Proofs.Upgrade
import Workbench.Proofs.Disk.Reports

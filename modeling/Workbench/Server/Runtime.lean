import Workbench.Channel.Multiplexer
import Workbench.ExtensionHost
import Workbench.Server.Facilities
import Workbench.Switchboard

/-!
What stands behind the sessions of a server: channel requests, or a process that hosts extensions.
-/

namespace Workbench

inductive ServerRuntime where
  /-- Requests of a client are carried out. -/
  | management (ctx : ChannelContext) (requests : Multiplexer ServerStream)
  /-- Data goes to a process and comes from it. -/
  | extensionHost (host : ExtensionHost)

namespace ServerRuntime

/-- The runtime of a management session. -/
def ofContext (ctx : ChannelContext) : ServerRuntime := .management ctx {}

def deliver (p : ServerPlace) (payload : Payload) : ServerRuntime → StateM Facilities ServerRuntime
  | .management ctx requests =>
    match payload with
    | .request r => do
      let act := Multiplexer.handle (Facilities.registry p) (Facilities.streams p) ctx r
      return .management ctx (← act.run requests).2
    | _ => return .management ctx requests
  | .extensionHost host => return .extensionHost (host.take payload)

def produce (p : ServerPlace) :
    ServerRuntime → StateM Facilities (List Payload × Bool × ServerRuntime)
  | .management ctx requests => do
    Facilities.tick
    let act := Multiplexer.settle (Facilities.registry p) (Facilities.streams p) ctx
    let (responses, requests) := (← act.run requests).2.takeResponses
    return (responses.map .response, false, .management ctx requests)
  | .extensionHost host => do
    let (octets, ended, host) := host.takeOutput (← get).disk.disk
    let payloads := if octets.isEmpty then [] else [Payload.data (Blob.ofBytes octets)]
    return (payloads, ended, .extensionHost host)

def shut (p : ServerPlace) : ServerRuntime → StateM Facilities Unit
  | .management _ requests => do
    let _ ← (Multiplexer.disposeAll (Facilities.streams p)).run requests
  | .extensionHost _ => pure ()

def ops (p : ServerPlace) : RuntimeOps ServerRuntime Facilities where
  deliver := deliver p
  produce := produce p
  shut := shut p

end ServerRuntime
end Workbench

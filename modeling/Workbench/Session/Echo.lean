import Workbench.Switchboard

/-!
A runtime that sends back what it is given, for trying out sessions.  Deliveries are recorded.
-/

namespace Workbench

/-- The runtime of one session: what it still has for the client.  Nothing stands for its end. -/
structure EchoRuntime where
  token : String
  waiting : List (Option Payload) := []

/-- What the runtimes have been given, each with its token; nothing stands for their being shut. -/
abbrev EchoRecord := List (String × Option Payload)

namespace EchoRuntime

/-- Puts something with what the runtime has for the client. -/
def offer (r : EchoRuntime) (p : Option Payload) : EchoRuntime :=
  { r with waiting := r.waiting ++ [p] }

def ops : RuntimeOps EchoRuntime EchoRecord where
  deliver p r := do
    modify fun record => record ++ [(r.token, some p)]
    return if p matches .request _ then r else r.offer (some p)
  produce r :=
    let (some_, rest) := r.waiting.span Option.isSome
    return (some_.filterMap id, !rest.isEmpty, { r with waiting := [] })
  shut r := modify fun record => record ++ [(r.token, none)]

end EchoRuntime
end Workbench

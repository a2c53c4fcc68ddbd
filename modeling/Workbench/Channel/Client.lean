import Workbench.Channel

/-!
A client of one channel: it calls, holds streams under names of its own, and looks now and then at
what they have sent.
-/

namespace Workbench

/-- The streams that a client holds, by name. -/
structure Client (τ : Type) where
  held : List (String × τ) := []

/-- What a stream has sent since it was last looked at. -/
structure Received where
  name : String
  values : List Json
  ended : Bool

namespace Client

variable {m : Type → Type} [Monad m] {τ : Type}

def stream? (c : Client τ) (name : String) : Option τ :=
  (c.held.find? fun e => e.1 == name).map (·.2)

/-- Listens under a name; a stream that has the name is dropped after the new one is there. -/
def listen (channel : Channel m τ) (streams : Streams m τ) (ctx : ChannelContext)
    (event : String) (args : Json) (name : String) : StateT (Client τ) m (Outcome Unit) := fun c => do
  match ← channel.listen ctx event args with
  | .error e => return (.error e, c)
  | .ok stream =>
    if let some old := c.stream? name then streams.drop old
    return (.ok (), ⟨(name, stream) :: c.held.filter (·.1 != name)⟩)

/-- Drops the stream of a name; false if there is none. -/
def drop (streams : Streams m τ) (name : String) : StateT (Client τ) m Bool := fun c => do
  match c.stream? name with
  | none => return (false, c)
  | some stream =>
    streams.drop stream
    return (true, ⟨c.held.filter (·.1 != name)⟩)

/-- Looks at every stream; those that have ended are dropped. -/
def look (streams : Streams m τ) : StateT (Client τ) m (List Received) := fun c => do
  let got ← c.held.mapM fun (name, stream) => do
    let (values, ended) ← streams.take stream
    return Received.mk name values ended
  let finished := c.held.filter fun e => got.any fun r => r.ended && r.name == e.1
  finished.forM fun e => streams.drop e.2
  return (got, ⟨c.held.filter fun e => !finished.any (·.1 == e.1)⟩)

end Client
end Workbench

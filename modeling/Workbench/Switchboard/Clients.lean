import Workbench.Switchboard

/-!
Clients at the far ends of sockets, by names of their own.  What arrives for a client is kept until it
is looked at.
-/

namespace Workbench

/-- A client with what it has received and not looked at. -/
structure Caller where
  name : String
  socket : SocketId
  inbox : List Frame := []
  /-- The socket has ended. -/
  ended : Bool := false

structure Callers where
  held : List Caller := []
  /-- How many signs of life have arrived since they were last counted. -/
  signs : Nat := 0

/-- What a client looks at: frames, and whether the socket has ended behind them. -/
structure Glimpse where
  name : String
  frames : List Frame
  ended : Bool

namespace Callers

variable {ρ σ : Type}

def find? (c : Callers) (name : String) : Option Caller := c.held.find? (·.name == name)

def forget (c : Callers) (name : String) : Callers :=
  { c with held := c.held.filter (·.name != name) }

/-- A client goes away; false if there is none of the name. -/
def drop (c : Callers) (name : String) : Switching ρ σ (Bool × Callers) := do
  match c.find? name with
  | none => return (false, c)
  | some caller =>
    Switchboard.onLink caller.socket Link.dropFar
    return (true, c.forget name)

/-- A client connects; one that has the name goes away. -/
def add (c : Callers) (name : String) (socket : SocketId) : Switching ρ σ Callers := do
  let (_, c) ← c.drop name
  return { c with held := c.held ++ [{ name, socket }] }

/-- A client puts octets on its socket; false if the socket takes none. -/
def put (c : Callers) (name : String) (octets : Bytes) : Switching ρ σ (Option Bool) := do
  match c.find? name with
  | none => return none
  | some caller =>
    let open? := (← Switchboard.link? caller.socket).any fun l => !l.far.shut
    Switchboard.onLink caller.socket fun l => ({ l with far := l.far.put octets }).carry
    return some open?

/-- What has arrived for a client is put with what it has not looked at; signs of life are only
counted. -/
def fetch (caller : Caller) : Switching ρ σ (Nat × Caller) := do
  match ← Switchboard.link? caller.socket with
  | none => return (0, caller)
  | some l =>
    let l := l.carry
    let (frames, last, far) := Transport.receiveAll (l.far.incoming.length + 2) l.far
    Switchboard.onLink caller.socket fun _ => { l with far }
    let (signs, frames) := frames.partition (· == .keepAlive)
    return (signs.length, { caller with
      inbox := caller.inbox ++ frames
      ended := caller.ended || !(last matches .pending) })

def fetchAll (c : Callers) : Switching ρ σ Callers := do
  let got ← c.held.mapM fetch
  return { held := got.map (·.2), signs := got.foldl (fun n g => n + g.1) c.signs }

/-- A client looks at everything, or at so many things; the end of the socket counts as one, and a
client that has seen it is gone. -/
def look (c : Callers) (name : String) (count : Option Nat := none) : Glimpse × Callers :=
  match c.find? name with
  | none => (⟨name, [], false⟩, c)
  | some caller =>
    let n := count.getD (caller.inbox.length + 1)
    let ended := caller.ended && caller.inbox.length < n
    let rest : Caller := { caller with inbox := caller.inbox.drop n }
    (⟨name, caller.inbox.take n, ended⟩,
      if ended then c.forget name
      else { c with held := c.held.map fun x => if x.name == name then rest else x })

/-- Every client looks at everything. -/
def lookAll (c : Callers) : List Glimpse × Callers :=
  c.held.foldl (fun (seen, c) caller =>
    let (g, c) := c.look caller.name
    (seen ++ [g], c)) ([], c)

end Callers
end Workbench

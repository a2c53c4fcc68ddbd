/-!
An event source with listeners that come and go.  What runs when the first listener attaches and when
the last one detaches is reported as a turn, so that its owner can open and close what lies behind it.
-/

namespace Workbench

/-- A change between no listener and some. -/
inductive Turn where
  | first
  | last
deriving DecidableEq, Repr

/-- A listener: its number, and what has been sent to it and not yet taken. -/
structure Listener (α : Type) where
  id : Nat
  queue : Array α := #[]

/-- An event source. -/
structure Emitter (α : Type) where
  /-- Those that have not been dropped. -/
  listeners : List (Listener α) := []
  /-- The numbers of those that values are sent to, in the order in which they have come. -/
  attached : List Nat := []
  nextId : Nat := 0
  disposed : Bool := false

namespace Emitter

def listenerCount (e : Emitter α) : Nat := e.attached.length

/-- Attaches a listener.  A disposed source gives one whose stream has ended. -/
def subscribe (e : Emitter α) : Nat × Option Turn × Emitter α :=
  let turn := if !e.disposed && e.attached.isEmpty then some Turn.first else none
  (e.nextId, turn,
    { e with
      listeners := e.listeners ++ [{ id := e.nextId }]
      attached := e.attached ++ if e.disposed then [] else [e.nextId]
      nextId := e.nextId + 1 })

/-- Whether there is somebody to take what is sent under a number. -/
def reaches (e : Emitter α) (id : Nat) : Bool := e.listeners.any (·.id == id)

/-- Sends a value to every attached listener.  One that it does not reach is attached no more. -/
def fire (e : Emitter α) (value : α) : Emitter α :=
  { e with
    listeners := e.listeners.map fun l =>
      if l.id ∈ e.attached then { l with queue := l.queue.push value } else l
    attached := e.attached.filter e.reaches }

/-- Detaches a listener for good. -/
def drop (e : Emitter α) (id : Nat) : Option Turn × Emitter α :=
  let attached := e.attached.filter (· != id)
  let turn := if attached.length != e.attached.length && attached.isEmpty then some Turn.last else none
  (turn, { e with listeners := e.listeners.filter (·.id != id), attached })

/-- Ends every stream; no turn is reported, and later listeners end at once. -/
def dispose (e : Emitter α) : Emitter α := { e with disposed := true, attached := [] }

/-- Takes what a listener has been sent, and tells whether its stream has ended. -/
def drain (e : Emitter α) (id : Nat) : Option (Array α × Bool) × Emitter α :=
  match e.listeners.find? (·.id == id) with
  | none => (none, e)
  | some l =>
    (some (l.queue, !e.attached.contains id),
      { e with listeners := e.listeners.map fun l => if l.id = id then { l with queue := #[] } else l })

end Emitter
end Workbench

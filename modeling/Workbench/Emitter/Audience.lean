import Workbench.Emitter

/-!
An event source whose listeners go by names.  Its owner may let it go; then nobody can attach to it any
more, and its listeners stay as they are.  Turns are counted.
-/

namespace Workbench

structure Audience (α : Type) where
  source : Emitter α := {}
  /-- The owner has not let go of the source. -/
  held : Bool := true
  /-- The listeners by name. -/
  names : List (String × Nat) := []
  firstTurns : Nat := 0
  lastTurns : Nat := 0

namespace Audience

variable {α : Type}

def listener? (a : Audience α) (name : String) : Option Nat :=
  (a.names.find? (·.1 == name)).map (·.2)

def count (a : Audience α) : Option Turn → Audience α
  | some .first => { a with firstTurns := a.firstTurns + 1 }
  | some .last => { a with lastTurns := a.lastTurns + 1 }
  | none => a

def detach (a : Audience α) (id : Nat) : Audience α :=
  let (turn, source) := a.source.drop id
  { a with source, names := a.names.filter (·.2 != id) }.count turn

/-- Attaches a listener.  One that has the name is detached, after the new one has come. -/
def subscribe (a : Audience α) (name : String) : Audience α :=
  if a.held then
    let (id, turn, source) := a.source.subscribe
    let next := { a with source }.count turn
    let next := match a.listener? name with
      | some old => next.detach old
      | none => next
    { next with names := (name, id) :: next.names }
  else a

/-- Detaches a listener; false if there is none of the name. -/
def drop (a : Audience α) (name : String) : Bool × Audience α :=
  match a.listener? name with
  | some id => (true, a.detach id)
  | none => (false, a)

/-- Fires a value, whoever holds the source. -/
def fire (a : Audience α) (value : α) : Audience α := { a with source := a.source.fire value }

/-- What the owner does with the source; nothing once it has let go. -/
def byOwner (a : Audience α) (f : Audience α → Audience α) : Audience α := if a.held then f a else a

def dispose (a : Audience α) : Audience α := { a with source := a.source.dispose }

def letGo (a : Audience α) : Audience α := { a with held := false }

/-- Takes what a listener has been sent, and tells whether its stream has ended. -/
def drain (a : Audience α) (name : String) : Option (List α × Bool) × Audience α :=
  match a.listener? name with
  | none => (none, a)
  | some id =>
    let (got, source) := a.source.drain id
    (got.map fun (values, ended) => (values.toList, ended), { a with source })

end Audience
end Workbench

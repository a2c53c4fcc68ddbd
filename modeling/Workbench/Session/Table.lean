import Workbench.Session

/-!
The sessions of a server, found by what they are for and by their token.  A token is reserved while its
session is being made, which happens with the table open to others.
-/

namespace Workbench

/-- A session, by its number. -/
abbrev SessionId := Nat

/-- What a session is found by. -/
structure SessionKey where
  kind : ConnectionKind
  token : String
deriving DecidableEq, Repr

structure SessionTable where
  /-- Every session there has been, by number. -/
  sessions : List Session := []
  /-- The sessions that can be found. -/
  live : List (SessionKey × SessionId) := []
  /-- Keys whose session is being made. -/
  reserved : List SessionKey := []

/-- What becomes of a socket that asks for a session. -/
inductive Admission where
  /-- It has been attached to a session. -/
  | resumed (id : SessionId)
  /-- Its key has been reserved, so that a session can be made. -/
  | reserved
deriving DecidableEq, Repr

namespace SessionTable

def session? (t : SessionTable) (id : SessionId) : Option Session := t.sessions[id]?

def setSession (t : SessionTable) (id : SessionId) (s : Session) : SessionTable :=
  { t with sessions := t.sessions.set id s }

/-- The number of the session that is found by a key. -/
def find? (t : SessionTable) (key : SessionKey) : Option SessionId :=
  (t.live.find? fun e => e.1 == key).map (·.2)

/-- The session found by a key, as an object. -/
def describe? (t : SessionTable) (key : SessionKey) : Option Json :=
  ((t.find? key).bind t.session?).map Session.toJson

/-- The session found by a key, unless it has been torn down. -/
def usable? (t : SessionTable) (key : SessionKey) : Option (SessionId × Session) := do
  let id ← t.find? key
  let s ← t.session? id
  if s.disposed then none else some (id, s)

/-- Begins to seat a socket at a session.  One that reconnects must name a session, any other must not. -/
def seat (t : SessionTable) (key : SessionKey) (reconnection : Bool) (socket : SocketId) :
    Outcome (Admission × SessionTable) :=
  match reconnection, t.usable? key with
  | true, some (id, s) => do return (.resumed id, t.setSession id (← s.reconnect socket))
  | true, none => .error (.sessionNotFound key.token)
  | false, some _ => .error .tokenInUse
  | false, none =>
    if t.reserved.contains key then .error .tokenInUse
    else .ok (.reserved, { t with reserved := key :: t.reserved })

/-- Gives a reservation back. -/
def release (t : SessionTable) (key : SessionKey) : SessionTable :=
  { t with reserved := t.reserved.filter (· ≠ key) }

/-- Registers the session made for a reserved key. -/
def register (t : SessionTable) (s : Session) : SessionId × SessionTable :=
  let key : SessionKey := ⟨s.kind, s.token⟩
  let id := t.sessions.length
  (id, { t.release key with
    sessions := t.sessions ++ [s]
    live := (key, id) :: t.live.filter (·.1 ≠ key) })

/-- Takes a session out, if it is still the one found by its key. -/
def remove (t : SessionTable) (id : SessionId) : Bool × SessionTable :=
  if t.live.any (·.2 == id) then (true, { t with live := t.live.filter (·.2 ≠ id) }) else (false, t)

/-- The numbers of the sessions of a kind. -/
def ofKind (t : SessionTable) (kind : ConnectionKind) : List SessionId :=
  (t.live.filter fun e => e.1.kind == kind).map (·.2)

/-- How many sessions of a kind there are. -/
def count (t : SessionTable) (kind : ConnectionKind) : Nat := (t.ofKind kind).length

/-- Tells a session to shut down. -/
def dispose (t : SessionTable) (id : SessionId) : SessionTable :=
  match t.session? id with
  | some s => t.setSession id s.dispose
  | none => t

/-- Empties the table, and gives what it held. -/
def drain (t : SessionTable) : List (SessionKey × SessionId) × SessionTable :=
  (t.live, { t with live := [] })

/-- The sessions of a kind that are offline, with the time since when. -/
def offline (t : SessionTable) (kind : ConnectionKind) : List (Instant × SessionId) :=
  (t.ofKind kind).filterMap fun id => do
    let s ← t.session? id
    let since ← s.offlineSince
    return (since, id)

/-- The sessions of a kind that have to go so that at most `keep` offline ones stay: those that have
been offline for longest. -/
def excess (t : SessionTable) (kind : ConnectionKind) (keep : Nat) : List SessionId :=
  let offline := (t.offline kind).mergeSort fun a b => a.1 ≤ b.1
  (offline.take (offline.length - keep)).map (·.2)

/-- Takes those out and tells them to shut down. -/
def sweepOffline (t : SessionTable) (kind : ConnectionKind) (keep : Nat) : Nat × SessionTable :=
  let gone := t.excess kind keep
  (gone.length,
    { gone.foldl dispose t with live := t.live.filter fun e => !gone.contains e.2 })

end SessionTable
end Workbench

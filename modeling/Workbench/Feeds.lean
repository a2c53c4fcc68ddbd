import Workbench.Json

/-!
Streams of values that their owner fills and a reader takes from.  Each stream has a number; one that
has been dropped is not filled any more.
-/

namespace Workbench

/-- A stream: what has been sent and not yet taken, and whether more can come. -/
structure Feed (α : Type) where
  queue : Array α := #[]
  ended : Bool := false

/-- The streams of one owner, by number. -/
structure Feeds (α : Type) where
  entries : List (Nat × Feed α) := []
  next : Nat := 0

namespace Feeds

/-- Opens a stream. -/
def start (f : Feeds α) : Nat × Feeds α :=
  (f.next, { entries := f.entries ++ [(f.next, {})], next := f.next + 1 })

def find? (f : Feeds α) (id : Nat) : Option (Feed α) :=
  (f.entries.find? fun e => e.1 == id).map (·.2)

def update (f : Feeds α) (id : Nat) (change : Feed α → Feed α) : Feeds α :=
  { f with entries := f.entries.map fun (n, feed) => if n = id then (n, change feed) else (n, feed) }

/-- Sends a value, unless the stream has ended or is gone. -/
def push (f : Feeds α) (id : Nat) (value : α) : Feeds α :=
  f.update id fun feed => if feed.ended then feed else { feed with queue := feed.queue.push value }

/-- Ends a stream; what has been sent can still be taken. -/
def finish (f : Feeds α) (id : Nat) : Feeds α := f.update id fun feed => { feed with ended := true }

/-- Forgets a stream. -/
def drop (f : Feeds α) (id : Nat) : Feeds α :=
  { f with entries := f.entries.filter fun e => e.1 != id }

/-- Takes what has been sent, and tells whether the stream has ended. -/
def take (f : Feeds α) (id : Nat) : (List α × Bool) × Feeds α :=
  match f.find? id with
  | none => (([], true), f)
  | some feed => ((feed.queue.toList, feed.ended), f.update id fun feed => { feed with queue := #[] })

end Feeds
end Workbench

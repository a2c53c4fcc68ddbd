/-!
A bounded history: a window over a sequence of entries that are numbered from zero.  When it is full
the oldest entry leaves, and whoever watches for that is shown it.
-/

namespace Workbench.Console

/-- A bounded history.  Its entries have the keys from `firstKey` up to but not including `nextKey`. -/
structure History (α : Type) where
  capacity : Nat
  firstKey : Nat := 0
  nextKey : Nat := 0
  items : List α := []
  /-- Watchers in the order in which they registered. -/
  watchers : List Nat := []
  nextWatcher : Nat := 1
deriving Repr

/-- What a push leads to: the entry that left, and whom it was shown to. -/
structure Eviction (α : Type) where
  evicted : Option α := none
  shown : List (Nat × α) := []
deriving DecidableEq, Repr

namespace History

variable {α : Type}

def length (h : History α) : Nat := h.items.length

/-- The key of the newest entry. -/
def lastKey? (h : History α) : Option Nat := if h.items.isEmpty then none else some (h.nextKey - 1)

/-- The entry with a key. -/
def get? (h : History α) (key : Nat) : Option α :=
  if key < h.firstKey then none else h.items[key - h.firstKey]?

/-- Registers a watcher. -/
def watch (h : History α) : Nat × History α :=
  (h.nextWatcher,
    { h with watchers := h.watchers ++ [h.nextWatcher], nextWatcher := h.nextWatcher + 1 })

/-- Takes a watcher off; tells whether it was there. -/
def unwatch (h : History α) (id : Nat) : Bool × History α :=
  (h.watchers.contains id, { h with watchers := h.watchers.filter (· != id) })

/-- An entry that leaves, shown to every watcher. -/
def evict (h : History α) (item : α) : Eviction α := ⟨some item, h.watchers.map (·, item)⟩

/-- Appends an entry; a full history first lets its oldest go, and one without room the new entry
itself. -/
def push (h : History α) (item : α) : Eviction α × History α :=
  if h.capacity = 0 then
    (h.evict item, { h with firstKey := h.firstKey + 1, nextKey := h.nextKey + 1 })
  else
    match h.items with
    | oldest :: rest =>
      if h.capacity ≤ h.items.length then
        (h.evict oldest,
          { h with firstKey := h.firstKey + 1, nextKey := h.nextKey + 1, items := rest ++ [item] })
      else ({}, { h with nextKey := h.nextKey + 1, items := h.items ++ [item] })
    | [] => ({}, { h with nextKey := h.nextKey + 1, items := [item] })

/-- Appends entries in order; gathers what was shown. -/
def extend (h : History α) : List α → List (Nat × α) × History α
  | [] => ([], h)
  | item :: rest =>
    let (first, h) := h.push item
    let (later, h) := h.extend rest
    (first.shown ++ later, h)

/-- Forgets every entry and numbers from zero again; nobody is shown anything. -/
def reset (h : History α) : History α := { h with items := [], firstKey := 0, nextKey := 0 }

end History
end Workbench.Console

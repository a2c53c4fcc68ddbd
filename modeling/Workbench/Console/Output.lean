import Workbench.Text.Utf8

/-!
A ring of octets that holds the newest output.
-/

namespace Workbench.Console

/-- A ring: where the next octet goes, and how many have been written since it was empty. -/
structure Ring (capacity : Nat) where
  store : Vector UInt8 capacity
  position : Nat
  total : Nat

namespace Ring

variable {capacity : Nat}

def empty (capacity : Nat) : Ring capacity := ⟨Vector.replicate capacity 0, 0, 0⟩

/-- Octets laid over those from a place on, all of which are there. -/
def overwrite (store : Vector UInt8 capacity) (start : Nat) :
    (octets : Bytes) → start + octets.length ≤ capacity → Vector UInt8 capacity
  | [], _ => store
  | octet :: rest, h =>
    have hrest : start + 1 + rest.length ≤ capacity := by
      rw [List.length_cons] at h
      omega
    overwrite (store.set start octet (by omega)) (start + 1) rest hrest

/-- Copies octets to a place in a store; `none` when they would reach beyond its end. -/
def copy? (store : Vector UInt8 capacity) (start : Nat) (octets : Bytes) : Option (Vector UInt8 capacity) :=
  if h : start + octets.length ≤ capacity then some (overwrite store start octets h) else none

/-- Writes octets over the oldest: from the position on as far as the store goes, and the rest from its start on.
Of more octets than the store has room for only the newest are copied.  A ring without room takes nothing. -/
def write? (r : Ring capacity) (octets : Bytes) : Option (Ring capacity) :=
  if capacity = 0 then some r
  else do
    let newest := octets.drop (octets.length - capacity)
    let ahead := min newest.length (capacity - r.position)
    let store ← copy? r.store r.position (newest.take ahead)
    let store ← copy? store 0 (newest.drop ahead)
    return ⟨store, (r.position + newest.length) % capacity, r.total + octets.length⟩

/-- Writes octets.  No ring in use is ever at a place where it could not. -/
def write (r : Ring capacity) (octets : Bytes) : Ring capacity := (r.write? octets).getD r

/-- How many octets the ring holds. -/
def length (r : Ring capacity) : Nat := min r.total capacity

def isEmpty (r : Ring capacity) : Bool := r.total == 0 || capacity == 0

/-- The octets held, oldest first. -/
def toList (r : Ring capacity) : Bytes :=
  let part (start stop : Nat) : Bytes := (r.store.toArray.extract start stop).toList
  if r.total ≤ capacity then part 0 r.total else part r.position capacity ++ part 0 r.position

/-- An octet that continues a character. -/
def isContinuation (octet : UInt8) : Bool := octet.toNat / 64 == 2

/-- The output as text; a character whose front was overwritten is left out. -/
def text (r : Ring capacity) : String :=
  let bytes := r.toList
  Utf8.decodeLossy (if capacity < r.total then bytes.dropWhile isContinuation else bytes)

/-- Forgets the output. -/
def clear (r : Ring capacity) : Ring capacity := ⟨r.store, 0, 0⟩

end Ring
end Workbench.Console

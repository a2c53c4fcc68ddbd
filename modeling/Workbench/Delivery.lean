/-!
Numbered delivery that survives the loss of a connection.  A sender numbers its payloads from one,
keeps them until the peer acknowledges them and sends again what it still keeps after a reconnection;
a receiver hands on a payload only when its number exceeds all before.
-/

namespace Workbench

/-- A payload with its number and the highest number its sender had received. -/
structure Numbered (α : Type) where
  seq : Nat
  ack : Nat
  payload : α
deriving DecidableEq, Repr

/-- One side of a numbered delivery. -/
structure Delivery (α : Type) where
  /-- How many payloads have been numbered. -/
  sent : Nat := 0
  /-- Payloads not acknowledged, oldest first, with their numbers. -/
  kept : Array (Nat × α) := #[]
  /-- The highest number received. -/
  received : Nat := 0

namespace Delivery

/-- Beyond this many the oldest payload kept is dropped. -/
def maxKept : Nat := 10000

/-- Numbers a payload and keeps it. -/
def enqueue (d : Delivery α) (payload : α) : Numbered α × Delivery α :=
  let seq := d.sent + 1
  let room := if maxKept ≤ d.kept.size then d.kept.extract 1 d.kept.size else d.kept
  (⟨seq, d.received, payload⟩, { d with sent := seq, kept := room.push (seq, payload) })

/-- Drops from the front what a peer that received `ack` need not be sent again. -/
def acknowledge (d : Delivery α) (ack : Nat) : Delivery α :=
  let done := (d.kept.toList.takeWhile fun entry => entry.1 ≤ ack).length
  { d with kept := d.kept.extract done d.kept.size }

/-- Takes a numbered payload of the peer; hands it on unless its number is not new. -/
def accept (d : Delivery α) (seq ack : Nat) (payload : α) : Option α × Delivery α :=
  let d := d.acknowledge ack
  if seq ≤ d.received then (none, d) else (some payload, { d with received := seq })

/-- Everything kept, oldest first, stamped with what has been received by now. -/
def replay (d : Delivery α) : List (Numbered α) :=
  d.kept.toList.map fun (seq, payload) => ⟨seq, d.received, payload⟩

/-- How many payloads are kept. -/
def unacknowledged (d : Delivery α) : Nat := d.kept.size

end Delivery
end Workbench

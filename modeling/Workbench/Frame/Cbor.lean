import Workbench.Cbor.Reader
import Workbench.Frame.Shape

/-!
Frames in CBOR.
-/

namespace Workbench.Frame

/-- The octets of a frame. -/
def cbor (f : Frame) : Bytes := Cbor.encode f.toDatum

/-- Entries of a frame's map with the type's name read as a name; its octets are kept as a text. -/
def heldEntries : List (Cbor.Item × Cbor.Item) → Option (List (Datum × Datum))
  | [] => some []
  | (key, value) :: rest => do
    let k ← key.datum?
    let v ← if isTypeKey k then (value.identifier?.bind Utf8.decode?).map Datum.text else value.datum?
    let es ← heldEntries rest
    return (k, v) :: es

/-- A frame's item as a datum. -/
def held? : Cbor.Item → Option Datum
  | .map entries => (heldEntries entries).map .map
  | .array (type :: rest) => do
    let t ← type.identifier?.bind Utf8.decode?
    let ds ← Cbor.Item.datums? rest
    return .seq (.text t :: ds)
  | it => it.datum?

/-- Reads a frame in front of some octets; what follows it is left alone. -/
def ofCbor (b : Bytes) : Outcome Frame :=
  match (Cbor.read? b).bind fun (it, _) => held? it with
  | none => .error (.codec "malformed item")
  | some d =>
    match shape .held d with
    | .ok f => .ok f
    | .error m => .error (.codec m.message)

end Workbench.Frame

import Workbench.Bytes
import Workbench.Json

/-!
Self-describing values as a data format delivers them, before they are given a type.  Every JSON value
is one; other formats add byte strings and keys that are not texts.
-/

namespace Workbench

/-- A self-describing value.  The entries of a map keep their order. -/
inductive Datum where
  | null
  | bool (b : Bool)
  | int (n : WordInt)
  | double (x : Binary64)
  | text (s : String)
  | bytes (b : Bytes)
  | seq (items : List Datum)
  | map (entries : List (Datum × Datum))
deriving Inhabited

namespace Datum

mutual
/-- A JSON value as it stands. -/
def ofJson : Json → Datum
  | .null => .null
  | .bool b => .bool b
  | .int n => .int n
  | .double x => .double x
  | .str s => .text s
  | .arr items => .seq (ofItems items)
  | .obj fields => .map (ofFields fields)

def ofItems : List Json → List Datum
  | [] => []
  | item :: rest => ofJson item :: ofItems rest

def ofFields : List (String × Json) → List (Datum × Datum)
  | [] => []
  | (key, value) :: rest => (.text key, ofJson value) :: ofFields rest
end

/-- A double as a JSON value; JSON has no form for the others, which become null. -/
def finiteOrNull (x : Binary64) : Json := if x.isFinite then .double x else .null

mutual
/-- The JSON value a datum stands for, if its keys are texts and it holds no byte string.  Of a key
given twice the last value stays. -/
def toJson? : Datum → Option Json
  | .null => some .null
  | .bool b => some (.bool b)
  | .int n => some (.int n)
  | .double x => some (finiteOrNull x)
  | .text s => some (.str s)
  | .bytes _ => none
  | .seq items => (toItems? items).map .arr
  | .map entries => (toFields? entries).map Json.ofPairs

def toItems? : List Datum → Option (List Json)
  | [] => some []
  | item :: rest => do
    let v ← toJson? item
    let vs ← toItems? rest
    return v :: vs

def toFields? : List (Datum × Datum) → Option (List (String × Json))
  | [] => some []
  | (.text key, value) :: rest => do
    let v ← toJson? value
    let vs ← toFields? rest
    return (key, v) :: vs
  | _ :: _ => none
end

end Datum
end Workbench

import Workbench.Datum
import Workbench.Number.Decimal
import Workbench.Text.Quoted
import Workbench.Text.Utf8

/-!
Typed reading of self-describing values.  A shape reads a datum as a value of a type or says why it
cannot; the first mismatch met is the one reported.  Records may be written as maps, whose entries are
looked at in their order before missing fields are noticed, or as sequences in field order.
-/

namespace Workbench

/-- What was met where something else was wanted. -/
inductive Found where
  | null
  | bool (b : Bool)
  | int (n : Int)
  | double (x : Binary64)
  | text (s : String)
  | bytes
  | seq
  | map
  | bareVariant
deriving DecidableEq, Repr

/-- Why a datum cannot be read as a type. -/
inductive Mismatch where
  | wrongType (found : Found) (wanted : String)
  | wrongValue (found : Found) (wanted : String)
  | wrongLength (length : Nat) (wanted : String)
  | missing (field : String)
  | duplicate (field : String)
  | unknownVariant (name : String) (known : List String)
  | noVariant (type : String)
  /-- A value of the right type that the domain refuses, with the domain's own words. -/
  | refused (reason : String)
deriving DecidableEq, Repr

namespace Found

def message : Found → String
  | null => "null"
  | bool b => s!"boolean `{b}`"
  | int n => s!"integer `{n}`"
  | double x => s!"floating point `{Decimal.dataText x}`"
  | text s => "string " ++ Text.quoted s
  | bytes => "byte array"
  | seq => "sequence"
  | map => "map"
  | bareVariant => "unit variant"

end Found

/-- What a datum is, for a message. -/
def Datum.found : Datum → Found
  | .null => .null
  | .bool b => .bool b
  | .int n => .int n.val
  | .double x => .double x
  | .text s => .text s
  | .bytes _ => .bytes
  | .seq _ => .seq
  | .map _ => .map

namespace Mismatch

private def ticked (name : String) : String := s!"`{name}`"

/-- The known variants, as a sentence names them. -/
def alternatives : List String → String
  | [] => "there are no variants"
  | [a] => ticked a
  | [a, b] => s!"{ticked a} or {ticked b}"
  | names => "one of " ++ String.intercalate ", " (names.map ticked)

def message : Mismatch → String
  | wrongType found wanted => s!"invalid type: {found.message}, expected {wanted}"
  | wrongValue found wanted => s!"invalid value: {found.message}, expected {wanted}"
  | wrongLength length wanted => s!"invalid length {length}, expected {wanted}"
  | missing field => s!"missing field `{field}`"
  | duplicate field => s!"duplicate field `{field}`"
  | unknownVariant name known =>
    if known.isEmpty then s!"unknown variant `{name}`, {alternatives known}"
    else s!"unknown variant `{name}`, expected {alternatives known}"
  | noVariant type => s!"data did not match any variant of untagged enum {type}"
  | refused reason => reason

end Mismatch

/-- How the datum reached the reader: straight from its text, or held back while a tag was looked for.
Held records may also be written as sequences inside a variant. -/
inductive Origin where
  | direct
  | held
deriving DecidableEq, Repr

/-- A typed reading. -/
abbrev Shape (α : Type) := Origin → Datum → Except Mismatch α

namespace Shape

def text : Shape String := fun _ d =>
  match d with
  | .text s => .ok s
  | .bytes b =>
    match Utf8.decode? b with
    | some s => .ok s
    | none => .error (.wrongValue .bytes "a string")
  | d => .error (.wrongType d.found "a string")

def bool : Shape Bool := fun _ d =>
  match d with
  | .bool b => .ok b
  | d => .error (.wrongType d.found "a boolean")

/-- A natural below a bound; `name` is the width asked for. -/
def natural (name : String) (bound : Nat) : Shape Nat := fun _ d =>
  match d with
  | .int n =>
    if 0 ≤ n.val ∧ n.val < bound then .ok n.val.toNat else .error (.wrongValue (.int n.val) name)
  | d => .error (.wrongType d.found name)

def u8 : Shape UInt8 := fun o d => (natural "u8" 0x100 o d).map UInt8.ofNat
def u16 : Shape Nat := natural "u16" 0x10000
def u32 : Shape UInt32 := fun o d => (natural "u32" 0x100000000 o d).map UInt32.ofNat
def u64 : Shape UInt64 := fun o d => (natural "u64" 0x10000000000000000 o d).map UInt64.ofNat
def size : Shape Nat := natural "usize" 0x10000000000000000

/-- A double; integers are rounded to one. -/
def double : Shape Binary64 := fun _ d =>
  match d with
  | .double x => .ok x
  | .int n => .ok (Binary64.nearest (decide (n.val < 0)) n.val.natAbs 1)
  | d => .error (.wrongType d.found "f64")

/-- Any JSON value. -/
def json : Shape Json := fun _ d =>
  match d.toJson? with
  | some v => .ok v
  | none => .error (.wrongType d.found "any valid JSON value")

/-- A value, or null. -/
def nullable (shape : Shape α) : Shape (Option α) := fun o d =>
  match d with
  | .null => .ok none
  | d => (shape o d).map some

/-- All of a sequence. -/
def list (item : Shape α) : Shape (List α) := fun o d =>
  match d with
  | .seq items => items.mapM (item o)
  | d => .error (.wrongType d.found "a sequence")

/-- A map with texts as keys, as sorted fields. -/
def fields : Shape Json.Fields := fun o d =>
  match d with
  | .map _ => (json o d).map fun v => (v.obj?).getD []
  | d => .error (.wrongType d.found "a map")

/-- A map from texts to texts. -/
def texts : Shape (List (String × String)) := fun o d =>
  match d with
  | .map entries => entries.mapM fun (k, v) => do return (← text o k, ← text o v)
  | d => .error (.wrongType d.found "a map")

end Shape

/-- What holds for a field that is not there. -/
inductive Absent (α : Type) where
  /-- It must be there. -/
  | required
  /-- A map may leave it out, a sequence may not. -/
  | nullable (value : α)
  | default (value : α)

/-- A field of a record. -/
structure Field (α : Type) where
  name : String
  shape : Shape α
  absent : Absent α

namespace Field

def required (name : String) (shape : Shape α) : Field α := ⟨name, shape, .required⟩

/-- A field that may be null or left out. -/
def nullable (name : String) (shape : Shape α) : Field (Option α) :=
  ⟨name, Shape.nullable shape, .nullable none⟩

/-- A field that may be left out of a sequence too. -/
def default (name : String) (shape : Shape α) (value : α) : Field α := ⟨name, shape, .default value⟩

end Field

/-- A field without its type: what it takes to look at a record's entries. -/
structure FieldCheck where
  name : String
  mayEnd : Bool
  check : Origin → Datum → Except Mismatch Unit

def Field.check (f : Field α) : FieldCheck where
  name := f.name
  mayEnd := match f.absent with
    | .default _ => true
    | _ => false
  check o d := (f.shape o d).map fun _ => ()

/-- The fields of a record that were there, by name. -/
structure Record where
  origin : Origin
  found : List (String × Datum)

namespace Record

/-- The value of a field; its absence counts as the field says. -/
def get (r : Record) (f : Field α) : Except Mismatch α :=
  match r.found.find? fun entry => entry.1 == f.name with
  | some (_, d) => f.shape r.origin d
  | none =>
    match f.absent with
    | .required => .error (.missing f.name)
    | .nullable v | .default v => .ok v

/-- The field that a key of a map means: by name, or by position. -/
def field? (fields : List FieldCheck) (key : Datum) : Except Mismatch (Option FieldCheck) :=
  match key with
  | .text s => .ok (fields.find? (·.name == s))
  | .bytes b => .ok (fields.find? fun f => Bytes.ofText f.name == b)
  | .int n =>
    if 0 ≤ n.val then .ok fields[n.val.toNat]?
    else .error (.wrongType (.int n.val) "field identifier")
  | d => .error (.wrongType d.found "field identifier")

/-- Looks at the entries of a map in order. -/
def ofEntries (o : Origin) (fields : List FieldCheck) :
    (found : List (String × Datum)) → List (Datum × Datum) → Except Mismatch Record
  | found, [] => .ok ⟨o, found⟩
  | found, (key, value) :: rest => do
    match ← field? fields key with
    | none => ofEntries o fields found rest
    | some f =>
      if found.any (·.1 == f.name) then .error (.duplicate f.name)
      else
        f.check o value
        ofEntries o fields (found ++ [(f.name, value)]) rest

/-- "1 element", "2 elements". -/
def elements (n : Nat) : String := if n = 1 then "1 element" else s!"{n} elements"

/-- Looks at the items of a sequence in field order. -/
def ofItems (o : Origin) (what : String) (total : Nat) (size : Nat) :
    (found : List (String × Datum)) → List FieldCheck → List Datum → Except Mismatch Record
  | found, [], [] => .ok ⟨o, found⟩
  | _, [], _ :: _ =>
    .error (.wrongLength total (match o with
      | .direct => "fewer elements in array"
      | .held => elements size ++ " in sequence"))
  | found, f :: fs, [] =>
    if f.mayEnd then ofItems o what total size found fs []
    else .error (.wrongLength total s!"{what} with {elements size}")
  | found, f :: fs, d :: ds => do
    f.check o d
    ofItems o what total size (found ++ [(f.name, d)]) fs ds

end Record

namespace Shape

/-- A record.  `what` names it in messages. -/
def record (what : String) (fields : List FieldCheck) (build : Record → Except Mismatch α) : Shape α :=
  fun o d =>
    match d with
    | .map entries => do build (← Record.ofEntries o fields [] entries)
    | .seq items => do build (← Record.ofItems o what items.length fields.length [] fields items)
    | d => .error (.wrongType d.found what)

/-- A fixed number of items. -/
def tuple (size : Nat) (build : Origin → List Datum → Except Mismatch α) : Shape α := fun o d =>
  match d with
  | .seq items =>
    if size < items.length then do
      let _ ← build o (items.take size)
      .error (.wrongLength items.length "fewer elements in array")
    else build o items
  | d => .error (.wrongType d.found s!"a tuple of size {size}")

/-- Two values, one after the other. -/
def pair (first : Shape α) (second : Shape β) : Shape (α × β) := tuple 2 fun o items => do
  let short : Mismatch := .wrongLength items.length "a tuple of size 2"
  match items with
  | [] => .error short
  | [a] => do
    let _ ← first o a
    .error short
  | a :: b :: _ => return (← first o a, ← second o b)

end Shape

/-- A variant of a union: its name, and how it is read from what stands under the name, or from the
name alone. -/
structure Variant (α : Type) where
  name : String
  read : Origin → Option Datum → Except Mismatch α

namespace Variant

/-- A variant that holds one value. -/
def holding (name : String) (shape : Shape α) (wrap : α → β) : Variant β where
  name := name
  read o
    | some d => (shape o d).map wrap
    | none => .error (.wrongType .bareVariant "newtype variant")

/-- A variant with fields of its own. -/
def withFields (name : String) (shape : Shape β) : Variant β where
  name := name
  read o
    | some (.map entries) => shape o (.map entries)
    | some (.seq items) =>
      match o with
      | .held => shape o (.seq items)
      | .direct => .error (.wrongType .seq "struct variant")
    | some d => .error (.wrongType d.found "struct variant")
    | none => .error (.wrongType .bareVariant "struct variant")

/-- The variant a key means. -/
def named (variants : List (Variant α)) (key : Datum) : Except Mismatch (Variant α) :=
  let known := variants.map (·.name)
  match key with
  | .text s =>
    match variants.find? (·.name == s) with
    | some v => .ok v
    | none => .error (.unknownVariant s known)
  | .bytes b =>
    match variants.find? fun v => Bytes.ofText v.name == b with
    | some v => .ok v
    | none => .error (.unknownVariant (Utf8.decodeLossy b) known)
  | .int n =>
    if 0 ≤ n.val then
      match variants[n.val.toNat]? with
      | some v => .ok v
      | none => .error (.wrongValue (.int n.val) s!"variant index 0 <= i < {known.length}")
    else .error (.wrongType (.int n.val) "variant identifier")
  | d => .error (.wrongType d.found "variant identifier")

end Variant

namespace Shape

/-- A union whose variant is the only key of a map, or a bare text. -/
def union (variants : List (Variant α)) : Shape α := fun o d =>
  match d with
  | .text s => do (← Variant.named variants (.text s)).read o none
  | .map [(key, value)] => do (← Variant.named variants key).read o (some value)
  | .map _ => .error (.wrongValue .map "map with a single key")
  | d => .error (.wrongType d.found "string or map")

/-- Reads JSON straight from its text. -/
def ofJson (shape : Shape α) (v : Json) : Except Mismatch α := shape .direct (Datum.ofJson v)

end Shape
end Workbench

import Workbench.Cbor
import Workbench.Text.Utf8

/-!
CBOR reading.  An item keeps what its octets say, tags and the two ways of writing a string included;
what a reader then makes of it is a view: `datum?` for self-describing reading, `identifier?` for names,
`json?` for JSON values.  Octets after the item are left alone.
-/

namespace Workbench.Cbor

/-- An item as it was written.  `whole` strings were written in one piece. -/
inductive Item where
  | natural (n : Nat)
  | negative (n : Nat)
  | bytes (whole : Bool) (b : Bytes)
  | text (whole : Bool) (s : String)
  | array (items : List Item)
  | map (entries : List (Item × Item))
  | tag (number : Nat) (item : Item)
  | simple (code : Nat)
  | double (x : Binary64)
deriving Inhabited

/-- A head: its major type, and its argument, `none` where the length stays open. -/
structure Head where
  major : Major
  low : Nat
  argument : Option Nat
deriving DecidableEq, Repr

def major (code : Nat) : Major :=
  match code with
  | 0 => .natural
  | 1 => .negative
  | 2 => .bytes
  | 3 => .text
  | 4 => .array
  | 5 => .map
  | 6 => .tag
  | _ => .simple

/-- Splits off a number of octets, if there are as many. -/
def splitAt? : Nat → Bytes → Option (Bytes × Bytes)
  | 0, b => some ([], b)
  | _ + 1, [] => none
  | n + 1, x :: b => (splitAt? n b).map fun (left, right) => (x :: left, right)

/-- The octets of a string's argument; long strings are refused without being walked through. -/
def takeOctets? (n : Nat) (b : Bytes) : Option (Bytes × Bytes) :=
  let left := b.take n
  if left.length = n then some (left, b.drop n) else none

/-- Reads a head. -/
def readHead : Bytes → Option (Head × Bytes)
  | [] => none
  | first :: rest =>
    let m := major (first.toNat / 32)
    let low := first.toNat % 32
    let wide (octets : Nat) : Option (Head × Bytes) :=
      (splitAt? octets rest).map fun (b, r) => (⟨m, low, some (Bytes.toNat b)⟩, r)
    if low < 24 then some (⟨m, low, some low⟩, rest)
    else match low with
      | 24 => wide 1
      | 25 => wide 2
      | 26 => wide 4
      | 27 => wide 8
      | 31 => some (⟨m, low, none⟩, rest)
      | _ => none

/-- The head that closes what was left open. -/
def Head.isBreak (h : Head) : Bool := h.major = .simple ∧ h.argument = none

/-- The pieces of a string of open length.  A piece may itself be left open, so breaks are counted. -/
def pieces : (fuel : Nat) → (major : Major) → (opened : Nat) → Bytes → Option (List Bytes × Bytes)
  | 0, _, _, _ => none
  | fuel + 1, m, opened, b => do
    let (h, rest) ← readHead b
    if h.isBreak then
      if opened ≤ 1 then some ([], rest) else pieces fuel m (opened - 1) rest
    else if h.major = m then
      match h.argument with
      | none => pieces fuel m (opened + 1) rest
      | some n => do
        let (piece, rest) ← takeOctets? n rest
        let (more, rest) ← pieces fuel m opened rest
        return (piece :: more, rest)
    else none

/-- A byte string after its head. -/
def byteString (argument : Option Nat) (b : Bytes) : Option (Item × Bytes) :=
  match argument with
  | some n => (takeOctets? n b).map fun (octets, rest) => (.bytes true octets, rest)
  | none => (pieces (b.length + 1) .bytes 1 b).map fun (ps, rest) => (.bytes false ps.flatten, rest)

/-- A text after its head; every piece must be well-formed by itself. -/
def textString (argument : Option Nat) (b : Bytes) : Option (Item × Bytes) :=
  match argument with
  | some n => do
    let (octets, rest) ← takeOctets? n b
    return (.text true (← Utf8.decode? octets), rest)
  | none => do
    let (ps, rest) ← pieces (b.length + 1) .text 1 b
    return (.text false (String.join (← ps.mapM Utf8.decode?)), rest)

/-- A simple value or a floating-point number. -/
def simpleItem (low n : Nat) : Item :=
  match low with
  | 25 => .double (half.widen n)
  | 26 => .double (single.widen n)
  | 27 => .double ⟨UInt64.ofNat n⟩
  | _ => .simple n

mutual
/-- An item.  `fuel` bounds the steps, `depth` the nesting of arrays, maps and tags. -/
def item : (fuel depth : Nat) → Bytes → Option (Item × Bytes)
  | 0, _, _ => none
  | fuel + 1, depth, b => do
    let (h, rest) ← readHead b
    match h.major, h.argument with
    | .natural, some n => some (.natural n, rest)
    | .negative, some n => some (.negative n, rest)
    | .bytes, n => byteString n rest
    | .text, n => textString n rest
    | .simple, some n => some (simpleItem h.low n, rest)
    | .tag, some n =>
      if depth = 0 then none
      else do
        let (it, rest) ← item fuel (depth - 1) rest
        return (.tag n it, rest)
    | .array, n =>
      if depth = 0 then none
      else do
        let (its, rest) ← items fuel (depth - 1) n [] rest
        return (.array its, rest)
    | .map, n =>
      if depth = 0 then none
      else do
        let (es, rest) ← entries fuel (depth - 1) n [] rest
        return (.map es, rest)
    | .natural, none | .negative, none | .simple, none | .tag, none => none

/-- The items of an array: as many as announced, or up to a break.  `soFar` holds those before, last
first. -/
def items : (fuel depth : Nat) → Option Nat → (soFar : List Item) → Bytes →
    Option (List Item × Bytes)
  | 0, _, _, _, _ => none
  | _ + 1, _, some 0, soFar, b => some (soFar.reverse, b)
  | fuel + 1, depth, some (n + 1), soFar, b =>
    match item fuel depth b with
    | none => none
    | some (it, rest) => items fuel depth (some n) (it :: soFar) rest
  | fuel + 1, depth, none, soFar, b =>
    match readHead b with
    | none => none
    | some (h, afterHead) =>
      if h.isBreak then some (soFar.reverse, afterHead)
      else
        match item fuel depth b with
        | none => none
        | some (it, rest) => items fuel depth none (it :: soFar) rest

/-- The entries of a map. -/
def entries : (fuel depth : Nat) → Option Nat → (soFar : List (Item × Item)) → Bytes →
    Option (List (Item × Item) × Bytes)
  | 0, _, _, _, _ => none
  | _ + 1, _, some 0, soFar, b => some (soFar.reverse, b)
  | fuel + 1, depth, some (n + 1), soFar, b => do
    let (key, rest) ← item fuel depth b
    let (value, rest) ← item fuel depth rest
    entries fuel depth (some n) ((key, value) :: soFar) rest
  | fuel + 1, depth, none, soFar, b => do
    let (h, afterHead) ← readHead b
    if h.isBreak then some (soFar.reverse, afterHead)
    else do
      let (key, rest) ← item fuel depth b
      let (value, rest) ← item fuel depth rest
      entries fuel depth none ((key, value) :: soFar) rest
end

/-- The deepest nesting read. -/
def maxDepth : Nat := 256

/-- Reads the item in front of some octets. -/
def read? (b : Bytes) : Option (Item × Bytes) := item (2 * b.length + 2) maxDepth b

namespace Item

/-- Strings longer than this are not looked at as names. -/
def maxNameLength : Nat := 4096

/-- The item below its tags. -/
def untagged : Item → Item
  | .tag _ it => it.untagged
  | it => it

mutual
/-- What a self-describing reader makes of an item; tags, and numbers that fit no 64-bit word, are
refused. -/
def datum? : Item → Option Datum
  | .natural n => (WordInt.ofInt? n).map .int
  | .negative n => (WordInt.ofInt? (-(n : Int) - 1)).map .int
  | .bytes _ b => some (.bytes b)
  | .text _ s => some (.text s)
  | .array its => (datums? its).map .seq
  | .map es => (datumEntries? es).map .map
  | .tag _ _ => none
  | .simple 20 => some (.bool false)
  | .simple 21 => some (.bool true)
  | .simple 22 | .simple 23 => some .null
  | .simple _ => none
  | .double x => some (.double x)

def datums? : List Item → Option (List Datum)
  | [] => some []
  | it :: rest => do
    let d ← datum? it
    let ds ← datums? rest
    return d :: ds

def datumEntries? : List (Item × Item) → Option (List (Datum × Datum))
  | [] => some []
  | (key, value) :: rest => do
    let k ← datum? key
    let v ← datum? value
    let es ← datumEntries? rest
    return (k, v) :: es
end

/-- A name: a text in one piece, tags passed over. -/
def name? (it : Item) : Option String :=
  match it.untagged with
  | .text true s => if s.utf8ByteSize ≤ maxNameLength then some s else none
  | _ => none

/-- A name that may also be written as octets. -/
def identifier? (it : Item) : Option Bytes :=
  match it.untagged with
  | .text true s => if s.utf8ByteSize ≤ maxNameLength then some (Bytes.ofText s) else none
  | .bytes true b => if b.length ≤ maxNameLength then some b else none
  | _ => none

/-- The number that octets in one piece write without a bound on their count; it must fit a word. -/
def bignum? (negative : Bool) : Item → Option WordInt
  | .bytes true b =>
    let n : Int := Bytes.toNat b
    WordInt.ofInt? (if negative then -n - 1 else n)
  | _ => none

mutual
/-- The JSON value an item stands for: keys must be names, and byte strings have no JSON form but as
the octets of a tagged number. -/
def json? : Item → Option Json
  | .natural n => (WordInt.ofInt? n).map .int
  | .negative n => (WordInt.ofInt? (-(n : Int) - 1)).map .int
  | .text _ s => some (.str s)
  | .array its => (jsons? its).map .arr
  | .map es => (jsonFields? es).map Json.ofPairs
  | .simple 20 => some (.bool false)
  | .simple 21 => some (.bool true)
  | .simple 22 | .simple 23 => some .null
  | .double x => some (Datum.finiteOrNull x)
  | .tag 2 it => (bignum? false it).map .int
  | .tag 3 it => (bignum? true it).map .int
  | .bytes _ _ | .tag _ _ | .simple _ => none

def jsons? : List Item → Option (List Json)
  | [] => some []
  | it :: rest => do
    let v ← json? it
    let vs ← jsons? rest
    return v :: vs

def jsonFields? : List (Item × Item) → Option (List (String × Json))
  | [] => some []
  | (key, value) :: rest => do
    let k ← name? key
    let v ← json? value
    let fs ← jsonFields? rest
    return (k, v) :: fs
end

end Item

/-- Reads a JSON value. -/
def json? (b : Bytes) : Option Json := do
  let (it, _) ← read? b
  it.json?

/-- Writes a JSON value. -/
def ofJson (v : Json) : Bytes := encode (Datum.ofJson v)

end Workbench.Cbor

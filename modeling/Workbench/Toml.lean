import Workbench.Datum

/-!
TOML documents: tables that are put together from lines.  A table can be made by a header, by a key with
dots or by a header of a table inside it, and that decides on what may be added to it later.
-/

namespace Workbench

/-- How a table came to be. -/
inductive Toml.Origin where
  /-- It stands in a header. -/
  | header
  /-- It is named by the header of a table inside it. -/
  | implied
  /-- It is named by a key with dots. -/
  | dotted
deriving DecidableEq, Repr

/-- A value of a document. -/
inductive Toml where
  | text (s : String)
  | int (n : WordInt)
  | double (x : Binary64)
  | bool (b : Bool)
  /-- A date, a time or both. -/
  | moment (s : String)
  | array (items : List Toml)
  /-- A table on one line, to which nothing can be added. -/
  | inline (entries : List (String × Toml))
  | table (origin : Toml.Origin) (entries : List (String × Toml))
  /-- A list of tables with headers of their own. -/
  | tables (rows : List (List (String × Toml)))

namespace Toml

abbrev Entries := List (String × Toml)

namespace Entries

def get? (es : Entries) (key : String) : Option Toml := (es.find? fun e => e.1 == key).map (·.2)

/-- Gives a key a value, in its place if it has one. -/
def put (es : Entries) (key : String) (value : Toml) : Entries :=
  if es.any (·.1 == key) then es.map fun e => if e.1 == key then (key, value) else e
  else es ++ [(key, value)]

/-- Gives a key a value that has none. -/
def add? (es : Entries) (key : String) (value : Toml) : Option Entries :=
  if es.any (·.1 == key) then none else some (es ++ [(key, value)])

/-- Changes the table at the end of a path.  Tables that are not there are made; a path of dots may not
lead through tables with a header.  In a list of tables the last is meant. -/
def alter (dots : Bool) (f : Origin → Entries → Option Entries) :
    (path : List String) → Origin → Entries → Option Entries
  | [], origin, es => f origin es
  | key :: path, _, es => do
    match es.get? key with
    | none =>
      let origin := if dots then Origin.dotted else .implied
      return es.put key (.table origin (← alter dots f path origin []))
    | some (.table origin inner) =>
      if dots && origin == .header then none
      return es.put key (.table origin (← alter dots f path origin inner))
    | some (.tables rows) =>
      return es.put key (.tables (rows.dropLast ++ [← alter dots f path .header (rows.getLast?.getD [])]))
    | some _ => none

/-- Puts a value under a key with dots. -/
def addDotted? (es : Entries) (path : List String) (key : String) (value : Toml) : Option Entries :=
  es.alter true (fun origin es =>
    if (origin == .dotted) == path.isEmpty then none else es.add? key value) path .header

end Entries

/-- A document while it is read: the tables that are complete, and the one that lines are added to. -/
structure Draft where
  root : Entries := []
  /-- The header of the table that lines are added to; nothing before the first header. -/
  header : List String := []
  inList : Bool := false
  current : Entries := []

namespace Draft

/-- Puts the table that lines are added to in its place. -/
def finish? (d : Draft) : Option Entries :=
  match d.header.getLast? with
  | none => some d.current
  | some key =>
    d.root.alter false (fun _ es =>
      if d.inList then
        match es.get? key with
        | none => some (es.put key (.tables [d.current]))
        | some (.tables rows) => some (es.put key (.tables (rows ++ [d.current])))
        | some _ => none
      else some (es.put key (.table .header d.current))) d.header.dropLast .header

/-- The table that a header names, if it is only implied so far or new. -/
def open? (root : Entries) (path : List String) (key : String) : Option (Entries × Entries) := do
  let visit (es : Entries) : Option Entries :=
    match es.get? key with
    | none => some []
    | some (.table .implied inner) => some inner
    | some _ => none
  let root ← root.alter false (fun _ es => (visit es).map fun _ => es) path .header
  let rec at? : List String → Entries → Option Entries
    | [], es => visit es
    | k :: ks, es =>
      match es.get? k with
      | some (.table _ inner) => at? ks inner
      | some (.tables rows) => at? ks (rows.getLast?.getD [])
      | _ => none
  return (root, ← at? path root)

/-- Begins the table of a header. -/
def begin? (d : Draft) (header : List String) : Option Draft := do
  let root ← d.finish?
  let key ← header.getLast?
  let (root, current) ← open? root header.dropLast key
  return { root, header, current }

/-- Begins another table of a list. -/
def beginRow? (d : Draft) (header : List String) : Option Draft := do
  let root ← d.finish?
  let key ← header.getLast?
  let root ← root.alter false (fun _ es =>
    match es.get? key with
    | none | some (.tables _) => some es
    | some _ => none) header.dropLast .header
  return { root, header, inList := true }

/-- Adds a line. -/
def add? (d : Draft) (path : List String) (key : String) (value : Toml) : Option Draft := do
  return { d with current := ← d.current.addDotted? path key value }

end Draft

mutual

/-- A value without the way that it is written. -/
def toDatum : Toml → Datum
  | .text s => .text s
  | .int n => .int n
  | .double x => .double x
  | .bool b => .bool b
  | .moment s => .map [(.text "moment", .text s)]
  | .array items => .seq (toItems items)
  | .inline es => .map (toEntries es)
  | .table _ es => .map (toEntries es)
  | .tables rows => .seq (toRows rows)

def toItems : List Toml → List Datum
  | [] => []
  | v :: rest => v.toDatum :: toItems rest

def toEntries : List (String × Toml) → List (Datum × Datum)
  | [] => []
  | (k, v) :: rest => (.text k, v.toDatum) :: toEntries rest

def toRows : List (List (String × Toml)) → List Datum
  | [] => []
  | es :: rest => .map (toEntries es) :: toRows rest

end

end Toml
end Workbench

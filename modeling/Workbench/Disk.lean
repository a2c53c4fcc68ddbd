import Workbench.Bytes
import Workbench.Path

/-!
A file tree held in memory.  Directories list their entries by name; a file has a number that it keeps
when it is renamed or replaced, so that an open descriptor finds its contents wherever they are.
Places in the tree are lists of names from the root; how a path leads to a place is a matter of
`Disk.Walk`.
-/

namespace Workbench

/-- A node of a file tree. -/
inductive Entry where
  | file (id : Nat) (content : ByteArray)
  | link (target : String)
  | dir (entries : List (String × Entry))
deriving Inhabited

/-- A place in a tree: names from the root. -/
abbrev Place := List String

namespace Entry

def isDir : Entry → Bool
  | dir _ => true
  | _ => false

/-- Entries by name; none for what is not a directory. -/
def children : Entry → List (String × Entry)
  | dir entries => entries
  | _ => []

/-- The entry of a name. -/
def lookup (entries : List (String × Entry)) (name : String) : Option Entry :=
  (entries.find? fun e => e.1 == name).map (·.2)

/-- Changes, adds or removes the entry of a name, in its place by order of names. -/
def alterName (name : String) (f : Option Entry → Option Entry) :
    List (String × Entry) → List (String × Entry)
  | [] => ((f none).map fun e => [(name, e)]).getD []
  | (n, e) :: rest =>
    if n = name then ((f (some e)).map fun e => (n, e) :: rest).getD rest
    else if name < n then ((f none).map fun e' => [(name, e')]).getD [] ++ (n, e) :: rest
    else (n, e) :: alterName name f rest

/-- The entry at a place. -/
def at? (e : Entry) : Place → Option Entry
  | [] => some e
  | name :: rest => (lookup e.children name).bind fun child => child.at? rest

/-- Changes, adds or removes the entry at a place; nothing happens when a directory on the way is
missing.  The root can be changed but not removed. -/
def alter (f : Option Entry → Option Entry) : Place → Entry → Entry
  | [], e => (f (some e)).getD e
  | [name], dir entries => dir (alterName name f entries)
  | name :: rest, dir entries =>
    dir (alterName name (fun child => child.map (alter f rest)) entries)
  | _ :: _, e => e

mutual
/-- Every entry below, with its place; a directory comes before what it holds. -/
def under (place : Place) : Entry → List (Place × Entry)
  | dir entries => underAll place entries
  | _ => []

def underAll (place : Place) : List (String × Entry) → List (Place × Entry)
  | [] => []
  | (name, e) :: rest =>
    ((place ++ [name], e) :: under (place ++ [name]) e) ++ underAll place rest
end

mutual
/-- Puts contents into the file of a number. -/
def setContent (id : Nat) (content : ByteArray) : Entry → Entry
  | file n old => if n = id then file n content else file n old
  | link target => link target
  | dir entries => dir (setContents id content entries)

def setContents (id : Nat) (content : ByteArray) : List (String × Entry) → List (String × Entry)
  | [] => []
  | (name, e) :: rest => (name, setContent id content e) :: setContents id content rest
end

mutual
/-- The contents of the file of a number. -/
def content? (id : Nat) : Entry → Option ByteArray
  | file n content => if n = id then some content else none
  | link _ => none
  | dir entries => contents? id entries

def contents? (id : Nat) : List (String × Entry) → Option ByteArray
  | [] => none
  | (_, e) :: rest => (content? id e).or (contents? id rest)
end

end Entry

/-- What has happened to an entry. -/
inductive Happening where
  /-- An entry has appeared at the place. -/
  | created
  | removed
  /-- Contents or attributes have changed. -/
  | modified
  /-- The entry has moved away to another place. -/
  | movedTo (place : Place)
deriving DecidableEq, Repr

/-- A disk: its tree, contents of files that are no longer in the tree, and what has happened since
the watches were last told, newest last. -/
structure Disk where
  root : Entry := .dir []
  /-- Contents of files that have been removed. -/
  lost : List (Nat × ByteArray) := []
  nextId : Nat := 1
  happenings : List (Place × Happening) := []
deriving Inhabited

namespace Disk

def at? (d : Disk) (place : Place) : Option Entry := d.root.at? place

/-- Notes what has happened at a place. -/
def note (d : Disk) (place : Place) (h : Happening) : Disk :=
  { d with happenings := d.happenings ++ [(place, h)] }

/-- Puts an entry at a place. -/
def put (d : Disk) (place : Place) (e : Entry) : Disk :=
  { d with root := d.root.alter (fun _ => some e) place }

/-- Remembers the contents of files that leave the tree. -/
def keepLost (d : Disk) (place : Place) : Disk :=
  let gone := match d.at? place with
    | some e => ((place, e) :: e.under place).filterMap fun
        | (_, .file id content) => some (id, content)
        | _ => none
    | none => []
  { d with lost := gone ++ d.lost }

/-- Takes the entry at a place out of the tree. -/
def cut (d : Disk) (place : Place) : Disk :=
  let d := d.keepLost place
  { d with root := d.root.alter (fun _ => none) place }

/-- The contents of a file, in the tree or lost. -/
def content? (d : Disk) (id : Nat) : Option ByteArray :=
  (d.root.content? id).or ((d.lost.find? fun e => e.1 == id).map (·.2))

/-- The place of a file. -/
def place? (d : Disk) (id : Nat) : Option Place :=
  (d.root.under []).findSome? fun
    | (place, .file n _) => if n = id then some place else none
    | _ => none

/-- Replaces the contents of a file, wherever it is. -/
def setContent (d : Disk) (id : Nat) (content : ByteArray) : Disk :=
  let d := { d with
    root := d.root.setContent id content
    lost := d.lost.map fun (n, old) => if n = id then (n, content) else (n, old) }
  match d.place? id with
  | some place => d.note place .modified
  | none => d

/-- A new file at a place where nothing is. -/
def addFile (d : Disk) (place : Place) (content : ByteArray) : Nat × Disk :=
  let id := d.nextId
  (id, ({ d with nextId := id + 1 }.put place (.file id content)).note place .created)

end Disk
end Workbench

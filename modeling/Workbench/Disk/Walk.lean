import Workbench.Disk
import Workbench.Disk.Errno

/-!
How a path leads through a tree.  Symbolic links on the way are followed, up to a bound on their
number; whether a link at the end is followed is the caller's choice.  Relative paths start at the root.
-/

namespace Workbench.Disk

/-- The most symbolic links that one path may lead through. -/
def maxLinks : Nat := 40

/-- Octets that a name may have. -/
def maxName : Nat := 255

/-- Octets that a path may have. -/
def maxPath : Nat := 4095

/-- The last part of a path, once the directory that it stands in is known. -/
inductive Final where
  | named (name : String) (entry : Option Entry)
  /-- No name: the root, or a path that ends in single or double dots. -/
  | dots (part : String)

/-- Where a path leads: a directory, and what the path names in it. -/
structure Spot where
  dir : Place
  final : Final
  /-- The path ends in a separator. -/
  slash : Bool

namespace Spot

/-- The place that a path leads to. -/
def place (s : Spot) : Place :=
  match s.final with
  | .named name _ => s.dir ++ [name]
  | .dots _ => s.dir

end Spot

/-- Meaningful parts of a path: empty ones mean nothing. -/
def partsOf (path : String) : List String := (Path.parts path).filter (· ≠ "")

def endsInSlash (path : String) : Bool := path.toList.getLast? == some '/'

/-- Follows the parts of a path from a directory.  `last` is the part before them. -/
def walk (root : Entry) (follow slash : Bool) (links : Nat) (dir : Place) (last : String) :
    (parts : List String) → Except Errno Spot
  | [] => .ok ⟨dir, .dots last, slash⟩
  | part :: rest =>
    if part = "." then walk root follow slash links dir part rest
    else if part = ".." then walk root follow slash links dir.dropLast part rest
    else if maxName < part.utf8ByteSize then .error .nameTooLong
    else
      match (root.at? dir).bind fun e => Entry.lookup e.children part with
      | none => if rest.isEmpty then .ok ⟨dir, .named part none, slash⟩ else .error .noEntry
      | some (.dir entries) =>
        if rest.isEmpty then .ok ⟨dir, .named part (some (.dir entries)), slash⟩
        else walk root follow slash links (dir ++ [part]) part rest
      | some (.file id content) =>
        if rest.isEmpty then .ok ⟨dir, .named part (some (.file id content)), slash⟩
        else .error .notDirectory
      | some (.link target) =>
        if rest.isEmpty && !follow then .ok ⟨dir, .named part (some (.link target)), slash⟩
        else
          match links with
          | 0 => .error .loop
          | links + 1 =>
            if target.isEmpty then .error .noEntry
            else
              walk root follow (slash || rest.isEmpty && endsInSlash target) links
                (if Path.isAbsolute target then [] else dir) "" (partsOf target ++ rest)
  termination_by parts => (links, parts.length)

/-- Where a path leads. -/
def spot? (d : Disk) (path : String) (follow : Bool) : Except Errno Spot :=
  if path.toList.contains '\x00' then .error .innerNul
  else if path.isEmpty then .error .noEntry
  else if maxPath < path.utf8ByteSize then .error .nameTooLong
  else walk d.root follow (endsInSlash path) maxLinks [] "" (partsOf path)

/-- The entry that a path leads to.  A path that ends in a separator leads to a directory. -/
def find? (d : Disk) (path : String) (follow : Bool) : Except Errno (Place × Entry) := do
  let spot ← d.spot? path (follow || endsInSlash path)
  match spot.final with
  | .dots _ => match d.at? spot.dir with
    | some e => .ok (spot.dir, e)
    | none => .error .noEntry
  | .named _ none => .error .noEntry
  | .named _ (some e) => if spot.slash && !e.isDir then .error .notDirectory else .ok (spot.place, e)

/-- A path leads to a directory. -/
def isDir (d : Disk) (path : String) : Bool :=
  match d.find? path true with
  | .ok (_, e) => e.isDir
  | .error _ => false

end Workbench.Disk

import Workbench.Disk.Calls

/-!
Trees written down entry by entry, and read off again.
-/

namespace Workbench.Disk

/-- Puts an entry at a path, and directories where the path needs them.  A file gets a number. -/
def plant (path : String) (e : Entry) : Call Unit := do
  if let some parent := Path.parent? path then makeDirs maxPath parent
  match e with
  | .dir _ => makeDirs maxPath path
  | .file _ content => writeAll path content
  | .link target =>
    let spot ← Call.look fun d => d.spot? path false
    modify fun d => d.put spot.place (.link target)

/-- A disk with entries at paths.  Those that cannot be put there are left out. -/
def ofEntries (entries : List (String × Entry)) : Disk :=
  let d := entries.foldl (fun d (path, e) => ((plant path e).run d).2) {}
  { d with happenings := [] }

/-- Everything below a path, by relative path. -/
def outline (d : Disk) (path : String) : List (String × Entry) :=
  match d.find? path true with
  | .ok (_, e) => (e.under []).map fun (place, e) => (String.intercalate "/" place, e)
  | .error _ => []

/-- The outline as an object.  Directories end in a slash and links in an at sign; of a file of more than
256 octets only the size is told. -/
def outlineJson (d : Disk) (path : String) : Json := Json.ofPairs <| (d.outline path).map fun
  | (name, .dir _) => (name ++ "/", .null)
  | (name, .link target) => (name ++ "@", .str target)
  | (name, .file _ content) => (name,
      if 256 < content.size then Json.nat content.size else .str (Bytes.hex (Blob.toBytes content)))

end Workbench.Disk

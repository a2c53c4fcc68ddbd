import Workbench.Disk.Walk

/-!
File calls on a tree: each either does all it says or fails and leaves the tree as it was.
-/

namespace Workbench.Disk

/-- A call on a disk. -/
abbrev Call (α : Type) := ExceptT Errno (StateM Disk) α

/-- What holds of the disk as it is. -/
def Call.look (f : Disk → Except Errno α) : Call α := fun d => (f d, d)

/-- The entry a path leads to, a link at its end followed. -/
def stat (path : String) : Call Entry := Call.look fun d => (d.find? path true).map (·.2)

/-- The entry a path leads to, a link at its end not followed. -/
def linkStat (path : String) : Call Entry := Call.look fun d => (d.find? path false).map (·.2)

/-- Whether a path leads to something; failures other than its absence are passed on. -/
def doesExist (path : String) : Call Bool := Call.look fun d =>
  match d.find? path true with
  | .ok _ => .ok true
  | .error .noEntry => .ok false
  | .error e => .error e

/-- Names and entries of a directory. -/
def list (path : String) : Call (List (String × Entry)) := do
  match ← stat path with
  | .dir entries => return entries
  | _ => throw .notDirectory

/-- Makes a directory where nothing is. -/
def makeDir (path : String) : Call Unit := do
  let spot ← Call.look fun d => d.spot? path false
  match spot.final with
  | .named _ none => modify fun d => (d.put spot.place (.dir [])).note spot.place .created
  | _ => throw .exists

/-- Makes a directory and those above it; one that is there already will do. -/
def makeDirs : (depth : Nat) → (path : String) → Call Unit
  | 0, _ => throw .nameTooLong
  | depth + 1, path => do
    let isDir : Call Bool := do return (← stat path).isDir
    let settle (e : Errno) : Call Unit := do
      if ← tryCatch isDir fun _ => pure false then pure () else throw e
    if path.isEmpty then return
    try makeDir path catch
      | .noEntry =>
        match Path.parent? path with
        | some parent => makeDirs depth parent
        | none => throw .noEntry
        try makeDir path catch e => settle e
      | e => settle e

/-- Takes away an empty directory. -/
def removeDir (path : String) : Call Unit := do
  let spot ← Call.look fun d => d.spot? path false
  match spot.final with
  | .dots "." => throw .invalid
  | .dots ".." => throw .notEmpty
  | .dots _ => throw .busy
  | .named _ none => throw .noEntry
  | .named _ (some (.dir [])) => modify fun d => (d.cut spot.place).note spot.place .removed
  | .named _ (some (.dir _)) => throw .notEmpty
  | .named _ (some _) => throw .notDirectory

/-- Takes away a file or a link. -/
def removeFile (path : String) : Call Unit := do
  let spot ← Call.look fun d => d.spot? path false
  match spot.final with
  | .dots _ => throw .isDirectory
  | .named _ none => throw .noEntry
  | .named _ (some (.dir _)) => throw .isDirectory
  | .named _ (some _) =>
    if spot.slash then throw .notDirectory
    else modify fun d => (d.cut spot.place).note spot.place .removed

/-- Takes away a directory with all it holds. -/
def removeTree (path : String) : Call Unit := do
  let (place, e) ← Call.look fun d => d.find? path false
  match e with
  | .dir entries =>
    modify fun d => (e.under place).reverse.foldl (fun d (p, _) => d.note p .removed)
      (entries.foldl (fun d (name, _) => d.cut (place ++ [name])) d)
    removeDir path
  | _ => removeFile path

/-- Why an entry cannot be moved from one spot to another, in place of what is there, if it cannot. -/
def moveFailure? (a b : Spot) (moved : Entry) (there : Option Entry) : Option Errno :=
  if !moved.isDir && (a.slash || b.slash) then some .notDirectory
  else if a.place.isPrefixOf b.dir then some .invalid
  else if b.place.isPrefixOf a.dir then some .notEmpty
  else if a.place = b.place then none
  else
    match there, moved.isDir with
    | some (.dir _), false => some .isDirectory
    | some (.dir (_ :: _)), true => some .notEmpty
    | some (.file ..), true | some (.link _), true => some .notDirectory
    | _, _ => none

/-- Takes an entry from one place to another. -/
def move (d : Disk) (source target : Place) (moved : Entry) : Disk :=
  let d := d.keepLost target
  let d := { d with root := d.root.alter (fun _ => none) source }
  (d.put target moved).note source (.movedTo target)

/-- Moves an entry to another path, in place of a file, or of an empty directory, that is there. -/
def rename (source target : String) : Call Unit := do
  let a ← Call.look fun d => d.spot? source false
  let b ← Call.look fun d => d.spot? target false
  match a.final, b.final with
  | .named _ none, .named _ _ => throw .noEntry
  | .named _ (some moved), .named _ there =>
    match moveFailure? a b moved there with
    | some e => throw e
    | none => if a.place = b.place then return else modify fun d => d.move a.place b.place moved
  | _, _ => throw .busy

/-- Opens a file for writing: it is made if it is not there and emptied if it is.  Gives its number. -/
def createFile (path : String) : Call Nat := do
  let spot ← Call.look fun d => d.spot? path true
  match spot.final with
  | .dots _ => throw .isDirectory
  | .named _ there =>
    if spot.slash then throw .isDirectory
    else
      match there with
      | none => modifyGet fun d => d.addFile spot.place .empty
      | some (.file id _) => modifyGet fun d => (id, d.setContent id .empty)
      | some _ => throw .isDirectory

/-- All of a file. -/
def readAll (path : String) : Call ByteArray := do
  match ← stat path with
  | .file _ content => return content
  | .dir _ => throw .isDirectory
  | .link _ => throw .loop

/-- Replaces all of a file, which is made if it is not there. -/
def writeAll (path : String) (content : ByteArray) : Call Unit := do
  let id ← createFile path
  if content.isEmpty then return
  modify fun d => d.setContent id content

/-- Copies the contents of a file over another.  The target is emptied before the source is read. -/
def copyFile (source target : String) : Call Unit := do
  match ← stat source with
  | .file id _ =>
    let copy ← createFile target
    modify fun d => d.setContent copy ((d.content? id).getD .empty)
  | _ => throw .invalid

/-- Copies a file, or a directory with all it holds, the last entry first; links on the way are
followed.  What is already at the target stays unless a file of the source takes its place.  Every level
makes the paths longer, and their length has a bound. -/
def copyTree : (depth : Nat) → (source target : String) → Call Unit
  | 0, _, _ => throw .nameTooLong
  | depth + 1, source, target => do
    if (← stat source).isDir then
      makeDirs maxPath target
      (← list source).reverse.forM fun (name, _) =>
        copyTree depth (Path.join source name) (Path.join target name)
    else copyFile source target

end Workbench.Disk

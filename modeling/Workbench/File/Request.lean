import Workbench.Buffer
import Workbench.Channel.Arguments
import Workbench.File.Provider
import Workbench.Resource.Addressing

/-!
Requests of the file channel, read from a command and its arguments.  Resources have become local paths;
what is watched is kept as it was addressed, too.
-/

namespace Workbench

inductive FileRequest where
  | stat (path : String)
  | openFile (path : String) (create : Bool)
  | close (fd : UInt64)
  | read (fd pos : UInt64) (length : Nat)
  | readFile (path : String)
  | write (fd pos : UInt64) (data : ByteArray)
  | writeFile (path : String) (data : ByteArray) (options : WriteOptions)
  | delete (path : String) (options : DeleteOptions)
  | makeDir (path : String)
  | readDir (path : String)
  | rename (source target : String) (overwrite : Bool)
  | copy (source target : String) (overwrite : Bool)
  | watch (session : String) (request : UInt64) (addressed : Resource) (options : WatchOptions)
  | unwatch (session : String) (request : UInt64)

namespace FileRequest

/-- The commands by name. -/
inductive Command where
  | stat | openFile | close | read | readFile | write | writeFile | delete | makeDir | readDir
  | rename | copy | watch | unwatch
deriving DecidableEq, Repr

namespace Command

def table : List (String × Command) := [
  ("stat", stat), ("open", openFile), ("close", close), ("read", read), ("readFile", readFile),
  ("write", write), ("writeFile", writeFile), ("delete", delete), ("mkdir", makeDir),
  ("readdir", readDir), ("rename", rename), ("copy", copy), ("watch", watch), ("unwatch", unwatch)]

def ofName? (name : String) : Option Command := (table.find? fun e => e.1 == name).map (·.2)

end Command

def resourceAt : Parameter := ⟨0, "resource"⟩
def targetAt : Parameter := ⟨1, "target"⟩
def descriptorAt : Parameter := ⟨0, "fd"⟩
def positionAt : Parameter := ⟨1, "pos"⟩
def lengthAt (index : Nat) : Parameter := ⟨index, "length"⟩
def dataAt : Parameter := ⟨2, "data"⟩
def offsetAt : Parameter := ⟨3, "offset"⟩
def contentAt : Parameter := ⟨1, "content"⟩
def optionsAt (index : Nat) : Parameter := ⟨index, "opts"⟩
def sessionAt : Parameter := ⟨0, "session"⟩
def requestAt : Parameter := ⟨1, "req"⟩
def watchedAt : Parameter := ⟨2, "resource"⟩

/-- The parameters of a command, by position. -/
def Command.parameters : Command → List Parameter
  | .stat | .readFile | .makeDir | .readDir => [resourceAt]
  | .openFile | .delete => [resourceAt, optionsAt 1]
  | .close => [descriptorAt]
  | .read => [descriptorAt, positionAt, lengthAt 2]
  | .write => [descriptorAt, positionAt, dataAt, offsetAt, lengthAt 4]
  | .writeFile => [resourceAt, contentAt, optionsAt 2]
  | .rename | .copy => [resourceAt, targetAt, optionsAt 2]
  | .watch => [sessionAt, requestAt, watchedAt, optionsAt 3]
  | .unwatch => [sessionAt, requestAt]

/-- The parameters of what a name calls. -/
def parameters (command : String) : List Parameter := ((Command.ofName? command).map Command.parameters).getD []

/-- The local path a resource argument means. -/
def localPath (a : Addressing) (p : Parameter) (args : Json) : Outcome String := do
  return (a.resolve (← p.resource args)).fsPath

/-- The part of `data` that starts at an offset, of a length unless all that follows is meant. -/
def slice (data : ByteArray) (offset : Nat) (length : Option Nat) : ByteArray :=
  let start := min offset data.size
  data.extract start (min (start + length.getD (data.size - offset)) data.size)

/-- The request that a command and its arguments make. -/
def ofCommand (a : Addressing) (command : Command) (args : Json) : Outcome FileRequest :=
  match command with
  | .stat => do return stat (← localPath a resourceAt args)
  | .openFile => do
    let create ← (optionsAt 1).readOr openShape false args
    return openFile (← localPath a resourceAt args) create
  | .close => do return close (← descriptorAt.read Shape.u64 args)
  | .read => do
    return read (← descriptorAt.read Shape.u64 args) (← positionAt.read Shape.u64 args)
      (← (lengthAt 2).read Shape.size args)
  | .readFile => do return readFile (← localPath a resourceAt args)
  | .write => do
    let fd ← descriptorAt.read Shape.u64 args
    let pos ← positionAt.read Shape.u64 args
    let data ← dataAt.read Buffer.shape args
    let offset ← offsetAt.readOr Shape.size 0 args
    let length ← (lengthAt 4).readOr (fun o d => (Shape.size o d).map some) none args
    return write fd pos (slice data offset length)
  | .writeFile => do
    let path ← localPath a resourceAt args
    let data ← contentAt.read Buffer.shape args
    return writeFile path data (← (optionsAt 2).readOr WriteOptions.shape {} args)
  | .delete => do
    let options ← (optionsAt 1).readOr DeleteOptions.shape {} args
    return delete (← localPath a resourceAt args) options
  | .makeDir => do return makeDir (← localPath a resourceAt args)
  | .readDir => do return readDir (← localPath a resourceAt args)
  | .rename => do
    let source ← localPath a resourceAt args
    let target ← localPath a targetAt args
    return rename source target (← (optionsAt 2).readOr overwriteShape false args)
  | .copy => do
    let source ← localPath a resourceAt args
    let target ← localPath a targetAt args
    return copy source target (← (optionsAt 2).readOr overwriteShape false args)
  | .watch => do
    let session ← sessionAt.read Shape.text args
    let request ← requestAt.read Shape.u64 args
    let addressed ← watchedAt.resource args
    return watch session request addressed (← (optionsAt 3).readOr WatchOptions.shape {} args)
  | .unwatch => do
    return unwatch (← sessionAt.read Shape.text args) (← requestAt.read Shape.u64 args)

/-- The request of a call. -/
def ofCall (a : Addressing) (command : String) (args : Json) : Outcome FileRequest :=
  match Command.ofName? command with
  | some c => ofCommand a c args
  | none => .error (.invalidCall command)

end FileRequest

/-- Configuration files of the editor, which may well be missing. -/
def quietNames : List String := ["launch.json", "settings.json", "tasks.json"]

/-- Whether a path is one of these files in a `.vscode` directory. -/
def isQuietConfig (path : String) : Bool :=
  (Path.parent? path).bind Path.fileName? == some ".vscode"
    && ((Path.fileName? path).map quietNames.contains).getD false

/-- The values that a call gives, whatever their names. -/
def givenValues : Json → List Json
  | .arr items => items
  | .obj fields => fields.map (·.2)
  | other => [other]

/-- Whether a call names a quiet configuration file anywhere. -/
def touchesQuietConfig (a : Addressing) (args : Json) : Bool :=
  (givenValues args).any fun v =>
    match Resource.ofJson v with
    | .ok r => isQuietConfig (a.resolve r).fsPath
    | .error _ => false

end Workbench

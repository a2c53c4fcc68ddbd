import Workbench.Disk.Watch
import Workbench.Shape
import Workbench.Fault

/-!
What the file channel asks of whoever keeps the files, and the options of its requests.
-/

namespace Workbench

/-- What is known of a file. -/
structure FileStat where
  /-- 1 for a file, 2 for a directory, 64 more for a link. -/
  type : UInt32
  /-- Milliseconds since the epoch. -/
  ctime : UInt64 := 0
  mtime : UInt64 := 0
  size : UInt64 := 0
deriving DecidableEq, Repr

namespace FileStat

def unknownType : UInt32 := 0
def fileType : UInt32 := 1
def directoryType : UInt32 := 2
def linkBit : UInt32 := 64

def toJson (s : FileStat) : Json := Json.ofPairs [
  ("type", .int (.ofUInt32 s.type)), ("ctime", .int (.ofUInt64 s.ctime)),
  ("mtime", .int (.ofUInt64 s.mtime)), ("size", .int (.ofUInt64 s.size))]

end FileStat

/-- Whether a write may make a file, and whether it may replace one. -/
structure WriteOptions where
  create : Bool := true
  overwrite : Bool := true
deriving DecidableEq, Repr

structure DeleteOptions where
  recursive : Bool := false
  useTrash : Bool := false
deriving DecidableEq, Repr

structure WatchOptions where
  recursive : Bool := false
  excludes : List String := []
deriving DecidableEq, Repr

/-- What to read of a file, and in pieces of what size. -/
structure StreamOptions where
  position : Option UInt64 := none
  length : Option UInt64 := none
  bufferSize : Option Nat := none
deriving DecidableEq, Repr

/-- An option of a request: it may be left out. -/
def flagField (name : String) (value : Bool) : Field Bool := .default name Shape.bool value

/-- Whether opening makes the file. -/
def openShape : Shape Bool :=
  let create := flagField "create" false
  Shape.record "struct OpenOptions" [create.check] fun r => r.get create

def WriteOptions.shape : Shape WriteOptions :=
  let create := flagField "create" true
  let overwrite := flagField "overwrite" true
  Shape.record "struct WriteOptions" [create.check, overwrite.check] fun r => do
    return ⟨← r.get create, ← r.get overwrite⟩

def DeleteOptions.shape : Shape DeleteOptions :=
  let recursive := flagField "recursive" false
  let useTrash := flagField "useTrash" false
  Shape.record "struct DeleteOptions" [recursive.check, useTrash.check] fun r => do
    return ⟨← r.get recursive, ← r.get useTrash⟩

/-- Whether what is at the target is replaced. -/
def overwriteShape : Shape Bool :=
  let overwrite := flagField "overwrite" false
  Shape.record "struct OverwriteOptions" [overwrite.check] fun r => r.get overwrite

def WatchOptions.shape : Shape WatchOptions :=
  let recursive := flagField "recursive" false
  let excludes : Field (List String) := .default "excludes" (Shape.list Shape.text) []
  Shape.record "struct WatchOptions" [recursive.check, excludes.check] fun r => do
    return ⟨← r.get recursive, ← r.get excludes⟩

def StreamOptions.shape : Shape StreamOptions :=
  let position : Field (Option UInt64) := .default "position" (Shape.nullable Shape.u64) none
  let length : Field (Option UInt64) := .default "length" (Shape.nullable Shape.u64) none
  let bufferSize : Field (Option Nat) := .default "bufferSize" (Shape.nullable Shape.size) none
  Shape.record "struct ReadStreamOptions" [position.check, length.check, bufferSize.check] fun r => do
    return ⟨← r.get position, ← r.get length, ← r.get bufferSize⟩

/-- A step of a streamed read. -/
inductive StreamEvent where
  | data (piece : ByteArray)
  | failed (message : String)
  | finished

/-- A streamed read: its number, what it sends at once, and whether it may send more later. -/
structure StreamRun where
  id : Nat
  events : List StreamEvent
  held : Bool := false

/-- Whoever keeps the files.  A watch has a number until it is released; a streamed read can be told
that nobody listens any more. -/
structure FileProvider (m : Type → Type) where
  stat : (path : String) → m (Outcome FileStat)
  openFile : (path : String) → (create : Bool) → m (Outcome UInt64)
  close : (fd : UInt64) → m (Outcome Unit)
  read : (fd pos : UInt64) → (length : Nat) → m (Outcome ByteArray)
  write : (fd pos : UInt64) → (data : ByteArray) → m (Outcome Nat)
  readFile : (path : String) → m (Outcome ByteArray)
  writeFile : (path : String) → (data : ByteArray) → WriteOptions → m (Outcome Unit)
  delete : (path : String) → DeleteOptions → m (Outcome Unit)
  makeDir : (path : String) → m (Outcome Unit)
  readDir : (path : String) → m (Outcome (List (String × UInt32)))
  rename : (source target : String) → (overwrite : Bool) → m (Outcome Unit)
  copy : (source target : String) → (overwrite : Bool) → m (Outcome Unit)
  watch : (path : String) → WatchOptions → m (Outcome Nat)
  release : (watch : Nat) → m Unit
  readStream : (path : String) → StreamOptions → m StreamRun
  cancel : (run : Nat) → m Unit

end Workbench

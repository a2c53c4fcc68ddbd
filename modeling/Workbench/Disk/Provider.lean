import Workbench.Disk.Calls
import Workbench.Disk.Watch
import Workbench.File.Reading
import Workbench.Text.Quoted

/-!
A file provider over a disk: descriptors for open files, watches, and streamed reads.
-/

namespace Workbench

/-- An open file.  Writes are answered before they are done; that one has failed is noticed later. -/
structure Descriptor where
  /-- The number of the file; nothing for a directory. -/
  file : Option Nat
  /-- Open for writing, and for nothing else. -/
  writable : Bool
  /-- The failure of the write that nobody has waited for yet. -/
  pending : Option Errno := none
  /-- A failure that was met while something else was done; the next write reports it. -/
  failed : Option Errno := none
deriving Repr

/-- A disk with what is open on it. -/
structure DiskHost where
  disk : Disk := {}
  descriptors : List (UInt64 × Descriptor) := []
  nextDescriptor : Nat := 1
  watches : List DiskWatch := []
  nextWatch : Nat := 0

namespace DiskHost

/-- Octets that go to the system at once. -/
def maxBuffer : Nat := 2 * 1024 * 1024

/-- Positions that a file can be read at. -/
def maxPosition : Nat := 0x8000000000000000

/-- Octets that a file may have. -/
def maxFileSize : Nat := 0x100000000

/-- Octets that a directory is said to have. -/
def directorySize : Nat := 4096

/-- Runs a call on the disk. -/
def onDisk (call : Disk.Call α) : StateM DiskHost (Outcome α) := fun h =>
  let (r, disk) := call.run h.disk
  (r.mapError Errno.toFault, { h with disk })

def unknownDescriptor (fd : UInt64) : Fault := .io .notFound s!"unknown file descriptor {fd}"
def doesNotExist (path : String) : Fault := .io .notFound s!"{path} does not exist"
def alreadyExists (path : String) : Fault := .io .alreadyExists s!"{path} already exists"

def typeOf : Entry → UInt32
  | .file .. => FileStat.fileType
  | .dir _ => FileStat.directoryType
  | .link _ => FileStat.unknownType

def sizeOf : Entry → Nat
  | .file _ content => content.size
  | .dir _ => directorySize
  | .link target => target.utf8ByteSize

/-- What is known of a path.  A link is described by what it leads to, unless that is missing. -/
def stat (path : String) : Disk.Call FileStat := do
  let here ← Disk.linkStat path
  let describe (e : Entry) (bit : UInt32) : FileStat :=
    { type := typeOf e ||| bit, size := .ofNat (sizeOf e) }
  match here with
  | .link _ =>
    let target ← tryCatch (Disk.stat path) fun _ => pure here
    return describe target FileStat.linkBit
  | e => return describe e 0

def descriptor? (h : DiskHost) (fd : UInt64) : Option Descriptor :=
  (h.descriptors.find? fun e => e.1 == fd).map (·.2)

def setDescriptor (h : DiskHost) (fd : UInt64) (d : Descriptor) : DiskHost :=
  { h with descriptors := h.descriptors.map fun e => if e.1 = fd then (fd, d) else e }

def openFile (path : String) (create : Bool) : StateM DiskHost (Outcome UInt64) := do
  let opened : Disk.Call Descriptor := do
    if create then return ⟨some (← Disk.createFile path), true, none, none⟩
    else
      match ← Disk.stat path with
      | .file id _ => return ⟨some id, false, none, none⟩
      | _ => return ⟨none, false, none, none⟩
  match ← onDisk opened with
  | .error e => return .error e
  | .ok d => modifyGet fun h =>
    let fd := UInt64.ofNat h.nextDescriptor
    (.ok fd, { h with
      descriptors := h.descriptors ++ [(fd, d)]
      nextDescriptor := h.nextDescriptor + 1 })

/-- Closes a descriptor, and tells of a write that has failed. -/
def close (fd : UInt64) : StateM DiskHost (Outcome Unit) := fun h =>
  match h.descriptor? fd with
  | none => (.error (unknownDescriptor fd), h)
  | some d =>
    let h := { h with descriptors := h.descriptors.filter (·.1 != fd) }
    match d.failed, d.pending with
    | some e, _ => (.error (.io e.kind e.kindSentence), h)
    | none, some e => (.error e.toFault, h)
    | none, none => (.ok (), h)

/-- Goes to a position; a write in flight is waited for. -/
def seek (d : Descriptor) (pos : Nat) : Except Errno Unit × Descriptor :=
  let d := { d with pending := none, failed := d.failed.or d.pending }
  (if maxPosition ≤ pos then .error .invalid else .ok (), d)

/-- The entry that a descriptor is open on, as a size and contents. -/
def opened (h : DiskHost) (d : Descriptor) : Nat × Option ByteArray :=
  match d.file with
  | some id =>
    let content := (h.disk.content? id).getD .empty
    (content.size, some content)
  | none => (directorySize, none)

/-- Reads what there is of a stretch of a file, as the system supplies it. -/
def readBy (supply : Supply) (fd pos : UInt64) (length : Nat) : StateM DiskHost (Outcome ByteArray) := fun h =>
  if maxReadLength < length then
    (.error (.invalidMessage s!"read of {length} bytes exceeds the limit of {maxReadLength}"), h)
  else
    match h.descriptor? fd with
    | none => (.error (unknownDescriptor fd), h)
    | some d =>
      let (size, content) := h.opened d
      let length := min (size - pos.toNat) length
      let (sought, d) := seek d pos.toNat
      let h := h.setDescriptor fd d
      match sought with
      | .error e => (.error e.toFault, h)
      | .ok () =>
        if length = 0 then (.ok .empty, h)
        else if d.writable then (.error Errno.badDescriptor.toFault, h)
        else
          match content with
          | some content => ((readAt supply content pos.toNat length).mapError Errno.toFault, h)
          | none => (.error Errno.isDirectory.toFault, h)

/-- Contents with a stretch overwritten; a gap before it is filled with zeros. -/
def overwrite (content : ByteArray) (pos : Nat) (data : ByteArray) : ByteArray :=
  let gap : ByteArray := ⟨Array.replicate (pos - content.size) 0⟩
  content.extract 0 pos ++ gap ++ data ++ content.extract (pos + data.size) content.size

/-- Why a write to a descriptor fails, if it does. -/
def writeFailure? (d : Descriptor) (stop : Nat) : Option Errno :=
  if !d.writable then some .badDescriptor
  else if maxFileSize < stop then some .tooLarge
  else none

/-- Writes at a position.  All is said to be written; whether it was shows later, unless there is more
of it than goes out at once. -/
def write (fd pos : UInt64) (data : ByteArray) : StateM DiskHost (Outcome Nat) := fun h =>
  match h.descriptor? fd with
  | none => (.error (unknownDescriptor fd), h)
  | some d =>
    match seek d pos.toNat with
    | (.error e, d) => (.error e.toFault, h.setDescriptor fd d)
    | (.ok (), d) =>
      if data.isEmpty then (.ok 0, h.setDescriptor fd d)
      else
        match d.failed with
        | some e => (.error (.io e.kind e.kindSentence), h.setDescriptor fd { d with failed := none })
        | none =>
          match writeFailure? d (pos.toNat + data.size), d.file with
          | none, some id =>
            let content := (h.disk.content? id).getD .empty
            (.ok data.size, { h.setDescriptor fd d with
              disk := h.disk.setContent id (overwrite content pos.toNat data) })
          | failure, _ =>
            let e := failure.getD .badDescriptor
            if maxBuffer < data.size then (.error e.toFault, h.setDescriptor fd d)
            else (.ok data.size, h.setDescriptor fd { d with pending := some e })

/-- Runs a call, some of whose failures are the provider's own. -/
def guarded (path : String) (check : Bool → Option Fault) (call : Disk.Call α) :
    StateM DiskHost (Outcome α) := do
  match ← onDisk (Disk.doesExist path) with
  | .error e => return .error e
  | .ok there =>
    match check there with
    | some e => return .error e
    | none => onDisk call

def writeFile (path : String) (data : ByteArray) (o : WriteOptions) : StateM DiskHost (Outcome Unit) :=
  guarded path
    (fun there =>
      if !there && !o.create then some (doesNotExist path)
      else if there && !o.overwrite then some (alreadyExists path)
      else none)
    (Disk.writeAll path data)

/-- Refuses a target that exists, unless it may be replaced. -/
def onto (target : String) (overwrite : Bool) (call : Disk.Call Unit) : StateM DiskHost (Outcome Unit) :=
  if overwrite then onDisk call
  else guarded target (fun there => if there then some (alreadyExists target) else none) call

def rename (source target : String) (overwrite : Bool) : StateM DiskHost (Outcome Unit) :=
  onto target overwrite (Disk.rename source target)

def copy (source target : String) (overwrite : Bool) : StateM DiskHost (Outcome Unit) :=
  onto target overwrite (Disk.copyTree Disk.maxPath source target)

/-- Deletes for good; there is no trash. -/
def delete (path : String) (o : DeleteOptions) : StateM DiskHost (Outcome Unit) := onDisk do
  if (← Disk.linkStat path).isDir then
    if o.recursive then Disk.removeTree path else Disk.removeDir path
  else Disk.removeFile path

/-- Names and types; a link has the type of what it leads to besides its own. -/
def readDir (path : String) : Disk.Call (List (String × UInt32)) := do
  (← Disk.list path).mapM fun (name, e) => do
    match e with
    | .link _ =>
      let target ← tryCatch (return typeOf (← Disk.stat (Path.join path name))) fun _ => pure 0
      return (name, FileStat.linkBit ||| target)
    | e => return (name, typeOf e)

/-- Why a path cannot be watched. -/
def watchFailure (path full : String) (recursive : Bool) (e : Errno) : Fault :=
  let reason :=
    if recursive then e.message
    else
      let what := if e = .noEntry then "No path was found." else e.message
      s!"{what} about [{Text.quoted full}]"
  .other s!"failed to watch {path}: {reason}"

def watch (path : String) (o : WatchOptions) : StateM DiskHost (Outcome Nat) := fun h =>
  let full := Path.join "/" path
  match h.disk.find? full true with
  | .error e => (.error (watchFailure path full o.recursive e), h)
  | .ok (place, _) =>
    let w : DiskWatch := ⟨h.nextWatch, full, place, o.recursive, o.excludes.map Notice.excludedName⟩
    (.ok w.id, { h with watches := h.watches ++ [w], nextWatch := h.nextWatch + 1 })

/-- The steps of a streamed read of what a path leads to, as the system supplies it. -/
def streamFrom (supply : Supply) (path : String) (o : StreamOptions) : Disk.Call (List StreamEvent) := do
  let e ← Disk.stat path
  if maxPosition ≤ o.start then throw .invalid
  match e with
  | .file _ content => return streamSteps supply content o
  | _ => return if o.length = some 0 then [.finished] else failedSteps .isDirectory

def readStreamBy (supply : Supply) (path : String) (o : StreamOptions) : StateM DiskHost StreamRun := do
  let steps ← onDisk (tryCatch (streamFrom supply path o) fun e => return failedSteps e)
  return { id := 0, events := (steps.toOption).getD [] }

/-- The provider over a system that supplies reads in its way. -/
def providerBy (supply : Supply) : FileProvider (StateM DiskHost) where
  stat path := onDisk (stat path)
  openFile := openFile
  close := close
  read := readBy supply
  write := write
  readFile path := onDisk (Disk.readAll path)
  writeFile := writeFile
  delete := delete
  makeDir path := onDisk (Disk.makeDir path)
  readDir path := onDisk (readDir path)
  rename := rename
  copy := copy
  watch := watch
  release id := modify fun h => { h with watches := h.watches.filter (·.id != id) }
  readStream := readStreamBy supply
  cancel _ := pure ()

/-- The provider.  Reads are given all they ask for, as far as that goes out at once. -/
def provider : FileProvider (StateM DiskHost) := providerBy (.upTo maxBuffer)

/-- Takes what has happened, as each watch reports it. -/
def takeReports : StateM DiskHost (List (Nat × List FileChange)) := fun h =>
  (h.watches.flatMap fun w => (w.reports h.disk.happenings).map fun changes => (w.id, changes),
    { h with disk := { h.disk with happenings := [] } })

end DiskHost
end Workbench

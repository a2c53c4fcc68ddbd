import Workbench.Disk.Walk
import Workbench.Process
import Workbench.Shell

/-!
The executables of the machine: where they are found, and the processes that they start.
-/

namespace Workbench.Executable

/-- The directories of the executables that every machine has. -/
def systemDirs : List String := ["/bin", "/usr/bin"]

/-- The shells among them. -/
def shells : List String := ["sh", "dash"]

/-- The name of a system executable by its path. -/
def systemName? (path : String) : Option String :=
  let names := shells ++ Shell.tools
  names.find? fun name => systemDirs.any fun dir => Path.join dir name == path

/-- Whether there is anything at a path. -/
def isThere (disk : Disk) (path : String) : Bool := (systemName? path).isSome || (disk.find? path true).isOk

/-- Whether a file may be executed. -/
def check (disk : Disk) (path : String) : Except Errno Unit :=
  if (systemName? path).isSome then .ok ()
  else do
    let (_, entry) ← disk.find? path true
    if entry.isDir then .ok () else .error .accessDenied

/-- Places where a name may mean a file. -/
def candidates (searchPath name : String) : List String :=
  (searchPath.splitOn ":").map fun dir => Path.join dir name

/-- The file that a command means: a path as it stands, or a name that is looked for. -/
def locate (disk : Disk) (searchPath command : String) : Except Errno String :=
  if command.contains '/' then .ok command
  else
    let found := (candidates searchPath command).filter fun path => (systemName? path).isSome
    match found with
    | path :: _ => .ok path
    | [] =>
      if (candidates searchPath command).any fun path => (disk.find? path true).isOk
      then .error .accessDenied else .error .noEntry

/-- Starts an executable. -/
def start (disk : Disk) (path : String) (args : List String) (vars : Vars) (dir : String) :
    Except Errno Process :=
  match systemName? path with
  | some name =>
    let known : Shell.State := { vars := vars.map fun (n, v) => (n, Bytes.ofText v), params := [], dir }
    match Shell.tool? name (args.map Bytes.ofText) known with
    | some program => .ok { program, dir }
    | none => .ok { program := Shell.program path args vars dir, dir }
  | none => do
    let _ ← disk.find? path true
    .error .accessDenied

end Workbench.Executable

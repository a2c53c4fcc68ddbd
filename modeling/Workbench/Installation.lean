import Workbench.Disk.Calls
import Workbench.Resource.Addressing

/-!
Where a server keeps things, and what it tells its clients of that.
-/

namespace Workbench

/-- The directories of a server. -/
structure Installation where
  appRoot : String := ""
  userHome : String := ""
  contentRoot : String := ""
  userData : String := ""
  extensions : String := ""
  builtinExtensions : String := ""
  moreBuiltinExtensions : List String := []
  moreExtensions : List String := []
  logs : String := ""
deriving DecidableEq, Repr

namespace Installation

/-- A place among the user's data. -/
def userPath (i : Installation) (name : String) : String :=
  Path.join (Path.join i.userData "User") name

def settingsPath (i : Installation) : String := i.userPath "settings.json"

def globalStorage (i : Installation) : String := i.userPath "globalStorage"

def workspaceStorage (i : Installation) : String := i.userPath "workspaceStorage"

def extensionHostLogs (i : Installation) : String := Path.join i.logs "extension-host"

/-- Where extensions that belong to the server are looked for. -/
def builtinDirs (i : Installation) : List String := i.builtinExtensions :: i.moreBuiltinExtensions

/-- Where extensions that have been installed are looked for. -/
def installedDirs (i : Installation) : List String := i.extensions :: i.moreExtensions

/-- The directories that standing schemes resolve against. -/
def roots (i : Installation) : Roots := ⟨i.appRoot, i.contentRoot, i.userData⟩

/-- What a client is told of the server.  Resources are local files. -/
def describe (i : Installation) (token : String) : Json :=
  let file (path : String) : Json := (Resource.file path).toJson
  Json.ofPairs [
    ("connectionToken", .str token),
    ("appRoot", file i.appRoot),
    ("settingsPath", file i.settingsPath),
    ("logsPath", file i.logs),
    ("extensionsPath", file i.extensions),
    ("extensionHostLogsPath", file i.extensionHostLogs),
    ("globalStorageHome", file i.globalStorage),
    ("workspaceStorageHome", file i.workspaceStorage),
    ("userHome", file i.userHome),
    ("useHostProxy", .bool false),
    ("os", Json.nat 3),
    ("marks", .arr [])]

/-- The directories that the server writes into. -/
def writtenDirs (i : Installation) : List String :=
  [i.extensions, i.logs, i.globalStorage, i.workspaceStorage]
    ++ i.moreBuiltinExtensions ++ i.moreExtensions

/-- Makes the directories that the server writes into.  One that cannot be made is left out. -/
def ensureDirs (i : Installation) (d : Disk) : Disk :=
  i.writtenDirs.foldl (fun d dir => (Disk.makeDirs Disk.maxPath dir d).2) d

end Installation
end Workbench

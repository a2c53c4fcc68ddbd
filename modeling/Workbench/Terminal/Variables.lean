import Workbench.Json.Printer
import Workbench.Resource.Addressing
import Workbench.Terminal.Request
import Workbench.Text.Split
import Workbench.Vars

/-!
Variables in the settings of a terminal, written `${name}`.  A reference to a variable that is not
available stays as it is written, and what is put in place of a reference is not looked at again.
-/

namespace Workbench

/-- What the settings of a terminal may refer to. -/
structure Variables where
  /-- Folders of the workspace by name. -/
  folders : List (String × String) := []
  activeFolder : Option String := none
  /-- Values that the client has found out. -/
  resolved : Json.Fields := []
  /-- The environment of the server. -/
  env : Vars := []
  home : Option String := none
  appRoot : Option String := none
  execPath : Option String := none
  file : Option String := none

namespace Variables

/-- The local path of a file that is open at the client. -/
def filePath (a : Addressing) (r : Resource) : String :=
  let arrived := a.incoming r
  if arrived.scheme = Resource.fileScheme then arrived.fsPath else arrived.path

/-- The variables of a request.  The client's own variables come before those of the server's
environment. -/
def ofRequest (a : Addressing) (request : TerminalRequest) (env : Vars) (home : Option String)
    (workingDir : String) : Variables :=
  let path (f : WorkspaceFolder) : String := (a.resolve f.resource).fsPath
  let client := Vars.ofList request.clientVars
  { folders := request.folders.map fun f => (f.name, path f)
    activeFolder := request.activeFolder.map path
    resolved := request.resolvedVariables
    env
    home
    appRoot := ((client.nonempty? "VSCODE_CWD").or (env.get? "VSCODE_CWD")).or (some workingDir)
    execPath := (client.nonempty? "VSCODE_EXEC_PATH").or (env.get? "VSCODE_EXEC_PATH")
    file := request.activeFile.map (filePath a) }

/-- The path of a folder of the workspace; of several of one name the first. -/
def folder? (v : Variables) (name : String) : Option String :=
  (v.folders.find? fun f => f.1 == name).map (·.2)

/-- A text or a number that the client has found out. -/
def resolved? (v : Variables) (key : String) : Option String :=
  match Json.Fields.get? v.resolved key with
  | some (.str s) => some s
  | some (.int n) => some (Json.int n).compact
  | some (.double x) => some (Json.double x).compact
  | _ => none

/-- A name with an argument, cut at the first colon. -/
def splitColon? (name : String) : Option (String × String) :=
  (Text.cut? ':' name.toList).map fun (kind, arg) => (String.ofList kind, String.ofList arg)

/-- A variable that takes an argument. -/
def lookupWith (v : Variables) (kind arg : String) : Option String :=
  match kind with
  | "env" => some ((v.env.get? arg).getD "")
  | "config" => v.resolved? s!"config:{arg}"
  | "workspaceFolder" => v.folder? arg
  | "workspaceFolderBasename" => (v.folder? arg).bind Path.fileName?
  | _ => none

/-- The extension of a path with the dot in front; the empty text if it has none. -/
def dottedExtension (path : String) : String :=
  match Path.extension? path with
  | some e => "." ++ e
  | none => ""

/-- A variable that takes none. -/
def lookupPlain (v : Variables) (name : String) : Option String :=
  match name with
  | "userHome" => v.home
  | "workspaceFolder" | "workspaceRoot" => v.activeFolder
  | "workspaceFolderBasename" => v.activeFolder.bind Path.fileName?
  | "cwd" => v.activeFolder.or v.appRoot
  | "appRoot" => v.appRoot
  | "execPath" => v.execPath
  | "file" => v.file
  | "fileBasename" => v.file.bind Path.fileName?
  | "fileDirname" => v.file.bind Path.parent?
  | "fileExtname" => v.file.map dottedExtension
  | "relativeFile" => do Path.below? (← v.file) (← v.activeFolder)
  | "pathSeparator" => some "/"
  | "selectedText" | "lineNumber" => v.resolved? name
  | _ => none

/-- The value of a variable, if it is available. -/
def lookup (v : Variables) (name : String) : Option String :=
  match splitColon? name with
  | some (kind, arg) => v.lookupWith kind arg
  | none => v.lookupPlain name

/-- What a reference becomes: the value of its name, or the reference as it is written. -/
def reference (lookup : String → Option String) (name : List Char) : List Char :=
  match lookup (String.ofList name) with
  | some value => value.toList
  | none => '$' :: '{' :: name ++ ['}']

/-- Characters with every reference replaced.  An opening that is never closed ends the work. -/
def expand (lookup : String → Option String) (cs : List Char) : List Char :=
  match cs with
  | [] => []
  | '$' :: '{' :: rest =>
    match h : Text.cut? '}' rest with
    | some (name, after) =>
      have := Text.length_of_cut? h
      reference lookup name ++ expand lookup after
    | none => '$' :: '{' :: rest
  | c :: rest => c :: expand lookup rest
termination_by cs.length
decreasing_by all_goals simp_all; try omega

/-- A text with every reference replaced. -/
def resolve (v : Variables) (text : String) : String :=
  String.ofList (expand v.lookup text.toList)

/-- Settings with their texts resolved; all else stays. -/
def resolveFields (v : Variables) (fields : Json.Fields) : Json.Fields :=
  fields.map fun
    | (key, .str text) => (key, .str (v.resolve text))
    | field => field

end Variables
end Workbench

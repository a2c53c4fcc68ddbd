import Workbench.Resource
import Workbench.Terminal.Launch

/-!
A client's request for a terminal: what to run, the settings and folders of its workspace, and what its
extensions do to the environment.
-/

namespace Workbench

/-- What an extension does to a variable. -/
inductive MutatorKind where
  | replace
  | append
  | prepend
deriving DecidableEq, Repr

namespace MutatorKind

def ofCode? : UInt8 → Option MutatorKind
  | 1 => some replace
  | 2 => some append
  | 3 => some prepend
  | _ => none

def shape : Shape MutatorKind := fun o d => do
  let n ← Shape.u8 o d
  match ofCode? n with
  | some k => return k
  | none => .error (.refused s!"unknown environment mutator type {n}")

end MutatorKind

/-- A change to a variable. -/
structure EnvMutator where
  value : String
  kind : MutatorKind
deriving DecidableEq, Repr

namespace EnvMutator

def valueField : Field String := .required "value" Shape.text
def kindField : Field MutatorKind := .required "type" MutatorKind.shape

def shape : Shape EnvMutator :=
  Shape.record "struct EnvMutator" [valueField.check, kindField.check] fun r => do
    return ⟨← r.get valueField, ← r.get kindField⟩

end EnvMutator

/-- The changes of one extension, in the order in which it declares them. -/
structure EnvCollection where
  extension : String
  mutators : List (String × EnvMutator)
deriving DecidableEq, Repr

namespace EnvCollection

def shape : Shape EnvCollection := fun o d =>
  (Shape.pair Shape.text (Shape.list (Shape.pair Shape.text EnvMutator.shape)) o d).map
    fun (extension, mutators) => ⟨extension, mutators⟩

end EnvCollection

/-- A folder of the client's workspace. -/
structure WorkspaceFolder where
  resource : Resource
  name : String
deriving DecidableEq, Repr

namespace WorkspaceFolder

def resourceField : Field Resource := .required "uri" Resource.shape
def nameField : Field String := .required "name" Shape.text
def indexField : Field UInt32 := .default "index" Shape.u32 0

def shape : Shape WorkspaceFolder :=
  Shape.record "struct WorkspaceFolderData"
    [resourceField.check, nameField.check, indexField.check] fun r => do
      return ⟨← r.get resourceField, ← r.get nameField⟩

end WorkspaceFolder

/-- A request for a terminal. -/
structure TerminalRequest where
  configuration : Json.Fields := []
  /-- Values of variables that only the client knows. -/
  resolvedVariables : Json.Fields := []
  collections : List EnvCollection := []
  launch : Launch := {}
  workspaceId : String := ""
  workspaceName : String := ""
  folders : List WorkspaceFolder := []
  activeFolder : Option WorkspaceFolder := none
  activeFile : Option Resource := none
  persistent : Bool := false
  cols : Nat := 0
  rows : Nat := 0
  unicodeVersion : String := ""
  /-- The client's own variables. -/
  clientVars : List (String × String) := []
deriving DecidableEq

namespace TerminalRequest

def configurationField : Field Json.Fields := .default "configuration" Shape.fields []
def resolvedField : Field Json.Fields := .default "resolvedVariables" Shape.fields []
def collectionsField : Field (List EnvCollection) :=
  .default "envVariableCollections" (Shape.list EnvCollection.shape) []
def launchField : Field Launch := .default "shellLaunchConfig" Launch.shape {}
def workspaceIdField : Field String := .default "workspaceId" Shape.text ""
def workspaceNameField : Field String := .default "workspaceName" Shape.text ""
def foldersField : Field (List WorkspaceFolder) :=
  .default "workspaceFolders" (Shape.list WorkspaceFolder.shape) []
def activeFolderField : Field (Option WorkspaceFolder) :=
  .default "activeWorkspaceFolder" (.nullable WorkspaceFolder.shape) none
def activeFileField : Field (Option Resource) :=
  .default "activeFileResource" (.nullable Resource.shape) none
def persistentField : Field Bool := .default "shouldPersistTerminal" Shape.bool false
def colsField : Field Nat := .default "cols" Shape.u16 0
def rowsField : Field Nat := .default "rows" Shape.u16 0
def unicodeField : Field String := .default "unicodeVersion" Shape.text ""
def clientVarsField : Field (Option (List (String × String))) :=
  .default "resolverEnv" (.nullable Shape.texts) none

/-- Every field may be left out. -/
def shape : Shape TerminalRequest :=
  Shape.record "struct CreateTerminalArgs"
    [configurationField.check, resolvedField.check, collectionsField.check, launchField.check,
      workspaceIdField.check, workspaceNameField.check, foldersField.check, activeFolderField.check,
      activeFileField.check, persistentField.check, colsField.check, rowsField.check,
      unicodeField.check, clientVarsField.check]
    fun r => do
      return {
        configuration := ← r.get configurationField
        resolvedVariables := ← r.get resolvedField
        collections := ← r.get collectionsField
        launch := ← r.get launchField
        workspaceId := ← r.get workspaceIdField
        workspaceName := ← r.get workspaceNameField
        folders := ← r.get foldersField
        activeFolder := ← r.get activeFolderField
        activeFile := ← r.get activeFileField
        persistent := ← r.get persistentField
        cols := ← r.get colsField
        rows := ← r.get rowsField
        unicodeVersion := ← r.get unicodeField
        clientVars := (← r.get clientVarsField).getD [] }

end TerminalRequest
end Workbench

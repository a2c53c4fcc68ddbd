import Workbench.Fault

/-!
What a client wants a terminal to run: an executable with arguments, where, and with which variables.
-/

namespace Workbench

/-- The arguments of an executable, as one line or as a list. -/
inductive LaunchArgs where
  | line (text : String)
  | list (items : List String)
deriving DecidableEq, Repr

namespace LaunchArgs

/-- The arguments one by one.  A line is one argument, an empty one none. -/
def argv : LaunchArgs → List String
  | line text => if text = "" then [] else [text]
  | list items => items

def shape : Shape LaunchArgs := fun _ d =>
  match Shape.text .held d, Shape.list Shape.text .held d with
  | .ok text, _ => .ok (line text)
  | _, .ok items => .ok (list items)
  | _, _ => .error (.noVariant "ShellArgs")

def toJson : LaunchArgs → Json
  | line text => .str text
  | list items => .arr (items.map .str)

end LaunchArgs

/-- What a terminal is to run.  The working directory is a text or a resource; a variable that is null
is taken out of the environment. -/
structure Launch where
  name : Option String := none
  executable : Option String := none
  args : Option LaunchArgs := none
  cwd : Option Json := none
  env : Option Json.Fields := none
  /-- Nothing but the variables given here is wanted. -/
  strict : Bool := false
deriving DecidableEq

namespace Launch

def nameField : Field (Option String) := .default "name" (.nullable Shape.text) none
def executableField : Field (Option String) := .default "executable" (.nullable Shape.text) none
def argsField : Field (Option LaunchArgs) := .default "args" (.nullable LaunchArgs.shape) none
def cwdField : Field (Option Json) := .default "cwd" (.nullable Shape.json) none
def envField : Field (Option Json.Fields) := .default "env" (.nullable Shape.fields) none
def strictField : Field Bool := .default "strictEnv" Shape.bool false

def shape : Shape Launch :=
  Shape.record "struct ShellLaunchConfig"
    [nameField.check, executableField.check, argsField.check, cwdField.check, envField.check,
      strictField.check]
    fun r => do
      return {
        name := ← r.get nameField
        executable := ← r.get executableField
        args := ← r.get argsField
        cwd := ← r.get cwdField
        env := ← r.get envField
        strict := ← r.get strictField }

/-- A field that is left out when nothing is given. -/
def optionalField (name : String) (f : α → Json) : Option α → List (String × Json)
  | some v => [(name, f v)]
  | none => []

def toJson (l : Launch) : Json :=
  .obj <| optionalField "args" LaunchArgs.toJson l.args ++ optionalField "cwd" id l.cwd
    ++ optionalField "env" Json.obj l.env ++ optionalField "executable" Json.str l.executable
    ++ optionalField "name" Json.str l.name
    ++ (if l.strict then [("strictEnv", .bool true)] else [])

end Launch
end Workbench

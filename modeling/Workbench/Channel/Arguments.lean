import Workbench.Fault
import Workbench.Resource

/-!
Arguments of calls.  A client gives them by position, in an array, or by name, in an object; a lone
value that is neither stands for the first.
-/

namespace Workbench

/-- A parameter of a command. -/
structure Parameter where
  index : Nat
  name : String
deriving DecidableEq, Repr

namespace Parameter

/-- What is given for a parameter. -/
def given? (p : Parameter) : (args : Json) → Option Json
  | .arr items => items[p.index]?
  | .obj fields => Json.Fields.get? fields p.name
  | other => if p.index = 0 then some other else none

/-- A typed argument; one that is not given is read as null. -/
def read (p : Parameter) (shape : Shape α) (args : Json) : Outcome α :=
  (shape.ofJson ((p.given? args).getD .null)).mapError fun m =>
    .invalidMessage s!"argument '{p.name}': {m.message}"

/-- A typed argument with a default for one that is null or not given. -/
def readOr (p : Parameter) (shape : Shape α) (default : α) (args : Json) : Outcome α :=
  match p.given? args with
  | none | some .null => .ok default
  | some _ => p.read shape args

/-- A resource; it must be given. -/
def resource (p : Parameter) (args : Json) : Outcome Resource :=
  match p.given? args with
  | some v => Resource.ofJson v
  | none => .error (.invalidMessage s!"missing argument '{p.name}'")

end Parameter
end Workbench

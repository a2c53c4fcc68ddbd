/-!
The environment of a process: variables by name, each with one value, sorted by name.
-/

namespace Workbench

/-- Environment variables. -/
abbrev Vars := List (String × String)

namespace Vars

def get? (vars : Vars) (name : String) : Option String :=
  (vars.find? fun v => v.1 == name).map (·.2)

/-- Gives a variable a value, in its place by order of code points. -/
def set (vars : Vars) (name value : String) : Vars :=
  match vars with
  | [] => [(name, value)]
  | (n, v) :: rest =>
    if name = n then (name, value) :: rest
    else if name < n then (name, value) :: (n, v) :: rest
    else (n, v) :: set rest name value

/-- Takes a variable away. -/
def unset (vars : Vars) (name : String) : Vars := vars.filter fun v => v.1 != name

/-- Variables in any order; of a name given twice the last value stays. -/
def ofList (pairs : List (String × String)) : Vars :=
  pairs.foldl (fun vars (name, value) => set vars name value) []

/-- A variable that has more than the empty text. -/
def nonempty? (vars : Vars) (name : String) : Option String :=
  (vars.get? name).filter (· ≠ "")

end Vars
end Workbench

import Workbench.Fault
import Workbench.Path

/-!
Resource identifiers as they travel inside channel arguments: a scheme, an authority, a path, a query
and a fragment.
-/

namespace Workbench

/-- A resource identifier. -/
structure Resource where
  scheme : String
  authority : String := ""
  path : String := ""
  query : String := ""
  fragment : String := ""
deriving DecidableEq, Repr, Inhabited

namespace Resource

/-- The scheme of plain local files. -/
def fileScheme : String := "file"

/-- The scheme under which a client addresses files of the server. -/
def remoteScheme : String := "vscode-remote"

/-- The scheme of the client's own files, as the server sees it. -/
def localScheme : String := "vscode-local"

/-- The scheme of the content tree. -/
def citizenScheme : String := "citizen"

/-- The scheme of the user-data directory. -/
def userDataScheme : String := "vscode-userdata"

/-- A path with `/` for every backslash. -/
def forwardSlashes (path : String) : String :=
  String.ofList (path.toList.map fun c => if c = '\\' then '/' else c)

/-- The resource of a local path: `/` for every backslash, and one in front. -/
def file (path : String) : Resource :=
  let p := forwardSlashes path
  { scheme := fileScheme, path := if Path.isAbsolute p then p else "/" ++ p }

/-- The path behind a drive letter, whose slash in front is dropped. -/
def driveless? (path : String) : Option String :=
  match path.toList with
  | '/' :: d :: ':' :: rest =>
    if d.isAlpha then some (String.ofList (d :: ':' :: rest)) else none
  | _ => none

/-- The local path a resource means, its scheme apart. -/
def fsPath (r : Resource) : String :=
  if r.authority ≠ "" ∧ r.scheme = fileScheme then s!"//{r.authority}{r.path}"
  else (driveless? r.path).getD r.path

/-- The same resource under another scheme and authority. -/
def withScheme (r : Resource) (scheme authority : String) : Resource :=
  { r with scheme, authority }

/-- The text of a resource. -/
def display (r : Resource) : String :=
  s!"{r.scheme}:"
    ++ (if r.authority ≠ "" ∨ r.scheme = fileScheme then s!"//{r.authority}" else "")
    ++ r.path
    ++ (if r.query ≠ "" then s!"?{r.query}" else "")
    ++ (if r.fragment ≠ "" then s!"#{r.fragment}" else "")

/-- A field that is left out when it is empty. -/
def textField (name value : String) : List (String × Json) :=
  if value = "" then [] else [(name, .str value)]

/-- The marked object that stands for a resource: scheme and path always, the rest unless empty. -/
def toJson (r : Resource) : Json :=
  .obj <| [("$mid", Json.nat 1)] ++ textField "authority" r.authority
    ++ textField "fragment" r.fragment ++ [("path", .str r.path)] ++ textField "query" r.query
    ++ [("scheme", .str r.scheme)]

def schemeField : Field String := .required "scheme" Shape.text
def authorityField : Field String := .default "authority" Shape.text ""
def pathField : Field String := .default "path" Shape.text ""
def queryField : Field String := .default "query" Shape.text ""
def fragmentField : Field String := .default "fragment" Shape.text ""

/-- Only the scheme must be there. -/
def shape : Shape Resource :=
  Shape.record "struct UriComponents"
    [schemeField.check, authorityField.check, pathField.check, queryField.check, fragmentField.check]
    fun r => do
      return {
        scheme := ← r.get schemeField
        authority := ← r.get authorityField
        path := ← r.get pathField
        query := ← r.get queryField
        fragment := ← r.get fragmentField }

/-- Reads a resource out of an argument. -/
def ofJson (v : Json) : Outcome Resource :=
  (shape.ofJson v).mapError fun m => .invalidMessage s!"expected a URI: {m.message}"

end Resource
end Workbench

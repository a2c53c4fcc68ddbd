import Workbench.Json.Reader
import Workbench.Resource

/-!
Two ways to address the resources of one connection, and the passage between them.  A client addresses
the server's files through its remote authority and through schemes that stand for directories of the
installation; the server works on local paths.  Incoming and outgoing mappings change the scheme only;
`toLocal` and `toRemote` lead from the standing schemes to local files and back.
-/

namespace Workbench

/-- The directories that standing schemes resolve against. -/
structure Roots where
  /-- Behind paths that start with `/static`. -/
  app : String
  /-- Behind the content scheme. -/
  content : String
  /-- Behind the user-data scheme. -/
  userData : String
deriving DecidableEq, Repr, Inhabited

/-- How the resources of one connection are addressed. -/
structure Addressing where
  authority : String
  roots : Roots
deriving DecidableEq, Repr, Inhabited

namespace Addressing

open Resource

/-- The path under which a web view asks for local files. -/
def webviewPath : String := "/vscode-resource"

/-- A resource from the client: what it calls remote is a file here, and its own files are remote. -/
def incoming (_ : Addressing) (r : Resource) : Resource :=
  if r.scheme = remoteScheme then r.withScheme fileScheme ""
  else if r.scheme = fileScheme then r.withScheme localScheme ""
  else r

/-- A resource for the client, the other way round. -/
def outgoing (a : Addressing) (r : Resource) : Resource :=
  if r.scheme = fileScheme then r.withScheme remoteScheme a.authority
  else if r.scheme = localScheme then r.withScheme fileScheme ""
  else r

/-- Characters after a leading text. -/
def after? : (lead : List Char) → List Char → Option (List Char)
  | [], cs => some cs
  | _ :: _, [] => none
  | l :: ls, c :: cs => if l = c then after? ls cs else none

/-- What follows the first slash behind `/static`: both `/static/a/b` and `/static-1/a/b` give `a/b`. -/
def staticRest? (path : String) : Option String := do
  let rest ← after? "/static".toList path.toList
  match rest.dropWhile (· ≠ '/') with
  | _ :: r => some (String.ofList r)
  | [] => none

/-- A path without its leading slash. -/
def relative (path : String) : String :=
  match path.toList with
  | '/' :: r => String.ofList r
  | _ => path

/-- The file a web view's query names. -/
def webviewTarget? (query : String) : Option String := do
  (← (← Json.parse? query).get? "requestResourcePath").str?

/-- Resolves the standing schemes to a local file; all else, a malformed query of a web view included,
stays as it is. -/
def toLocal (a : Addressing) (r : Resource) : Resource :=
  match staticRest? r.path with
  | some rest => file (Path.join a.roots.app rest)
  | none =>
    if r.path = webviewPath ∧ r.query ≠ "" then
      match webviewTarget? r.query with
      | some target => file target
      | none => r
    else if r.scheme = citizenScheme then file (Path.join a.roots.content (relative r.path))
    else if r.scheme = userDataScheme then file (Path.join a.roots.userData (relative r.path))
    else r

/-- A root that holds a path: how deep it lies, its scheme, and what is left of the path. -/
structure Holding where
  depth : Nat
  scheme : String
  rest : List Path.Component

/-- The roots that hold a path, in the order in which a later one wins over an equally deep one. -/
def holdings (a : Addressing) (path : String) : List Holding :=
  [(a.roots.userData, userDataScheme), (a.roots.content, citizenScheme), (a.roots.app, remoteScheme)]
    |>.filter (fun (root, _) => root ≠ "")
    |>.filterMap fun (root, scheme) =>
      (Path.componentsBelow? path root).map fun rest =>
        ⟨(Path.components root).length, scheme, rest⟩

/-- The deepest of some holdings, the last of equally deep ones. -/
def deepest? : List Holding → Option Holding
  | [] => none
  | h :: rest =>
    match deepest? rest with
    | none => some h
    | some best => if best.depth < h.depth then some h else some best

/-- Expresses a local file in the standing scheme of the deepest root that holds it. -/
def toRemote (a : Addressing) (r : Resource) : Resource :=
  if r.scheme ≠ fileScheme then r
  else
    match deepest? (a.holdings r.fsPath) with
    | none => r
    | some h =>
      if h.scheme = remoteScheme then
        { scheme := remoteScheme, authority := a.authority, path := "/static/" ++ Path.slashJoin h.rest }
      else { scheme := h.scheme, path := "/" ++ Path.slashJoin h.rest }

/-- Expresses a local file in the address space of `addressed`, by which the client knows it or a
directory above it. -/
def restore (a : Addressing) (file addressed : Resource) : Resource :=
  let arrived := a.incoming addressed
  if a.toLocal arrived ≠ arrived then a.outgoing (a.toRemote file) else a.outgoing file

/-- What a channel needs before it touches the disk. -/
def resolve (a : Addressing) (r : Resource) : Resource := a.toLocal (a.incoming r)

/-- The value is marked as a resource. -/
def isMarked (v : Json) : Bool :=
  (v.get? "$mid").bind Json.nat? == some 1 && ((v.get? "scheme").bind Json.str?).isSome

/-- The readdressed form of a marked value that reads as a resource. -/
def readdressed? (f : Resource → Resource) (v : Json) : Option Json :=
  if isMarked v then
    match Resource.ofJson v with
    | .ok r => some (f r).toJson
    | .error _ => none
  else none

mutual
/-- Readdresses every outermost marked resource inside a value. -/
def readdressJson (f : Resource → Resource) : Json → Json
  | .arr items => .arr (readdressItems f items)
  | .obj fields => (readdressed? f (.obj fields)).getD (.obj (readdressFields f fields))
  | v => v

def readdressItems (f : Resource → Resource) : List Json → List Json
  | [] => []
  | v :: rest => readdressJson f v :: readdressItems f rest

def readdressFields (f : Resource → Resource) : List (String × Json) → List (String × Json)
  | [] => []
  | (key, v) :: rest => (key, readdressJson f v) :: readdressFields f rest
end

/-- The incoming mapping inside a value. -/
def incomingJson (a : Addressing) (v : Json) : Json := readdressJson a.incoming v

/-- The outgoing mapping inside a value. -/
def outgoingJson (a : Addressing) (v : Json) : Json := readdressJson a.outgoing v

end Addressing
end Workbench

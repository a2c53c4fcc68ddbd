import Workbench.Disk.Calls
import Workbench.Extension
import Workbench.Extension.Localize
import Workbench.Json.Reader

/-!
Extensions read from disk: a directory with a manifest that names a publisher and a name.
-/

namespace Workbench.Extension

/-- The object in a file of JSON text. -/
def readObject? (d : Disk) (path : String) : Option Json.Fields := do
  let content ← (Disk.readAll path d).1.toOption
  (← Json.parse? (← Utf8.decode? (Blob.toBytes content))).obj?

/-- Files that may hold the messages of a language, the first of which is used that can be read. -/
def messageFiles (dir language : String) : List String :=
  (if language = "" ∨ language = "en" then [] else [Path.join dir s!"package.nls.{language}.json"])
    ++ [Path.join dir "package.nls.json"]

/-- The messages of a language. -/
def messages? (d : Disk) (dir language : String) : Option Json.Fields :=
  (messageFiles dir language).findSome? (readObject? d)

/-- A manifest with the messages of a language. -/
def localized (d : Disk) (dir language : String) (manifest : Json.Fields) : Json.Fields :=
  match messages? d dir language with
  | some messages => localizeFields messages manifest
  | none => manifest

/-- A text of a manifest. -/
def text? (manifest : Json.Fields) (key : String) : Option String :=
  (Json.Fields.get? manifest key).bind Json.str?

/-- The extension in a directory, if there is one.  Its identity is what the manifest itself says. -/
def read? (d : Disk) (dir : String) (search : ExtensionSearch) : Option Extension := do
  let manifest ← readObject? d (Path.join dir "package.json")
  let publisher ← text? manifest "publisher"
  let name ← text? manifest "name"
  return {
    id := ⟨publisher ++ "." ++ name⟩
    builtin := search.builtin
    underDevelopment := search.underDevelopment
    location := Resource.file dir
    manifest := (localized d dir search.language manifest).filter fun field => !reservedFields.contains field.1 }

/-- The paths of the directories among the entries of a directory, in order. -/
def dirsAmong (path : String) (entries : List (String × Entry)) : List String :=
  ((entries.filter fun e => e.2.isDir).map fun e => Path.join path e.1).mergeSort fun a b => a ≤ b

/-- The extensions in the directories right below a path, in the order of their paths; none if there is no such
path. -/
def scan (d : Disk) (search : ExtensionSearch) : Except Errno (List Extension) :=
  match (Disk.list search.path d).1 with
  | .error .noEntry => .ok []
  | .error e => .error e
  | .ok entries => .ok <| (dirsAmong search.path entries).filterMap fun dir => read? d dir search

/-- A search, unless it is made to fail. -/
def attempt (d : Disk) (fault : Option Errno) (search : ExtensionSearch) : Except Errno (List Extension) :=
  match fault with
  | some e => .error e
  | none => scan d search

/-- What searches find together that are made at the same time and end in this order; nothing yet if one of them is
still waited for. -/
def scanAll (d : Disk) (searches : List ExtensionSearch) (faults : Nat → Option Errno) (order : List Nat) :
    Option (List Extension) :=
  let outcomes := searches.zipIdx.map fun (search, i) => given (attempt d (faults i) search)
  (Gathering.after outcomes order).results?.map merge

end Workbench.Extension

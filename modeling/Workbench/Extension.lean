import Workbench.Resource
import Workbench.Text.Case

/-!
Extensions as they are found on disk.  An extension is known by its publisher and its name, whatever
their case.  Directories are looked through at the same time.
-/

namespace Workbench

/-- Results that are waited for together, each in its place. -/
structure Gathering (α : Type) where
  slots : List (Option α)

namespace Gathering

/-- So many are waited for. -/
def start (n : Nat) : Gathering α := ⟨List.replicate n none⟩

/-- One of them comes. -/
def complete (all : List α) (g : Gathering α) (i : Nat) : Gathering α := ⟨g.slots.set i all[i]?⟩

/-- They come in this order. -/
def after (all : List α) (order : List Nat) : Gathering α := order.foldl (complete all) (start all.length)

/-- All of them, in their places, once none is missing. -/
def results? (g : Gathering α) : Option (List α) := g.slots.mapM id

end Gathering

/-- The identity of an extension as its manifest writes it. -/
structure ExtensionId where
  value : String
deriving DecidableEq, Repr

namespace ExtensionId

/-- What identities are compared by. -/
def key (id : ExtensionId) : String := Text.lower id.value

def toJson (id : ExtensionId) : Json := .obj [("_lower", .str id.key), ("value", .str id.value)]

end ExtensionId

/-- An extension: its manifest, and where and how it was found. -/
structure Extension where
  id : ExtensionId
  builtin : Bool
  underDevelopment : Bool
  location : Resource
  /-- The fields of its manifest but for those above. -/
  manifest : Json.Fields

namespace Extension

/-- Fields that the description of an extension keeps for itself. -/
def reservedFields : List String :=
  ["identifier", "isBuiltin", "isUnderDevelopment", "extensionLocation"]

/-- The manifest, with the fields that say how the extension was found. -/
def toJson (e : Extension) : Json := Json.ofPairs <| e.manifest ++ [
  ("identifier", e.id.toJson), ("isBuiltin", .bool e.builtin),
  ("isUnderDevelopment", .bool e.underDevelopment), ("extensionLocation", e.location.toJson)]

/-- Extensions whose identity is not among those seen, the first of each. -/
def firsts : (seen : List String) → List Extension → List Extension
  | _, [] => []
  | seen, e :: rest =>
    if e.id.key ∈ seen then firsts seen rest else e :: firsts (e.id.key :: seen) rest

/-- What the scan of a directory has found.  One that has failed has found nothing. -/
def given : Except ε (List Extension) → List Extension
  | .ok es => es
  | .error _ => []

/-- The extensions of several directories in order, the first of each identity. -/
def merge (found : List (List Extension)) : List Extension := firsts [] found.flatten

end Extension

/-- Where and how to look for extensions. -/
structure ExtensionSearch where
  language : String
  path : String
  builtin : Bool
  underDevelopment : Bool

namespace ExtensionSearch

/-- Searches of the directories of a server, its own extensions first. -/
def ofDirs (language : String) (builtin installed : List String) : List ExtensionSearch :=
  builtin.map (⟨language, ·, true, false⟩) ++ installed.map (⟨language, ·, false, true⟩)

end ExtensionSearch

end Workbench

import Workbench.Json

/-!
Changes made everywhere inside a value: to its texts, or to the fields of its objects.
-/

namespace Workbench.Json

mutual
/-- Changes every text inside a value, and every key. -/
def mapTexts (f : String → String) : Json → Json
  | .str s => .str (f s)
  | .arr items => .arr (mapItemTexts f items)
  | .obj fields => ofPairs (mapFieldTexts f fields)
  | v => v

def mapItemTexts (f : String → String) : List Json → List Json
  | [] => []
  | v :: rest => mapTexts f v :: mapItemTexts f rest

def mapFieldTexts (f : String → String) : List (String × Json) → List (String × Json)
  | [] => []
  | (key, v) :: rest => (f key, mapTexts f v) :: mapFieldTexts f rest
end

mutual
/-- Replaces the value of every field inside a value, or drops the field, from the inside out. -/
def editFields (f : String → Json → Option Json) : Json → Json
  | .arr items => .arr (editItems f items)
  | .obj fields => .obj (editEntries f fields)
  | v => v

def editItems (f : String → Json → Option Json) : List Json → List Json
  | [] => []
  | v :: rest => editFields f v :: editItems f rest

def editEntries (f : String → Json → Option Json) : List (String × Json) → List (String × Json)
  | [] => []
  | (key, v) :: rest =>
    match f key (editFields f v) with
    | some w => (key, w) :: editEntries f rest
    | none => editEntries f rest
end

end Workbench.Json

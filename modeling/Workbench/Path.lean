/-!
Lexical paths: texts with `/` between components.  Repeated and trailing separators and single dots
mean nothing, a leading dot of a relative path apart; double dots are kept and nothing is looked up.
-/

namespace Workbench.Path

/-- A component of a path. -/
inductive Component where
  | root
  | current
  | parent
  | normal (name : String)
deriving DecidableEq, Repr

/-- The texts between separators; `"a//b"` has an empty one. -/
def splitSlash : List Char → List (List Char)
  | [] => [[]]
  | c :: rest =>
    if c = '/' then [] :: splitSlash rest
    else
      match splitSlash rest with
      | [] => [[c]]
      | part :: parts => (c :: part) :: parts

/-- Texts with a separator between them. -/
def joinSlash : List (List Char) → List Char
  | [] => []
  | [part] => part
  | part :: parts => part ++ '/' :: joinSlash parts

/-- The raw texts between separators. -/
def parts (path : String) : List String := (splitSlash path.toList).map String.ofList

def isAbsolute (path : String) : Bool := path.toList.head? == some '/'

/-- A part that stands for nothing. -/
def isBlankPart (part : String) : Bool := part == "" || part == "."

def partComponent (part : String) : Component := if part == ".." then .parent else .normal part

/-- Components of parts that are not at the start of a relative path. -/
def innerComponents (ps : List String) : List Component :=
  (ps.filter fun p => !isBlankPart p).map partComponent

/-- The components of a path. -/
def components (path : String) : List Component :=
  if isAbsolute path then .root :: innerComponents (parts path)
  else
    match parts path with
    | "." :: rest => .current :: innerComponents rest
    | ps => innerComponents ps

def Component.text : Component → String
  | root => "/"
  | current => "."
  | parent => ".."
  | normal name => name

/-- Names of the normal components, with `/` between them. -/
def slashJoin (cs : List Component) : String :=
  String.intercalate "/" (cs.filterMap fun
    | .normal name => some name
    | _ => none)

/-- A path below another; an absolute one replaces it. -/
def join (base path : String) : String :=
  if isAbsolute path then path
  else if base.isEmpty then path
  else if base.toList.getLast? == some '/' then base ++ path
  else base ++ "/" ++ path

/-- The components of a path after those of a base, if it starts with them. -/
def componentsBelow? (path base : String) : Option (List Component) :=
  let b := components base
  let p := components path
  if b.isPrefixOf p then some (p.drop b.length) else none

/-- Drops parts that stand for nothing at both ends. -/
def trimParts (ps : List String) : List String :=
  ((ps.dropWhile isBlankPart).reverse.dropWhile isBlankPart).reverse

/-- Drops the given number of meaningful parts in front. -/
def dropParts : Nat → List String → List String
  | 0, ps => ps
  | _ + 1, [] => []
  | n + 1, p :: ps => if isBlankPart p then dropParts (n + 1) ps else dropParts n ps

def ofParts (ps : List String) : String := String.intercalate "/" ps

/-- The text of a path without blank parts at its end; the root keeps its separator. -/
def trimEnd (path : String) : String :=
  let kept := ((parts path).reverse.dropWhile isBlankPart).reverse
  if isAbsolute path then if kept.isEmpty then "/" else ofParts kept
  else
    match parts path with
    | "." :: _ => if kept.isEmpty then "." else ofParts kept
    | _ => ofParts kept

/-- The text of a path after a base, blank parts between components kept as they are. -/
def below? (path base : String) : Option String :=
  let b := components base
  if b.isPrefixOf (components path) then
    match b with
    | [] => some (trimEnd path)
    | .root :: rest | .current :: rest =>
      some (ofParts (trimParts (dropParts rest.length ((parts path).drop 1))))
    | _ => some (ofParts (trimParts (dropParts b.length (parts path))))
  else none

/-- The last component, when it is a name. -/
def fileName? (path : String) : Option String :=
  match (components path).getLast? with
  | some (.normal name) => some name
  | _ => none

/-- The path without its last component. -/
def parent? (path : String) : Option String :=
  match (components path).getLast? with
  | none | some .root => none
  | some _ =>
    let back := ((parts path).reverse.dropWhile isBlankPart).drop 1
    some (trimEnd (ofParts back.reverse |> fun p =>
      if isAbsolute path ∧ ¬isAbsolute p then "/" ++ p else p))

/-- Splits a name at its last dot; a name that only starts with a dot has no extension. -/
def splitExtension (name : String) : String × Option String :=
  if name == ".." then (name, none)
  else
    let back := name.toList.reverse
    let ext := back.takeWhile (· ≠ '.')
    match back.drop ext.length with
    | [] => (name, none)
    | _ :: stem =>
      if stem.isEmpty then (name, none)
      else (String.ofList stem.reverse, some (String.ofList ext.reverse))

/-- What follows the last dot of the file name. -/
def extension? (path : String) : Option String :=
  (fileName? path).bind fun name => (splitExtension name).2

end Workbench.Path

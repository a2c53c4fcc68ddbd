import Workbench.Disk

/-!
Watches on a tree.  A watch hears what happens to a place and to what stands directly in it, or
anywhere below it; what it hears is turned into changes of files, less those under excluded names.
-/

namespace Workbench

/-- What has become of a file. -/
inductive ChangeKind where
  | updated
  | added
  | deleted
deriving DecidableEq, Repr

def ChangeKind.code : ChangeKind → Nat
  | updated => 0
  | added => 1
  | deleted => 2

/-- A change of a file. -/
structure FileChange where
  path : String
  kind : ChangeKind
deriving DecidableEq, Repr

/-- What a watch hears.  A move that begins and ends under it is heard three times. -/
inductive Notice where
  | accessed (path : String)
  | created (path : String)
  | removed (path : String)
  | modified (path : String)
  | movedFrom (path : String)
  | movedTo (path : String)
  | moved (source target : String)
deriving DecidableEq, Repr

namespace Notice

/-- The kind of change that a notice means; reading means none. -/
def kind? : Notice → Option ChangeKind
  | accessed _ => none
  | created _ | movedTo _ => some .added
  | removed _ | movedFrom _ => some .deleted
  | modified _ | moved .. => some .updated

def paths : Notice → List String
  | accessed p | created p | removed p | modified p | movedFrom p | movedTo p => [p]
  | moved a b => [a, b]

/-- Drops a text from the front as often as it stands there. -/
def trimStart (lead : List Char) (cs : List Char) : (fuel : Nat) → List Char
  | 0 => cs
  | fuel + 1 => if lead.isPrefixOf cs then trimStart lead (cs.drop lead.length) fuel else cs

/-- The name that an exclusion pattern excludes: itself without `**/` in front, `/**` behind and
separators around. -/
def excludedName (pattern : String) : String :=
  let cs := pattern.toList
  let cs := trimStart "**/".toList cs cs.length
  let cs := (trimStart "**/".toList cs.reverse cs.length).reverse
  let bare := cs.dropWhile (· == '/')
  String.ofList (bare.reverse.dropWhile (· == '/')).reverse

/-- Whether one of the names is a component of a path. -/
def isExcluded (names : List String) (path : String) : Bool :=
  (Path.components path).any fun c => names.contains c.text

/-- The changes that a notice means, less the excluded. -/
def changes (excluded : List String) (n : Notice) : List FileChange :=
  match n.kind? with
  | none => []
  | some kind => (n.paths.filter fun p => !isExcluded excluded p).map fun path => ⟨path, kind⟩

end Notice

/-- A watch on a tree. -/
structure DiskWatch where
  id : Nat
  /-- The watched path as it was given; notices name files below it. -/
  path : String
  place : Place
  recursive : Bool
  /-- Names that no change is reported under. -/
  excluded : List String
deriving Repr

namespace DiskWatch

/-- The path under which a watch hears of a place, if it does. -/
def pathOf? (w : DiskWatch) (place : Place) : Option String :=
  if w.place.isPrefixOf place then
    let rest := place.drop w.place.length
    if w.recursive || rest.length ≤ 1 then some (rest.foldl Path.join w.path) else none
  else none

/-- What a watch hears when something happens. -/
def notices (w : DiskWatch) (place : Place) : Happening → List Notice
  | .created => ((w.pathOf? place).map Notice.created).toList
  | .removed => ((w.pathOf? place).map Notice.removed).toList
  | .modified => ((w.pathOf? place).map Notice.modified).toList
  | .movedTo target =>
    match w.pathOf? place, w.pathOf? target with
    | some a, some b => [.movedFrom a, .movedTo b, .moved a b]
    | some a, none => [.movedFrom a]
    | none, some b => [.movedTo b]
    | none, none => []

/-- The batches of changes that a watch reports of what has happened; empty ones are not reported. -/
def reports (w : DiskWatch) (happenings : List (Place × Happening)) : List (List FileChange) :=
  ((happenings.flatMap fun (place, h) => w.notices place h).map (·.changes w.excluded)).filter (· ≠ [])

end DiskWatch
end Workbench

import Mathlib.Data.List.Infix
import Workbench.Disk.Provider
import Workbench.Proofs.Path.Parent

/-!
What watches withhold.  A pattern is brought down to what stands between its wildcards, and this is compared with
one component of a path after the other.  So a pattern of one name withholds what has that name on its way, and a
pattern of several names withholds nothing.
-/

namespace Workbench

/-- A name that stands for itself in a pattern. -/
structure IsLiteral (name : String) : Prop where
  ne_empty : name ≠ ""
  no_slash : '/' ∉ name.toList
  no_star : '*' ∉ name.toList

instance (name : String) : Decidable (IsLiteral name) :=
  decidable_of_iff (name ≠ "" ∧ '/' ∉ name.toList ∧ '*' ∉ name.toList)
    ⟨fun h => ⟨h.1, h.2.1, h.2.2⟩, fun h => ⟨h.ne_empty, h.no_slash, h.no_star⟩⟩

/-- A pattern of names, with wildcards for whatever stands in front of them or behind. -/
structure Exclusion where
  /-- `**/` in front. -/
  anywhere : Bool
  names : List String
  /-- `/**` behind. -/
  throughout : Bool
  names_ne_nil : names ≠ []
  literal : ∀ name ∈ names, IsLiteral name

namespace Exclusion

def text (e : Exclusion) : String :=
  (if e.anywhere then "**/" else "") ++ Path.spell e.names ++ (if e.throughout then "/**" else "")

/-- The names stand in a path one behind the other. -/
def Occurs (e : Exclusion) (path : String) : Prop := e.names <:+: (Path.components path).map Path.Component.text

/-- There is one name, and it stands in the path. -/
def Withholds (e : Exclusion) (path : String) : Prop := e.names.length = 1 ∧ e.Occurs path

instance (e : Exclusion) (path : String) : Decidable (e.Occurs path) := inferInstanceAs (Decidable (_ <:+: _))

instance (e : Exclusion) (path : String) : Decidable (e.Withholds path) := inferInstanceAs (Decidable (_ ∧ _))

theorem spelled_ne_nil (e : Exclusion) : (Path.spell e.names).toList ≠ [] := by
  obtain ⟨first, rest, hnames⟩ := List.exists_cons_of_ne_nil e.names_ne_nil
  obtain ⟨back, hspell⟩ := Path.exists_spell_cons first rest
  have hfirst : first ≠ "" := (e.literal first (by simp [hnames])).ne_empty
  simp [hnames, hspell, hfirst]

/-- What a spelled pattern begins and ends with stands in a name, so it is neither a separator nor a star. -/
theorem plain_ends (e : Exclusion) :
    (∀ c ∈ (Path.spell e.names).toList.head?, c ≠ '/' ∧ c ≠ '*') ∧
      ∀ c ∈ (Path.spell e.names).toList.getLast?, c ≠ '/' ∧ c ≠ '*' := by
  have hplain : ∀ name ∈ e.names, ∀ c ∈ name.toList, c ≠ '/' ∧ c ≠ '*' := by
    intro name hname c hc
    exact ⟨fun h => (e.literal name hname).no_slash (h ▸ hc), fun h => (e.literal name hname).no_star (h ▸ hc)⟩
  have hne : ∀ name ∈ e.names, name.toList ≠ [] := fun name hname => by simpa using (e.literal name hname).ne_empty
  constructor
  · obtain ⟨first, rest, hnames⟩ := List.exists_cons_of_ne_nil e.names_ne_nil
    have hfirst : first ∈ e.names := by simp [hnames]
    obtain ⟨back, hspell⟩ := Path.exists_spell_cons first rest
    intro c hc
    rw [hnames, hspell, String.toList_append, List.head?_append_of_ne_nil _ (hne first hfirst)] at hc
    exact hplain first hfirst c (List.mem_of_mem_head? hc)
  · obtain ⟨before, last, hnames⟩ := (List.eq_nil_or_concat' e.names).resolve_left e.names_ne_nil
    have hlast : last ∈ e.names := by simp [hnames]
    obtain ⟨front, hspell⟩ := Path.exists_spell_concat before last
    intro c hc
    rw [hnames, hspell, String.toList_append, List.getLast?_append_of_ne_nil _ (hne last hlast)] at hc
    exact hplain last hlast c (List.mem_of_getLast? hc)

end Exclusion

namespace Notice

section Trimming

/-- A wildcard, or nothing. -/
def wildcard (wild : Bool) : List Char := if wild then "**/".toList else []

variable {lead cs : List Char}

theorem trimStart_eq_self (h : ¬lead <+: cs) (fuel : Nat) : trimStart lead cs fuel = cs := by
  cases fuel with
  | zero => rfl
  | succ fuel => rw [trimStart, if_neg (by simpa using h)]

theorem trimStart_append (fuel : Nat) : trimStart lead (lead ++ cs) (fuel + 1) = trimStart lead cs fuel := by
  rw [trimStart, if_pos (by simp), List.drop_left]

/-- A wildcard in front of something that does not begin with a star is dropped. -/
theorem trimStart_wildcard (h : ∀ c ∈ cs.head?, c ≠ '*') (wild : Bool) :
    trimStart "**/".toList (wildcard wild ++ cs) (wildcard wild ++ cs).length = cs := by
  have hnot : ¬"**/".toList <+: cs := by
    intro hprefix
    obtain ⟨rest, rfl⟩ := hprefix
    exact h '*' rfl rfl
  cases wild with
  | false => exact trimStart_eq_self hnot _
  | true => exact (trimStart_append _).trans (trimStart_eq_self hnot _)

theorem dropWhile_of_head? (h : ∀ c ∈ cs.head?, c ≠ '/') : cs.dropWhile (· == '/') = cs := by
  cases cs with
  | nil => rfl
  | cons c cs => exact List.dropWhile_cons_of_neg (by simpa using h c rfl)

end Trimming

/-- What a pattern is brought down to are its names, with separators between them. -/
theorem excludedName_text (e : Exclusion) : excludedName e.text = Path.spell e.names := by
  obtain ⟨hfront, hback⟩ := e.plain_ends
  have htext : e.text.toList =
      wildcard e.anywhere ++ ((Path.spell e.names).toList ++ (wildcard e.throughout).reverse) := by
    cases hany : e.anywhere with
    | false => cases hthrough : e.throughout <;> simp [Exclusion.text, wildcard, hany, hthrough]
    | true => cases hthrough : e.throughout <;> simp [Exclusion.text, wildcard, hany, hthrough]
  have hmiddle : ∀ c ∈ ((Path.spell e.names).toList ++ (wildcard e.throughout).reverse).head?, c ≠ '*' := by
    rw [List.head?_append_of_ne_nil _ e.spelled_ne_nil]
    exact fun c hc => (hfront c hc).2
  have hreverse : ((Path.spell e.names).toList ++ (wildcard e.throughout).reverse).reverse =
      wildcard e.throughout ++ (Path.spell e.names).toList.reverse := by simp
  have hlast : ∀ c ∈ (Path.spell e.names).toList.reverse.head?, c ≠ '/' ∧ c ≠ '*' := by
    rw [List.head?_reverse]
    exact hback
  simp only [excludedName, htext, trimStart_wildcard hmiddle]
  rw [← List.length_reverse, hreverse, trimStart_wildcard fun c hc => (hlast c hc).2, List.reverse_reverse,
    dropWhile_of_head? fun c hc => (hfront c hc).1, dropWhile_of_head? fun c hc => (hlast c hc).1,
    List.reverse_reverse, String.ofList_toList]

end Notice

namespace Path

/-- Nothing in a path but its root has a separator. -/
theorem slash_notMem_of_mem_components {path : String} {c : Component} (h : c ∈ components path) (hroot : c ≠ .root) :
    '/' ∉ c.text.toList := by
  rw [components_eq_leading, List.mem_append, leading_parts] at h
  rcases h with h | h
  · split at h
    · exact absurd (List.mem_singleton.1 h) hroot
    · split at h
      · rw [List.mem_singleton.1 h]
        decide
      · cases h
  · obtain ⟨part, hpart, rfl⟩ := List.mem_map.1 h
    have hslash : '/' ∉ part.toList := slash_notMem_parts (List.mem_filter.1 hpart).1
    rw [partComponent]
    split
    · decide
    · exact hslash

/-- Several names with separators between them are no component of a path. -/
theorem spell_notMem_components {path name : String} {names : List String} (hname : name ≠ "") (hnames : names ≠ []) :
    ∀ c ∈ components path, c.text ≠ spell (name :: names) := by
  intro c hc heq
  have hspell : (spell (name :: names)).toList = name.toList ++ '/' :: (spell names).toList := by
    rw [spell_cons hnames]
    simp
  have hslash : '/' ∈ c.text.toList := by
    rw [heq, hspell]
    simp
  by_cases hroot : c = .root
  · have hlength : (name.toList ++ '/' :: (spell names).toList).length = 1 := by
      rw [← hspell, ← heq, hroot]
      rfl
    have hempty : name.toList = [] := by
      rw [List.length_append, List.length_cons] at hlength
      exact List.length_eq_zero_iff.1 (by omega)
    exact hname (String.toList_eq_nil_iff.1 hempty)
  · exact slash_notMem_of_mem_components hc hroot hslash

end Path

/-- A pattern withholds what its only name stands in. -/
theorem Exclusion.withholds_iff (e : Exclusion) (path : String) :
    e.Withholds path ↔ ∃ c ∈ Path.components path, c.text = Notice.excludedName e.text := by
  rw [Notice.excludedName_text, Withholds, Occurs]
  obtain ⟨first, rest, hnames⟩ := List.exists_cons_of_ne_nil e.names_ne_nil
  have hfirst : first ≠ "" := (e.literal first (by simp [hnames])).ne_empty
  rw [hnames]
  by_cases hrest : rest = []
  · simp [hrest, List.singleton_infix_iff]
  · have hseveral : (first :: rest).length ≠ 1 := by simpa using hrest
    have hnone : ∀ c ∈ Path.components path, c.text ≠ Path.spell (first :: rest) :=
      Path.spell_notMem_components hfirst hrest
    constructor
    · exact fun h => absurd h.1 hseveral
    · rintro ⟨c, hc, heq⟩
      exact absurd heq (hnone c hc)

namespace Notice

theorem isExcluded_iff (patterns : List Exclusion) (path : String) :
    isExcluded ((patterns.map Exclusion.text).map excludedName) path = true ↔ ∃ e ∈ patterns, e.Withholds path := by
  simp only [isExcluded, List.any_eq_true, List.contains_iff_mem, List.mem_map, Exclusion.withholds_iff]
  constructor
  · rintro ⟨c, hc, text, ⟨e, he, rfl⟩, heq⟩
    exact ⟨e, he, c, hc, heq.symm⟩
  · rintro ⟨e, he, c, hc, heq⟩
    exact ⟨c, hc, e.text, ⟨e, he, rfl⟩, heq.symm⟩

theorem changes_eq_filter (excluded : List String) (n : Notice) :
    n.changes excluded = (n.changes []).filter fun change => !isExcluded excluded change.path := by
  have hnothing : ∀ path, isExcluded [] path = false := by
    intro path
    simp [isExcluded]
  rw [changes, changes]
  cases n.kind? with
  | none => rfl
  | some kind => simp [hnothing, List.filter_map, Function.comp_def]

end Notice

/-- What a watch reports is what it would report without exclusions, less the excluded. -/
theorem DiskWatch.flatten_reports (w : DiskWatch) (happenings : List (Place × Happening)) :
    (w.reports happenings).flatten =
      ({ w with excluded := [] }.reports happenings).flatten.filter fun change =>
        !Notice.isExcluded w.excluded change.path := by
  rw [reports, reports, List.flatten_filter_ne_nil, List.flatten_filter_ne_nil, List.filter_flatten, List.map_map]
  exact congrArg List.flatten (List.map_congr_left fun n _ => n.changes_eq_filter w.excluded)

namespace DiskHost

/-- What becomes of a request for a watch, and what the watch reports of some happenings if there is one. -/
def reported (h : DiskHost) (path : String) (o : WatchOptions) (happenings : List (Place × Happening)) :
    Outcome Nat × List FileChange :=
  let (r, after) := watch path o h
  (r, ((after.watches.drop h.watches.length).flatMap (·.reports happenings)).flatten)

section Reported

variable {h : DiskHost} {path : String} {o : WatchOptions} {happenings : List (Place × Happening)}

theorem reported_of_error {e : Errno} (hfind : h.disk.find? (Path.join "/" path) true = .error e) :
    h.reported path o happenings = (.error (watchFailure path (Path.join "/" path) o.recursive e), []) := by
  simp [reported, watch, hfind]

theorem reported_of_ok {found : Place × Entry} (hfind : h.disk.find? (Path.join "/" path) true = .ok found) :
    h.reported path o happenings =
      (.ok h.nextWatch,
        (DiskWatch.reports ⟨h.nextWatch, Path.join "/" path, found.1, o.recursive, o.excludes.map Notice.excludedName⟩
          happenings).flatten) := by
  simp [reported, watch, hfind]

end Reported

/-- Patterns do not decide whether something can be watched.  Of what is reported without any they withhold what the
only name of one of them stands in; patterns of several names withhold nothing. -/
theorem single_names_withheld (h : DiskHost) (path : String) (recursive : Bool) (patterns : List Exclusion)
    (happenings : List (Place × Happening)) :
    h.reported path ⟨recursive, patterns.map Exclusion.text⟩ happenings =
      ((h.reported path ⟨recursive, []⟩ happenings).1,
        (h.reported path ⟨recursive, []⟩ happenings).2.filter fun change =>
          ∀ e ∈ patterns, ¬e.Withholds change.path) := by
  have hkept : ∀ change : FileChange,
      (!Notice.isExcluded ((patterns.map Exclusion.text).map Notice.excludedName) change.path) =
        decide (∀ e ∈ patterns, ¬e.Withholds change.path) := by
    intro change
    rw [Bool.eq_iff_iff, Bool.not_eq_true', decide_eq_true_iff, ← Bool.not_eq_true, Notice.isExcluded_iff]
    simp
  cases hfind : h.disk.find? (Path.join "/" path) true with
  | error e => simp [reported_of_error hfind]
  | ok found =>
      rw [reported_of_ok hfind, reported_of_ok hfind, DiskWatch.flatten_reports]
      exact congrArg (Prod.mk _) (List.filter_congr fun change _ => hkept change)

/-- The object store of a repository, wherever it is. -/
def objectStore : Exclusion where
  anywhere := true
  names := [".git", "objects"]
  throughout := true
  names_ne_nil := by decide
  literal := by decide

theorem find?_root (d : Disk) : d.find? "/" true = .ok ([], d.root) := by
  have hparts : Disk.partsOf "/" = [] := by decide
  rw [Disk.find?, Disk.spot?, if_neg (by decide), if_neg (by decide), if_neg (by decide), hparts, Disk.walk]
  rfl

/-- A new object is reported though the pattern names the way to it. -/
theorem several_names_reported :
    objectStore.text = "**/.git/objects/**" ∧
      (({} : DiskHost).reported "/" ⟨true, [objectStore.text]⟩ [([".git", "objects", "x"], .created)]).2 =
        [⟨"/.git/objects/x", .added⟩] ∧
      objectStore.Occurs "/.git/objects/x" := by
  have hjoin : Path.join "/" "/" = "/" := by decide
  have hfind := find?_root ({} : DiskHost).disk
  rw [← hjoin] at hfind
  refine ⟨by decide, ?_, by decide⟩
  rw [reported_of_ok hfind]
  decide +kernel

end DiskHost

end Workbench

import Mathlib.Data.List.TakeWhile
import Workbench.Proofs.Path
import Workbench.Resource.Addressing

/-!
Files below the roots of a connection, on the disk and in the schemes that stand for the roots.  A file
has one address below each root that holds it; when no root lies inside another, at most one root holds it.
-/

namespace Workbench

/-- What the standing schemes stand for. -/
inductive Root where
  | app
  | content
  | userData
deriving DecidableEq, Repr

/-- The scheme in which a client addresses the files of a root. -/
def Root.scheme : Root → String
  | .app => Resource.remoteScheme
  | .content => Resource.citizenScheme
  | .userData => Resource.userDataScheme

/-- The directory of a root. -/
def Roots.at (r : Roots) : Root → String
  | .app => r.app
  | .content => r.content
  | .userData => r.userData

/-- Roots that are absolute and written in the normal way, none inside another. -/
structure Roots.Separate (r : Roots) : Prop where
  normal : ∀ p, Path.IsNormal (r.at p)
  apart : ∀ p q, p ≠ q → Path.Apart (r.at p) (r.at q)

namespace Addressing

open Resource

/-- The client's address of a file below a root. -/
def address (a : Addressing) : Root → List String → Resource
  | .app, names =>
    { scheme := remoteScheme, authority := a.authority, path := "/static/" ++ Path.spell names }
  | .content, names => { scheme := citizenScheme, path := "/" ++ Path.spell names }
  | .userData, names => { scheme := userDataScheme, path := "/" ++ Path.spell names }

/-- A file below a root. -/
def stored (a : Addressing) (p : Root) (names : List String) : Resource :=
  { scheme := fileScheme, path := a.roots.at p ++ "/" ++ Path.spell names }

/-- The path of these names leads to the files of the application, whatever its scheme. -/
def IsStatic (names : List String) : Prop :=
  ∃ top below, names = top :: below ∧ below ≠ [] ∧ "static".toList <+: top.toList

section Static

theorem after?_eq_some_iff {lead cs rest : List Char} : after? lead cs = some rest ↔ cs = lead ++ rest := by
  induction lead generalizing cs with
  | nil => simp [after?]
  | cons l lead ih =>
      cases cs with
      | nil => simp [after?]
      | cons c cs =>
          by_cases hc : l = c
          · simp [after?, hc, ih]
          · simp [after?, hc, Ne.symm hc]

/-- A lead without a slash in front of a text is a lead in front of its first slash. -/
theorem cut_eq_append_iff {lead front back rest : List Char} (hlead : '/' ∉ lead) :
    front ++ '/' :: back = lead ++ rest ↔ ∃ more, front = lead ++ more ∧ rest = more ++ '/' :: back := by
  rw [List.append_eq_append_iff]
  constructor
  · rintro (⟨more, rfl, hback⟩ | hfront)
    · cases more with
      | nil => exact ⟨[], by simp, by simpa using hback.symm⟩
      | cons c more =>
          obtain ⟨rfl, -⟩ := List.cons.inj hback
          exact absurd (by simp) hlead
    · exact hfront
  · exact .inr

theorem dropWhile_cut {front back : List Char} (hfront : '/' ∉ front) :
    (front ++ '/' :: back).dropWhile (· ≠ '/') = '/' :: back := by
  rw [List.dropWhile_append_of_pos, List.dropWhile_cons_of_neg (by simp)]
  intro c hc
  simpa using fun heq : c = '/' => hfront (heq ▸ hc)

theorem dropWhile_uncut {cs : List Char} (hcs : '/' ∉ cs) : cs.dropWhile (· ≠ '/') = [] := by
  rw [List.dropWhile_eq_nil_iff]
  intro c hc
  simpa using fun heq : c = '/' => hcs (heq ▸ hc)

variable {names : List String} (hnames : ∀ name ∈ names, Path.IsName name)
include hnames

/-- A path has something behind a leading `/static` and the slash after it exactly when it has a first name
that begins so and further names; they are what is behind it. -/
theorem staticRest?_eq_some_iff {rest : String} :
    staticRest? (Path.absolute names) = some rest ↔ IsStatic names ∧ rest = Path.spell names.tail := by
  have hafter : ∀ cs rest,
      after? "/static".toList ('/' :: cs) = some rest ↔ cs = "static".toList ++ rest := by
    intro cs rest
    rw [after?_eq_some_iff, show "/static".toList = '/' :: "static".toList from rfl, List.cons_append,
      List.cons_inj_right]
  simp only [staticRest?, Path.toList_absolute, Option.bind_eq_bind, Option.bind_eq_some_iff, hafter]
  match names, hnames with
  | [], _ => simp [IsStatic, Path.spell]
  | [top], hnames =>
      have hnone : ¬ IsStatic [top] := by
        rintro ⟨_, _, heq, hbelow, _⟩
        exact hbelow (List.cons.inj heq).2.symm
      refine iff_of_false ?_ fun h => hnone h.1
      rintro ⟨more, htop, hrest⟩
      have hmore : '/' ∉ more := by
        have hslash := (hnames top List.mem_cons_self).no_slash
        rw [Path.spell_singleton] at htop
        exact fun hc => hslash (htop ▸ List.mem_append_right _ hc)
      rw [dropWhile_uncut hmore] at hrest
      cases hrest
  | top :: next :: below, hnames =>
      have hne : next :: below ≠ [] := List.cons_ne_nil _ _
      have hspell : (Path.spell (top :: next :: below)).toList =
          top.toList ++ '/' :: (Path.spell (next :: below)).toList := by
        simp [Path.spell_cons hne]
      have hslash := (hnames top List.mem_cons_self).no_slash
      simp only [hspell, cut_eq_append_iff (show '/' ∉ "static".toList by decide)]
      constructor
      · rintro ⟨_, ⟨more, htop, rfl⟩, hrest⟩
        rw [dropWhile_cut fun hc => hslash (htop ▸ List.mem_append_right _ hc)] at hrest
        exact ⟨⟨top, next :: below, rfl, hne, ⟨more, htop.symm⟩⟩, by simpa using hrest.symm⟩
      · rintro ⟨⟨_, _, heq, _, more, htop⟩, rfl⟩
        obtain ⟨rfl, -⟩ := List.cons.inj heq
        refine ⟨_, ⟨more, htop.symm, rfl⟩, ?_⟩
        rw [dropWhile_cut fun hc => hslash (htop ▸ List.mem_append_right _ hc)]
        simp

theorem staticRest?_eq_none (hstatic : ¬ IsStatic names) : staticRest? (Path.absolute names) = none := by
  rw [Option.eq_none_iff_forall_ne_some]
  intro rest hrest
  exact hstatic ((staticRest?_eq_some_iff hnames).1 hrest).1

end Static

section Files

/-- The local file with these names. -/
def fileAt (names : List String) : Resource := { scheme := fileScheme, path := Path.absolute names }

theorem forwardSlashes_eq_self {path : String} (hplain : '\\' ∉ path.toList) : forwardSlashes path = path := by
  rw [forwardSlashes, List.map_congr_left (g := id), List.map_id, String.ofList_toList]
  intro c hc
  exact if_neg fun heq : c = '\\' => hplain (heq ▸ hc)

theorem file_absolute {names : List String} (hplain : '\\' ∉ (Path.absolute names).toList) :
    file (Path.absolute names) = fileAt names := by
  rw [file, forwardSlashes_eq_self hplain, Path.isAbsolute_absolute]
  rfl

theorem fsPath_fileAt {names : List String} (hdrive : driveless? (Path.absolute names) = none) :
    (fileAt names).fsPath = Path.absolute names := by
  rw [fsPath, if_neg (by simp [fileAt])]
  exact congrArg (Option.getD · _) hdrive

end Files

/-- The names of the roots of a connection: each has some, and none begins with those of another. -/
structure Layout (r : Roots) (above : Root → List String) : Prop where
  isName : ∀ p, ∀ name ∈ above p, Path.IsName name
  root_eq : ∀ p, r.at p = Path.absolute (above p)
  ne_nil : ∀ p, above p ≠ []
  eq_of_prefix : ∀ p q, above p <+: above q → p = q

theorem layout_of_separate {r : Roots} (hroots : r.Separate) : ∃ above, Layout r above := by
  choose above hnames hroot using hroots.normal
  have heq : ∀ p q, above p <+: above q → p = q := by
    intro p q hbegins
    by_contra hne
    have hapart := (hroots.apart p q hne).1
    rw [hroot, hroot, Path.components_prefix_iff (hnames p) (hnames q)] at hapart
    exact hapart hbegins
  refine ⟨above, hnames, hroot, ?_, heq⟩
  -- the root of all paths would hold every other root
  intro p hnil
  have hall : ∀ q, p = q := fun q => heq p q (hnil ▸ List.nil_prefix)
  cases (hall .app).symm.trans (hall .content)

/-- At most one root holds a path. -/
theorem Layout.eq_of_prefixes {r : Roots} {above : Root → List String} (hlayout : Layout r above)
    {p q : Root} {names : List String} (hp : above p <+: names) (hq : above q <+: names) : p = q := by
  rcases List.prefix_or_prefix_of_prefix hp hq with h | h
  · exact hlayout.eq_of_prefix p q h
  · exact (hlayout.eq_of_prefix q p h).symm

theorem Layout.root_append {r : Roots} {above : Root → List String} (hlayout : Layout r above) (p : Root)
    {names : List String} (hne : names ≠ []) :
    r.at p ++ "/" ++ Path.spell names = Path.absolute (above p ++ names) := by
  rw [hlayout.root_eq, Path.absolute_append (hlayout.ne_nil p) hne]

section Roots

variable {a : Addressing} {above : Root → List String} (hlayout : Layout a.roots above)
  {names : List String} (hnames : ∀ name ∈ names, Path.IsName name)
include hlayout hnames

theorem holdings_absolute : a.holdings (Path.absolute names) =
    [Root.userData, .content, .app].filterMap fun p =>
      if above p <+: names then
        some ⟨(above p).length + 1, p.scheme, (names.drop (above p).length).map .normal⟩
      else none := by
  have hempty : ∀ p, a.roots.at p ≠ "" := by
    intro p heq
    have htoList := Path.toList_absolute (above p)
    rw [← hlayout.root_eq, heq] at htoList
    cases htoList
  have hheld : ∀ p, ((Path.componentsBelow? (Path.absolute names) (a.roots.at p)).map fun rest =>
      (⟨(Path.components (a.roots.at p)).length, p.scheme, rest⟩ : Holding)) =
      if above p <+: names then
        some ⟨(above p).length + 1, p.scheme, (names.drop (above p).length).map .normal⟩
      else none := by
    intro p
    rw [hlayout.root_eq, Path.componentsBelow?_absolute (hlayout.isName p) hnames,
      Path.components_absolute (hlayout.isName p)]
    split <;> simp
  have happ : a.roots.app ≠ "" := hempty .app
  have hcontent : a.roots.content ≠ "" := hempty .content
  have huserData : a.roots.userData ≠ "" := hempty .userData
  simp only [holdings, ne_eq, huserData, hcontent, happ, not_false_eq_true, decide_true, List.filter_cons_of_pos,
    List.filter_nil]
  simp only [← hheld]
  rfl

/-- A path below a root is held by that root alone. -/
theorem holdings_of_prefix {p : Root} (hp : above p <+: names) : a.holdings (Path.absolute names) =
    [⟨(above p).length + 1, p.scheme, (names.drop (above p).length).map .normal⟩] := by
  have hother : ∀ q, above q <+: names ↔ q = p := fun q =>
    ⟨fun hq => hlayout.eq_of_prefixes hq hp, fun heq => heq ▸ hp⟩
  rw [holdings_absolute hlayout hnames]
  simp only [hother]
  cases p <;> rfl

theorem toRemote_outside (hdrive : driveless? (Path.absolute names) = none)
    (hout : ∀ p, ¬ above p <+: names) : a.toRemote (fileAt names) = fileAt names := by
  have hnone : a.holdings (Path.absolute names) = [] := by
    rw [holdings_absolute hlayout hnames]
    simp [hout]
  rw [toRemote, if_neg (by simp [fileAt]), fsPath_fileAt hdrive, hnone]
  rfl

end Roots

theorem toRemote_below {a : Addressing} {above : Root → List String} (hlayout : Layout a.roots above)
    {p : Root} {names : List String} (hnames : ∀ name ∈ above p ++ names, Path.IsName name)
    (hdrive : driveless? (Path.absolute (above p ++ names)) = none) :
    a.toRemote (fileAt (above p ++ names)) = a.address p names := by
  rw [toRemote, if_neg (by simp [fileAt]), fsPath_fileAt hdrive,
    holdings_of_prefix hlayout hnames (List.prefix_append _ _)]
  simp only [deepest?, List.drop_left, Path.slashJoin_normal]
  cases p <;> rfl

end Addressing
end Workbench

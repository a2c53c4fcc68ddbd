import Workbench.Proofs.Resource.Standing

/-!
Whether the client finds its way back.  A changed file is reported in the address space in which the client
knows it, and the address leads back to the file unless the path that the client is shown begins like
the paths that lead to the application.  Addresses below the roots otherwise come back from their files, and
files from their addresses.
-/

namespace Workbench.Addressing

open Resource

/-- The client addresses the resource by a scheme or path that stands for something else. -/
def Stands (a : Addressing) (addressed : Resource) : Prop :=
  a.toLocal (a.incoming addressed) ≠ a.incoming addressed

instance (a : Addressing) (addressed : Resource) : Decidable (a.Stands addressed) :=
  inferInstanceAs (Decidable (_ ≠ _))

theorem restore_of_stands {a : Addressing} {addressed : Resource} (hstands : a.Stands addressed)
    (r : Resource) : a.restore r addressed = a.outgoing (a.toRemote r) := if_pos hstands

theorem restore_of_not_stands {a : Addressing} {addressed : Resource} (hstands : ¬ a.Stands addressed)
    (r : Resource) : a.restore r addressed = a.outgoing r := if_neg hstands

theorem outgoing_address (a : Addressing) (p : Root) (names : List String) :
    a.outgoing (a.address p names) = a.address p names := by
  cases p <;> rfl

theorem outgoing_fileAt (a : Addressing) (names : List String) : a.outgoing (fileAt names) =
    { scheme := remoteScheme, authority := a.authority, path := Path.absolute names } := rfl

section Resolution

variable {a : Addressing} {above : Root → List String} (hlayout : Layout a.roots above)
  {names : List String} (hnames : ∀ name ∈ names, Path.IsName name)

include hlayout hnames in
theorem join_root (p : Root) (hne : names ≠ []) :
    Path.join (a.roots.at p) (Path.spell names) = Path.absolute (above p ++ names) := by
  rw [hlayout.root_eq, Path.join_absolute (hlayout.isName p) hnames (hlayout.ne_nil p) hne]

include hlayout hnames in
/-- Whatever the scheme, a path that begins like those of the application leads there. -/
theorem toLocal_static {r : Resource} (hpath : r.path = Path.absolute names) (hstatic : IsStatic names) :
    a.toLocal r = file (a.roots.app ++ "/" ++ Path.spell names.tail) := by
  have hrest := (staticRest?_eq_some_iff hnames).2 ⟨hstatic, rfl⟩
  obtain ⟨top, below, rfl, hbelow, -⟩ := hstatic
  have hjoin := join_root hlayout (fun name hname => hnames name (List.mem_cons_of_mem top hname)) .app hbelow
  rw [toLocal, hpath, hrest]
  exact congrArg file (hjoin.trans (hlayout.root_append .app hbelow).symm)

/-- Without a query the scheme decides. -/
theorem toLocal_of_scheme (a : Addressing) {r : Resource} (hrest : staticRest? r.path = none)
    (hquery : r.query = "") :
    a.toLocal r =
      if r.scheme = citizenScheme then file (Path.join a.roots.content (relative r.path))
      else if r.scheme = userDataScheme then file (Path.join a.roots.userData (relative r.path))
      else r := by
  rw [toLocal, hrest]
  simp only [hquery, ne_eq, not_true_eq_false, and_false, ↓reduceIte]

include hnames in
theorem toLocal_fileAt (a : Addressing) (hstatic : ¬ IsStatic names) :
    a.toLocal (fileAt names) = fileAt names := by
  rw [toLocal_of_scheme a (r := fileAt names) (staticRest?_eq_none hnames hstatic) rfl]
  rfl

theorem relative_absolute (names : List String) : relative (Path.absolute names) = Path.spell names := by
  rw [relative, Path.toList_absolute]
  exact String.ofList_toList

include hlayout hnames in
theorem toLocal_app {r : Resource} (hpath : r.path = "/static/" ++ Path.spell names) (hne : names ≠ []) :
    a.toLocal r = file (Path.absolute (above .app ++ names)) := by
  have hname : Path.IsName "static" := by decide
  have hnames' : ∀ name ∈ "static" :: names, Path.IsName name := by simpa using ⟨hname, hnames⟩
  have hpath' : r.path = Path.absolute ("static" :: names) := by
    rw [hpath, Path.absolute, Path.spell_cons hne]
    rfl
  rw [toLocal_static hlayout hnames' hpath' ⟨_, _, rfl, hne, List.prefix_rfl⟩]
  exact congrArg file (hlayout.root_append .app hne)

include hlayout hnames in
/-- An address below a root leads to the file there, unless the path begins like those of the application. -/
theorem toLocal_address (p : Root) (hne : names ≠ []) (hstatic : p = .app ∨ ¬ IsStatic names) :
    a.toLocal (a.address p names) = file (Path.absolute (above p ++ names)) := by
  have hjoin := join_root hlayout hnames p hne
  cases p with
  | app => exact toLocal_app hlayout hnames rfl hne
  | content =>
      have hrest := staticRest?_eq_none hnames (hstatic.resolve_left (by decide))
      rw [toLocal_of_scheme a (r := a.address .content names) hrest rfl, ← hjoin, ← relative_absolute]
      rfl
  | userData =>
      have hrest := staticRest?_eq_none hnames (hstatic.resolve_left (by decide))
      rw [toLocal_of_scheme a (r := a.address .userData names) hrest rfl, ← hjoin, ← relative_absolute]
      rfl

include hlayout hnames in
theorem resolve_address (p : Root) (hne : names ≠ []) (hstatic : p = .app ∨ ¬ IsStatic names) :
    a.resolve (a.address p names) = file (Path.absolute (above p ++ names)) := by
  have hlocal := toLocal_address hlayout hnames p hne hstatic
  cases p with
  | app => exact toLocal_app hlayout hnames rfl hne
  | content | userData => exact hlocal

include hlayout hnames in
theorem resolve_address_static {p : Root} (hroot : p ≠ .app) (hstatic : IsStatic names) :
    a.resolve (a.address p names) = file (a.roots.app ++ "/" ++ Path.spell names.tail) := by
  cases p with
  | app => exact absurd rfl hroot
  | content | userData => exact toLocal_static hlayout hnames rfl hstatic

include hlayout hnames in
theorem resolve_outgoing_static (hstatic : IsStatic names) :
    a.resolve (a.outgoing (fileAt names)) = file (a.roots.app ++ "/" ++ Path.spell names.tail) :=
  toLocal_static hlayout hnames rfl hstatic

end Resolution

/-- A path of these names lies below a root, with some of the names left. -/
def Below (root : String) (names left : List String) : Prop :=
  ∃ above, root = Path.absolute above ∧ names = above ++ left

/-- The names in the path under which the client is shown a file, the files of the application apart when
they are shown as such. -/
inductive Shows (a : Addressing) (addressed : Resource) (names : List String) : List String → Prop
  | whole (hplain : ¬ a.Stands addressed ∨ ∀ p left, ¬ Below (a.roots.at p) names left) :
      Shows a addressed names names
  | below (p : Root) (left : List String) (hstands : a.Stands addressed) (hroot : p ≠ .app)
      (hbelow : Below (a.roots.at p) names left) : Shows a addressed names left

section Restoring

variable {a : Addressing} {above : Root → List String} (hlayout : Layout a.roots above)
  {names : List String} (hnames : ∀ name ∈ names, Path.IsName name)
include hlayout hnames

theorem below_iff {p : Root} {left : List String} :
    Below (a.roots.at p) names left ↔ names = above p ++ left := by
  rw [hlayout.root_eq]
  constructor
  · rintro ⟨other, hroot, rfl⟩
    have hother : ∀ name ∈ other, Path.IsName name := fun name hname =>
      hnames name (List.mem_append_left _ hname)
    rw [(Path.absolute_inj (hlayout.isName p) hother).1 hroot]
  · rintro rfl
    exact ⟨above p, rfl, rfl⟩

/-- Of a file below a root, the client that addresses it by a standing scheme is shown what is left. -/
theorem shows_below_iff {addressed : Resource} (hstands : a.Stands addressed) {p : Root}
    {left : List String} (hleft : names = above p ++ left) (shown : List String) :
    a.Shows addressed names shown ↔ p ≠ .app ∧ shown = left := by
  constructor
  · rintro (hplain | ⟨q, _, _, hroot, hbelow⟩)
    · rcases hplain with hplain | hplain
      · exact absurd hstands hplain
      · exact absurd ((below_iff hlayout hnames).2 hleft) (hplain p left)
    · rw [below_iff hlayout hnames] at hbelow
      obtain rfl := hlayout.eq_of_prefixes (p := p) (q := q) ⟨left, hleft.symm⟩ ⟨shown, hbelow.symm⟩
      exact ⟨hroot, List.append_cancel_left (hbelow.symm.trans hleft)⟩
  · rintro ⟨hroot, rfl⟩
    exact .below p shown hstands hroot ((below_iff hlayout hnames).2 hleft)

theorem shows_whole_iff {addressed : Resource}
    (hplain : ¬ a.Stands addressed ∨ ∀ p, ¬ above p <+: names) (shown : List String) :
    a.Shows addressed names shown ↔ shown = names := by
  have hnone : ¬ a.Stands addressed ∨ ∀ p left, ¬ Below (a.roots.at p) names left := by
    refine hplain.imp_right fun hout p left hbelow => hout p ?_
    exact ⟨left, ((below_iff hlayout hnames).1 hbelow).symm⟩
  constructor
  · rintro (_ | ⟨p, _, hstands, _, hbelow⟩)
    · rfl
    · exact (hnone.elim (· hstands) fun hout => hout p shown hbelow).elim
  · rintro rfl
    exact .whole hnone

end Restoring

/-- An installation with roots far apart. -/
def farApart : Addressing := ⟨"localhost:35419", ⟨"/opt/fxcode", "/srv/citizen", "/home/u/.fxcode"⟩⟩

theorem farApart_separate : farApart.roots.Separate where
  normal
    | .app => ⟨["opt", "fxcode"], by decide, by decide⟩
    | .content => ⟨["srv", "citizen"], by decide, by decide⟩
    | .userData => ⟨["home", "u", ".fxcode"], by decide, by decide⟩
  apart p q := by cases p <;> cases q <;> decide

/-- The roots of a connection are separate, a file has a normal path without backslashes and without a drive
letter and is none of the roots.  Its address in a client's address space leads back to it exactly when the
path shown to the client does not begin like the paths of the application, or what it then stands for is
that very file. -/
theorem resolve_restore_iff {a : Addressing} (hroots : a.roots.Separate) {names : List String}
    (hnames : ∀ name ∈ names, Path.IsName name) (hplain : ∀ name ∈ names, '\\' ∉ name.toList)
    (hdrive : driveless? (Path.absolute names) = none) (hroot : ∀ p, Path.absolute names ≠ a.roots.at p)
    (addressed : Resource) :
    a.resolve (a.restore (fileAt names) addressed) = fileAt names ↔
      ∀ shown, a.Shows addressed names shown → IsStatic shown →
        file (a.roots.app ++ "/" ++ Path.spell shown.tail) = fileAt names := by
  obtain ⟨above, hlayout⟩ := layout_of_separate hroots
  have hfile : file (Path.absolute names) = fileAt names := by
    refine file_absolute ?_
    simpa [Path.mem_spell (show '\\' ≠ '/' by decide)] using hplain
  by_cases hheld : a.Stands addressed ∧ ∃ p, above p <+: names
  · obtain ⟨hstands, p, left, rfl⟩ := hheld
    have hleft : left ≠ [] := by
      rintro rfl
      rw [List.append_nil] at hroot
      exact hroot p (hlayout.root_eq p).symm
    have hnames' : ∀ name ∈ left, Path.IsName name := fun name hname =>
      hnames name (List.mem_append_right _ hname)
    rw [restore_of_stands hstands, toRemote_below hlayout hnames hdrive, outgoing_address]
    simp only [shows_below_iff hlayout hnames hstands rfl]
    by_cases hstatic : p = .app ∨ ¬ IsStatic left
    · rw [resolve_address hlayout hnames' p hleft hstatic, hfile]
      refine iff_of_true rfl ?_
      rintro shown ⟨hother, rfl⟩ h
      exact absurd h (hstatic.resolve_left hother)
    · rw [not_or, not_not] at hstatic
      rw [resolve_address_static hlayout hnames' hstatic.1 hstatic.2]
      simp [hstatic]
  · have hshown : ¬ a.Stands addressed ∨ ∀ p, ¬ above p <+: names := by
      rw [not_and_or] at hheld
      exact hheld.imp_right fun h p hp => h ⟨p, hp⟩
    have hrestore : a.restore (fileAt names) addressed = a.outgoing (fileAt names) := by
      by_cases hstands : a.Stands addressed
      · have hout := hshown.resolve_left (not_not_intro hstands)
        rw [restore_of_stands hstands, toRemote_outside hlayout hnames hdrive hout]
      · exact restore_of_not_stands hstands _
    rw [hrestore]
    simp only [shows_whole_iff hlayout hnames hshown, forall_eq]
    by_cases hstatic : IsStatic names
    · rw [resolve_outgoing_static hlayout hnames hstatic]
      simp [hstatic]
    · exact iff_of_true (toLocal_fileAt hnames a hstatic) fun h => absurd h hstatic

/-- A new file of the content tree is reported where its directory was watched. -/
theorem resolve_restore_newFile :
    let names := ["srv", "citizen", "resources", "chat", "new.lua"]
    let addressed : Resource := { scheme := citizenScheme, path := "/resources" }
    (∀ name ∈ names, Path.IsName name) ∧ (∀ name ∈ names, '\\' ∉ name.toList) ∧
      driveless? (Path.absolute names) = none ∧ (∀ p, Path.absolute names ≠ farApart.roots.at p) ∧
      farApart.restore (fileAt names) addressed = farApart.address .content ["resources", "chat", "new.lua"] ∧
      ∀ shown, farApart.Shows addressed names shown → IsStatic shown →
        file (farApart.roots.app ++ "/" ++ Path.spell shown.tail) = fileAt names := by
  have hroot : ∀ p,
      Path.absolute ["srv", "citizen", "resources", "chat", "new.lua"] ≠ farApart.roots.at p := by
    intro p
    cases p <;> decide
  refine ⟨by decide, by decide, by decide, hroot, by decide, ?_⟩
  exact (resolve_restore_iff farApart_separate (by decide) (by decide) (by decide) hroot _).1 (by decide)

/-- A file in a directory of the content tree whose name begins with `static` is reported under an address that
leads to the application. -/
theorem static_content_leads_astray :
    let names := ["srv", "citizen", "static", "x.txt"]
    let shown := farApart.restore (fileAt names) { scheme := citizenScheme, path := "/" }
    farApart.roots.Separate ∧ (∀ name ∈ names, Path.IsName name) ∧ (∀ name ∈ names, '\\' ∉ name.toList) ∧
      driveless? (Path.absolute names) = none ∧ (∀ p, Path.absolute names ≠ farApart.roots.at p) ∧
      shown = { scheme := citizenScheme, path := "/static/x.txt" } ∧
      farApart.resolve shown = fileAt ["opt", "fxcode", "x.txt"] ∧
      farApart.resolve shown ≠ fileAt names := by
  refine ⟨farApart_separate, by decide, by decide, by decide, ?_, by decide, by decide, by decide⟩
  intro p
  cases p <;> decide

end Workbench.Addressing

import Workbench.Proofs.Resource.Restore

/-!
Addresses below the roots and the files they stand for.  Either comes back from the other, and what a client
addresses by the scheme of a root is reported to it in that scheme, unless it is a web view's request that
names no file.
-/

namespace Workbench.Addressing

open Resource

/-- Neither backslashes nor a drive letter. -/
def Plain (path : String) : Prop := '\\' ∉ path.toList ∧ driveless? path = none

/-- What a web view asks for, without the file it is about. -/
def Malformed (r : Resource) : Prop := r.path = webviewPath ∧ r.query ≠ "" ∧ webviewTarget? r.query = none

section Files

/-- A path below a directory that has no drive letter has none. -/
theorem driveless?_below {root : String} (hlong : 2 ≤ root.toList.length) (hdrive : driveless? root = none)
    (rest : String) : driveless? (root ++ "/" ++ rest) = none := by
  have htoList : (root ++ "/" ++ rest).toList = root.toList ++ '/' :: rest.toList := by simp
  rw [driveless?] at hdrive ⊢
  rw [htoList]
  match root.toList, hlong, hdrive with
  | [c, d], _, _ => simp
  | c :: d :: e :: cs, _, hdrive =>
      simp only [List.cons_append]
      split at hdrive
      · next heq =>
          obtain ⟨rfl, rfl, rfl, rfl⟩ := by simpa using heq
          split at hdrive
          · cases hdrive
          · next halpha => simp [halpha]
      · next hother =>
          split
          · next heq =>
              obtain ⟨rfl, rfl, rfl, -⟩ := by simpa using heq
              exact absurd rfl (hother d cs)
          · rfl

variable {a : Addressing} {above : Root → List String} (hlayout : Layout a.roots above)
include hlayout

theorem stored_eq (p : Root) {names : List String} (hne : names ≠ []) :
    a.stored p names = fileAt (above p ++ names) := by
  rw [stored, hlayout.root_append p hne]
  rfl

/-- Below a plain root, plain names make a plain path. -/
theorem plain_below {p : Root} (hroot : Plain (a.roots.at p)) {names : List String} (hne : names ≠ [])
    (hplain : ∀ name ∈ names, '\\' ∉ name.toList) : Plain (Path.absolute (above p ++ names)) := by
  obtain ⟨top, rest, habove⟩ := List.exists_cons_of_ne_nil (hlayout.ne_nil p)
  have htop : top.toList ≠ [] := by
    simpa using (hlayout.isName p top (habove ▸ List.mem_cons_self)).ne_empty
  have hlong : 2 ≤ (a.roots.at p).toList.length := by
    obtain ⟨c, cs, hcs⟩ := List.exists_cons_of_ne_nil htop
    rw [hlayout.root_eq, Path.toList_absolute, habove]
    cases rest with
    | nil => simp [hcs]
    | cons next rest => simp [Path.spell_cons, hcs]
  rw [← hlayout.root_append p hne]
  refine ⟨?_, driveless?_below hlong hroot.2 _⟩
  simpa [hroot.1, Path.mem_spell (show '\\' ≠ '/' by decide)] using hplain

end Files

/-- What has the scheme of a root stands for a file, a malformed request of a web view apart. -/
theorem stands_iff (a : Addressing) {r : Resource} {p : Root} (hroot : p ≠ .app)
    (hscheme : r.scheme = p.scheme) :
    a.Stands r ↔ ¬ Malformed r := by
  have hsame : a.incoming r = r := by
    rw [incoming, hscheme]
    cases p with
    | app => exact absurd rfl hroot
    | content | userData => rfl
  have hfile : ∀ path, file path ≠ r := by
    intro path heq
    have hschemes : fileScheme = p.scheme := (congrArg Resource.scheme heq).trans hscheme
    cases p <;> exact absurd hschemes (by decide)
  rw [Stands, hsame]
  rw [toLocal]
  split
  · next rest hrest =>
      refine iff_of_true (hfile _) fun hmalformed => ?_
      rw [hmalformed.1, show staticRest? webviewPath = none by decide] at hrest
      cases hrest
  · split
    · next hview =>
        split
        · next target htarget =>
            refine iff_of_true (hfile _) fun hmalformed => ?_
            rw [hmalformed.2.2] at htarget
            cases htarget
        · next htarget => exact iff_of_false (not_not_intro rfl) (not_not_intro ⟨hview.1, hview.2, htarget⟩)
    · next hview =>
        refine iff_of_true ?_ fun hmalformed => hview ⟨hmalformed.1, hmalformed.2.1⟩
        rw [hscheme]
        cases p with
        | app => exact absurd rfl hroot
        | content | userData => exact hfile _

/-- Roots that are separate, with neither backslashes nor drive letters, and names without backslashes: below
each root an address comes back from its file and a file from its address, unless the scheme is that of
a root and the names begin like the paths of the application; and a file below a root is reported in the
root's scheme to whoever addresses it by that scheme, malformed requests of a web view apart. -/
theorem addresses_round_trip {a : Addressing} (hroots : a.roots.Separate) (hplain : ∀ p, Plain (a.roots.at p))
    {names : List String} (hne : names ≠ []) (hnames : ∀ name ∈ names, Path.IsName name)
    (hplainNames : ∀ name ∈ names, '\\' ∉ name.toList) (p : Root) :
    ((p = .app ∨ ¬ IsStatic names) →
      a.toRemote (a.toLocal (a.address p names)) = a.address p names ∧
        a.toLocal (a.toRemote (a.stored p names)) = a.stored p names) ∧
      ∀ addressed : Resource, p ≠ .app → addressed.scheme = p.scheme →
        ((a.restore (a.stored p names) addressed).scheme = p.scheme ↔ ¬ Malformed addressed) := by
  obtain ⟨above, hlayout⟩ := layout_of_separate hroots
  have hbelow := plain_below hlayout (hplain p) hne hplainNames
  have hall : ∀ name ∈ above p ++ names, Path.IsName name := by
    intro name hname
    exact (List.mem_append.1 hname).elim (hlayout.isName p name) (hnames name)
  have hremote : a.toRemote (a.stored p names) = a.address p names := by
    rw [stored_eq hlayout p hne, toRemote_below hlayout hall hbelow.2]
  refine ⟨fun hstatic => ?_, fun addressed hroot hscheme => ?_⟩
  · have hlocal : a.toLocal (a.address p names) = a.stored p names := by
      rw [toLocal_address hlayout hnames p hne hstatic, file_absolute hbelow.1, stored_eq hlayout p hne]
    rw [hlocal, hremote]
    exact ⟨rfl, hlocal⟩
  · rw [← stands_iff a hroot hscheme]
    by_cases hstands : a.Stands addressed
    · rw [restore_of_stands hstands, hremote, outgoing_address]
      refine iff_of_true ?_ hstands
      cases p <;> rfl
    · rw [restore_of_not_stands hstands, stored_eq hlayout p hne, outgoing_fileAt]
      refine iff_of_false ?_ hstands
      cases p with
      | app => exact absurd rfl hroot
      | content => exact (by decide : remoteScheme ≠ citizenScheme)
      | userData => exact (by decide : remoteScheme ≠ userDataScheme)

theorem farApart_plain (p : Root) : Plain (farApart.roots.at p) := by
  cases p <;> exact ⟨by decide, by decide⟩

/-- A file of the user-data directory, whose address has two names. -/
theorem addresses_round_trip_settings :
    let names := ["User", "settings.json"]
    names ≠ [] ∧ (∀ name ∈ names, Path.IsName name) ∧ (∀ name ∈ names, '\\' ∉ name.toList) ∧
      ¬ IsStatic names ∧
      farApart.toRemote (farApart.toLocal (farApart.address .userData names)) =
        farApart.address .userData names ∧
      farApart.toLocal (farApart.toRemote (farApart.stored .userData names)) =
        farApart.stored .userData names ∧
      (farApart.restore (farApart.stored .userData names)
        { scheme := userDataScheme, path := "/User" }).scheme = userDataScheme := by
  have hstatic : ¬ IsStatic ["User", "settings.json"] := by
    rintro ⟨top, below, heq, -, hbegins⟩
    obtain ⟨rfl, -⟩ := List.cons.inj heq
    exact absurd hbegins (by decide)
  obtain ⟨hround, hscheme⟩ := addresses_round_trip farApart_separate farApart_plain
    (show ["User", "settings.json"] ≠ [] by decide) (by decide) (by decide) .userData
  refine ⟨by decide, by decide, by decide, hstatic, (hround (.inr hstatic)).1, (hround (.inr hstatic)).2, ?_⟩
  refine (hscheme _ (by decide) rfl).2 ?_
  rintro ⟨hpath, -⟩
  exact absurd hpath (by decide)

/-- Whoever addresses the content tree by a web view's request that names no file is told of a file in it as of
a remote one. -/
theorem malformed_request_changes_scheme :
    let names := ["resources", "chat", "new.lua"]
    let addressed : Resource := { scheme := citizenScheme, path := "/vscode-resource", query := "x" }
    farApart.roots.Separate ∧ (∀ p, Plain (farApart.roots.at p)) ∧ names ≠ [] ∧
      (∀ name ∈ names, Path.IsName name) ∧ (∀ name ∈ names, '\\' ∉ name.toList) ∧
      farApart.restore (farApart.stored .content names) addressed =
        { scheme := remoteScheme, authority := "localhost:35419",
          path := "/srv/citizen/resources/chat/new.lua" } ∧
      (farApart.restore (farApart.stored .content names) addressed).scheme ≠ addressed.scheme := by
  exact ⟨farApart_separate, farApart_plain, by decide, by decide, by decide, by decide, by decide⟩

end Workbench.Addressing

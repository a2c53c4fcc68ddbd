import Workbench.Config
import Workbench.Proofs.Disk.WorkingDir
import Workbench.Proofs.Resource.Restore

/-!
The path that the disk is handed for a resource below a root.  On its way it is made a file resource, with slashes for
backslashes and one in front, and taken out of that again, without the slash when a drive letter follows.  A path that
is not absolute so comes out absolute, and leads elsewhere for whoever does not work in the root directory.
-/

namespace Workbench.Addressing

open Resource

/-- Behind its slash, if it has one, a path begins with a drive letter. -/
def hasDrive (path : String) : Bool := (driveless? ("/" ++ relative path)).isSome

/-- A path that is absolute or begins with a drive letter, not both, and has no backslash. -/
def Kept (path : String) : Prop := '\\' ∉ path.toList ∧ Path.isAbsolute path = !hasDrive path

instance (path : String) : Decidable (Kept path) := inferInstanceAs (Decidable (_ ∧ _))

section Slash

variable {path : String}

theorem slash_relative (habsolute : Path.isAbsolute path = true) : "/" ++ relative path = path := by
  rw [Path.isAbsolute, beq_iff_eq, List.head?_eq_some_iff] at habsolute
  obtain ⟨rest, hrest⟩ := habsolute
  rw [← String.toList_inj, String.toList_append, relative, hrest]
  simp

theorem relative_eq_self (hrelative : Path.isAbsolute path = false) : relative path = path := by
  rw [relative]
  split
  · next rest hrest =>
    rw [Path.isAbsolute, hrest] at hrelative
    cases hrelative
  · rfl

theorem partsOf_relative (path : String) : Disk.partsOf (relative path) = Disk.partsOf path := by
  cases habsolute : Path.isAbsolute path with
  | true => rw [← Disk.partsOf_slash, slash_relative habsolute]
  | false => rw [relative_eq_self habsolute]

/-- Only a slash is dropped in front of a drive letter. -/
theorem driveless?_slash {rest : String} (hdrive : driveless? ("/" ++ path) = some rest) :
    rest = path ∧ Path.isAbsolute path = false := by
  rw [driveless?, String.toList_append] at hdrive
  split at hdrive
  · next d more heq =>
    have hpath : path.toList = d :: ':' :: more := (List.cons.inj heq).2
    split at hdrive
    · next halpha =>
      cases hdrive
      refine ⟨by rw [← hpath, String.ofList_toList], ?_⟩
      rw [Path.isAbsolute, hpath]
      refine beq_false_of_ne fun hslash => ?_
      rw [Option.some.inj hslash] at halpha
      cases halpha
    · cases hdrive
  · cases hdrive

end Slash

section FilePath

variable {path : String}

/-- What a file resource makes of a path. -/
theorem fsPath_file (path : String) :
    (file path).fsPath =
      if hasDrive (forwardSlashes path) then relative (forwardSlashes path)
      else "/" ++ relative (forwardSlashes path) := by
  have hpath : (file path).path = "/" ++ relative (forwardSlashes path) := by
    cases habsolute : Path.isAbsolute (forwardSlashes path) with
    | true => simp [file, habsolute, slash_relative habsolute]
    | false => simp [file, habsolute, relative_eq_self habsolute]
  rw [fsPath, if_neg (by simp [file]), hpath, hasDrive]
  cases hdrive : driveless? ("/" ++ relative (forwardSlashes path)) with
  | none => rfl
  | some rest =>
      rw [(driveless?_slash hdrive).1]
      rfl

theorem isAbsolute_fsPath_file (path : String) :
    Path.isAbsolute (file path).fsPath = !hasDrive (forwardSlashes path) := by
  rw [fsPath_file]
  split
  · next hdrive =>
    obtain ⟨rest, hrest⟩ := Option.isSome_iff_exists.1 hdrive
    rw [(driveless?_slash hrest).2, hdrive]
    rfl
  · next hdrive =>
    rw [Bool.not_eq_true] at hdrive
    rw [hdrive, Path.isAbsolute, String.toList_append]
    rfl

theorem partsOf_fsPath_file (path : String) :
    Disk.partsOf (file path).fsPath = Disk.partsOf (forwardSlashes path) := by
  rw [fsPath_file]
  split
  · exact partsOf_relative _
  · rw [Disk.partsOf_slash, partsOf_relative]

theorem backslash_notMem_fsPath_file (path : String) : '\\' ∉ (file path).fsPath.toList := by
  have hslashes : '\\' ∉ (forwardSlashes path).toList := by
    rw [forwardSlashes, String.toList_ofList, List.mem_map]
    rintro ⟨c, -, hc⟩
    split at hc
    · cases hc
    · next hne => exact hne hc
  -- a character of the path stands in one of its parts
  intro hmem
  obtain ⟨part, hpart, hc⟩ := Disk.exists_part_of_mem (by decide) hmem
  rw [partsOf_fsPath_file] at hpart
  exact hslashes (Disk.mem_of_mem_part hpart hc)

theorem fsPath_file_eq_iff : (file path).fsPath = path ↔ Kept path := by
  constructor
  · intro heq
    have hplain : '\\' ∉ path.toList := heq ▸ backslash_notMem_fsPath_file path
    refine ⟨hplain, ?_⟩
    have habsolute := isAbsolute_fsPath_file path
    rwa [heq, forwardSlashes_eq_self hplain] at habsolute
  · rintro ⟨hplain, habsolute⟩
    rw [fsPath_file, forwardSlashes_eq_self hplain]
    cases hdrive : hasDrive path with
    | true => exact relative_eq_self (by rw [habsolute, hdrive]; rfl)
    | false => exact slash_relative (by rw [habsolute, hdrive]; rfl)

/-- From the root directory the outcome leads where the path leads, backslashes apart. -/
theorem leads_fsPath_file (hne : path ≠ "") (hplain : '\\' ∉ path.toList) (d : Disk) (follow : Bool) :
    d.leads [] (file path).fsPath follow = d.leads [] path follow := by
  refine Disk.leads_root_congr ?_ ?_
  · rw [partsOf_fsPath_file, forwardSlashes_eq_self hplain]
  · rw [fsPath_file, forwardSlashes_eq_self hplain]
    cases habsolute : Path.isAbsolute path with
    | false =>
        rw [relative_eq_self habsolute]
        split
        · rfl
        · exact Disk.endsInSlash_slash hne
    | true =>
        split
        · next hdrive =>
          have hsome : relative path ≠ "" := by
            intro hempty
            rw [hasDrive, hempty] at hdrive
            exact absurd hdrive (by decide)
          rw [← Disk.endsInSlash_slash hsome, slash_relative habsolute]
        · rw [slash_relative habsolute]

/-- A path that does not come out as it was leads elsewhere, on some disk and from some working directory. -/
theorem parted_of_not_kept (hfits : Disk.Fits (file path).fsPath) (hnot : ¬ Kept path) :
    Disk.Parted (file path).fsPath path := by
  by_cases hplain : '\\' ∈ path.toList
  · obtain ⟨part, hpart, hin⟩ := Disk.exists_part_of_mem (by decide) hplain
    have hname : Path.IsName part := by
      obtain ⟨hparts, hne⟩ := List.mem_filter.1 hpart
      refine ⟨by simpa using hne, ?_, ?_, Path.slash_notMem_parts hparts⟩
      · rintro rfl
        exact absurd hin (by decide)
      · rintro rfl
        exact absurd hin (by decide)
    refine Disk.parted_of_name hfits hpart hname ?_
    rintro (rfl | ⟨hknown, -⟩)
    · exact absurd hin (by decide)
    · exact backslash_notMem_fsPath_file path (Disk.mem_of_mem_part hknown hin)
  · have hparts := partsOf_fsPath_file path
    rw [forwardSlashes_eq_self hplain] at hparts
    refine Disk.parted_of_isAbsolute_ne hfits hparts fun heq => hnot ⟨hplain, ?_⟩
    rw [← heq, isAbsolute_fsPath_file, forwardSlashes_eq_self hplain]

end FilePath

/-- A resource that stands for what has these names below a root. -/
inductive StandsFor (u : Resource) (names : List String) : Root → Prop
  /-- Its path begins with a name like `static`, whatever its scheme. -/
  | static (tag : String) (htag : '/' ∉ tag.toList) (hpath : u.path = "/static" ++ tag ++ "/" ++ Path.spell names) :
      StandsFor u names .app
  /-- It has the scheme of a root, and is neither such a path nor what a web view asks for. -/
  | scheme (p : Root) (hp : p ≠ .app) (hscheme : u.scheme = p.scheme) (hpath : u.path = Path.absolute names)
      (hstatic : ¬ IsStatic names) (hwebview : ¬ (u.path = webviewPath ∧ u.query ≠ "")) : StandsFor u names p

section Standing

variable {u : Resource} {names : List String} {p : Root}

theorem StandsFor.incoming (h : StandsFor u names p) (a : Addressing) : StandsFor (a.incoming u) names p := by
  cases h with
  | static tag htag hpath =>
      refine .static tag htag ?_
      rw [Addressing.incoming]
      split
      · exact hpath
      · split <;> exact hpath
  | scheme p hp hscheme hpath hstatic hwebview =>
      have hsame : a.incoming u = u := by
        cases p with
        | app => exact absurd rfl hp
        | content | userData => rw [Addressing.incoming, hscheme, if_neg (by decide), if_neg (by decide)]
      rw [hsame]
      exact .scheme p hp hscheme hpath hstatic hwebview

/-- Such a resource is resolved against its root. -/
theorem StandsFor.toLocal (h : StandsFor u names p) (hnames : ∀ name ∈ names, Path.IsName name) (a : Addressing) :
    a.toLocal u = file (Path.join (a.roots.at p) (Path.spell names)) := by
  cases h with
  | static tag htag hpath =>
      have hafter : after? "/static".toList u.path.toList =
          some (tag.toList ++ '/' :: (Path.spell names).toList) := by
        rw [after?_eq_some_iff, hpath]
        simp
      have hrest : staticRest? u.path = some (Path.spell names) := by
        simp only [staticRest?, hafter, Option.bind_eq_bind, Option.bind_some, dropWhile_cut htag, String.ofList_toList]
      rw [Addressing.toLocal, hrest]
      rfl
  | scheme p hp hscheme hpath hstatic hwebview =>
      have hrest : staticRest? u.path = none := hpath ▸ staticRest?_eq_none hnames hstatic
      rw [Addressing.toLocal, hrest]
      dsimp only
      rw [if_neg hwebview, hscheme, hpath, relative_absolute]
      cases p with
      | app => exact absurd rfl hp
      | content => rfl
      | userData => rfl

end Standing

/-- The path that the disk is handed for a resource below a root is the path below the root just when that has no
backslash and is absolute or begins with a drive letter, but not both; and only then does it lead to the same file
whatever the working directory.  Without a drive letter it leads where the path below the root leads from the root
directory, for whoever works there or elsewhere. -/
theorem handed_path (a : Addressing) {p : Root} {u : Resource} {names : List String} (hroot : a.roots.at p ≠ "")
    (hnames : ∀ name ∈ names, Path.IsName name ∧ '\\' ∉ name.toList) (hu : StandsFor u names p) :
    let joined := Path.join (a.roots.at p) (Path.spell names)
    let handed := (a.resolve u).fsPath
    (handed = joined ↔ Kept joined) ∧
      (Disk.Fits handed → (Disk.SameFile handed joined ↔ Kept joined)) ∧
      ('\\' ∉ (a.roots.at p).toList → ∀ (d : Disk) (cwd : Place) (follow : Bool),
        hasDrive joined = false ∨ cwd = [] → d.leads cwd handed follow = d.leads [] joined follow) := by
  intro joined handed
  have hhanded : handed = (file joined).fsPath :=
    congrArg fsPath ((hu.incoming a).toLocal (fun name hname => (hnames name hname).1) a)
  rw [hhanded]
  refine ⟨fsPath_file_eq_iff, fun hfits => ⟨fun hsame => ?_, fun hkept => ?_⟩,
    fun hplain d cwd follow hfree => ?_⟩
  · exact Decidable.byContradiction fun hnot => (parted_of_not_kept hfits hnot).not_sameFile hsame
  · rw [fsPath_file_eq_iff.2 hkept]
    exact fun _ _ _ _ => rfl
  · have hbelow : '\\' ∉ (Path.spell names).toList := by
      rw [Path.mem_spell (by decide)]
      rintro ⟨name, hname, hin⟩
      exact (hnames name hname).2 hin
    have hjoined : '\\' ∉ joined.toList := Disk.notMem_join (by decide) hplain hbelow
    have hstart : d.leads cwd (file joined).fsPath follow = d.leads [] (file joined).fsPath follow := by
      rcases hfree with hdrive | rfl
      · have habsolute := isAbsolute_fsPath_file joined
        rw [forwardSlashes_eq_self hjoined, hdrive] at habsolute
        rw [Disk.leads, Disk.leads, habsolute]
        rfl
      · rfl
    rw [hstart]
    exact leads_fsPath_file (Disk.join_ne_empty hroot _) hjoined d follow

/-- An installation below an absolute root, and a script of it. -/
theorem handed_path_script :
    let a : Addressing := ⟨"localhost:35419", ⟨"/opt/fxcode", "/srv/citizen", "/home/u/.fxcode"⟩⟩
    let u : Resource := { scheme := remoteScheme, authority := "localhost:35419", path := "/static-1/js/main.js" }
    (a.resolve u).fsPath = "/opt/fxcode/js/main.js" ∧
      Disk.SameFile (a.resolve u).fsPath "/opt/fxcode/js/main.js" := by
  intro a u
  have hu : StandsFor u ["js", "main.js"] .app := .static "-1" (by decide) (by decide)
  have hjoined : Path.join (a.roots.at .app) (Path.spell ["js", "main.js"]) = "/opt/fxcode/js/main.js" := by decide
  obtain ⟨heq, hsame, -⟩ := handed_path a (by decide) (by decide) hu
  rw [hjoined] at heq hsame
  have hhanded := heq.2 (by decide)
  rw [hhanded] at hsame ⊢
  exact ⟨rfl, (hsame ⟨by decide, by decide⟩).2 (by decide)⟩

/-- The default configuration has the working directory for its root.  A server that works in `srv` looks for a file
beside it in the root directory. -/
theorem default_root_leads_astray :
    let config := ServerConfig.ofFile ⟨"/home/u", "/home/u/.local/share"⟩ {} {}
    let a : Addressing := ⟨config.authority, config.installation.roots⟩
    let u : Resource := { scheme := remoteScheme, authority := a.authority, path := "/static/main.js" }
    let d : Disk := { root := .dir [("srv", .dir [("main.js", .file 1 .empty)])], nextId := 2 }
    a.roots.at .app = "." ∧ StandsFor u ["main.js"] .app ∧ (a.resolve u).fsPath = "/./main.js" ∧
      d.node? ["srv"] = some .dir ∧
      d.leads ["srv"] (Path.join (a.roots.at .app) "main.js") true =
        .ok ⟨["srv"], .named "main.js" (some (.file 1 .empty)), false⟩ ∧
      d.leads ["srv"] (a.resolve u).fsPath true = .ok ⟨[], .named "main.js" none, false⟩ := by
  intro config a u d
  have hroot : a.roots.at .app = "." := by decide
  have hresolved : (a.resolve u).fsPath = "/./main.js" := by decide
  have hjoined : Path.join (a.roots.at .app) "main.js" = "./main.js" := by decide
  have hparts : Disk.partsOf "./main.js" = [".", "main.js"] := by decide
  have hparts' : Disk.partsOf "/./main.js" = [".", "main.js"] := by decide
  have hshort : ¬ Disk.maxName < "main.js".utf8ByteSize := by decide
  rw [hresolved, hjoined]
  refine ⟨hroot, .static "" (by decide) (by decide), rfl, rfl, ?_, ?_⟩
  · rw [Disk.leads, hparts, Disk.walk, if_pos rfl, Disk.walk, if_neg (by decide), if_neg (by decide), if_neg hshort]
    rfl
  · rw [Disk.leads, hparts', Disk.walk, if_pos rfl, Disk.walk, if_neg (by decide), if_neg (by decide), if_neg hshort]
    rfl

end Workbench.Addressing

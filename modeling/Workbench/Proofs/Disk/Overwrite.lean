import Workbench.Proofs.Disk.Way

/-!
Writes, moves and copies that must not replace anything.  They look whether something is there by following links,
so they are refused just where the target leads to something; a link that leads nowhere does not protect its place,
except from a directory.
-/

namespace Workbench

theorem Errno.code_toFault_iff (e : Errno) : e.toFault.code = "FileExists" ↔ e = .exists := by
  cases e <;> simp [toFault, kind, Fault.code, IoKind.code]

namespace Disk

theorem walk_ne_exists (root : Entry) (follow slash : Bool) (links : Nat) (dir : Place) (last : String)
    (parts : List String) : walk root follow slash links dir last parts ≠ .error .exists := by
  fun_induction walk root follow slash links dir last parts <;> simp_all

theorem spot?_ne_exists (d : Disk) (path : String) (follow : Bool) : d.spot? path follow ≠ .error .exists := by
  rw [spot?]
  split
  · simp
  · split
    · simp
    · split
      · simp
      · exact walk_ne_exists _ _ _ _ _ _ _

theorem find?_ne_exists (d : Disk) (path : String) (follow : Bool) : d.find? path follow ≠ .error .exists := by
  rw [find?]
  cases hspot : d.spot? path (follow || endsInSlash path) with
  | error e =>
      intro heq
      cases heq
      exact spot?_ne_exists _ _ _ hspot
  | ok spot =>
      simp only [bind, Except.bind]
      split
      · split <;> simp
      · simp
      · split <;> simp

/-- A call that never fails because something is there. -/
def Call.Tolerant {α : Type} (call : Call α) : Prop := ∀ d, (call d).1 ≠ .error .exists

section Tolerant

variable {α β : Type} {call : Call α}

theorem Call.tolerant_pure (a : α) : Tolerant (pure a : Call α) := by
  intro d heq
  cases heq

theorem Call.tolerant_throw {e : Errno} (he : e ≠ .exists) : Tolerant (throw e : Call α) := by
  intro d heq
  exact he (Except.error.inj heq)

theorem Call.tolerant_look {f : Disk → Except Errno α} (hf : ∀ d, f d ≠ .error .exists) : (Call.look f).Tolerant := hf

theorem Call.Tolerant.bind (hcall : call.Tolerant) {next : α → Call β} (hnext : ∀ a, (next a).Tolerant) :
    (call >>= next).Tolerant := by
  intro d
  obtain ⟨r, hr⟩ : ∃ r, call d = r := ⟨_, rfl⟩
  cases r with
  | mk r d' =>
      cases r with
      | ok a =>
          rw [bind_of_ok hr]
          exact hnext a d'
      | error e =>
          have he := hcall d
          rw [hr] at he
          rw [bind_of_error hr]
          simpa using he

theorem Call.tolerant_modify (f : Disk → Disk) : Tolerant (modify f : Call Unit) := by
  intro d heq
  cases heq

theorem Call.tolerant_modifyGet (f : Disk → α × Disk) : Tolerant (modifyGet f : Call α) := by
  intro d heq
  cases heq

theorem stat_tolerant (path : String) : (stat path).Tolerant := by
  apply Call.tolerant_look
  intro d
  have hfind := find?_ne_exists d path true
  cases hd : d.find? path true with
  | ok found => simp [Except.map]
  | error e =>
      rw [hd] at hfind
      simpa [Except.map] using hfind

theorem createFile_tolerant (path : String) : (createFile path).Tolerant := by
  apply (Call.tolerant_look fun d => spot?_ne_exists d path true).bind
  intro spot
  split
  · exact Call.tolerant_throw (by decide)
  · split
    · exact Call.tolerant_throw (by decide)
    · split
      · exact Call.tolerant_modifyGet _
      · exact Call.tolerant_modifyGet _
      · exact Call.tolerant_throw (by decide)

theorem writeAll_tolerant (path : String) (content : ByteArray) : (writeAll path content).Tolerant := by
  apply (createFile_tolerant path).bind
  intro id
  split
  · exact Call.tolerant_pure _
  · exact Call.tolerant_modify _

theorem copyFile_tolerant (source target : String) : (copyFile source target).Tolerant := by
  apply (stat_tolerant source).bind
  intro e
  split
  · apply (createFile_tolerant target).bind
    intro copy
    exact Call.tolerant_modify _
  · exact Call.tolerant_throw (by decide)

theorem moveFailure?_ne_exists (a b : Spot) (moved : Entry) (there : Option Entry) :
    moveFailure? a b moved there ≠ some .exists := by
  unfold moveFailure?
  split
  · simp
  · split
    · simp
    · split
      · simp
      · split
        · simp
        · split <;> simp

theorem rename_tolerant (source target : String) : (rename source target).Tolerant := by
  apply (Call.tolerant_look fun d => spot?_ne_exists d source false).bind
  intro a
  apply (Call.tolerant_look fun d => spot?_ne_exists d target false).bind
  intro b
  split
  · exact Call.tolerant_throw (by decide)
  · split
    · next e he =>
      apply Call.tolerant_throw
      rintro rfl
      exact moveFailure?_ne_exists _ _ _ _ he
    · split
      · exact Call.tolerant_pure _
      · exact Call.tolerant_modify _
  · exact Call.tolerant_throw (by decide)

end Tolerant

/-- A directory is not made where something is. -/
theorem makeDir_of_there {d : Disk} {path : String} {there : Place × Entry} (hfind : d.find? path false = .ok there)
    (hslash : endsInSlash path = false) : makeDir path d = (.error .exists, d) := by
  obtain ⟨place, entry⟩ := there
  obtain ⟨spot, hspot, -, hfinal⟩ := spot?_of_find? hfind
  rw [hslash, Bool.or_false] at hspot
  rw [makeDir, Call.bind_of_ok (Call.look_eq hspot)]
  rcases hfinal with ⟨last, hfinal, -⟩ | ⟨name, hfinal, -⟩
  · rw [hfinal]
    rfl
  · rw [hfinal]
    rfl

/-- A directory is not made where a link is, even if that leads nowhere. -/
theorem makeDirs_dangling {d : Disk} {path : String} {there : Place × Entry} {e : Errno}
    (hlink : d.find? path false = .ok there) (hgone : d.find? path true = .error e) :
    makeDirs maxPath path d = (.error .exists, d) := by
  have hslash : endsInSlash path = false := by
    cases hends : endsInSlash path with
    | false => rfl
    | true =>
        rw [find?, hends] at hlink hgone
        exact absurd (hlink.symm.trans hgone) (by simp)
  have hempty : path.isEmpty = false := by
    obtain ⟨place, entry⟩ := there
    obtain ⟨spot, hspot, -⟩ := spot?_of_find? hlink
    simpa using (walk_of_spot? hspot).1.2.1
  have hmake := makeDir_of_there hlink hslash
  have hisDir : (do return (← stat path).isDir : Call Bool) d = (.error e, d) :=
    Call.bind_of_error (stat_of_error hgone) _
  have hsettle : (tryCatch (do return (← stat path).isDir) fun _ => pure false : Call Bool) d = (.ok false, d) :=
    Call.catch_of_error hisDir _
  rw [show maxPath = 4094 + 1 from rfl, makeDirs, hempty]
  refine (Call.catch_of_error hmake _).trans ?_
  exact Call.bind_of_ok hsettle _

end Disk

namespace DiskHost

open Disk (Call)

variable {α : Type} {h : DiskHost} {path : String}

/-- A call fails because something is there, and changes nothing. -/
def Refused (call : StateM DiskHost (Outcome α)) (h : DiskHost) : Prop :=
  ∃ fault, call h = (.error fault, h) ∧ fault.code = "FileExists"

theorem refused_of_eq {call : StateM DiskHost (Outcome α)} {fault : Fault} (hcall : call h = (.error fault, h))
    (hcode : fault.code = "FileExists") : Refused call h :=
  ⟨fault, hcall, hcode⟩

theorem not_refused_of_eq {call : StateM DiskHost (Outcome α)} {fault : Fault} (hcall : call h = (.error fault, h))
    (hcode : fault.code ≠ "FileExists") : ¬Refused call h := by
  rintro ⟨fault', hcall', hcode'⟩
  rw [hcall] at hcall'
  cases hcall'
  exact hcode hcode'

theorem not_refused_onDisk {call : Call α} (hcall : call.Tolerant) (h : DiskHost) : ¬Refused (onDisk call) h := by
  rintro ⟨fault, hrun, hcode⟩
  obtain ⟨r, hr⟩ : ∃ r, call h.disk = r := ⟨_, rfl⟩
  rw [onDisk_eq hr] at hrun
  cases hresult : r.1 with
  | ok a =>
      rw [hresult] at hrun
      cases hrun
  | error e =>
      rw [hresult] at hrun
      have hfault : e.toFault = fault := Except.error.inj (congrArg Prod.fst hrun)
      rw [← hfault] at hcode
      apply hcall h.disk
      rw [hr, hresult, (Errno.code_toFault_iff e).1 hcode]

/-- Whether a path leads to something, a link at its end followed. -/
def Leads (h : DiskHost) (path : String) : Prop := ∃ found, h.disk.find? path true = .ok found

theorem alreadyExists_code (path : String) : (alreadyExists path).code = "FileExists" := rfl

section Guarded

variable {check : Bool → Option Fault} {call : Call α}

theorem refused_guarded (hleads : Leads h path) (hcheck : check true = some (alreadyExists path)) :
    Refused (guarded path check call) h := by
  obtain ⟨found, hfound⟩ := hleads
  exact refused_of_eq (guarded_of_fault check (Disk.doesExist_of_ok hfound) hcheck) (alreadyExists_code path)

theorem not_refused_guarded {e : Errno} (herror : h.disk.find? path true = .error e) (he : e ≠ .noEntry) :
    ¬Refused (guarded path check call) h := by
  apply not_refused_of_eq (guarded_of_error check (Disk.doesExist_of_error herror he))
  intro hcode
  rw [(Errno.code_toFault_iff e).1 hcode] at herror
  exact Disk.find?_ne_exists _ _ _ herror

/-- A guarded call is refused where the path leads to something; where it leads nowhere all depends on the call,
if it is made. -/
theorem refused_guarded_iff (hthere : check true = some (alreadyExists path))
    (hgone : ∀ fault, check false = some fault → fault.code ≠ "FileExists") :
    Refused (guarded path check call) h ↔ Leads h path ∨
      h.disk.find? path true = .error .noEntry ∧ check false = none ∧ Refused (onDisk call) h := by
  cases hfind : h.disk.find? path true with
  | ok found => exact iff_of_true (refused_guarded ⟨found, hfind⟩ hthere) (.inl ⟨found, hfind⟩)
  | error e =>
      have hnot : ¬Leads h path := by
        rintro ⟨found, hfound⟩
        rw [hfind] at hfound
        cases hfound
      rw [or_iff_right hnot]
      by_cases he : e = .noEntry
      · rw [he] at hfind ⊢
        have hexist := Disk.doesExist_of_noEntry hfind
        cases hcheck : check false with
        | some fault =>
            have hnot : ¬Refused (guarded path check call) h :=
              not_refused_of_eq (guarded_of_fault check hexist hcheck) (hgone fault hcheck)
            exact iff_of_false hnot fun hboth => by cases hboth.2.1
        | none =>
            rw [Refused, guarded_of_none check hexist hcheck]
            exact ⟨fun hrefused => ⟨rfl, rfl, hrefused⟩, fun hboth => hboth.2.2⟩
      · apply iff_of_false (not_refused_guarded hfind he)
        rintro ⟨heq, -⟩
        exact he (Except.error.inj heq)

theorem refused_guarded_iff_of_tolerant (hthere : check true = some (alreadyExists path))
    (hgone : ∀ fault, check false = some fault → fault.code ≠ "FileExists") (hcall : call.Tolerant) :
    Refused (guarded path check call) h ↔ Leads h path := by
  rw [refused_guarded_iff hthere hgone]
  apply or_iff_left
  rintro ⟨-, -, hrefused⟩
  exact not_refused_onDisk hcall h hrefused

end Guarded

/-- A path has a stat just if it names something, if only a link. -/
theorem stat_ok_iff : (∃ s, (onDisk (stat path) h).1 = .ok s) ↔ ∃ there, h.disk.find? path false = .ok there := by
  cases hfind : h.disk.find? path false with
  | error e =>
      have hnone : Disk.linkStat path h.disk = (.error e, h.disk) := by
        rw [Disk.linkStat, Call.look, hfind]
        rfl
      have hrun : stat path h.disk = (.error e, h.disk) := Call.bind_of_error hnone _
      rw [onDisk_eq hrun]
      exact iff_of_false (by rintro ⟨s, hs⟩; cases hs) (by rintro ⟨there, hthere⟩; cases hthere)
  | ok there =>
      refine iff_of_true ?_ ⟨there, rfl⟩
      have hlink : Disk.linkStat path h.disk = (.ok there.2, h.disk) := by
        rw [Disk.linkStat, Call.look, hfind]
        rfl
      obtain ⟨s, hs⟩ : ∃ s, stat path h.disk = (.ok s, h.disk) := by
        rw [stat, Call.bind_of_ok hlink]
        cases there.2 with
        | file id content => exact ⟨_, rfl⟩
        | dir entries => exact ⟨_, rfl⟩
        | link target =>
            cases htarget : h.disk.find? path true with
            | ok found => exact ⟨_, Call.bind_of_ok (Call.catch_of_ok (Disk.stat_of_ok htarget) _) _⟩
            | error e =>
                have hhere : (tryCatch (Disk.stat path) fun _ => pure (Entry.link target) : Call Entry) h.disk =
                    (.ok (.link target), h.disk) := Call.catch_of_error (Disk.stat_of_error htarget) _
                exact ⟨_, Call.bind_of_ok hhere _⟩
      rw [onDisk_eq hs]
      exact ⟨_, rfl⟩

theorem refused_copyTree_iff {there : Place × Entry} (hlink : h.disk.find? path false = .ok there)
    (hgone : h.disk.find? path true = .error .noEntry) (source : String) :
    Refused (onDisk (Disk.copyTree Disk.maxPath source path)) h ↔ h.disk.isDir source = true := by
  cases hsource : h.disk.find? source true with
  | error e =>
      have hcopy : Disk.copyTree Disk.maxPath source path h.disk = (.error e, h.disk) :=
        Disk.copyTree_of_error hsource
      refine iff_of_false (not_refused_of_eq (onDisk_eq hcopy) fun hcode => ?_) (by simp [Disk.isDir, hsource])
      rw [(Errno.code_toFault_iff e).1 hcode] at hsource
      exact Disk.find?_ne_exists _ _ _ hsource
  | ok found =>
      have hisDir : h.disk.isDir source = found.2.isDir := by rw [Disk.isDir, hsource]
      rw [hisDir]
      cases hdir : found.2.isDir with
      | true =>
          have hcopy : Disk.copyTree Disk.maxPath source path h.disk = (.error .exists, h.disk) :=
            (Disk.copyTree_of_dir hsource hdir).trans
              (Call.bind_of_error (Call.bind_of_error (Disk.makeDirs_dangling hlink hgone) _) _)
          exact iff_of_true (refused_of_eq (onDisk_eq hcopy) rfl) rfl
      | false =>
          have hcopy : Disk.copyTree Disk.maxPath source path h.disk = Disk.copyFile source path h.disk :=
            Disk.copyTree_of_file hsource hdir
          refine iff_of_false ?_ (by decide)
          rw [Refused, onDisk_congr hcopy]
          exact not_refused_onDisk (Disk.copyFile_tolerant source path) h

/-- What has a stat is protected from being written over, moved over and copied over just where following links
leads to something; the call then fails because it exists and changes nothing.  A link that leads nowhere has a stat
all the same: it protects its place from nothing but a directory that would be copied there. -/
theorem overwrite_refused_iff (h : DiskHost) (path : String) (hstat : ∃ s, (onDisk (stat path) h).1 = .ok s)
    (data : ByteArray) (create : Bool) (source : String) :
    (Refused (writeFile path data ⟨create, false⟩) h ↔ Leads h path) ∧
    (Refused (rename source path false) h ↔ Leads h path) ∧
    (Refused (copy source path false) h ↔
      Leads h path ∨ h.disk.find? path true = .error .noEntry ∧ h.disk.isDir source = true) := by
  obtain ⟨there, hlink⟩ := stat_ok_iff.1 hstat
  have honto : ∀ fault, (if false then some (alreadyExists path) else none) = some fault →
      fault.code ≠ "FileExists" := by
    intro fault hfault
    cases hfault
  refine ⟨refused_guarded_iff_of_tolerant ?_ ?_ (Disk.writeAll_tolerant path data),
    refused_guarded_iff_of_tolerant rfl honto (Disk.rename_tolerant source path), ?_⟩
  · simp
  · intro fault hfault
    cases create with
    | true => cases hfault
    | false =>
        cases hfault
        show "FileNotFound" ≠ "FileExists"
        decide
  · refine (refused_guarded_iff rfl honto).trans (or_congr_right (and_congr_right fun hgone => ?_))
    rw [if_neg (by decide), and_iff_right rfl]
    exact refused_copyTree_iff hlink hgone source

/-- A disk with a file, and a link that leads nowhere. -/
def dangling : DiskHost :=
  { disk := { root := .dir [("here", .file 1 .empty), ("link", .link "gone")], nextId := 2 } }

theorem spot?_here (follow : Bool) : dangling.disk.spot? "/here" follow =
    .ok ⟨[], .named "here" (some (.file 1 .empty)), false⟩ := by
  have hparts : Disk.partsOf "/here" = [] ++ ["here"] := by decide
  have hroot : dangling.disk.at? [] = some (.dir [("here", .file 1 .empty), ("link", .link "gone")]) := rfl
  exact Disk.spot?_of_plain (by decide) hparts hroot nofun

theorem overwrite_refused_iff_here :
    (∃ s, (onDisk (stat "/here") dangling).1 = .ok s) ∧
    Refused (writeFile "/here" .empty ⟨true, false⟩) dangling ∧
    Refused (rename "/link" "/here" false) dangling ∧ Refused (copy "/link" "/here" false) dangling := by
  have hfind : ∀ follow, dangling.disk.find? "/here" follow = .ok (["here"], .file 1 .empty) := by
    intro follow
    have hparts : Disk.partsOf "/here" = [] ++ ["here"] := by decide
    exact Disk.find?_of_plain (by decide) hparts rfl rfl nofun
  have hstat : ∃ s, (onDisk (stat "/here") dangling).1 = .ok s := stat_ok_iff.2 ⟨_, hfind false⟩
  have hleads : Leads dangling "/here" := ⟨_, hfind true⟩
  obtain ⟨hwrite, hrename, hcopy⟩ := overwrite_refused_iff dangling "/here" hstat .empty true "/link"
  exact ⟨hstat, hwrite.2 hleads, hrename.2 hleads, hcopy.2 (.inl hleads)⟩

theorem spot?_link : dangling.disk.spot? "/link" false =
    .ok ⟨[], .named "link" (some (.link "gone")), false⟩ := by
  have hparts : Disk.partsOf "/link" = ["link"] := by decide
  rw [Disk.spot?_eq_walk (by decide), hparts, Disk.walk]
  rfl

theorem spot?_gone : dangling.disk.spot? "/link" true = .ok ⟨[], .named "gone" none, false⟩ := by
  have hparts : Disk.partsOf "/link" = ["link"] := by decide
  have hgone : Disk.walk dangling.disk.root true false 39 [] "" ["gone"] =
      .ok ⟨[], .named "gone" none, false⟩ := by
    rw [Disk.walk]
    rfl
  rw [Disk.spot?_eq_walk (by decide), hparts, Disk.walk]
  refine Eq.trans ?_ hgone
  rfl

/-- The link has a stat and is written through, and moved over, by calls that were told to overwrite nothing. -/
theorem dangling_overwritten :
    (∃ s, (onDisk (stat "/link") dangling).1 = .ok s) ∧
    (∃ h, writeFile "/link" .empty ⟨true, false⟩ dangling = (.ok (), h) ∧
      h.disk.at? ["gone"] = some (.file 2 .empty)) ∧
    ∃ h, rename "/here" "/link" false dangling = (.ok (), h) ∧ h.disk.at? ["link"] = some (.file 1 .empty) := by
  have hlink : dangling.disk.find? "/link" false = .ok (["link"], .link "gone") := by
    rw [Disk.find?, show (false || Disk.endsInSlash "/link") = false by decide, spot?_link]
    rfl
  have hgone : dangling.disk.find? "/link" true = .error .noEntry := by
    rw [Disk.find?, Bool.true_or, spot?_gone]
    rfl
  have hexist := Disk.doesExist_of_noEntry hgone
  refine ⟨stat_ok_iff.2 ⟨_, hlink⟩, ?_, ?_⟩
  · have hcreate : Disk.createFile "/link" dangling.disk = _ := Call.bind_of_ok (Call.look_eq spot?_gone) _
    have hwrite : Disk.writeAll "/link" .empty dangling.disk = _ := Call.bind_of_ok (hcreate.trans rfl) _
    refine ⟨_, (guarded_of_none _ hexist rfl).trans (onDisk_eq (hwrite.trans rfl)), ?_⟩
    rfl
  · have hmove : Disk.rename "/here" "/link" dangling.disk = _ :=
      (Call.bind_of_ok (Call.look_eq (spot?_here false)) _).trans (Call.bind_of_ok (Call.look_eq spot?_link) _)
    refine ⟨_, (guarded_of_none _ hexist rfl).trans (onDisk_eq (hmove.trans rfl)), ?_⟩
    rfl

end DiskHost

end Workbench

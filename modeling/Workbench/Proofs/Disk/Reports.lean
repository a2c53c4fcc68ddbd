import Mathlib.Data.Finset.Basic
import Mathlib.Data.Finset.Dedup
import Workbench.Disk.Watch
import Workbench.Proofs.Disk.History
import Workbench.Proofs.Disk.SourceKept

/-!
What a watch reports of the history of files.  Whoever starts from the files that are there, and takes every added one
in and every deleted one out, ends with the files that are there in the end.  But a file that is moved from one path
under the watch to another is reported once more under its old path: it is said to be updated where it is gone.
-/

namespace Workbench

namespace FileChange

/-- The files that are known after a change, by those that were known before. -/
def settle (known : Finset String) (change : FileChange) : Finset String :=
  match change.kind with
  | .added => insert change.path known
  | .deleted => known.erase change.path
  | .updated => known

/-- The paths that are said to be updated when no file is known under them. -/
def strays (known : Finset String) : List FileChange → List String
  | [] => []
  | change :: rest =>
    (if change.kind = .updated ∧ change.path ∉ known then [change.path] else []) ++ strays (change.settle known) rest

section Append

variable {known : Finset String} {xs ys : List FileChange}

theorem strays_append : strays known (xs ++ ys) = strays known xs ++ strays (xs.foldl settle known) ys := by
  induction xs generalizing known with
  | nil => rfl
  | cons x xs ih => rw [List.cons_append, strays, strays, ih, List.append_assoc, List.foldl_cons]

theorem strays_of_ne_updated (h : ∀ x ∈ xs, x.kind ≠ .updated) : strays known xs = [] := by
  induction xs generalizing known with
  | nil => rfl
  | cons x xs ih =>
      obtain ⟨hx, hxs⟩ := List.forall_mem_cons.1 h
      rw [strays, if_neg fun hboth => hx hboth.1, ih hxs]
      rfl

end Append

end FileChange

namespace DiskWatch

open Disk (Regular Step Steps Noted)

/-- The paths under which a watch hears of the files that are there. -/
def files (w : DiskWatch) (d : Disk) : Finset String :=
  ((d.root.under []).filterMap fun (place, e) => if e.isDir then none else w.pathOf? place).toFinset

/-- The old path of something that has moved, if a watch hears of both places. -/
def movedFrom? (w : DiskWatch) : Place × Happening → Option String
  | (place, .movedTo target) => if (w.pathOf? target).isSome then w.pathOf? place else none
  | _ => none

/-- The old paths of what has moved from one place that a watch hears of to another. -/
def movedWithin (w : DiskWatch) (happenings : List (Place × Happening)) : List String :=
  happenings.filterMap w.movedFrom?

variable {w : DiskWatch} {place target : Place} {path : String}

/-- A watch hears of two places under two paths. -/
theorem pathOf?_inj (hplace : ∀ name ∈ place, Entry.IsName name) (htarget : ∀ name ∈ target, Entry.IsName name)
    (h : w.pathOf? place = some path) (h' : w.pathOf? target = some path) : place = target := by
  have hbelow : ∀ {r}, w.pathOf? r = some path → ∃ rest, r = w.place ++ rest ∧ rest.foldl Path.join w.path = path := by
    intro r hr
    rw [pathOf?] at hr
    split at hr
    · next hbegins =>
      obtain ⟨rest, rfl⟩ := List.isPrefixOf_iff_prefix.1 hbegins
      rw [List.drop_left] at hr
      dsimp only at hr
      split at hr
      · exact ⟨rest, rfl, Option.some.inj hr⟩
      · cases hr
    · cases hr
  obtain ⟨rest, rfl, hpath⟩ := hbelow h
  obtain ⟨rest', rfl, hpath'⟩ := hbelow h'
  rw [List.forall_mem_append] at hplace htarget
  rw [Path.foldl_join_inj (fun name hname => (hplace.2 name hname).toIsName)
    (fun name hname => (htarget.2 name hname).toIsName) (hpath.trans hpath'.symm)]

theorem mem_files {d : Disk} (h : d.Regular) :
    path ∈ w.files d ↔ ∃ place, d.HasFile place ∧ w.pathOf? place = some path := by
  simp only [files, List.mem_toFinset, List.mem_filterMap, Prod.exists, Disk.hasFile_iff]
  constructor
  · rintro ⟨place, e, hmem, hpath⟩
    obtain ⟨below, -, rfl, hat⟩ := Entry.at?_of_mem_under d.root h.tidy [] hmem
    split at hpath
    · cases hpath
    · next hfile => exact ⟨_, ⟨e, hat, by simpa using hfile⟩, hpath⟩
  · rintro ⟨place, ⟨e, hat, hfile⟩, hpath⟩
    cases place with
    | nil =>
        -- the root is a directory
        obtain ⟨entries, hroot⟩ := Disk.node?_eq_dir_iff.1 h.root
        rw [hroot] at hat
        cases hat
        cases hfile
    | cons name below => exact ⟨_, e, Entry.mem_under_of_at? hat, by rw [hfile]; exact hpath⟩

/-- What is told of a place, if it is heard of. -/
def told (w : DiskWatch) (place : Place) (kind : ChangeKind) : List FileChange :=
  ((w.pathOf? place).map fun path => ⟨path, kind⟩).toList

/-- What is reported of one happening. -/
def account (w : DiskWatch) : Place × Happening → List FileChange
  | (place, .created) => w.told place .added
  | (place, .removed) => w.told place .deleted
  | (place, .modified) => w.told place .updated
  | (place, .movedTo target) =>
    w.told place .deleted ++ w.told target .added ++
      if (w.pathOf? place).isSome && (w.pathOf? target).isSome then w.told place .updated ++ w.told target .updated
      else []

theorem flatten_reports_eq (hw : w.excluded = []) (happenings : List (Place × Happening)) :
    (w.reports happenings).flatten = happenings.flatMap w.account := by
  have hnothing : ∀ p, Notice.isExcluded [] p = false := by
    intro p
    simp [Notice.isExcluded]
  have hone : ∀ (place : Place) (what : Happening),
      (w.notices place what).flatMap (·.changes w.excluded) = w.account (place, what) := by
    intro place what
    rw [hw]
    cases what with
    | movedTo target =>
        rw [notices, account, told, told, told, told]
        cases w.pathOf? place <;> cases w.pathOf? target <;> simp [Notice.changes, Notice.kind?, Notice.paths, hnothing]
    | _ =>
        rw [notices, account, told]
        cases w.pathOf? place <;> simp [Notice.changes, Notice.kind?, Notice.paths, hnothing]
  rw [reports, List.flatten_filter_ne_nil, ← List.flatMap_def, List.flatMap_assoc]
  exact List.flatMap_congr fun x _ => hone x.1 x.2

/-- What is known are the paths of the places where files are. -/
def Shows (w : DiskWatch) (present : Place → Prop) (known : Finset String) : Prop :=
  ∀ path, path ∈ known ↔ ∃ place, present place ∧ w.pathOf? place = some path

section Shows

variable {present after : Place → Prop} {known : Finset String}

theorem shows_files {d : Disk} (h : d.Regular) : w.Shows d.HasFile (w.files d) := fun _ => mem_files h

theorem Shows.eq (h : w.Shows present known) {known' : Finset String} (h' : w.Shows present known') :
    known = known' :=
  Finset.ext fun path => (h path).trans (h' path).symm

theorem Shows.congr (h : w.Shows present known) (hafter : ∀ r, after r ↔ present r) : w.Shows after known := by
  intro path
  simp only [h path, hafter]

/-- A file more is told. -/
theorem Shows.added (h : w.Shows present known) (hafter : ∀ r, after r ↔ r = place ∨ present r) :
    w.Shows after ((w.told place .added).foldl FileChange.settle known) := by
  intro path
  simp only [hafter, or_and_right, exists_or, exists_eq_left, ← h path]
  rw [told]
  cases w.pathOf? place with
  | none => simp
  | some a => simp [FileChange.settle, eq_comm]

/-- A file less is told: no other has its path. -/
theorem Shows.removed (h : w.Shows present known) (hnames : ∀ r, present r → ∀ name ∈ r, Entry.IsName name)
    (hplace : present place) (hafter : ∀ r, after r ↔ present r ∧ r ≠ place) :
    w.Shows after ((w.told place .deleted).foldl FileChange.settle known) := by
  intro path
  rw [told]
  cases hpath : w.pathOf? place with
  | none =>
      have hother : ∀ r, w.pathOf? r = some path → r ≠ place := by
        rintro r hr rfl
        rw [hpath] at hr
        cases hr
      simp only [hafter, Option.map_none, Option.toList_none, List.foldl_nil, h path]
      exact exists_congr fun r => ⟨fun hr => ⟨⟨hr.1, hother r hr.2⟩, hr.2⟩, fun hr => ⟨hr.1.1, hr.2⟩⟩
  | some a =>
      simp only [hafter, Option.map_some, Option.toList_some, List.foldl_cons, List.foldl_nil, FileChange.settle,
        Finset.mem_erase, h path]
      constructor
      · rintro ⟨hne, r, hr, hrpath⟩
        refine ⟨r, ⟨hr, ?_⟩, hrpath⟩
        rintro rfl
        exact hne (Option.some.inj (hrpath.symm.trans hpath))
      · rintro ⟨r, ⟨hr, hne⟩, hrpath⟩
        refine ⟨?_, r, hr, hrpath⟩
        rintro rfl
        exact hne (pathOf?_inj (hnames r hr) (hnames place hplace) hrpath hpath)

theorem foldl_told_updated : (w.told place .updated).foldl FileChange.settle known = known := by
  rw [told]
  cases w.pathOf? place <;> rfl

/-- Nothing is astray in an update of a file that is known. -/
theorem Shows.strays_updated (h : w.Shows present known) (hplace : present place) :
    FileChange.strays known (w.told place .updated) = [] := by
  rw [told]
  cases hpath : w.pathOf? place with
  | none => rfl
  | some a =>
      have hmem : a ∈ known := (h a).2 ⟨place, hplace, hpath⟩
      simp [FileChange.strays, hmem]

/-- An update of what is gone is astray. -/
theorem Shows.strays_gone (h : w.Shows present known) (hnames : ∀ r, present r → ∀ name ∈ r, Entry.IsName name)
    (hplace : ∀ name ∈ place, Entry.IsName name) (hgone : ¬present place) :
    FileChange.strays known (w.told place .updated) = (w.pathOf? place).toList := by
  rw [told]
  cases hpath : w.pathOf? place with
  | none => rfl
  | some a =>
      have hnot : a ∉ known := by
        intro hmem
        obtain ⟨r, hr, hrpath⟩ := (h a).1 hmem
        exact hgone (pathOf?_inj hplace (hnames r hr) hpath hrpath ▸ hr)
      simp [FileChange.strays, hnot]

theorem strays_told {kind : ChangeKind} (h : kind ≠ .updated) : FileChange.strays known (w.told place kind) = [] := by
  apply FileChange.strays_of_ne_updated
  rw [told]
  cases w.pathOf? place <;> simp [h]

end Shows

/-- What is reported of some happenings takes the files of one disk to those of another, and goes astray just where
something is moved from one place that the watch hears of to another. -/
structure Accounts (w : DiskWatch) (d : Disk) (happenings : List (Place × Happening)) (d' : Disk) : Prop where
  settled : (happenings.flatMap w.account).foldl FileChange.settle (w.files d) = w.files d'
  strays : FileChange.strays (w.files d) (happenings.flatMap w.account) = w.movedWithin happenings

section Accounts

variable {d d' d'' : Disk} {hs hs' : List (Place × Happening)}

theorem movedWithin_singleton (x : Place × Happening) : w.movedWithin [x] = (w.movedFrom? x).toList := by
  rw [movedWithin, List.filterMap_cons, List.filterMap_nil]
  cases w.movedFrom? x <;> rfl

theorem Accounts.trans (h : w.Accounts d hs d') (h' : w.Accounts d' hs' d'') : w.Accounts d (hs ++ hs') d'' where
  settled := by rw [List.flatMap_append, List.foldl_append, h.settled, h'.settled]
  strays := by
    rw [List.flatMap_append, FileChange.strays_append, h.settled, h.strays, h'.strays, movedWithin, movedWithin,
      movedWithin, List.filterMap_append]

/-- A move is told as a removal and an addition.  After both the file is known under its new path and no more under
its old one; if the watch hears of both paths, it then says of both that they are updated. -/
theorem accounts_of_moved (hd : d.Regular) (hd' : d'.Regular) (hplace : d.HasFile place) (hne : place ≠ target)
    (hfiles : ∀ r, d'.HasFile r ↔ r = target ∨ d.HasFile r ∧ r ≠ place) :
    w.Accounts d [(place, .movedTo target)] d' := by
  have hbefore : w.Shows d.HasFile (w.files d) := shows_files hd
  have hafter : w.Shows d'.HasFile (w.files d') := shows_files hd'
  have hremoved := hbefore.removed (fun r hr => hd.names hr) hplace fun r => Iff.rfl
  have hsettled : (w.told place .deleted ++ w.told target .added).foldl FileChange.settle (w.files d) = w.files d' := by
    rw [List.foldl_append]
    exact (hremoved.added hfiles).eq hafter
  have hgone : ¬d'.HasFile place := by
    rw [hfiles]
    rintro (heq | ⟨-, hother⟩)
    · exact hne heq
    · exact hother rfl
  have hthere : d'.HasFile target := (hfiles target).2 (.inl rfl)
  refine ⟨?_, ?_⟩
  · rw [List.flatMap_singleton, account, List.foldl_append, hsettled]
    split
    · rw [List.foldl_append, foldl_told_updated, foldl_told_updated]
    · rfl
  · rw [List.flatMap_singleton, account, FileChange.strays_append, hsettled, FileChange.strays_append,
      strays_told (by decide), strays_told (by decide), List.nil_append, List.nil_append]
    split
    · next hboth =>
      rw [Bool.and_eq_true] at hboth
      rw [FileChange.strays_append, foldl_told_updated,
        hafter.strays_gone (fun r hr => hd'.names hr) (hd.names hplace) hgone, hafter.strays_updated hthere,
        List.append_nil, movedWithin_singleton, movedFrom?, if_pos hboth.2]
    · next hnot =>
      have hnone : w.movedFrom? (place, .movedTo target) = none := by
        rw [movedFrom?]
        split
        · next hto => simpa [hto] using hnot
        · rfl
      rw [movedWithin_singleton, hnone]
      rfl

/-- What a happening means for the files is what is reported of it, moves apart. -/
theorem accounts_of_explains (hd : d.Regular) (hd' : d'.Regular) {what : Happening}
    (h : what.Explains place d.HasFile d'.HasFile) : w.Accounts d [(place, what)] d' := by
  have hbefore : w.Shows d.HasFile (w.files d) := shows_files hd
  have hafter : w.Shows d'.HasFile (w.files d') := shows_files hd'
  cases what with
  | created =>
      refine ⟨?_, ?_⟩ <;> rw [List.flatMap_singleton]
      · exact (hbefore.added h).eq hafter
      · exact strays_told (by decide)
  | removed =>
      refine ⟨?_, ?_⟩ <;> rw [List.flatMap_singleton]
      · exact (hbefore.removed (fun r hr => hd.names hr) h.1 h.2).eq hafter
      · exact strays_told (by decide)
  | modified =>
      refine ⟨?_, ?_⟩ <;> rw [List.flatMap_singleton]
      · exact foldl_told_updated.trans ((hbefore.congr h.2).eq hafter)
      · exact hbefore.strays_updated h.1
  | movedTo target => exact accounts_of_moved hd hd' h.1 h.2.1 h.2.2

theorem accounts_of_noted (hd : d.Regular) (hd' : d'.Regular) (h : Noted d d') :
    ∃ hs, d'.happenings = d.happenings ++ hs ∧ w.Accounts d hs d' := by
  cases h with
  | nothing hsame hfiles =>
      refine ⟨[], by rw [hsame, List.append_nil], ?_, rfl⟩
      exact ((shows_files hd).congr hfiles).eq (shows_files hd')
  | happening place what hnoted hexplains => exact ⟨_, hnoted, accounts_of_explains hd hd' hexplains⟩

/-- The induction is on the steps: every one is accounted for by what the disk notes of it. -/
theorem accounts_of_steps (hd : d.Regular) (h : Steps d d') :
    ∃ hs, d'.happenings = d.happenings ++ hs ∧ w.Accounts d hs d' := by
  induction h with
  | refl => exact ⟨[], (List.append_nil _).symm, rfl, rfl⟩
  | tail hsteps hstep ih =>
      obtain ⟨hs, hhs, haccounts⟩ := ih
      have hregular := hd.steps hsteps
      obtain ⟨hnext, hnoted⟩ := hregular.step hstep
      obtain ⟨hs', hhs', haccounts'⟩ := accounts_of_noted (w := w) hregular hnext hnoted
      exact ⟨hs ++ hs', by rw [hhs', hhs, List.append_assoc], haccounts.trans haccounts'⟩

end Accounts

/-- For a watch without exclusions, and whatever is done to files: who takes in what is reported as added, and out what
is reported as deleted, comes from the files that were there to those that are there.  What is reported as updated is
there, but for one report of every move from one path to another: it names the old path. -/
theorem reports_follow_files (w : DiskWatch) (hw : w.excluded = []) (d : Disk) (hd : d.Regular)
    (hquiet : d.happenings = []) (acts : List FileAct) :
    ((w.reports (d.after acts).happenings).flatten.foldl FileChange.settle (w.files d) = w.files (d.after acts)) ∧
      FileChange.strays (w.files d) (w.reports (d.after acts).happenings).flatten =
        w.movedWithin (d.after acts).happenings := by
  obtain ⟨hs, hhs, haccounts⟩ := accounts_of_steps (w := w) hd (hd.after_steps acts)
  rw [hquiet, List.nil_append] at hhs
  rw [hhs, flatten_reports_eq hw]
  exact ⟨haccounts.settled, haccounts.strays⟩

/-- A watch on the root and on what stands directly in it. -/
def rootWatch : DiskWatch := ⟨0, "/", [], false, []⟩

/-- The only file is moved. -/
theorem after_moved : (DiskHost.single "old" .empty).disk.after [.rename "/old" "/new"] =
    (DiskHost.single "old" .empty).disk.move ["old"] ["new"] (.file 1 .empty) := by
  have hold : (DiskHost.single "old" .empty).disk.spot? "/old" false =
      .ok ⟨[], .named "old" (some (.file 1 .empty)), false⟩ := by
    have hparts : Disk.partsOf "/old" = ["old"] := by decide
    rw [Disk.spot?_eq_walk (by decide), hparts, Disk.walk]
    rfl
  have hnew : (DiskHost.single "old" .empty).disk.spot? "/new" false = .ok ⟨[], .named "new" none, false⟩ := by
    have hparts : Disk.partsOf "/new" = ["new"] := by decide
    rw [Disk.spot?_eq_walk (by decide), hparts, Disk.walk]
    rfl
  have hcall : (FileAct.rename "/old" "/new").call (DiskHost.single "old" .empty).disk = _ :=
    Disk.Call.bind_of_ok (Disk.Call.look_eq hold) _
  have hrename : Disk.rename "/old" "/new" (DiskHost.single "old" .empty).disk = _ :=
    (Disk.Call.bind_of_ok (Disk.Call.look_eq hold) _).trans (Disk.Call.bind_of_ok (Disk.Call.look_eq hnew) _)
  exact congrArg Prod.snd (hcall.trans (hrename.trans rfl))

theorem reports_follow_files_moved :
    let d := (DiskHost.single "old" .empty).disk
    let acts : List FileAct := [.rename "/old" "/new"]
    let stream := (rootWatch.reports (d.after acts).happenings).flatten
    rootWatch.excluded = [] ∧ d.Regular ∧ d.happenings = [] ∧
      (stream.foldl FileChange.settle (rootWatch.files d) = rootWatch.files (d.after acts) ∧
        FileChange.strays (rootWatch.files d) stream = rootWatch.movedWithin (d.after acts).happenings) ∧
          rootWatch.files (d.after acts) = {"/new"} ∧ rootWatch.movedWithin (d.after acts).happenings = ["/old"] := by
  intro d acts stream
  have hregular : d.Regular := (DiskHost.sound_single ⟨by decide, by decide⟩).regular
  refine ⟨rfl, hregular, rfl, reports_follow_files rootWatch rfl d hregular rfl acts, ?_⟩
  rw [show d.after acts = _ from after_moved]
  decide

/-- After a move the old path is said to be updated, though the file is known to be gone from there. -/
theorem updated_where_gone :
    let d := (DiskHost.single "old" .empty).disk
    let stream := (rootWatch.reports (d.after [.rename "/old" "/new"]).happenings).flatten
    rootWatch.files d = {"/old"} ∧
      stream = [⟨"/old", .deleted⟩, ⟨"/new", .added⟩, ⟨"/old", .updated⟩, ⟨"/new", .updated⟩] ∧
        FileChange.strays (rootWatch.files d) stream = ["/old"] := by
  intro d stream
  have hstream : stream = (rootWatch.reports [(["old"], .movedTo ["new"])]).flatten :=
    congrArg (fun d => (rootWatch.reports d.happenings).flatten) after_moved
  rw [hstream]
  decide

end DiskWatch

end Workbench

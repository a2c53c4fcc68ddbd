import Workbench.Disk.Provider

/-!
What calls on a disk come to, put together from what their parts come to.
-/

namespace Workbench

namespace Disk

variable {α β : Type} {d d' : Disk} {call : Call α} {a : α} {e : Errno}

theorem Call.bind_eq (call : Call α) (next : α → Call β) (d : Disk) :
    (call >>= next) d = ExceptT.bindCont next (call d).1 (call d).2 := rfl

theorem Call.bind_of_ok (h : call d = (.ok a, d')) (next : α → Call β) : (call >>= next) d = next a d' := by
  rw [bind_eq, h]
  rfl

theorem Call.bind_of_error (h : call d = (.error e, d')) (next : α → Call β) :
    (call >>= next) d = (.error e, d') := by
  rw [bind_eq, h]
  rfl

theorem Call.bind_congr {call' : Call α} (h : call d = call' d') (next : α → Call β) :
    (call >>= next) d = (call' >>= next) d' := by
  rw [bind_eq, bind_eq, h]

theorem Call.catch_of_ok (h : call d = (.ok a, d')) (handle : Errno → Call α) :
    (tryCatch call handle : Call α) d = (.ok a, d') := by
  show (ExceptT.tryCatch call handle : Call α) d = _
  simp only [ExceptT.tryCatch, ExceptT.mk, bind, StateT.bind, h]
  rfl

theorem Call.catch_of_error (h : call d = (.error e, d')) (handle : Errno → Call α) :
    (tryCatch call handle : Call α) d = handle e d' := by
  show (ExceptT.tryCatch call handle : Call α) d = _
  simp only [ExceptT.tryCatch, ExceptT.mk, bind, StateT.bind, h]

theorem Call.look_eq {f : Disk → Except Errno α} {r : Except Errno α} (h : f d = r) : look f d = (r, d) := by
  rw [look, h]

theorem Call.forM_cons_of_ok {ι : Type} {f : ι → Call Unit} {x : ι} (h : f x d = (.ok (), d')) (todo : List ι) :
    (x :: todo).forM f d = todo.forM f d' :=
  bind_of_ok h _

theorem Call.forM_cons_of_error {ι : Type} {f : ι → Call Unit} {x : ι} (h : f x d = (.error e, d')) (todo : List ι) :
    (x :: todo).forM f d = (.error e, d') :=
  bind_of_error h _

section Paths

variable {path : String} {follow : Bool}

theorem spot?_eq_walk (h : path.toList.contains '\x00' = false ∧ path.isEmpty = false ∧ path.utf8ByteSize ≤ maxPath)
    (d : Disk) (follow : Bool) :
    d.spot? path follow = walk d.root follow (endsInSlash path) maxLinks [] "" (partsOf path) := by
  rw [spot?, h.1, h.2.1, if_neg (by decide), if_neg (by decide), if_neg (Nat.not_lt.2 h.2.2)]

/-- A path that leads anywhere has a length, no NUL, and is walked. -/
theorem walk_of_spot? {spot : Spot} (hspot : d.spot? path follow = .ok spot) :
    ('\x00' ∉ path.toList ∧ path ≠ "" ∧ path.utf8ByteSize ≤ maxPath) ∧
      walk d.root follow (endsInSlash path) maxLinks [] "" (partsOf path) = .ok spot := by
  rw [spot?] at hspot
  split at hspot
  · cases hspot
  · next hnul =>
    split at hspot
    · cases hspot
    · next hempty =>
      split at hspot
      · cases hspot
      · next hsize => exact ⟨⟨by simpa using hnul, by simpa using hempty, Nat.not_lt.1 hsize⟩, hspot⟩

/-- What a path leads to stands at the spot that it leads to. -/
theorem spot?_of_find? {place : Place} {e : Entry} (hfind : d.find? path follow = .ok (place, e)) :
    ∃ spot, d.spot? path (follow || endsInSlash path) = .ok spot ∧ spot.place = place ∧
      ((∃ last, spot.final = .dots last ∧ d.at? place = some e) ∨
        ∃ name, spot.final = .named name (some e) ∧ (spot.slash = true → e.isDir = true)) := by
  rw [find?] at hfind
  cases hspot : d.spot? path (follow || endsInSlash path) with
  | error e =>
      rw [hspot] at hfind
      cases hfind
  | ok spot =>
      rw [hspot] at hfind
      refine ⟨spot, rfl, ?_⟩
      simp only [bind, Except.bind] at hfind
      split at hfind
      · next last hfinal =>
        have hplace : spot.place = spot.dir := by rw [Spot.place, hfinal]
        split at hfind
        · next e' he' =>
          cases hfind
          exact ⟨hplace, .inl ⟨last, hfinal, he'⟩⟩
        · cases hfind
      · cases hfind
      · next name e' hfinal =>
        split at hfind
        · cases hfind
        · next hslash =>
          cases hfind
          exact ⟨rfl, .inr ⟨name, hfinal, by simpa using hslash⟩⟩

end Paths

/-- What a path leads to, seen by a call. -/
theorem stat_of_ok {path : String} {place : Place} {entry : Entry} (h : d.find? path true = .ok (place, entry)) :
    stat path d = (.ok entry, d) := by
  rw [stat, Call.look, h]
  rfl

theorem stat_of_error {path : String} (h : d.find? path true = .error e) : stat path d = (.error e, d) := by
  rw [stat, Call.look, h]
  rfl

theorem doesExist_of_ok {path : String} {found : Place × Entry} (h : d.find? path true = .ok found) :
    doesExist path d = (.ok true, d) := by
  rw [doesExist, Call.look, h]

theorem doesExist_of_noEntry {path : String} (h : d.find? path true = .error .noEntry) :
    doesExist path d = (.ok false, d) := by
  rw [doesExist, Call.look, h]

theorem doesExist_of_error {path : String} (h : d.find? path true = .error e) (he : e ≠ .noEntry) :
    doesExist path d = (.error e, d) := by
  rw [doesExist, Call.look, h]
  cases e <;> first | rfl | exact absurd rfl he

theorem list_of_dir {path : String} {place : Place} {entries : List (String × Entry)}
    (h : d.find? path true = .ok (place, .dir entries)) : list path d = (.ok entries, d) :=
  Call.bind_of_ok (stat_of_ok h) _

theorem list_of_error {path : String} (h : d.find? path true = .error e) : list path d = (.error e, d) :=
  Call.bind_of_error (stat_of_error h) _

section CopyTree

variable {source target : String} {depth : Nat}

theorem copyTree_of_error (h : d.find? source true = .error e) :
    copyTree (depth + 1) source target d = (.error e, d) := by
  rw [copyTree, Call.bind_of_error (stat_of_error h)]

/-- Making the directory that a directory is copied to, and listing what is to be copied into it. -/
def openDirs (source target : String) : Call (List (String × Entry)) := do
  makeDirs maxPath target
  list source

/-- A directory is copied entry by entry, into a directory that is made for them. -/
theorem copyTree_of_dir {place : Place} {entry : Entry} (h : d.find? source true = .ok (place, entry))
    (hdir : entry.isDir = true) :
    copyTree (depth + 1) source target d = (do
      (← openDirs source target).reverse.forM fun x =>
        copyTree depth (Path.join source x.1) (Path.join target x.1) : Call Unit) d := by
  rw [copyTree, Call.bind_of_ok (stat_of_ok h), if_pos hdir, openDirs, bind_assoc]

theorem copyTree_of_file {place : Place} {entry : Entry} (h : d.find? source true = .ok (place, entry))
    (hfile : entry.isDir = false) : copyTree (depth + 1) source target d = copyFile source target d := by
  rw [copyTree, Call.bind_of_ok (stat_of_ok h), if_neg (by simp [hfile])]

end CopyTree

end Disk

namespace DiskHost

variable {α : Type} {h : DiskHost} {path : String} {call : Disk.Call α}

theorem onDisk_eq {r : Except Errno α} {d : Disk} (hcall : call h.disk = (r, d)) :
    onDisk call h = (r.mapError Errno.toFault, { h with disk := d }) := by
  have hrun : onDisk call h = ((call h.disk).1.mapError Errno.toFault, { h with disk := (call h.disk).2 }) := rfl
  rw [hrun, hcall]

theorem onDisk_congr {call' : Disk.Call α} (hcall : call h.disk = call' h.disk) : onDisk call h = onDisk call' h :=
  (onDisk_eq hcall).trans rfl

section Guarded

variable (check : Bool → Option Fault)

theorem guarded_run (h : DiskHost) (path : String) (check : Bool → Option Fault) (call : Disk.Call α) :
    guarded path check call h = (match (onDisk (Disk.doesExist path) h).1 with
      | .error fault => (pure (.error fault) : StateM DiskHost (Outcome α))
      | .ok there => match check there with
        | some fault => pure (.error fault)
        | none => onDisk call) (onDisk (Disk.doesExist path) h).2 := rfl

/-- What comes of a guarded call, once it is known whether the path leads to something. -/
theorem guarded_eq {there : Bool} (hthere : Disk.doesExist path h.disk = (.ok there, h.disk)) :
    guarded path check call h = match check there with
      | some fault => (.error fault, h)
      | none => onDisk call h := by
  rw [guarded_run, onDisk_eq hthere]
  show (match check there with
    | some fault => (pure (.error fault) : StateM DiskHost (Outcome α))
    | none => onDisk call) h = _
  cases check there <;> rfl

theorem guarded_of_fault {there : Bool} {fault : Fault} (hthere : Disk.doesExist path h.disk = (.ok there, h.disk))
    (hcheck : check there = some fault) : guarded path check call h = (.error fault, h) := by
  rw [guarded_eq check hthere, hcheck]

theorem guarded_of_none {there : Bool} (hthere : Disk.doesExist path h.disk = (.ok there, h.disk))
    (hcheck : check there = none) : guarded path check call h = onDisk call h := by
  rw [guarded_eq check hthere, hcheck]

theorem guarded_of_error {e : Errno} (he : Disk.doesExist path h.disk = (.error e, h.disk)) :
    guarded path check call h = (.error e.toFault, h) := by
  rw [guarded_run, onDisk_eq he]
  rfl

end Guarded

end DiskHost

end Workbench

import Mathlib.Logic.Relation
import Workbench.Proofs.Disk.Way

/-!
What is done to the files of a disk, call by call.  Every call takes the disk through steps that make, fill, take away
or move one file, and of every step the disk notes what it does to the files that are there.
-/

namespace Workbench

namespace Entry

/-- A file, or a link that leads through no NUL. -/
def IsLeaf : Entry → Prop
  | file .. => True
  | link target => '\x00' ∉ target.toList
  | dir _ => False

variable {e : Entry}

theorem node_eq_dir_iff : e.node = .dir ↔ e.isDir = true := by
  cases e <;> simp [node, isDir]

theorem isDir_eq_false (h : ∀ entries, e ≠ .dir entries) : e.isDir = false := by
  cases e with
  | file id content => rfl
  | link target => rfl
  | dir entries => exact absurd rfl (h entries)

theorem children_eq_nil (h : e.node ≠ .dir) : e.children = [] := by
  cases e with
  | file id content => rfl
  | link target => rfl
  | dir entries => exact absurd rfl h

theorem IsLeaf.node_ne_dir (h : e.IsLeaf) : e.node ≠ .dir := by
  cases e with
  | file id content => simp [node]
  | link target => simp [node]
  | dir entries => exact h.elim

end Entry

namespace Disk

open Entry (IsName)

/-- A disk whose names are in order; links may stand anywhere. -/
structure Regular (d : Disk) : Prop where
  root : d.node? [] = some .dir
  tidy : d.root.Tidy
  noNul : ∀ place target, d.node? place = some (.link target) → '\x00' ∉ target.toList

/-- Something stands at a place, and it is not a directory. -/
def HasFile (d : Disk) (place : Place) : Prop := d.node? place ≠ none ∧ d.node? place ≠ some .dir

/-- A name in a directory under which there is no directory. -/
structure Slot (d : Disk) (place : Place) : Prop where
  named : ∃ dir name, place = dir ++ [name] ∧ d.node? dir = some .dir ∧ IsName name
  notDir : d.node? place ≠ some .dir

section Regular

variable {d d' : Disk} {place r : Place} {e : Entry} {new : Option Entry}

theorem node?_of_at? (h : d.at? place = some e) : d.node? place = some e.node := by
  rw [node?, h, Option.map_some]

theorem hasFile_iff : d.HasFile place ↔ ∃ e, d.at? place = some e ∧ e.isDir = false := by
  rw [HasFile, node?]
  cases d.at? place with
  | none => simp
  | some e => simp [Entry.node_eq_dir_iff]

theorem Sound.regular (h : d.Sound) : d.Regular :=
  ⟨h.root, h.tidy, fun place target hlink => absurd hlink (h.linkless place target)⟩

theorem Regular.names (h : d.Regular) (hfile : d.HasFile place) : ∀ name ∈ place, IsName name :=
  names_of_tidy h.tidy hfile.1

theorem Regular.leaf (h : d.Regular) (hat : d.at? place = some e) (hdir : d.node? place ≠ some .dir) : e.IsLeaf := by
  cases e with
  | file id content => trivial
  | link target => exact h.noNul place target (node?_of_at? hat)
  | dir entries => exact hdir (node?_of_at? hat)

/-- What is done in a slot shows there only. -/
theorem Regular.altered (h : d.Regular) (hslot : d.Slot place) (hnew : ∀ e ∈ new, e.IsLeaf)
    (hroot : d'.root = d.root.alter (fun _ => new) place) :
    d'.Regular ∧ ∀ r, d'.node? r = if r = place then new.map Entry.node else d.node? r := by
  obtain ⟨⟨dir, name, rfl, hdir, hname⟩, hnot⟩ := hslot
  obtain ⟨entries, hentries⟩ := node?_eq_dir_iff.1 hdir
  have hold : ∀ old ∈ Entry.lookup entries name, old.children = [] := by
    intro old hold
    rw [node?_concat hentries, hold] at hnot
    exact Entry.children_eq_nil fun heq => hnot (congrArg some heq)
  have hempty : ∀ e ∈ new, e.children = [] := fun e he => Entry.children_eq_nil (hnew e he).node_ne_dir
  have hnode : ∀ r, d'.node? r = if r = dir ++ [name] then new.map Entry.node else d.node? r := by
    intro r
    rw [node?, at?, hroot]
    exact h.tidy.node_at?_alter _ hentries hold hempty r
  refine ⟨⟨?_, ?_, fun r target hlink => ?_⟩, hnode⟩
  · rw [hnode, if_neg (by simp)]
    exact h.root
  · rw [hroot]
    exact tidy_alter h.tidy hdir hname hempty
  · rw [hnode] at hlink
    split at hlink
    · obtain ⟨e, he, hlinked⟩ := Option.map_eq_some_iff.1 hlink
      cases e with
      | file id content => cases hlinked
      | link text =>
          cases hlinked
          exact hnew _ he
      | dir es => cases hlinked
    · exact h.noNul r target hlink

/-- The files after something has been done in a slot. -/
theorem hasFile_altered (hnew : ∀ e ∈ new, e.IsLeaf)
    (hnode : ∀ r, d'.node? r = if r = place then new.map Entry.node else d.node? r) :
    d'.HasFile r ↔ if r = place then new.isSome = true else d.HasFile r := by
  rw [HasFile, hnode]
  split
  · cases new with
    | none => simp
    | some e => simp [(hnew e rfl).node_ne_dir]
  · rfl

end Regular

section Contents

variable {d : Disk} {place : Place} {id : Nat} {content : ByteArray}

theorem hasFile_setContent : (d.setContent id content).HasFile place ↔ d.HasFile place := by
  have hdir : ∀ e : Entry, (e.setContent id content).isDir = e.isDir := by
    intro e
    cases e with
    | file n old =>
        rw [Entry.setContent]
        split <;> rfl
    | link target => rfl
    | dir entries => rfl
  simp [hasFile_iff, at?_setContent, hdir]

theorem Regular.filled (h : d.Regular) (id : Nat) (content : ByteArray) : (d.setContent id content).Regular := by
  refine ⟨?_, tidy_setContent h.tidy id content, fun place target hlink => ?_⟩
  · obtain ⟨entries, hentries⟩ := node?_eq_dir_iff.1 h.root
    rw [node?, at?_setContent, hentries]
    rfl
  · rw [node?, at?_setContent, Option.map_map] at hlink
    obtain ⟨old, hold, hset⟩ := Option.map_eq_some_iff.1 hlink
    cases old with
    | file n old =>
        rw [Function.comp_apply, Entry.setContent] at hset
        split at hset <;> cases hset
    | link text =>
        cases hset
        exact h.noNul place _ (node?_of_at? hold)
    | dir entries => cases hset

/-- A file that is found by its number stands where it is found. -/
theorem Regular.hasFile_of_place? (h : d.Regular) (hplace : d.place? id = some place) : d.HasFile place := by
  rw [place?] at hplace
  obtain ⟨⟨p, e⟩, hmem, hfound⟩ := List.exists_of_findSome?_eq_some hplace
  obtain ⟨below, -, rfl, hat⟩ := Entry.at?_of_mem_under d.root h.tidy [] hmem
  cases e with
  | file n content =>
      dsimp only at hfound
      split at hfound
      · cases hfound
        exact hasFile_iff.2 ⟨_, hat, rfl⟩
      · cases hfound
  | link target => cases hfound
  | dir entries => cases hfound

theorem place?_congr {d' : Disk} (h : d.root = d'.root) : d.place? id = d'.place? id := by
  rw [place?, place?, h]

/-- It is noted where a file has been filled, if it stands anywhere. -/
theorem happenings_setContent (d : Disk) (id : Nat) (content : ByteArray) : (d.setContent id content).happenings =
    d.happenings ++ (((d.setContent id content).place? id).map fun place => (place, Happening.modified)).toList := by
  have hplace : (d.setContent id content).place? id = ({ root := d.root.setContent id content } : Disk).place? id :=
    place?_congr (root_setContent d id content)
  rw [hplace, setContent]
  -- where a file is found depends on the tree only
  split
  · next place hfound =>
    rw [show ({ root := d.root.setContent id content } : Disk).place? id = some place from hfound]
    rfl
  · next hnone =>
    rw [show ({ root := d.root.setContent id content } : Disk).place? id = none from hnone]
    exact (List.append_nil _).symm

end Contents

/-- A step in the history of the files of a disk. -/
inductive Step (d : Disk) : Disk → Prop
  | added {place : Place} (content : ByteArray) : d.Slot place → Step d (d.addFile place content).2
  | filled (id : Nat) (content : ByteArray) : Step d (d.setContent id content)
  | removed {place : Place} : d.Slot place → d.HasFile place → Step d ((d.cut place).note place .removed)
  | moved {source target : Place} {e : Entry} : d.Slot source → d.at? source = some e → d.Slot target →
      source ≠ target → Step d (d.move source target e)

/-- Any number of steps. -/
abbrev Steps : Disk → Disk → Prop := Relation.ReflTransGen Step

end Disk

/-- What a happening means for the files that are there. -/
def Happening.Explains (place : Place) (before after : Place → Prop) : Happening → Prop
  | created => ∀ r, after r ↔ r = place ∨ before r
  | removed => before place ∧ ∀ r, after r ↔ before r ∧ r ≠ place
  | modified => before place ∧ ∀ r, after r ↔ before r
  | movedTo target => before place ∧ place ≠ target ∧ ∀ r, after r ↔ r = target ∨ before r ∧ r ≠ place

namespace Disk

open Entry (IsName)

variable {d d' : Disk}

/-- A disk has noted how its files became others. -/
inductive Noted (d d' : Disk) : Prop
  | nothing : d'.happenings = d.happenings → (∀ r, d'.HasFile r ↔ d.HasFile r) → Noted d d'
  | happening (place : Place) (what : Happening) : d'.happenings = d.happenings ++ [(place, what)] →
      what.Explains place d.HasFile d'.HasFile → Noted d d'

section Steps

variable {source target : Place} {e : Entry}

/-- What is moved is taken out of its slot, and put into another that is still there. -/
theorem Regular.moved (h : d.Regular) (hsource : d.Slot source) (hat : d.at? source = some e) (htarget : d.Slot target)
    (hne : source ≠ target) : (d.move source target e).Regular ∧ Noted d (d.move source target e) := by
  have hleaf : ∀ x ∈ some e, x.IsLeaf := by
    rintro _ ⟨⟩
    exact h.leaf hat hsource.notDir
  obtain ⟨d₁, hd₁⟩ : ∃ d₁ : Disk, d₁.root = d.root.alter (fun _ => none) source := ⟨{ root := _ }, rfl⟩
  obtain ⟨hregular, hnode⟩ := h.altered hsource (by rintro _ ⟨⟩) hd₁
  have hslot : d₁.Slot target := by
    obtain ⟨⟨dir, name, rfl, hdir, hname⟩, hnot⟩ := htarget
    have hother : dir ≠ source := fun heq => hsource.notDir (heq ▸ hdir)
    refine ⟨⟨dir, name, rfl, ?_, hname⟩, ?_⟩
    · rw [hnode, if_neg hother]
      exact hdir
    · rw [hnode, if_neg (Ne.symm hne)]
      exact hnot
  have hroot : (d.move source target e).root = d₁.root.alter (fun _ => some e) target := by
    rw [hd₁]
    rfl
  have hfile : d.HasFile source := ⟨node?_of_at? hat ▸ Option.some_ne_none _, hsource.notDir⟩
  obtain ⟨hmoved, hthere⟩ := hregular.altered hslot hleaf hroot
  refine ⟨hmoved, .happening source (.movedTo target) rfl ⟨hfile, hne, fun r => ?_⟩⟩
  rw [hasFile_altered hleaf hthere, hasFile_altered (by rintro _ ⟨⟩) hnode]
  by_cases htarget : r = target
  · simp [htarget]
  · by_cases hsource : r = source <;> simp [htarget, hsource, hne]

/-- A step leaves a disk regular, and the disk notes it. -/
theorem Regular.step (h : d.Regular) (hstep : Step d d') : d'.Regular ∧ Noted d d' := by
  cases hstep with
  | @added place content hslot =>
      have hleaf : ∀ e ∈ some (Entry.file d.nextId content), e.IsLeaf := by
        rintro _ ⟨⟩
        trivial
      obtain ⟨hregular, hnode⟩ : (d.addFile place content).2.Regular ∧ _ := h.altered hslot hleaf rfl
      refine ⟨hregular, .happening place .created rfl fun r => ?_⟩
      rw [hasFile_altered hleaf hnode]
      by_cases heq : r = place <;> simp [heq]
  | filled id content =>
      have hnoted := happenings_setContent d id content
      refine ⟨h.filled id content, ?_⟩
      cases hplace : (d.setContent id content).place? id with
      | none =>
          rw [hplace] at hnoted
          exact .nothing (hnoted.trans (List.append_nil _)) fun r => hasFile_setContent
      | some place =>
          rw [hplace] at hnoted
          have hthere := (h.filled id content).hasFile_of_place? hplace
          exact .happening place .modified hnoted ⟨hasFile_setContent.1 hthere, fun r => hasFile_setContent⟩
  | @removed place hslot hfile =>
      obtain ⟨hregular, hnode⟩ : ((d.cut place).note place .removed).Regular ∧ _ :=
        h.altered hslot (by rintro _ ⟨⟩) rfl
      refine ⟨hregular, .happening place .removed rfl ⟨hfile, fun r => ?_⟩⟩
      rw [hasFile_altered (by rintro _ ⟨⟩) hnode]
      by_cases heq : r = place <;> simp [heq]
  | moved hsource hat htarget hne => exact h.moved hsource hat htarget hne

theorem Regular.steps (h : d.Regular) (hsteps : Steps d d') : d'.Regular := by
  induction hsteps with
  | refl => exact h
  | tail _ hstep ih => exact (ih.step hstep).1

end Steps

/-- The spot that a path leads to is in a directory, and what the path names there stands there. -/
structure Stands (d : Disk) (spot : Spot) : Prop where
  dir : d.node? spot.dir = some .dir
  named : ∀ name entry, spot.final = .named name entry → IsName name ∧ entry = d.at? spot.place

section Spots

variable {spot : Spot} {dir : Place} {part path : String} {entry : Option Entry} {slash follow : Bool}

/-- What a walk looks up is what stands at the place. -/
theorem lookup_eq (hdir : d.node? dir = some .dir) :
    ((d.root.at? dir).bind fun e => Entry.lookup e.children part) = d.at? (dir ++ [part]) := by
  obtain ⟨entries, hentries⟩ := node?_eq_dir_iff.1 hdir
  rw [show d.root.at? dir = some (.dir entries) from hentries]
  exact (Entry.at?_concat hentries).symm

/-- The last part of a path, with what stands there. -/
theorem Stands.last (hdir : d.node? dir = some .dir) (hname : IsName part)
    (hentry : ((d.root.at? dir).bind fun e => Entry.lookup e.children part) = entry) :
    Stands d ⟨dir, .named part entry, slash⟩ where
  dir := hdir
  named name entry' hfinal := by
    cases hfinal
    exact ⟨hname, hentry.symm.trans (lookup_eq hdir)⟩

/-- A walk that gets anywhere gets to a spot in a directory.  The cases are those of the walk: where it ends, where it
fails, and where it goes on; at a link it goes on with the parts that the link puts in front of the others. -/
theorem Regular.walk_stands (h : d.Regular) {links : Nat} {last : String} {parts : List String}
    (hdir : d.node? dir = some .dir) (hparts : ∀ part ∈ parts, part ≠ "." → part ≠ ".." → IsName part)
    (hwalk : walk d.root follow slash links dir last parts = .ok spot) : Stands d spot := by
  fun_induction walk d.root follow slash links dir last parts with
  | case1 slash links dir last =>
      cases hwalk
      exact ⟨hdir, by rintro name entry ⟨⟩⟩
  | case2 slash links dir last rest ih => exact ih hdir (fun p hp => hparts p (.tail _ hp)) hwalk
  | case3 slash links dir last rest hne ih =>
      exact ih (node?_dropLast h.root hdir) (fun p hp => hparts p (.tail _ hp)) hwalk
  | case8 slash links dir last part rest hcurrent hparent hsize entries hfound hrest ih =>
      rw [lookup_eq hdir] at hfound
      exact ih (node?_of_at? hfound) (fun p hp => hparts p (.tail _ hp)) hwalk
  | case14 slash dir last part rest hcurrent hparent hsize target hfound hgoes links hempty ih =>
      rw [lookup_eq hdir] at hfound
      simp only [dite_eq_ite] at ih
      refine ih ?_ (fun p hp => ?_) hwalk
      · split
        · exact h.root
        · exact hdir
      · rcases List.mem_append.1 hp with hp | hp
        · exact isName_of_mem_partsOf hp (h.noNul _ target (node?_of_at? hfound))
        · exact hparts p (.tail _ hp)
  | case5 slash links dir last part rest hcurrent hparent hsize hfound hrest
  | case7 slash links dir last part rest hcurrent hparent hsize entries hfound hrest
  | case9 slash links dir last part rest hcurrent hparent hsize id content hfound hrest
  | case11 slash links dir last part rest hcurrent hparent hsize target hfound hrest =>
      cases hwalk
      exact .last hdir (hparts part List.mem_cons_self hcurrent hparent) hfound
  | _ => cases hwalk

/-- A path that leads anywhere leads to a spot in a directory. -/
theorem Regular.spot?_stands (h : d.Regular) (hspot : d.spot? path follow = .ok spot) : Stands d spot := by
  obtain ⟨⟨hnul, -⟩, hwalk⟩ := walk_of_spot? hspot
  exact h.walk_stands h.root (fun part hpart => isName_of_mem_partsOf hpart hnul) hwalk

/-- What a path names is a slot, unless a directory is there. -/
theorem Stands.slot (hstands : Stands d spot) {name : String} (hfinal : spot.final = .named name entry)
    (hentry : ∀ e ∈ entry, e.isDir = false) : d.Slot spot.place ∧ d.at? spot.place = entry := by
  obtain ⟨hname, hthere⟩ := hstands.named name entry hfinal
  refine ⟨⟨⟨spot.dir, name, by rw [Spot.place, hfinal], hstands.dir, hname⟩, ?_⟩, hthere.symm⟩
  rw [node?, ← hthere]
  cases entry with
  | none => simp
  | some e => simpa [Entry.node_eq_dir_iff] using hentry e rfl

end Spots

section Calls

variable {source : String}

/-- A call that begins with another, which takes its steps first. -/
theorem steps_of_bind {α β : Type} {call : Call α} {next : α → Call β} (hcall : Steps d (call d).2)
    (hnext : ∀ a, (call d).1 = .ok a → Steps (call d).2 (next a (call d).2).2) : Steps d ((call >>= next) d).2 := by
  cases hresult : (call d).1 with
  | error e => rwa [Call.bind_of_error (Prod.ext hresult rfl)]
  | ok a =>
      rw [Call.bind_of_ok (Prod.ext hresult rfl)]
      exact hcall.trans (hnext a hresult)

/-- A look at the disk is no step. -/
theorem steps_of_look {α β : Type} {f : Disk → Except Errno α} {next : α → Call β}
    (h : ∀ a, f d = .ok a → Steps d (next a d).2) : Steps d ((Call.look f >>= next) d).2 :=
  steps_of_bind .refl h

theorem Regular.createFile_steps (h : d.Regular) (path : String) : Steps d (createFile path d).2 := by
  refine steps_of_look fun spot hspot => ?_
  cases hfinal : spot.final with
  | dots last => exact .refl
  | named name entry =>
      dsimp only
      split
      · exact .refl
      · cases entry with
        | none => exact .single (.added .empty ((h.spot?_stands hspot).slot hfinal (by rintro _ ⟨⟩)).1)
        | some entry =>
            cases entry with
            | dir entries => exact .refl
            | link target => exact .refl
            | file id old => exact .single (.filled id .empty)

theorem Regular.writeAll_steps (h : d.Regular) (path : String) (content : ByteArray) :
    Steps d (writeAll path content d).2 := by
  refine steps_of_bind (h.createFile_steps path) fun id _ => ?_
  split
  · exact .refl
  · exact .single (.filled id content)

theorem Regular.removeFile_steps (h : d.Regular) (path : String) : Steps d (removeFile path d).2 := by
  refine steps_of_look fun spot hspot => ?_
  have htaken : ∀ name e, spot.final = .named name (some e) → e.isDir = false →
      Steps d ((if spot.slash = true then throw .notDirectory
        else modify fun d => (d.cut spot.place).note spot.place .removed : Call Unit) d).2 := by
    intro name e hfinal hfile
    obtain ⟨hslot, hat⟩ := (h.spot?_stands hspot).slot hfinal (by rintro _ ⟨⟩; exact hfile)
    split
    · exact .refl
    · exact .single (.removed hslot (hasFile_iff.2 ⟨e, hat, hfile⟩))
  cases hfinal : spot.final with
  | dots last => exact .refl
  | named name entry =>
      cases entry with
      | none => exact .refl
      | some entry =>
          cases entry with
          | dir entries => exact .refl
          | file id content => exact htaken name _ hfinal rfl
          | link target => exact htaken name _ hfinal rfl

/-- A file is not moved onto a directory. -/
theorem moveFailure?_of_dir {a b : Spot} {moved : Entry} {entries : List (String × Entry)}
    (hmoved : moved.isDir = false) (hplace : a.place ≠ b.place) :
    moveFailure? a b moved (some (.dir entries)) ≠ none := by
  rw [moveFailure?]
  split_ifs
  all_goals simp [hmoved]

/-- Moving what is not a directory. -/
theorem Regular.rename_steps (h : d.Regular) {a : Spot} (ha : d.spot? source false = .ok a)
    (hfile : ∀ name e, a.final = .named name (some e) → e.isDir = false) (target : String) :
    Steps d (rename source target d).2 := by
  refine steps_of_look fun a' ha' => steps_of_look fun b hb => ?_
  obtain rfl : a = a' := Except.ok.inj (ha.symm.trans ha')
  cases hfrom : a.final with
  | dots last => cases b.final <;> exact .refl
  | named name entry =>
      cases hto : b.final with
      | dots last => cases entry <;> exact .refl
      | named name' there =>
          cases entry with
          | none => exact .refl
          | some moved =>
              have hmoved := hfile name moved hfrom
              dsimp only
              cases hfailure : moveFailure? a b moved there with
              | some e => exact .refl
              | none =>
                  dsimp only
                  by_cases hplace : a.place = b.place
                  · rw [if_pos hplace]
                    exact .refl
                  · rw [if_neg hplace]
                    have hthere : ∀ e ∈ there, e.isDir = false := by
                      rintro e rfl
                      apply Entry.isDir_eq_false
                      rintro entries rfl
                      exact moveFailure?_of_dir hmoved hplace hfailure
                    obtain ⟨hslot, hat⟩ := (h.spot?_stands ha).slot hfrom (by rintro _ ⟨⟩; exact hmoved)
                    exact .single (.moved hslot hat ((h.spot?_stands hb).slot hto hthere).1 hplace)

end Calls

end Disk

/-- Something that is done to the files of a disk. -/
inductive FileAct where
  /-- All of a file is replaced; it is made if it is not there. -/
  | write (path : String) (content : ByteArray)
  /-- Contents are put into an open file, wherever it is. -/
  | fill (id : Nat) (content : ByteArray)
  | remove (path : String)
  /-- A file is moved, in place of another if that is there. -/
  | rename (source target : String)

/-- The call by which it is done.  Directories are not moved. -/
def FileAct.call : FileAct → Disk.Call Unit
  | write path content => Disk.writeAll path content
  | fill id content => modify fun d => d.setContent id content
  | remove path => Disk.removeFile path
  | rename source target => do
    let spot ← Disk.Call.look fun d => d.spot? source false
    match spot.final with
    | .named _ (some (.dir _)) => throw .isDirectory
    | _ => Disk.rename source target

namespace Disk

variable {d : Disk}

/-- A disk after some acts, one after another. -/
def after (d : Disk) (acts : List FileAct) : Disk := acts.foldl (fun d a => (a.call d).2) d

theorem Regular.act_steps (h : d.Regular) (a : FileAct) : Steps d (a.call d).2 := by
  cases a with
  | write path content => exact h.writeAll_steps path content
  | fill id content => exact .single (.filled id content)
  | remove path => exact h.removeFile_steps path
  | rename source target =>
      refine steps_of_look fun spot hspot => ?_
      have hmoved : (∀ name e, spot.final = .named name (some e) → e.isDir = false) →
          Steps d (Disk.rename source target d).2 := fun hfile => h.rename_steps hspot hfile target
      cases hfinal : spot.final with
      | dots last => exact hmoved (by simp [hfinal])
      | named name entry =>
          cases entry with
          | none => exact hmoved (by simp [hfinal])
          | some entry =>
              cases entry with
              | dir entries => exact .refl
              | file id content => exact hmoved (by simp [hfinal, Entry.isDir])
              | link text => exact hmoved (by simp [hfinal, Entry.isDir])

theorem Regular.after_steps (h : d.Regular) (acts : List FileAct) : Steps d (d.after acts) := by
  induction acts generalizing d with
  | nil => exact .refl
  | cons a acts ih =>
      have hfirst := h.act_steps a
      exact hfirst.trans (ih (h.steps hfirst))

end Disk

end Workbench

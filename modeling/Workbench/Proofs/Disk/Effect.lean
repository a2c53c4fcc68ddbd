import Workbench.Proofs.Disk.Outcome
import Workbench.Proofs.Disk.Way

/-!
What the calls that a copy is made of do to a disk without links: which places they touch, and what stands there
when they succeed.
-/

namespace Workbench.Disk

variable {d : Disk} {path : String}

/-- A spot with nothing at it is a name that is free in a directory. -/
theorem Sound.free_of_spot? (h : d.Sound) {follow : Bool} {spot : Spot} {name : String}
    (hspot : d.spot? path follow = .ok spot) (hfinal : spot.final = .named name none) :
    ∃ entries, d.at? spot.dir = some (.dir entries) ∧ Entry.IsName name ∧ Entry.lookup entries name = none ∧
      spot.place = spot.dir ++ [name] := by
  have harrives := h.spot?_arrives hspot
  obtain ⟨hnone, -, hmem, hcurrent, hparent⟩ := harrives.named name none hfinal
  obtain ⟨entries, hentries⟩ := node?_eq_dir_iff.1 harrives.dir
  have hplace : spot.place = spot.dir ++ [name] := by rw [Spot.place, hfinal]
  refine ⟨entries, hentries, ?_, ?_, hplace⟩
  · exact isName_of_mem_partsOf hmem (walk_of_spot? hspot).1.1 hcurrent hparent
  · rw [hplace, at?, Entry.at?_concat hentries] at hnone
    exact hnone.symm

/-- Making a directory fails and changes nothing, or puts one where nothing was, with directories all the way. -/
theorem Sound.makeDir_effect (h : d.Sound) (path : String) :
    (∃ e, makeDir path d = (.error e, d)) ∨
    ∃ d', makeDir path d = (.ok (), d') ∧ placeOf path ∈ way path ∧ d.node? (placeOf path) = none ∧
      Change d (placeOf path) d' ∧ d'.node? (placeOf path) = some .dir ∧
      ∀ r ∈ way path, r ≠ placeOf path → d.node? r = some .dir := by
  cases hspot : d.spot? path false with
  | error e => exact .inl ⟨e, Call.bind_of_error (Call.look_eq hspot) _⟩
  | ok spot =>
      have hrun : makeDir path d = _ := Call.bind_of_ok (Call.look_eq hspot) _
      cases hfinal : spot.final with
      | dots last =>
          rw [hfinal] at hrun
          exact .inl ⟨.exists, hrun⟩
      | named name entry =>
          rw [hfinal] at hrun
          cases entry with
          | some entry => exact .inl ⟨.exists, hrun⟩
          | none =>
              have harrives := h.spot?_arrives hspot
              obtain ⟨entries, hentries, hname, hfree, hplace⟩ := h.free_of_spot? hspot hfinal
              obtain ⟨-, hway, -⟩ := harrives.named name none hfinal
              rw [show placeOf path = spot.place from harrives.place_eq.symm]
              refine .inr ⟨_, hrun, hway, ?_, ?_, ?_, harrives.way⟩
              · rw [hplace, node?_concat hentries, hfree]
                rfl
              · rw [hplace]
                exact .made hentries hname hfree
              · rw [hplace, h.node?_made hentries hfree, if_pos rfl]

/-- Whether a path leads to a directory, with all failures taken for no. -/
theorem isDir_eq (d : Disk) (path : String) :
    (tryCatch (do return (← stat path).isDir) fun _ => pure false : Call Bool) d = (.ok (d.isDir path), d) := by
  cases hfind : d.find? path true with
  | ok found =>
      rw [isDir, hfind]
      exact Call.catch_of_ok (Call.bind_of_ok (stat_of_ok hfind) _) _
  | error e =>
      rw [isDir, hfind]
      exact Call.catch_of_error (Call.bind_of_error (stat_of_error hfind) _) _

/-- A path that leads to a directory leads through directories. -/
theorem Sound.way_of_isDir (h : d.Sound) (hdir : d.isDir path = true) :
    d.node? (placeOf path) = some .dir ∧ ∀ r ∈ way path, d.node? r = some .dir := by
  rw [isDir] at hdir
  split at hdir
  · next place e hfind =>
    obtain ⟨rfl, hat, hway⟩ := h.find?_arrives hfind
    have hhere : d.node? (placeOf path) = some .dir := by
      cases e with
      | dir entries => exact node?_eq_dir_iff.2 ⟨entries, hat⟩
      | file id content => cases hdir
      | link target => cases hdir
    refine ⟨hhere, fun r hr => ?_⟩
    by_cases heq : r = placeOf path
    · rw [heq]
      exact hhere
    · exact hway r hr heq
  · cases hdir

/-- What making directories on a way comes to: some that were missing on it are there, and all if it succeeds. -/
structure Paved (d : Disk) (path : String) (outcome : Except Errno Unit × Disk) : Prop where
  becomes : Becomes (fun r => r ∈ way path ∧ d.node? r = none) d outcome.2
  paved : outcome.1 = .ok () →
    outcome.2.node? (placeOf path) = some .dir ∧ ∀ r ∈ way path, outcome.2.node? r = some .dir

theorem Paved.failed (d : Disk) (path : String) (e : Errno) : Paved d path (.error e, d) where
  becomes := .same
  paved := by rintro ⟨⟩

/-- When a directory cannot be made it will do if it is there. -/
theorem Sound.settled (h : d.Sound) (path : String) (e : Errno) :
    Paved d path ((do
      if ← tryCatch (do return (← stat path).isDir) fun _ => pure false then pure () else throw e : Call Unit) d) := by
  rw [Call.bind_of_ok (isDir_eq d path)]
  cases hdir : d.isDir path with
  | true => exact ⟨.same, fun _ => h.way_of_isDir hdir⟩
  | false => exact .failed d path e

theorem Sound.paved_of_made (h : d.Sound) {d' : Disk} (hmade : makeDir path d = (.ok (), d')) :
    Paved d path (.ok (), d') := by
  rcases h.makeDir_effect path with ⟨e, hmake⟩ | ⟨d'', hmake, hmem, hnone, hchange, hhere, hway⟩
  · rw [hmade] at hmake
    cases hmake
  · rw [hmade] at hmake
    cases hmake
    have hbecomes : Becomes (fun r => r ∈ way path ∧ d.node? r = none) d d' := .single ⟨hmem, hnone⟩ hchange
    refine ⟨hbecomes, fun _ => ⟨hhere, fun r hr => ?_⟩⟩
    by_cases heq : r = placeOf path
    · rw [heq]
      exact hhere
    · exact hbecomes.dir h (hway r hr heq)

/-- Making a directory, or else what is done instead where it cannot be made. -/
theorem Sound.paved_of_catch (h : d.Sound) {handle : Errno → Call Unit} (hhandle : ∀ e, Paved d path (handle e d)) :
    Paved d path ((tryCatch (makeDir path) handle : Call Unit) d) := by
  rcases h.makeDir_effect path with ⟨e, hmake⟩ | ⟨d', hmake, -⟩
  · rw [Call.catch_of_error hmake]
    exact hhandle e
  · rw [Call.catch_of_ok hmake]
    exact h.paved_of_made hmake

/-- The way to the parent, and once it is there the rest of the way. -/
theorem Paved.bind {parent : String} (hsound : d.Sound) (hparent : Path.parent? path = some parent)
    {first next : Call Unit} (hfirst : Paved d parent (first d))
    (hnext : ∀ d', d'.Sound → Paved d' path (next d')) : Paved d path ((do first; next : Call Unit) d) := by
  obtain ⟨r, d', hrun⟩ : ∃ r d', first d = (r, d') := ⟨_, _, rfl⟩
  rw [hrun] at hfirst
  have hway : Becomes (fun r => r ∈ way path ∧ d.node? r = none) d d' :=
    hfirst.becomes.mono fun r hr => ⟨way_parent hparent hr.1, hr.2⟩
  cases r with
  | error e =>
      rw [Call.bind_of_error hrun]
      exact ⟨hway, by rintro ⟨⟩⟩
  | ok _ =>
      rw [Call.bind_of_ok hrun]
      have hrest := hnext d' (hway.sound hsound)
      refine ⟨hway.trans (hrest.becomes.mono fun r hr => ⟨hr.1, ?_⟩), hrest.paved⟩
      exact not_imp_not.1 (hway.node?_ne_none hsound) hr.2

/-- The induction is on the bound; it follows the way up to where a directory can be made, and back down. -/
theorem Sound.makeDirs_paved (h : d.Sound) (depth : Nat) (path : String) :
    Paved d path (makeDirs depth path d) := by
  induction depth generalizing d path with
  | zero => exact .failed d path _
  | succ depth ih =>
      rw [makeDirs]
      split
      · next hempty =>
        rw [String.isEmpty_iff.1 hempty]
        refine ⟨.same, fun _ => ⟨h.root, ?_⟩⟩
        rw [way, partsOf_empty, wayFrom]
        simp
      · apply h.paved_of_catch
        intro e
        split
        · cases hparent : Path.parent? path with
          | none => exact .failed d path _
          | some parent =>
              exact Paved.bind h hparent (ih h parent) fun d' h' => h'.paved_of_catch (h'.settled path)
        · exact h.settled path _

/-- What making a directory for another and listing that one comes to. -/
structure Opened (d : Disk) (source target : String) (outcome : Except Errno (List (String × Entry)) × Disk) :
    Prop where
  becomes : Becomes (fun r => r ∈ way target ∧ d.node? r = none) d outcome.2
  made : ∀ entries, outcome.1 = .ok entries → outcome.2.node? (placeOf target) = some .dir
  paved : ∀ entries, outcome.1 = .ok entries → ∀ r ∈ way target, outcome.2.node? r = some .dir
  listed : ∀ entries, outcome.1 = .ok entries → outcome.2.at? (placeOf source) = some (.dir entries)

theorem Sound.openDirs_opened (h : d.Sound) (source target : String) :
    Opened d source target (openDirs source target d) := by
  have hpaved := h.makeDirs_paved maxPath target
  obtain ⟨r, d', hmake⟩ : ∃ r d', makeDirs maxPath target d = (r, d') := ⟨_, _, rfl⟩
  rw [hmake] at hpaved
  cases r with
  | error e =>
      have hrun : openDirs source target d = (.error e, d') := Call.bind_of_error hmake _
      rw [hrun]
      exact ⟨hpaved.becomes, by rintro _ ⟨⟩, by rintro _ ⟨⟩, by rintro _ ⟨⟩⟩
  | ok _ =>
      obtain ⟨hmade, hway⟩ := hpaved.paved rfl
      have hrun : openDirs source target d = list source d' := Call.bind_of_ok hmake _
      rcases (hpaved.becomes.sound h).find?_cases source true with
        ⟨e, hfind⟩ | ⟨id, content, hfind, -⟩ | ⟨entries, hfind, hat⟩
      · rw [hrun, list_of_error hfind]
        exact ⟨hpaved.becomes, by rintro _ ⟨⟩, by rintro _ ⟨⟩, by rintro _ ⟨⟩⟩
      · have hlist : list source d' = (.error .notDirectory, d') := Call.bind_of_ok (stat_of_ok hfind) _
        rw [hrun, hlist]
        exact ⟨hpaved.becomes, by rintro _ ⟨⟩, by rintro _ ⟨⟩, by rintro _ ⟨⟩⟩
      · rw [hrun, list_of_dir hfind]
        refine ⟨hpaved.becomes, fun _ _ => hmade, fun _ _ => hway, ?_⟩
        rintro _ ⟨⟩
        exact hat

/-- Opening a file for writing fails and changes nothing, or leaves an empty file at the place of the path: the one
that was there, if there was one. -/
theorem Sound.createFile_effect (h : d.Sound) (path : String) :
    (∃ e, createFile path d = (.error e, d)) ∨
    ∃ id d', createFile path d = (.ok id, d') ∧ Change d (placeOf path) d' ∧
      d'.node? (placeOf path) = some (.file id .empty) ∧
      ∀ n old, d.node? (placeOf path) = some (.file n old) → n = id := by
  cases hspot : d.spot? path true with
  | error e => exact .inl ⟨e, Call.bind_of_error (Call.look_eq hspot) _⟩
  | ok spot =>
      have hrun : createFile path d = _ := Call.bind_of_ok (Call.look_eq hspot) _
      have harrives := h.spot?_arrives hspot
      rw [show placeOf path = spot.place from harrives.place_eq.symm]
      cases hfinal : spot.final with
      | dots last =>
          rw [hfinal] at hrun
          exact .inl ⟨.isDirectory, hrun⟩
      | named name entry =>
          rw [hfinal] at hrun
          dsimp only at hrun
          split at hrun
          · exact .inl ⟨.isDirectory, hrun⟩
          · cases entry with
            | none =>
                obtain ⟨entries, hentries, hname, hfree, hplace⟩ := h.free_of_spot? hspot hfinal
                rw [hplace] at hrun ⊢
                refine .inr ⟨_, _, hrun, .added hentries hname hfree, ?_, ?_⟩
                · exact (h.node?_added hentries hfree _).trans (if_pos rfl)
                · rw [node?_concat hentries, hfree]
                  rintro n old ⟨⟩
            | some entry =>
                cases entry with
                | dir entries => exact .inl ⟨.isDirectory, hrun⟩
                | link target => exact .inl ⟨.isDirectory, hrun⟩
                | file id old =>
                    have hfile : d.node? spot.place = some (.file id old) :=
                      node?_eq_file_iff.2 (harrives.named name _ hfinal).1.symm
                    refine .inr ⟨_, _, hrun, .filled .empty hfile, ?_, ?_⟩
                    · rw [h.node?_filled .empty hfile, if_pos rfl]
                    · rw [hfile]
                      rintro n old ⟨⟩
                      rfl

/-- A file that is there can be opened for writing, and is emptied by that. -/
theorem Sound.createFile_of_file (h : d.Sound) {place : Place} {id : Nat} {old : ByteArray}
    (hfind : d.find? path true = .ok (place, .file id old)) :
    createFile path d = (.ok id, d.setContent id .empty) := by
  obtain ⟨spot, hspot, rfl, hfinal⟩ := spot?_of_find? hfind
  rw [Bool.true_or] at hspot
  have hrun : createFile path d = _ := Call.bind_of_ok (Call.look_eq hspot) _
  rcases hfinal with ⟨last, hfinal, hat⟩ | ⟨name, hfinal, hslash⟩
  · -- a path that ends in dots leads to a directory
    have hplace : spot.place = spot.dir := by rw [Spot.place, hfinal]
    have hdir := (h.spot?_arrives hspot).dir
    rw [← hplace, node?_eq_file_iff.2 hat] at hdir
    cases hdir
  · have hbare : spot.slash = false := Bool.eq_false_iff.2 fun hends => by cases hslash hends
    rw [hfinal, hbare] at hrun
    exact hrun

/-- Copying a file touches the place of the target only.  If it succeeds the target has the contents that the source
had, unless they are one file: that has been emptied. -/
theorem Sound.copyFile_effect (h : d.Sound) {source : String} {place : Place} {id : Nat} {content : ByteArray}
    (hsource : d.find? source true = .ok (place, .file id content)) (target : String) :
    Becomes (· = placeOf target) d (copyFile source target d).2 ∧
      ((copyFile source target d).1 = .ok () → ∃ copy, (copyFile source target d).2.node? (placeOf target) =
        some (.file copy (if placeOf target = place then .empty else content))) := by
  have hrun : copyFile source target d = _ := Call.bind_of_ok (stat_of_ok hsource) _
  have hcopy : copyFile source target d = (do
      let copy ← createFile target
      modify fun d => d.setContent copy ((d.content? id).getD .empty) : Call Unit) d := hrun
  rcases h.createFile_effect target with ⟨e, hcreate⟩ | ⟨copy, d', hcreate, hchange, hhere, hsame⟩
  · rw [hcopy, Call.bind_of_error hcreate]
    exact ⟨.same, by rintro ⟨⟩⟩
  · have hdone : copyFile source target d = (.ok (), d'.setContent copy ((d'.content? id).getD .empty)) :=
      hcopy.trans (Call.bind_of_ok hcreate _)
    have hsound := (h.change hchange).1
    rw [hdone]
    refine ⟨.change (.single rfl hchange) rfl (.filled _ hhere), fun _ => ⟨copy, ?_⟩⟩
    have hthere : d.node? place = some (.file id content) := node?_eq_file_iff.2 (h.find?_arrives hsource).2.1
    have hcontent : d'.content? id = some (if placeOf target = place then .empty else content) := by
      split
      · next heq =>
        rw [← heq] at hthere
        rw [← hsame id content hthere] at hhere
        exact hsound.content?_eq hhere
      · next hne =>
        rw [← (h.change hchange).2 place (Ne.symm hne)] at hthere
        exact hsound.content?_eq hthere
    rw [hsound.node?_filled _ hhere, if_pos rfl, hcontent, Option.getD_some]

end Workbench.Disk

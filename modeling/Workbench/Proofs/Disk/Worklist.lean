import Workbench.Proofs.Disk.Overlap

/-!
A copy done turn by turn, with a list of what is still to be copied.  Every turn that meets a directory adds to the
list, perhaps things that an earlier turn has made; but it adds longer paths only, and paths have a bound.
-/

namespace Workbench.Disk

/-- One turn of a copy: what was put on the list last is taken off it, and copied if it is a file; of a directory the
place is made and the entries are put on the list. -/
def copyTurn : (pending : List (String × String)) → Call (List (String × String))
  | [] => return []
  | (source, target) :: rest => do
    if (← stat source).isDir then
      makeDirs maxPath target
      return ((← list source).reverse.map fun x => (Path.join source x.1, Path.join target x.1)) ++ rest
    else
      copyFile source target
      return rest

/-- Turns of a copy, one after another.  They are over when nothing is left on the list, or one has failed. -/
def copyTurns : (turns : Nat) → (pending : List (String × String)) → Call (List (String × String))
  | 0, pending => return pending
  | turns + 1, pending => do copyTurns turns (← copyTurn pending)

/-- After some turns nothing has failed yet and a list is left, or one of them has failed. -/
def ComesTo (pending : List (String × String)) (d : Disk)
    (outcome : Except Errno (List (String × String)) × Disk) : Prop :=
  ∃ turns, copyTurns turns pending d = outcome

section Turns

variable {d d' : Disk} {pending pending' rest : List (String × String)} {source target : String} {depth : Nat}
  {outcome : Except Errno (List (String × String)) × Disk}

theorem ComesTo.refl (pending : List (String × String)) (d : Disk) : ComesTo pending d (.ok pending, d) := ⟨0, rfl⟩

theorem ComesTo.of_turn (h : copyTurn pending d = outcome) : ComesTo pending d outcome := by
  refine ⟨1, ?_⟩
  obtain ⟨r, d'⟩ := outcome
  cases r with
  | error e => exact Call.bind_of_error h _
  | ok pending' => exact Call.bind_of_ok h _

theorem copyTurns_add (turns more : Nat) (pending : List (String × String)) :
    copyTurns (turns + more) pending = (do copyTurns more (← copyTurns turns pending)) := by
  induction turns generalizing pending with
  | zero => rw [Nat.zero_add, copyTurns, pure_bind]
  | succ turns ih =>
      rw [Nat.succ_add, copyTurns, copyTurns, bind_assoc]
      congr 1
      funext pending
      exact ih pending

theorem ComesTo.trans (h : ComesTo pending d (.ok pending', d')) (h' : ComesTo pending' d' outcome) :
    ComesTo pending d outcome := by
  obtain ⟨turns, hturns⟩ := h
  obtain ⟨more, hmore⟩ := h'
  refine ⟨turns + more, ?_⟩
  rw [copyTurns_add, Call.bind_of_ok hturns, hmore]

/-- The pair of paths for an entry of a directory. -/
def entryPaths (source target : String) (x : String × Entry) : String × String :=
  (Path.join source x.1, Path.join target x.1)

/-- With a bound on the depth, a path that is long for it is dealt with when it is first on a list: after some turns it
has been copied, as far as that goes. -/
def DealtWith (depth : Nat) : Prop :=
  ∀ (d : Disk) (source target : String) (rest : List (String × String)), d.Sound →
    maxPath < source.utf8ByteSize + depth → '\x00' ∉ source.toList →
      ComesTo ((source, target) :: rest) d ((do copyTree depth source target; return rest : Call _) d)

/-- The entries of a directory that have been put on the list are dealt with one after another. -/
theorem DealtWith.entries (h : DealtWith depth) (hsound : d.Sound)
    (hdepth : maxPath ≤ source.utf8ByteSize + depth) (hnul : '\x00' ∉ source.toList)
    {todo : List (String × Entry)} (hnames : ∀ x ∈ todo, Entry.IsName x.1) :
    ComesTo (todo.map (entryPaths source target) ++ rest) d ((do
      todo.forM fun x => copyTree depth (Path.join source x.1) (Path.join target x.1)
      return rest : Call _) d) := by
  induction todo generalizing d with
  | nil => exact .refl rest d
  | cons x todo ih =>
      rw [List.forall_mem_cons] at hnames
      have hlonger := size_lt_join hnames.1.toIsName source
      have hfirst := h d (Path.join source x.1) (Path.join target x.1) (todo.map (entryPaths source target) ++ rest)
        hsound (by omega) (notMem_join (by decide) hnul hnames.1.no_nul)
      obtain ⟨r, d', hrun⟩ : ∃ r d', copyTree depth (Path.join source x.1) (Path.join target x.1) d = (r, d') :=
        ⟨_, _, rfl⟩
      cases r with
      | error e =>
          rw [Call.bind_of_error hrun] at hfirst
          rw [Call.bind_of_error (Call.forM_cons_of_error (x := x) hrun todo)]
          exact hfirst
      | ok _ =>
          rw [Call.bind_of_ok hrun] at hfirst
          rw [Call.bind_congr (Call.forM_cons_of_ok (x := x) hrun todo)]
          exact hfirst.trans (ih ((copyTree_within depth _ _).sound_of_eq hsound hrun) hnames.2)

theorem find?_of_long {path : String} (hnul : '\x00' ∉ path.toList) (hlong : maxPath < path.utf8ByteSize)
    (follow : Bool) : d.find? path follow = .error .nameTooLong := by
  have hempty : path.isEmpty = false := by
    rw [← Bool.not_eq_true, String.isEmpty_iff]
    rintro rfl
    exact absurd hlong (by decide)
  rw [find?, spot?, if_neg (by simpa using hnul), hempty, if_pos hlong]
  rfl

/-- A path that leads nowhere ends the copy at its turn. -/
theorem copyTurn_of_error {e : Errno} (hfind : d.find? source true = .error e) :
    copyTurn ((source, target) :: rest) d = (.error e, d) :=
  Call.bind_of_error (stat_of_error hfind) _

theorem copyTurn_of_file {place : Place} {entry : Entry} (hfind : d.find? source true = .ok (place, entry))
    (hfile : entry.isDir = false) :
    copyTurn ((source, target) :: rest) d = (do copyFile source target; return rest : Call _) d := by
  rw [copyTurn, Call.bind_of_ok (stat_of_ok hfind), if_neg (by simp [hfile])]

theorem copyTurn_of_dir {place : Place} {entry : Entry} (hfind : d.find? source true = .ok (place, entry))
    (hdir : entry.isDir = true) :
    copyTurn ((source, target) :: rest) d = (do
      return (← openDirs source target).reverse.map (entryPaths source target) ++ rest : Call _) d := by
  rw [copyTurn, Call.bind_of_ok (stat_of_ok hfind), if_pos hdir, openDirs, bind_assoc]
  rfl

/-- The induction is on the bound of the depth: one level deeper the paths are longer by a name. -/
theorem dealtWith (depth : Nat) : DealtWith depth := by
  induction depth with
  | zero =>
      intro d source target rest hsound hlong hnul
      exact .of_turn (copyTurn_of_error (find?_of_long hnul hlong true))
  | succ depth ih =>
      intro d source target rest hsound hlong hnul
      rcases hsound.find?_cases source true with ⟨e, hfind⟩ | ⟨id, content, hfind, -⟩ | ⟨entries, hfind, -⟩
      · rw [Call.bind_of_error (copyTree_of_error hfind)]
        exact .of_turn (copyTurn_of_error hfind)
      · rw [Call.bind_congr (copyTree_of_file hfind rfl)]
        exact .of_turn (copyTurn_of_file hfind rfl)
      · rw [Call.bind_congr (copyTree_of_dir hfind rfl), bind_assoc]
        have hopened := hsound.openDirs_opened source target
        obtain ⟨r, d', hopen⟩ : ∃ r d', openDirs source target d = (r, d') := ⟨_, _, rfl⟩
        rw [hopen] at hopened
        cases r with
        | error e =>
            rw [Call.bind_of_error hopen]
            exact .of_turn ((copyTurn_of_dir hfind rfl).trans (Call.bind_of_error hopen _))
        | ok listed =>
            rw [Call.bind_of_ok hopen]
            have hturn : copyTurn ((source, target) :: rest) d =
                (.ok (listed.reverse.map (entryPaths source target) ++ rest), d') :=
              (copyTurn_of_dir hfind rfl).trans (Call.bind_of_ok hopen _)
            have hsound' := hopened.becomes.sound hsound
            have hascending := hsound'.tidy _ _ (hopened.listed listed rfl)
            refine (ComesTo.of_turn hturn).trans (ih.entries hsound' (by omega) hnul fun x hx => ?_)
            exact hascending.names x (List.mem_reverse.1 hx)

/-- However a source and a target lie to each other, the turns of a copy come to an end: after some of them the copy has
failed or nothing is left to be copied, and the outcome is that of copying the tree. -/
theorem Sound.copyTurns_end (h : d.Sound) (source target : String) :
    ComesTo [(source, target)] d ((do copyTree maxPath source target; return [] : Call _) d) := by
  cases hspot : d.spot? source true with
  | error e =>
      have hfind : d.find? source true = .error e := by
        rw [find?, Bool.true_or, hspot]
        rfl
      have hcopy : copyTree maxPath source target d = (.error e, d) := copyTree_of_error hfind
      rw [Call.bind_of_error hcopy]
      exact .of_turn (copyTurn_of_error hfind)
  | ok spot =>
      obtain ⟨hnul, hne, -⟩ := (walk_of_spot? hspot).1
      have hpos : source.utf8ByteSize ≠ 0 := fun hzero => hne (String.utf8ByteSize_eq_zero_iff.1 hzero)
      exact dealtWith maxPath d source target [] h (by omega) hnul

end Turns

end Workbench.Disk

import Workbench.Proofs.Disk.Effect

/-!
Copying a tree.  Where nothing of it would come to stand in the tree itself, and the way to the target makes no detour
through directories that are missing, the tree stays as it is, and once the copy succeeds the target holds what the
tree holds and is otherwise as it was.  A tree is never copied into itself with success.
-/

namespace Workbench.Disk

/-- The places below a target hold what the places of a tree hold, and where the tree has nothing what they held. -/
structure Copied (tree : Entry) (target : Place) (d d' : Disk) : Prop where
  files : ∀ below id content, tree.at? below = some (.file id content) →
    ∃ copy, d'.node? (target ++ below) = some (.file copy content)
  dirs : ∀ below entries, tree.at? below = some (.dir entries) → d'.node? (target ++ below) = some .dir
  others : ∀ below, tree.at? below = none → d'.node? (target ++ below) = d.node? (target ++ below)

/-- The places above and below a target, less those at and below a place that is not to be touched. -/
def Near (p target r : Place) : Prop := ¬p <+: r ∧ (r <+: target ∨ target <+: r)

section Near

variable {p target r : Place} {name : String}

/-- What is near a name in a directory is near the directory. -/
theorem Near.dir (h : Near p (target ++ [name]) r) : Near p target r := by
  refine ⟨h.1, ?_⟩
  rcases h.2 with h | h
  · rcases List.prefix_concat_iff.1 h with rfl | h
    · exact .inr (List.prefix_append _ _)
    · exact .inl h
  · exact .inr ((List.prefix_append _ _).trans h)

/-- What is below one name in a directory is not near another. -/
theorem not_near_other {other : String} (hne : other ≠ name) (below : Place) :
    ¬Near p (target ++ [name]) (target ++ other :: below) := by
  rw [Near, List.prefix_append_right_inj, List.prefix_append_right_inj, List.cons_prefix_cons, List.cons_prefix_cons]
  rintro ⟨-, ⟨heq, -⟩ | ⟨heq, -⟩⟩
  · exact hne heq
  · exact hne heq.symm

end Near

/-- What copying a tree to a target comes to when it stays away from a place: only what is near the target is touched,
and if it succeeds the tree has been copied. -/
structure CopiedOutside (p : Place) (tree : Entry) (target : Place) (d : Disk) (outcome : Except Errno Unit × Disk) :
    Prop where
  becomes : Becomes (Near p target) d outcome.2
  copied : outcome.1 = .ok () → Copied tree target d outcome.2

section Outside

variable {d d' : Disk} {p target : Place} {tree : Entry} {name : String}

theorem CopiedOutside.of_error {e : Errno} (h : Becomes (Near p target) d d') :
    CopiedOutside p tree target d (.error e, d') :=
  ⟨h, by rintro ⟨⟩⟩

/-- The copy of one entry leaves alone what is under other names. -/
theorem CopiedOutside.node?_other {outcome : Except Errno Unit × Disk} (hsound : d.Sound)
    (h : CopiedOutside p tree (target ++ [name]) d outcome) {other : String} (hne : other ≠ name) (below : Place) :
    outcome.2.node? (target ++ other :: below) = d.node? (target ++ other :: below) :=
  h.becomes.node?_eq hsound (not_near_other hne below)

end Outside

/-- Several entries have been copied into a directory, and nothing else has changed in it. -/
structure AllCopied (todo : List (String × Entry)) (target : Place) (d d' : Disk) : Prop where
  copied : ∀ x ∈ todo, Copied x.2 (target ++ [x.1]) d d'
  others : ∀ name, (∀ x ∈ todo, x.1 ≠ name) →
    ∀ below, d'.node? (target ++ name :: below) = d.node? (target ++ name :: below)

section AllCopied

variable {d d' d'' : Disk} {target : Place} {entries todo : List (String × Entry)} {first : String × Entry}

theorem AllCopied.nil (target : Place) (d : Disk) : AllCopied [] target d d :=
  ⟨by simp, fun _ _ _ => rfl⟩

theorem AllCopied.cons (hcopied : Copied first.2 (target ++ [first.1]) d d')
    (hothers : ∀ name, name ≠ first.1 → ∀ below, d'.node? (target ++ name :: below) = d.node? (target ++ name :: below))
    (hrest : AllCopied todo target d' d'') (hfresh : ∀ x ∈ todo, x.1 ≠ first.1) :
    AllCopied (first :: todo) target d d'' := by
  have hkept : ∀ below, d''.node? (target ++ [first.1] ++ below) = d'.node? (target ++ [first.1] ++ below) := by
    intro below
    rw [← List.append_cons]
    exact hrest.others first.1 hfresh below
  refine ⟨?_, ?_⟩
  · intro x hx
    rcases List.mem_cons.1 hx with rfl | hx
    · refine ⟨?_, ?_, ?_⟩
      · intro below id content hat
        rw [hkept]
        exact hcopied.files below id content hat
      · intro below entries hat
        rw [hkept]
        exact hcopied.dirs below entries hat
      · intro below hat
        rw [hkept]
        exact hcopied.others below hat
    · have hx' := hrest.copied x hx
      refine ⟨hx'.files, hx'.dirs, ?_⟩
      intro below hat
      rw [hx'.others below hat, ← List.append_cons]
      exact hothers x.1 (hfresh x hx) below
  · intro name hname below
    rw [List.forall_mem_cons] at hname
    rw [hrest.others name hname.2 below, hothers name (Ne.symm hname.1) below]

/-- A directory whose entries have all been copied has been copied. -/
theorem AllCopied.dir (h : AllCopied todo target d' d'') (hascending : Entry.Ascending entries)
    (htodo : ∀ x, x ∈ todo ↔ x ∈ entries) (hdir : d''.node? target = some .dir)
    (hbelow : ∀ name below, d'.node? (target ++ name :: below) = d.node? (target ++ name :: below)) :
    Copied (.dir entries) target d d'' := by
  have hchild : ∀ {name e}, Entry.lookup entries name = some e → Copied e (target ++ [name]) d' d'' :=
    fun hlookup => h.copied _ ((htodo _).2 (Entry.mem_of_lookup hlookup))
  refine ⟨?_, ?_, ?_⟩
  · intro below id content hat
    cases below with
    | nil => cases hat
    | cons name below =>
        obtain ⟨e, he, hat⟩ := Option.bind_eq_some_iff.1 hat
        rw [List.append_cons]
        exact (hchild he).files below id content hat
  · intro below es hat
    cases below with
    | nil =>
        rw [List.append_nil]
        exact hdir
    | cons name below =>
        obtain ⟨e, he, hat⟩ := Option.bind_eq_some_iff.1 hat
        rw [List.append_cons]
        exact (hchild he).dirs below es hat
  · intro below hat
    cases below with
    | nil => cases hat
    | cons name below =>
        rw [← hbelow]
        cases hlookup : Entry.lookup entries name with
        | none =>
            apply h.others
            intro x hx heq
            have hsome := hascending.lookup_of_mem ((htodo x).1 hx)
            rw [heq, hlookup] at hsome
            cases hsome
        | some e =>
            rw [List.append_cons]
            apply (hchild hlookup).others
            rw [Entry.at?_cons, Entry.children, hlookup] at hat
            exact hat

end AllCopied

/-- A tree, at or below a place, is to be copied to a target that nothing of it would bring back to that place, on a way
without detours through what is missing. -/
structure Clear (d : Disk) (p : Place) (tree : Entry) (source target : String) : Prop where
  inside : p <+: placeOf source
  stands : d.at? (placeOf source) = some tree
  direct : ∀ r ∈ way target, d.node? r = none → r <+: placeOf target
  clear : ∀ below, tree.at? below ≠ none → ¬p <+: placeOf target ++ below

section Clear

variable {d d' : Disk} {p : Place} {tree : Entry} {entries : List (String × Entry)} {source target : String}

theorem Clear.outside (h : Clear d p tree source target) : ¬p <+: placeOf target := by
  have hroot := h.clear [] (Option.some_ne_none _)
  rwa [List.append_nil] at hroot

/-- The source stays as it is while nothing at the place or below is touched. -/
theorem Clear.at?_eq (h : Clear d p tree source target) (hsound : d.Sound) {place : Place}
    (hbecomes : Becomes (Near p place) d d') : d'.at? (placeOf source) = some tree :=
  hbecomes.at?_eq hsound h.stands fun _ hr hbegins => hr.1 (h.inside.trans hbegins)

/-- All holds still while nothing at the place or below is touched, if the way to the target is there now. -/
theorem Clear.after (h : Clear d p tree source target) (hsound : d.Sound) {place : Place}
    (hbecomes : Becomes (Near p place) d d') (hway : ∀ r ∈ way target, d'.node? r = some .dir) :
    Clear d' p tree source target where
  inside := h.inside
  stands := h.at?_eq hsound hbecomes
  direct r hr hnone := by
    rw [hway r hr] at hnone
    cases hnone
  clear := h.clear

/-- Once the way to the target is there, every entry of a directory is to be copied in the same manner. -/
theorem Clear.entry (h : Clear d p (.dir entries) source target) {x : String × Entry} (hx : x ∈ entries)
    (hascending : Entry.Ascending entries) (hstands : d'.at? (placeOf source) = some (.dir entries))
    (hway : ∀ r ∈ way target, d'.node? r = some .dir) :
    Clear d' p x.2 (Path.join source x.1) (Path.join target x.1) := by
  have hname := (hascending.names x hx).toIsName
  have hlookup := hascending.lookup_of_mem (show (x.1, x.2) ∈ entries from hx)
  refine ⟨?_, ?_, ?_, ?_⟩
  · rw [placeOf_join hname]
    exact h.inside.trans (List.prefix_append _ _)
  · rw [placeOf_join hname, at?, Entry.at?_concat hstands, hlookup]
  · rw [placeOf_join hname, way_join hname]
    intro r hr hnone
    rcases List.mem_append.1 hr with hr | hr
    · rw [hway r hr] at hnone
      cases hnone
    · obtain rfl := List.mem_singleton.1 hr
      exact List.prefix_rfl
  · intro below hbelow
    rw [placeOf_join hname, ← List.append_cons]
    apply h.clear
    rw [Entry.at?_cons, Entry.children, hlookup]
    exact hbelow

end Clear

section CopyTree

variable {d : Disk} {p : Place} {tree : Entry} {entries : List (String × Entry)} {source target : String}

/-- Making the directory for a copy touches what is above the target only. -/
theorem Clear.opened_above (h : Clear d p tree source target)
    {outcome : Except Errno (List (String × Entry)) × Disk} (hopened : Opened d source target outcome) :
    Becomes (fun r => ¬p <+: r ∧ r <+: placeOf target) d outcome.2 := by
  apply hopened.becomes.mono
  rintro r ⟨hr, hnone⟩
  have habove := h.direct r hr hnone
  exact ⟨fun hbegins => h.outside (hbegins.trans habove), habove⟩

section Depth

variable {depth : Nat}
  (ih : ∀ {d tree source target}, Sound d → Clear d p tree source target →
    CopiedOutside p tree (placeOf target) d (copyTree depth source target d))
include ih

/-- The entries of a directory, one after another.  The induction is on those still to be copied; what is kept is that
the source stands as it was and the way to the target is there. -/
theorem copyEntries_outside {todo : List (String × Entry)} (h : d.Sound)
    (hclear : Clear d p (.dir entries) source target) (hway : ∀ r ∈ way target, d.node? r = some .dir)
    (htodo : ∀ x ∈ todo, x ∈ entries) (hfresh : todo.Pairwise fun x y => y.1 ≠ x.1) :
    ∃ r d', (todo.forM fun x => copyTree depth (Path.join source x.1) (Path.join target x.1)) d = (r, d') ∧
      Becomes (Near p (placeOf target)) d d' ∧ (r = .ok () → AllCopied todo (placeOf target) d d') := by
  induction todo generalizing d with
  | nil => exact ⟨.ok (), d, rfl, .same, fun _ => .nil _ _⟩
  | cons x todo ihtodo =>
      rw [List.forall_mem_cons] at htodo
      obtain ⟨hnames, hfresh⟩ := List.pairwise_cons.1 hfresh
      have hascending := h.tidy _ _ hclear.stands
      have hfirst := ih h (hclear.entry htodo.1 hascending hclear.stands hway)
      rw [placeOf_join (hascending.names x htodo.1).toIsName] at hfirst
      obtain ⟨r, d', hrun⟩ : ∃ r d', copyTree depth (Path.join source x.1) (Path.join target x.1) d = (r, d') :=
        ⟨_, _, rfl⟩
      have hothers := fun name (hne : name ≠ x.1) below => hfirst.node?_other h hne below
      rw [hrun] at hfirst hothers
      have hnear : Becomes (Near p (placeOf target)) d d' := hfirst.becomes.mono fun r hr => hr.dir
      cases r with
      | error e => exact ⟨_, _, Call.forM_cons_of_error (x := x) hrun todo, hnear, by rintro ⟨⟩⟩
      | ok _ =>
          have hway' : ∀ r ∈ way target, d'.node? r = some .dir := fun r hr => hnear.dir h (hway r hr)
          obtain ⟨r, d'', hrest, hbecomes, hall⟩ :=
            ihtodo (hnear.sound h) (hclear.after h hnear hway') hway' htodo.2 hfresh
          refine ⟨r, d'', (Call.forM_cons_of_ok (x := x) hrun todo).trans hrest, hnear.trans hbecomes, fun hr => ?_⟩
          exact .cons (hfirst.copied rfl) hothers (hall hr) hnames

/-- A directory: its place is made, and what is in it is copied. -/
theorem copyDir_outside (h : d.Sound) (hclear : Clear d p (.dir entries) source target) :
    CopiedOutside p (.dir entries) (placeOf target) d ((do
      (← openDirs source target).reverse.forM fun x =>
        copyTree depth (Path.join source x.1) (Path.join target x.1) : Call Unit) d) := by
  have hopened := h.openDirs_opened source target
  have habove := hclear.opened_above hopened
  obtain ⟨r, d', hopen⟩ : ∃ r d', openDirs source target d = (r, d') := ⟨_, _, rfl⟩
  rw [hopen] at hopened habove
  have hnear : Becomes (Near p (placeOf target)) d d' := habove.mono fun r hr => ⟨hr.1, .inl hr.2⟩
  cases r with
  | error e =>
      rw [Call.bind_of_error hopen]
      exact .of_error hnear
  | ok listed =>
      have hsound := hopened.becomes.sound h
      have hway := hopened.paved listed rfl
      have hclear' := hclear.after h hnear hway
      have hlisted := (hopened.listed listed rfl).symm.trans hclear'.stands
      cases hlisted
      have hascending := h.tidy _ _ hclear.stands
      have hfresh : entries.reverse.Pairwise fun x y => y.1 ≠ x.1 :=
        List.pairwise_reverse.2 (hascending.sorted.imp fun hlt => String.ne_of_lt hlt)
      obtain ⟨r, d'', hrun, hbecomes, hall⟩ :=
        copyEntries_outside ih hsound hclear' hway (fun x hx => List.mem_reverse.1 hx) hfresh
      rw [Call.bind_of_ok hopen, hrun]
      refine ⟨hnear.trans hbecomes, fun hr => ?_⟩
      have hdir := hbecomes.dir hsound (hopened.made entries rfl)
      apply (hall hr).dir hascending (fun x => List.mem_reverse) hdir
      -- what lies below the target is not on the way to it
      intro name below
      apply habove.node?_eq h
      rintro ⟨-, hbegins⟩
      have hle := hbegins.length_le
      rw [List.length_append, List.length_cons] at hle
      omega

end Depth

/-- A file: only the place of the target is touched. -/
theorem Sound.copyFile_outside (h : d.Sound) {id : Nat} {content : ByteArray}
    (hclear : Clear d p (.file id content) source target)
    (hfind : d.find? source true = .ok (placeOf source, .file id content)) :
    CopiedOutside p (.file id content) (placeOf target) d (copyFile source target d) := by
  obtain ⟨hbecomes, hcopied⟩ := h.copyFile_effect hfind target
  have hne : placeOf target ≠ placeOf source := fun heq => hclear.outside (heq ▸ hclear.inside)
  rw [if_neg hne] at hcopied
  refine ⟨hbecomes.mono ?_, fun hok => ⟨?_, ?_, ?_⟩⟩
  · rintro r rfl
    exact ⟨hclear.outside, .inl List.prefix_rfl⟩
  · intro below n old hat
    cases below with
    | nil =>
        cases hat
        rw [List.append_nil]
        exact hcopied hok
    | cons name below => cases hat
  · intro below entries hat
    cases below <;> cases hat
  · intro below hat
    apply hbecomes.node?_eq h
    intro heq
    have hnil : below = [] := by simpa using heq
    rw [hnil] at hat
    cases hat

/-- The induction is on the bound of the depth. -/
theorem Sound.copyTree_outside (h : d.Sound) (depth : Nat) (hclear : Clear d p tree source target) :
    CopiedOutside p tree (placeOf target) d (copyTree depth source target d) := by
  induction depth generalizing d tree source target with
  | zero => exact .of_error .same
  | succ depth ih =>
      rcases h.find?_cases source true with ⟨e, hfind⟩ | ⟨id, content, hfind, hat⟩ | ⟨entries, hfind, hat⟩
      · rw [copyTree_of_error hfind]
        exact .of_error .same
      · cases hat.symm.trans hclear.stands
        rw [copyTree_of_file hfind rfl]
        exact h.copyFile_outside hclear hfind
      · cases hat.symm.trans hclear.stands
        rw [copyTree_of_dir hfind rfl]
        exact copyDir_outside ih h hclear

end CopyTree

end Workbench.Disk

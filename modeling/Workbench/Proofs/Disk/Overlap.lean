import Workbench.Proofs.Disk.Copy

/-!
Copies whose source and target may lie anywhere, also one in the other.  Nothing goes away by them, and what stands
outside the target stays as it is; but a tree is never copied into itself with success.
-/

namespace Workbench.Disk

/-- A call that touches what is at a place or below it, and elsewhere only what was missing. -/
def Call.Within {α : Type} (place : Place) (call : Call α) : Prop :=
  ∀ d, d.Sound → Becomes (fun r => place <+: r ∨ d.node? r = none) d (call d).2

section Within

variable {α : Type} {call : Call α} {place : Place} {name : String} {d d' : Disk} {r : Except Errno α}

theorem Call.Within.sound_of_eq (h : call.Within place) (hsound : d.Sound) (hrun : call d = (r, d')) : d'.Sound := by
  have hafter := (h d hsound).sound hsound
  rwa [hrun] at hafter

theorem Call.Within.of_name (h : call.Within (place ++ [name])) : call.Within place := by
  intro d hsound
  apply (h d hsound).mono
  exact fun r hr => hr.imp_left fun hbegins => (List.prefix_append _ _).trans hbegins

/-- What comes after changes of that kind. -/
theorem Becomes.within (h : Becomes (fun r => place <+: r ∨ d.node? r = none) d d') (hsound : d.Sound) {d'' : Disk}
    (h' : Becomes (fun r => place <+: r ∨ d'.node? r = none) d' d'') :
    Becomes (fun r => place <+: r ∨ d.node? r = none) d d'' := by
  apply h.trans (h'.mono _)
  exact fun r hr => hr.imp_right fun hnone => not_imp_not.1 (h.node?_ne_none hsound) hnone

theorem Call.within_forM {ι : Type} {f : ι → Call Unit} {todo : List ι} (h : ∀ x ∈ todo, (f x).Within place) :
    (todo.forM f).Within place := by
  intro d hsound
  induction todo generalizing d with
  | nil => exact .same
  | cons x todo ih =>
      rw [List.forall_mem_cons] at h
      have hfirst := h.1 d hsound
      obtain ⟨r, d', hrun⟩ : ∃ r d', f x d = (r, d') := ⟨_, _, rfl⟩
      rw [hrun] at hfirst
      cases r with
      | error e =>
          rw [forM_cons_of_error hrun]
          exact hfirst
      | ok _ =>
          rw [forM_cons_of_ok hrun]
          exact hfirst.within hsound (ih h.2 d' (hfirst.sound hsound))

/-- The induction is on the bound of the depth. -/
theorem copyTree_within (depth : Nat) (source target : String) :
    (copyTree depth source target).Within (placeOf target) := by
  induction depth generalizing source target with
  | zero => exact fun _ _ => .same
  | succ depth ih =>
      intro d hsound
      rcases hsound.find?_cases source true with ⟨e, hfind⟩ | ⟨id, content, hfind, -⟩ | ⟨entries, hfind, -⟩
      · rw [copyTree_of_error hfind]
        exact .same
      · rw [copyTree_of_file hfind rfl]
        apply (hsound.copyFile_effect hfind target).1.mono
        rintro r rfl
        exact .inl List.prefix_rfl
      · rw [copyTree_of_dir hfind rfl]
        have hopened := hsound.openDirs_opened source target
        obtain ⟨r, d', hopen⟩ : ∃ r d', openDirs source target d = (r, d') := ⟨_, _, rfl⟩
        rw [hopen] at hopened
        have hmade : Becomes (fun r => placeOf target <+: r ∨ d.node? r = none) d d' :=
          hopened.becomes.mono fun r hr => .inr hr.2
        cases r with
        | error e =>
            rw [Call.bind_of_error hopen]
            exact hmade
        | ok listed =>
            rw [Call.bind_of_ok hopen]
            have hsound' := hmade.sound hsound
            have hascending := hsound'.tidy _ _ (hopened.listed listed rfl)
            apply hmade.within hsound
            refine Call.within_forM (fun x hx => ?_) d' hsound'
            have hname := (hascending.names x (List.mem_reverse.1 hx)).toIsName
            have hchild := ih (Path.join source x.1) (Path.join target x.1)
            rw [placeOf_join hname] at hchild
            exact hchild.of_name

end Within

section Inside

variable {d : Disk} {source target : String}

/-- A loop that succeeds has succeeded in every round. -/
theorem Call.ok_of_forM {ι : Type} {f : ι → Call Unit} (hsound : ∀ x d, d.Sound → (f x d).2.Sound) {todo : List ι}
    (h : d.Sound) (hok : (todo.forM f d).1 = .ok ()) {x : ι} (hmem : x ∈ todo) :
    ∃ d', d'.Sound ∧ (f x d').1 = .ok () := by
  induction todo generalizing d with
  | nil => cases hmem
  | cons first todo ih =>
      have hafter := hsound first d h
      obtain ⟨r, d', hrun⟩ : ∃ r d', f first d = (r, d') := ⟨_, _, rfl⟩
      rw [hrun] at hafter
      cases r with
      | error e =>
          rw [forM_cons_of_error hrun] at hok
          cases hok
      | ok _ =>
          rw [forM_cons_of_ok hrun] at hok
          cases hmem with
          | head => exact ⟨d, h, by rw [hrun]⟩
          | tail _ hmem => exact ih hafter hok hmem

/-- A file has nothing inside. -/
theorem Sound.copyFile_inside (h : d.Sound) {id : Nat} {content : ByteArray}
    (hfind : d.find? source true = .ok (placeOf source, .file id content)) {rest : Place} (hne : rest ≠ [])
    (hinside : placeOf target = placeOf source ++ rest) : (copyFile source target d).1 ≠ .ok () := by
  obtain ⟨hbecomes, hcopied⟩ := h.copyFile_effect hfind target
  intro hok
  obtain ⟨copy, hcopy⟩ := hcopied hok
  have hsource : placeOf source ≠ placeOf target := by
    rw [hinside]
    exact fun heq => hne (by simpa using heq)
  have hdir := node?_of_node?_append hne (hinside ▸ hcopy ▸ Option.some_ne_none _)
  rw [hbecomes.node?_eq h hsource, node?_eq_file_iff.2 (h.find?_arrives hfind).2.1] at hdir
  cases hdir

/-- A tree is not copied to a place inside it: at the target the copy meets what it has made itself, and goes on with
that until the bound of the depth. -/
theorem Sound.copyTree_inside (h : d.Sound) (depth : Nat) {rest : Place} (hne : rest ≠ [])
    (hinside : placeOf target = placeOf source ++ rest) : (copyTree depth source target d).1 ≠ .ok () := by
  induction depth generalizing d source target rest with
  | zero => rintro ⟨⟩
  | succ depth ih =>
      rcases h.find?_cases source true with ⟨e, hfind⟩ | ⟨id, content, hfind, -⟩ | ⟨entries, hfind, -⟩
      · rw [copyTree_of_error hfind]
        rintro ⟨⟩
      · rw [copyTree_of_file hfind rfl]
        exact h.copyFile_inside hfind hne hinside
      · rw [copyTree_of_dir hfind rfl]
        have hopened := h.openDirs_opened source target
        obtain ⟨r, d', hopen⟩ : ∃ r d', openDirs source target d = (r, d') := ⟨_, _, rfl⟩
        rw [hopen] at hopened
        cases r with
        | error e =>
            rw [Call.bind_of_error hopen]
            rintro ⟨⟩
        | ok listed =>
            rw [Call.bind_of_ok hopen]
            have hsound := hopened.becomes.sound h
            have hlisted := hopened.listed listed rfl
            have htarget := hopened.made listed rfl
            -- the first step on the way from the source to the target is among what is listed
            obtain ⟨name, below, rfl⟩ := List.exists_cons_of_ne_nil hne
            rw [hinside] at htarget
            obtain ⟨child, hchild⟩ := exists_child hlisted (htarget ▸ Option.some_ne_none _)
            have hmem := Entry.mem_of_lookup hchild
            have hname := ((hsound.tidy _ _ hlisted).names _ hmem).toIsName
            have hafter : ∀ (x : String × Entry) (d : Disk), d.Sound →
                (copyTree depth (Path.join source x.1) (Path.join target x.1) d).2.Sound :=
              fun x d hd => (copyTree_within depth _ _ d hd).sound hd
            intro hok
            obtain ⟨d, hd, hround⟩ := Call.ok_of_forM hafter hsound hok (List.mem_reverse.2 hmem)
            refine ih hd (List.concat_ne_nil name below) ?_ hround
            rw [placeOf_join hname, placeOf_join hname, hinside]
            simp

end Inside

end Workbench.Disk

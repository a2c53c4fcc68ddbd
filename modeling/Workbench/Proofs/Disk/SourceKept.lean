import Workbench.Proofs.Disk.Worklist

/-!
What a provider's copy does to the tree that is copied.  It comes to an end however source and target lie to each
other; the source is safe and the copy exact where they keep apart; and a file copied onto itself is lost.
-/

namespace Workbench.DiskHost

open Disk (Call)

variable {h : DiskHost} {source target : String} {overwrite : Bool}

/-- A copy is refused with nothing changed, or it is what copying the tree makes of the disk. -/
theorem copy_cases (h : DiskHost) (source target : String) (overwrite : Bool) :
    (∃ fault, copy source target overwrite h = (.error fault, h)) ∨
      copy source target overwrite h = onDisk (Disk.copyTree Disk.maxPath source target) h := by
  cases overwrite with
  | true => exact .inr rfl
  | false =>
      cases hfind : h.disk.find? target true with
      | ok found => exact .inl ⟨_, guarded_of_fault _ (Disk.doesExist_of_ok hfind) rfl⟩
      | error e =>
          by_cases he : e = .noEntry
          · rw [he] at hfind
            exact .inr (guarded_of_none _ (Disk.doesExist_of_noEntry hfind) rfl)
          · exact .inl ⟨_, guarded_of_error _ (Disk.doesExist_of_error hfind he)⟩

/-- Copying a tree, as far as the provider lets it, seen in the disk alone. -/
theorem copy_of_tree {r : Except Errno Unit} {d : Disk}
    (hrun : Disk.copyTree Disk.maxPath source target h.disk = (r, d)) :
    (∃ fault, copy source target overwrite h = (.error fault, h)) ∨
      copy source target overwrite h = (r.mapError Errno.toFault, { h with disk := d }) :=
  (copy_cases h source target overwrite).imp_right fun hcopy => hcopy.trans (onDisk_eq hrun)

/-- A copy comes to an end.  Nothing goes away by it, whether it succeeds or fails, and what stands outside the target
stays as it is.  If the source leads nowhere it fails and changes nothing, and it fails if the target lies inside the
source.  If the way to the target makes no detour through directories that are missing, and nothing of the source would
come to stand in the source, then the source stands as it was, with nothing added; and if the copy succeeds the target
holds a copy of all that the source held, and besides that what it held before. -/
theorem copy_keeps_source (h : DiskHost) (hsound : h.disk.Sound) (source target : String) (overwrite : Bool) :
    Disk.ComesTo [(source, target)] h.disk
      ((do Disk.copyTree Disk.maxPath source target; return [] : Call _) h.disk) ∧
    (∀ r n, h.disk.node? r = some n → n = .dir ∨ ¬Disk.placeOf target <+: r →
      (copy source target overwrite h).2.disk.node? r = some n) ∧
    (∀ e, h.disk.find? source true = .error e → ∃ fault, copy source target overwrite h = (.error fault, h)) ∧
    ∀ p tree, h.disk.find? source true = .ok (p, tree) →
      (∀ rest, rest ≠ [] → Disk.placeOf target = p ++ rest → (copy source target overwrite h).1 ≠ .ok ()) ∧
      ((∀ r ∈ Disk.way target, h.disk.node? r = none → r <+: Disk.placeOf target) →
        (∀ below, tree.at? below ≠ none → ¬p <+: Disk.placeOf target ++ below) →
        (copy source target overwrite h).2.disk.at? p = some tree ∧
          ((copy source target overwrite h).1 = .ok () →
            Disk.Copied tree (Disk.placeOf target) h.disk (copy source target overwrite h).2.disk)) := by
  obtain ⟨r, d, hrun⟩ : ∃ r d, Disk.copyTree Disk.maxPath source target h.disk = (r, d) := ⟨_, _, rfl⟩
  refine ⟨hsound.copyTurns_end source target, ?_, ?_, ?_⟩
  · intro place n hn houtside
    have hwithin := Disk.copyTree_within Disk.maxPath source target h.disk hsound
    rw [hrun] at hwithin
    rcases copy_of_tree hrun with ⟨fault, hcopy⟩ | hcopy
    · rw [hcopy]
      exact hn
    · rw [hcopy]
      rcases houtside with rfl | houtside
      · exact hwithin.dir hsound hn
      · rw [← hn]
        apply hwithin.node?_eq hsound
        rintro (hbegins | hnone)
        · exact houtside hbegins
        · rw [hn] at hnone
          cases hnone
  · intro e hfind
    have hfails : Disk.copyTree Disk.maxPath source target h.disk = (.error e, h.disk) := Disk.copyTree_of_error hfind
    rcases copy_of_tree hfails with hfault | hcopy
    · exact hfault
    · exact ⟨e.toFault, hcopy⟩
  · intro p tree hfind
    obtain ⟨rfl, hstands, -⟩ := hsound.find?_arrives hfind
    refine ⟨?_, ?_⟩
    · intro rest hne hinside
      have hfails := hsound.copyTree_inside Disk.maxPath hne hinside
      rw [hrun] at hfails
      rcases copy_of_tree hrun with ⟨fault, hcopy⟩ | hcopy
      · rw [hcopy]
        rintro ⟨⟩
      · rw [hcopy]
        cases r with
        | error e => rintro ⟨⟩
        | ok _ => exact absurd rfl hfails
    · intro hdirect hclear
      have hoff : Disk.Clear h.disk (Disk.placeOf source) tree source target :=
        ⟨List.prefix_rfl, hstands, hdirect, hclear⟩
      have houtside := hsound.copyTree_outside Disk.maxPath hoff
      rw [hrun] at houtside
      rcases copy_of_tree hrun with ⟨fault, hcopy⟩ | hcopy
      · rw [hcopy]
        exact ⟨hstands, by rintro ⟨⟩⟩
      · rw [hcopy]
        refine ⟨hoff.at?_eq hsound houtside.becomes, fun hok => houtside.copied ?_⟩
        cases r with
        | error e => cases hok
        | ok _ => rfl

/-- A disk with one file in it. -/
def single (name : String) (content : ByteArray) : DiskHost :=
  { disk := { root := .dir [(name, .file 1 content)], nextId := 2 } }

section Single

variable {name : String} {content : ByteArray}

theorem node?_single (place : Place) : (single name content).disk.node? place =
    if place = [] then some .dir else if place = [name] then some (.file 1 content) else none := by
  cases place with
  | nil => rfl
  | cons n rest =>
      have hchild : (single name content).disk.at? (n :: rest) =
          (if name = n then some (.file 1 content) else none).bind fun e : Entry => e.at? rest := by
        rw [Disk.at?, Entry.at?_cons]
        show (Entry.lookup [(name, .file 1 content)] n).bind _ = _
        rw [Entry.lookup_cons, Entry.lookup_nil]
      rw [Disk.node?, hchild, if_neg (List.cons_ne_nil _ _)]
      by_cases hname : name = n
      · cases rest with
        | nil => simp [hname, Entry.node]
        | cons next rest => simp [hname, Entry.at?_cons, Entry.children]
      · simp [hname, Ne.symm hname]

theorem sound_single (hname : Entry.IsName name) : (single name content).disk.Sound where
  root := rfl
  tidy := by
    refine Entry.tidy_dir_iff.2 ⟨Entry.ascending_cons_iff.2 ⟨hname, by simp, .nil⟩, ?_⟩
    intro n e hlookup
    rw [Entry.lookup_cons, Entry.lookup_nil] at hlookup
    split at hlookup
    · cases hlookup
      exact Entry.tidy_of_children_eq_nil rfl
    · cases hlookup
  linkless place target := by
    rw [node?_single]
    split
    · simp
    · split <;> simp
  distinct {place place' id old old'} hplace hplace' := by
    rw [node?_single] at hplace hplace'
    split at hplace
    · cases hplace
    · split at hplace
      · next heq =>
        split at hplace'
        · cases hplace'
        · split at hplace'
          · next heq' => rw [heq, heq']
          · cases hplace'
      · cases hplace
  fresh {place id old} hplace := by
    rw [node?_single] at hplace
    split at hplace
    · cases hplace
    · split at hplace
      · cases hplace
        exact Nat.one_lt_two
      · cases hplace

end Single

theorem sound_letter : (single "a" ⟨#[65]⟩).disk.Sound := sound_single ⟨by decide, by decide⟩

theorem find?_letter : (single "a" ⟨#[65]⟩).disk.find? "/a" true = .ok (["a"], .file 1 ⟨#[65]⟩) := by
  have hparts : Disk.partsOf "/a" = [] ++ ["a"] := by decide
  exact Disk.find?_of_plain (by decide) hparts rfl rfl nofun

section Shelf

/-- A disk with a file, once a directory has been made beside it. -/
def shelfMade : Disk := ((single "b" ⟨#[66]⟩).disk.put ["d"] (.dir [])).note ["d"] .created

/-- The same with another file in the directory. -/
def shelf : DiskHost := { disk := (shelfMade.addFile ["d", "a"] .empty).2.setContent 2 ⟨#[65]⟩ }

theorem sound_shelf : shelf.disk.Sound := by
  have hstart : (single "b" ⟨#[66]⟩).disk.Sound := sound_single ⟨by decide, by decide⟩
  have hmade : Disk.Change (single "b" ⟨#[66]⟩).disk (([] : Place) ++ ["d"]) shelfMade :=
    .made rfl ⟨by decide, by decide⟩ rfl
  have hadded : Disk.Change shelfMade (["d"] ++ ["a"]) (shelfMade.addFile ["d", "a"] .empty).2 :=
    .added rfl ⟨by decide, by decide⟩ rfl
  have hfilled : Disk.Change (shelfMade.addFile ["d", "a"] .empty).2 ["d", "a"]
      ((shelfMade.addFile ["d", "a"] .empty).2.setContent 2 ⟨#[65]⟩) := .filled ⟨#[65]⟩ rfl
  exact (((hstart.change hmade).1.change hadded).1.change hfilled).1

/-- The disk once the directory has its copy, which is empty. -/
def shelfOpened : Disk := (shelf.disk.put ["e"] (.dir [])).note ["e"] .created

theorem openDirs_shelf : Disk.openDirs "/d" "/e" shelf.disk = (.ok [("a", .file 2 ⟨#[65]⟩)], shelfOpened) := by
  have hsource : Disk.partsOf "/d" = [] ++ ["d"] := by decide
  have htarget : Disk.partsOf "/e" = [] ++ ["e"] := by decide
  have hspot : shelf.disk.spot? "/e" false = .ok ⟨[], .named "e" none, false⟩ :=
    Disk.spot?_of_plain_missing (by decide) htarget rfl rfl
  have hmade : Disk.makeDir "/e" shelf.disk = _ := Call.bind_of_ok (Call.look_eq hspot) _
  have hopened : Disk.makeDirs Disk.maxPath "/e" shelf.disk = (.ok (), shelfOpened) :=
    Call.catch_of_ok (hmade.trans rfl) _
  have hlisted : Disk.list "/d" shelfOpened = (.ok [("a", .file 2 ⟨#[65]⟩)], shelfOpened) :=
    Disk.list_of_dir (Disk.find?_of_plain (by decide) hsource rfl rfl nofun)
  exact (Call.bind_of_ok hopened _).trans hlisted

theorem copyFile_shelf : ∃ d, Disk.copyFile (Path.join "/d" "a") (Path.join "/e" "a") shelfOpened = (.ok (), d) := by
  have hsource : Disk.partsOf (Path.join "/d" "a") = ["d"] ++ ["a"] := by decide
  have htarget : Disk.partsOf (Path.join "/e" "a") = ["e"] ++ ["a"] := by decide
  have hfind : shelfOpened.find? (Path.join "/d" "a") true = .ok (["d", "a"], .file 2 ⟨#[65]⟩) :=
    Disk.find?_of_plain (by decide) hsource rfl rfl nofun
  have hspot : shelfOpened.spot? (Path.join "/e" "a") true = .ok ⟨["e"], .named "a" none, false⟩ :=
    Disk.spot?_of_plain_missing (by decide) htarget rfl rfl
  have hcreated : Disk.createFile (Path.join "/e" "a") shelfOpened = _ := Call.bind_of_ok (Call.look_eq hspot) _
  have hcopied : Disk.copyFile (Path.join "/d" "a") (Path.join "/e" "a") shelfOpened = _ :=
    (Call.bind_of_ok (Disk.stat_of_ok hfind) _).trans (Call.bind_of_ok (hcreated.trans rfl) _)
  exact ⟨_, hcopied⟩

end Shelf

/-- The directory is copied with the file in it, to a name that is free. -/
theorem copy_keeps_source_shelf :
    shelf.disk.Sound ∧ (copy "/d" "/e" false shelf).1 = .ok () ∧
    (copy "/d" "/e" false shelf).2.disk.at? ["d"] = some (.dir [("a", .file 2 ⟨#[65]⟩)]) ∧
    (copy "/d" "/e" false shelf).2.disk.node? ["e"] = some .dir ∧
    (∃ n, (copy "/d" "/e" false shelf).2.disk.node? ["e", "a"] = some (.file n ⟨#[65]⟩)) ∧
    (copy "/d" "/e" false shelf).2.disk.node? ["b"] = some (.file 1 ⟨#[66]⟩) := by
  have hsource : Disk.partsOf "/d" = [] ++ ["d"] := by decide
  have htarget : Disk.partsOf "/e" = [] ++ ["e"] := by decide
  have hfind : shelf.disk.find? "/d" true = .ok (["d"], .dir [("a", .file 2 ⟨#[65]⟩)]) :=
    Disk.find?_of_plain (by decide) hsource rfl rfl nofun
  have hok : (copy "/d" "/e" false shelf).1 = .ok () := by
    have hgone : shelf.disk.find? "/e" true = .error .noEntry :=
      Disk.find?_of_plain_missing (by decide) htarget rfl rfl
    obtain ⟨d, hfile⟩ := copyFile_shelf
    have hentry : Disk.copyTree 4094 (Path.join "/d" "a") (Path.join "/e" "a") shelfOpened = (.ok (), d) := by
      have hparts : Disk.partsOf (Path.join "/d" "a") = ["d"] ++ ["a"] := by decide
      have hinner : shelfOpened.find? (Path.join "/d" "a") true = .ok (["d", "a"], .file 2 ⟨#[65]⟩) :=
        Disk.find?_of_plain (by decide) hparts rfl rfl nofun
      exact (Disk.copyTree_of_file hinner rfl).trans hfile
    have htree : Disk.copyTree Disk.maxPath "/d" "/e" shelf.disk = (.ok (), d) :=
      (Disk.copyTree_of_dir hfind rfl).trans
        ((Call.bind_of_ok openDirs_shelf _).trans (Call.forM_cons_of_ok hentry []))
    rw [copy, onto, if_neg (by decide), guarded_of_none _ (Disk.doesExist_of_noEntry hgone) rfl]
    exact congrArg Prod.fst (onDisk_eq htree)
  obtain ⟨-, houtside, -, hcopy⟩ := copy_keeps_source shelf sound_shelf "/d" "/e" false
  have hplace : Disk.placeOf "/e" = ["e"] := by decide
  have hway : Disk.way "/e" = [["e"]] := by decide
  have hdirect : ∀ r ∈ Disk.way "/e", shelf.disk.node? r = none → r <+: Disk.placeOf "/e" := by
    rw [hway, hplace]
    intro r hr _
    obtain rfl := List.mem_singleton.1 hr
    exact List.prefix_rfl
  have hclear : ∀ below, (Entry.dir [("a", .file 2 ⟨#[65]⟩)]).at? below ≠ none →
      ¬["d"] <+: Disk.placeOf "/e" ++ below := by
    rw [hplace]
    intro below _ hbegins
    rw [List.cons_append, List.cons_prefix_cons] at hbegins
    exact absurd hbegins.1 (by decide)
  obtain ⟨hkept, hcopied⟩ := (hcopy _ _ hfind).2 hdirect hclear
  have hwhole := hcopied hok
  rw [hplace] at hwhole
  have hbeside := houtside ["b"] (.file 1 ⟨#[66]⟩) rfl (.inr (by rw [hplace]; decide))
  exact ⟨sound_shelf, hok, hkept, hwhole.dirs [] _ rfl, hwhole.files ["a"] 2 _ rfl, hbeside⟩

/-- A file that is copied onto itself, under whatever path, is empty afterwards: it is opened for writing before it is
read. -/
theorem copy_onto_itself (hsound : h.disk.Sound) {p : Place} {id : Nat} {content : ByteArray}
    (hsource : h.disk.find? source true = .ok (p, .file id content))
    (htarget : h.disk.find? target true = .ok (p, .file id content)) :
    ∃ h' n, copy source target true h = (.ok (), h') ∧ h'.disk.node? p = some (.file n .empty) := by
  have hcopied : ∃ d, Disk.copyFile source target h.disk = (.ok (), d) := by
    have hcopy : Disk.copyFile source target h.disk = _ := Call.bind_of_ok (Disk.stat_of_ok hsource) _
    exact ⟨_, hcopy.trans (Call.bind_of_ok (hsound.createFile_of_file htarget) _)⟩
  obtain ⟨d, hcopied⟩ := hcopied
  have htree : Disk.copyTree Disk.maxPath source target h.disk = (.ok (), d) :=
    (Disk.copyTree_of_file hsource rfl).trans hcopied
  obtain ⟨n, hn⟩ := (hsound.copyFile_effect hsource target).2 (by rw [hcopied])
  have hplace := (hsound.find?_arrives htarget).1
  rw [hcopied, ← hplace, if_pos rfl] at hn
  exact ⟨_, n, onDisk_eq htree, hn⟩

theorem copy_onto_itself_letter :
    (single "a" ⟨#[65]⟩).disk.node? ["a"] = some (.file 1 ⟨#[65]⟩) ∧
    ∃ h' n, copy "/a" "/a" true (single "a" ⟨#[65]⟩) = (.ok (), h') ∧ h'.disk.node? ["a"] = some (.file n .empty) :=
  ⟨rfl, copy_onto_itself sound_letter find?_letter find?_letter⟩

end Workbench.DiskHost

import Workbench.Proofs.Disk.Way

/-!
Paths for a process that works in some directory.  One that is not absolute starts there, so two paths lead to
the same spot for everybody only when both start there or neither does, and when neither has a name that the other
has not.
-/

namespace Workbench.Disk

/-- Where a path leads for a process that works in a directory. -/
def leads (d : Disk) (cwd : Place) (path : String) (follow : Bool) : Except Errno Spot :=
  walk d.root follow (endsInSlash path) maxLinks (if Path.isAbsolute path then [] else cwd) "" (partsOf path)

/-- Two paths lead to the same spot on every disk, whatever the working directory. -/
def SameFile (a b : String) : Prop :=
  ∀ (d : Disk) (cwd : Place) (follow : Bool), d.node? cwd = some .dir → d.leads cwd a follow = d.leads cwd b follow

/-- The system takes the names of a path. -/
structure Fits (path : String) : Prop where
  no_nul : '\x00' ∉ path.toList
  short : ∀ part ∈ partsOf path, part.utf8ByteSize ≤ maxName

section Characters

variable {path part : String} {c : Char}

/-- A part has nothing that the path does not have. -/
theorem mem_of_mem_part (hpart : part ∈ partsOf path) (hc : c ∈ part.toList) : c ∈ path.toList := by
  rw [partsOf_eq, List.mem_filter] at hpart
  obtain ⟨cs, hcs, rfl⟩ := List.mem_map.1 hpart.1
  rw [String.toList_ofList] at hc
  exact (Path.mem_splitSlash hcs).2 c hc

/-- Every character but the separator stands in a part. -/
theorem exists_part_of_mem (hslash : c ≠ '/') (hc : c ∈ path.toList) : ∃ part ∈ partsOf path, c ∈ part.toList := by
  have hsplit : ∀ cs : List Char, c ∈ cs → ∃ part ∈ Path.splitSlash cs, c ∈ part := by
    intro cs hcs
    induction cs with
    | nil => cases hcs
    | cons first cs ih =>
        rw [Path.splitSlash]
        split
        · next hfirst =>
          have hrest := (List.mem_cons.1 hcs).resolve_left fun heq => hslash (heq.trans hfirst)
          obtain ⟨part, hpart, hin⟩ := ih hrest
          exact ⟨part, List.mem_cons_of_mem _ hpart, hin⟩
        · obtain ⟨part, parts, hparts⟩ := List.exists_cons_of_ne_nil (Path.splitSlash_ne_nil cs)
          rw [hparts] at ih ⊢
          rcases List.mem_cons.1 hcs with rfl | hcs
          · exact ⟨_, List.mem_cons_self, List.mem_cons_self⟩
          · obtain ⟨other, hother, hin⟩ := ih hcs
            rcases List.mem_cons.1 hother with rfl | hother
            · exact ⟨_, List.mem_cons_self, List.mem_cons_of_mem _ hin⟩
            · exact ⟨other, List.mem_cons_of_mem _ hother, hin⟩
  obtain ⟨cs, hcs, hin⟩ := hsplit path.toList hc
  refine ⟨String.ofList cs, List.mem_filter.2 ⟨List.mem_map_of_mem hcs, ?_⟩, by rwa [String.toList_ofList]⟩
  have hne : cs ≠ [] := List.ne_nil_of_mem hin
  simpa using hne

theorem endsInSlash_slash (hne : path ≠ "") : endsInSlash ("/" ++ path) = endsInSlash path := by
  have hlast : ("/" ++ path).toList.getLast? = path.toList.getLast? := by
    rw [String.toList_append, List.getLast?_append_of_ne_nil _ (by simpa using hne)]
  rw [endsInSlash, endsInSlash, hlast]

end Characters

section Leads

variable {d : Disk} {place : Place} {follow : Bool}

/-- From the root directory it makes no difference whether a path is absolute. -/
theorem leads_root_congr {a b : String} (hparts : partsOf a = partsOf b) (hslash : endsInSlash a = endsInSlash b) :
    d.leads [] a follow = d.leads [] b follow := by
  rw [leads, leads, ite_self, ite_self, hparts, hslash]

/-- A walk that passes directories only gets somewhere. -/
theorem walk_of_dirs {parts : List String} (hdir : d.node? place = some .dir)
    (hway : ∀ r ∈ wayFrom place parts, d.node? r = some .dir)
    (hshort : ∀ part ∈ parts, part.utf8ByteSize ≤ maxName) (slash : Bool) (links : Nat) (last : String) :
    ∃ spot, walk d.root follow slash links place last parts = .ok spot := by
  induction parts generalizing place last with
  | nil => exact ⟨_, by rw [walk]⟩
  | cons part rest ih =>
      rw [wayFrom, List.forall_mem_cons] at hway
      obtain ⟨hpart, hrest⟩ := List.forall_mem_cons.1 hshort
      obtain ⟨hnext, hway⟩ := hway
      have hon := fun last => ih hnext hway hrest last
      rw [walk]
      by_cases hcurrent : part = "."
      · rw [stepTo, if_pos hcurrent] at hon
        rw [if_pos hcurrent]
        exact hon part
      by_cases hparent : part = ".."
      · rw [stepTo, if_neg hcurrent, if_pos hparent] at hon
        rw [if_neg hcurrent, if_pos hparent]
        exact hon part
      have hstep : stepTo place part = place ++ [part] := by rw [stepTo, if_neg hcurrent, if_neg hparent]
      rw [hstep] at hon hnext
      obtain ⟨entries, hentries⟩ := node?_eq_dir_iff.1 hdir
      obtain ⟨es, hes⟩ := node?_eq_dir_iff.1 hnext
      have hlookup : ((d.root.at? place).bind fun e => Entry.lookup e.children part) = some (.dir es) := by
        rw [show d.root.at? place = some (.dir entries) from hentries, ← hes, at?, Entry.at?_concat hentries]
        rfl
      rw [if_neg hcurrent, if_neg hparent, if_neg (Nat.not_lt.2 hpart), hlookup]
      dsimp only
      split
      · exact ⟨_, rfl⟩
      · exact hon part

end Leads

section Lengths

variable {place r : Place} {part : String} {parts : List String}

theorem length_stepTo (place : Place) (part : String) :
    (stepTo place part).length ≤ place.length + 1 ∧ place.length ≤ (stepTo place part).length + 1 := by
  rw [stepTo]
  split
  · omega
  · split
    · rw [List.length_dropLast]
      omega
    · rw [List.length_append, List.length_singleton]
      omega

/-- Parts lead no further down, and no further up, than there are of them. -/
theorem length_foldl_stepTo (place : Place) (parts : List String) :
    (parts.foldl stepTo place).length ≤ place.length + parts.length ∧
      place.length ≤ (parts.foldl stepTo place).length + parts.length := by
  induction parts generalizing place with
  | nil => simp
  | cons part parts ih =>
      have hstep := length_stepTo place part
      have hrest := ih (stepTo place part)
      rw [List.foldl_cons, List.length_cons]
      omega

/-- Parts lead to nothing but what was there and their names. -/
theorem mem_foldl_stepTo {name : String} (h : name ∈ parts.foldl stepTo place) :
    name ∈ place ∨ name ∈ parts ∧ name ≠ "." ∧ name ≠ ".." := by
  induction parts generalizing place with
  | nil => exact .inl h
  | cons part parts ih =>
      rcases ih h with hstep | ⟨hparts, hdots⟩
      · rw [stepTo] at hstep
        split at hstep
        · exact .inl hstep
        · next hcurrent =>
          split at hstep
          · exact .inl ((List.dropLast_sublist _).subset hstep)
          · next hparent =>
            rcases List.mem_append.1 hstep with hplace | hpart
            · exact .inl hplace
            · rw [List.mem_singleton.1 hpart]
              exact .inr ⟨List.mem_cons_self, hcurrent, hparent⟩
      · exact .inr ⟨List.mem_cons_of_mem _ hparts, hdots⟩

/-- On their way parts lead to where the first of them lead. -/
theorem prefix_of_mem_wayFrom (h : r ∈ wayFrom place parts) :
    ∃ front, front <+: parts ∧ r = front.foldl stepTo place := by
  induction parts generalizing place with
  | nil => cases h
  | cons part parts ih =>
      rcases List.mem_cons.1 h with rfl | h
      · exact ⟨[part], List.prefix_append [part] parts, rfl⟩
      · obtain ⟨front, hfront, rfl⟩ := ih h
        exact ⟨part :: front, (List.prefix_cons_inj part).2 hfront, rfl⟩

/-- The way of parts leads through every name among them. -/
theorem exists_mem_wayFrom {name : String} (hname : Path.IsName name) (hmem : name ∈ parts) (place : Place) :
    ∃ r ∈ wayFrom place parts, name ∈ r := by
  induction parts generalizing place with
  | nil => cases hmem
  | cons part parts ih =>
      rw [wayFrom]
      rcases List.mem_cons.1 hmem with rfl | hmem
      · exact ⟨_, List.mem_cons_self, by simp [stepTo_name hname]⟩
      · obtain ⟨r, hr, hin⟩ := ih hmem (stepTo place part)
        exact ⟨r, List.mem_cons_of_mem _ hr, hin⟩

end Lengths

/-- The same entry under every name. -/
def each (e : Entry) : List String → List (String × Entry)
  | [] => []
  | name :: names => Entry.alterName name (fun _ => some e) (each e names)

/-- Directories so deep, each with a directory of every name. -/
def full (names : List String) : (depth : Nat) → Entry
  | 0 => .dir []
  | depth + 1 => .dir (each (full names depth) names)

section Full

variable {names : List String} (hnames : ∀ name ∈ names, Entry.IsName name)

include hnames in
theorem ascending_each (e : Entry) : Entry.Ascending (each e names) := by
  induction names with
  | nil => exact .nil
  | cons name names ih =>
      obtain ⟨hname, hnames⟩ := List.forall_mem_cons.1 hnames
      exact (ih hnames).altered _ hname

include hnames in
theorem lookup_each (e : Entry) (name : String) :
    Entry.lookup (each e names) name = if name ∈ names then some e else none := by
  induction names with
  | nil => rfl
  | cons n names ih =>
      obtain ⟨-, hnames⟩ := List.forall_mem_cons.1 hnames
      rw [each, (ascending_each hnames e).lookup_altered, ih hnames]
      by_cases hn : name = n
      · simp [hn]
      · simp [hn]

theorem node_full (names : List String) (depth : Nat) : (full names depth).node = .dir := by
  cases depth <;> rfl

include hnames in
theorem tidy_full (depth : Nat) : (full names depth).Tidy := by
  induction depth with
  | zero => exact Entry.tidy_of_children_eq_nil rfl
  | succ depth ih =>
      rw [full, Entry.tidy_dir_iff]
      refine ⟨ascending_each hnames _, fun name e hlookup => ?_⟩
      rw [lookup_each hnames] at hlookup
      split at hlookup
      · cases hlookup
        exact ih
      · cases hlookup

include hnames in
theorem at?_full (depth : Nat) (place : Place) : (full names depth).at? place =
    if place.length ≤ depth ∧ ∀ name ∈ place, name ∈ names then some (full names (depth - place.length))
    else none := by
  induction place generalizing depth with
  | nil => simp
  | cons name place ih =>
      rw [Entry.at?_cons]
      cases depth with
      | zero => simp [full, Entry.children]
      | succ depth =>
          rw [full, Entry.children, lookup_each hnames]
          by_cases hname : name ∈ names
          · rw [if_pos hname, Option.bind_some, ih]
            simp [hname]
          · simp [hname]

include hnames in
theorem node?_full (depth : Nat) (place : Place) : ({ root := full names depth } : Disk).node? place =
    if place.length ≤ depth ∧ ∀ name ∈ place, name ∈ names then some .dir else none := by
  rw [node?, at?, at?_full hnames]
  split
  · rw [Option.map_some, node_full]
  · rfl

include hnames in
theorem sound_full (depth : Nat) : ({ root := full names depth } : Disk).Sound := by
  have hdirs : ∀ place n, ({ root := full names depth } : Disk).node? place = some n → n = .dir := by
    intro place n hn
    rw [node?_full hnames] at hn
    split at hn
    · exact (Option.some.inj hn).symm
    · cases hn
  exact
    { root := by simp [node?_full hnames]
      tidy := tidy_full hnames depth
      linkless := fun place target hlink => nomatch hdirs place _ hlink
      distinct := fun hfile => nomatch hdirs _ _ hfile
      fresh := fun hfile => nomatch hdirs _ _ hfile }

end Full

/-- On some disk, and from some working directory, the first path leads somewhere, and the second does not lead
there. -/
def Parted (a b : String) : Prop :=
  ∃ (d : Disk) (cwd : Place) (spot : Spot), d.Sound ∧ d.node? cwd = some .dir ∧ d.leads cwd a true = .ok spot ∧
    ∀ other, d.leads cwd b true = .ok other → other.place ≠ spot.place

theorem Parted.not_sameFile {a b : String} (h : Parted a b) : ¬ SameFile a b := by
  obtain ⟨d, cwd, spot, -, hcwd, hspot, hother⟩ := h
  intro hsame
  exact hother spot (hsame d cwd true hcwd ▸ hspot) rfl

section Parted

variable {a b : String} {d : Disk} {cwd : Place} {spot : Spot} {follow : Bool}

/-- The names that are there where a path leads everywhere. -/
def Known (path name : String) : Prop := name = "w" ∨ name ∈ partsOf path ∧ name ≠ "." ∧ name ≠ ".."

/-- There are disks with nothing but directories, in each of them one for every name of a path, as deep as is
wanted. -/
theorem exists_full (hfits : Fits a) (depth : Nat) :
    ∃ d : Disk, d.Sound ∧ ∀ place,
      d.node? place = some .dir ↔ place.length ≤ depth ∧ ∀ name ∈ place, Known a name := by
  obtain ⟨names, hknown⟩ : ∃ names : List String, ∀ name, name ∈ names ↔ Known a name :=
    ⟨"w" :: (partsOf a).filter fun part => part ≠ "." ∧ part ≠ "..", by simp [Known]⟩
  have hnames : ∀ name ∈ names, Entry.IsName name := by
    intro name hname
    obtain rfl | ⟨hpart, hcurrent, hparent⟩ := (hknown name).1 hname
    · exact ⟨by decide, by decide⟩
    · exact isName_of_mem_partsOf hpart hfits.no_nul hcurrent hparent
  refine ⟨{ root := full names depth }, sound_full hnames depth, fun place => ?_⟩
  simp [node?_full hnames, hknown]

/-- Where a path leads from a directory, if it leads anywhere. -/
theorem Sound.place_of_leads (h : d.Sound) (hcwd : d.node? cwd = some .dir) (hspot : d.leads cwd a follow = .ok spot) :
    Arrives d (if Path.isAbsolute a then [] else cwd) (partsOf a) spot := by
  refine (h.walk_arrives ?_ hspot).1
  split
  · exact h.root
  · exact hcwd

theorem exists_leads (hfits : Fits a) {depth : Nat}
    (hdirs : ∀ place, d.node? place = some .dir ↔ place.length ≤ depth ∧ ∀ name ∈ place, Known a name)
    (hcwd : ∀ name ∈ cwd, Known a name) (hdeep : cwd.length + (partsOf a).length ≤ depth) (follow : Bool) :
    ∃ spot, d.leads cwd a follow = .ok spot := by
  have hstart : ∀ start : Place, start.length ≤ cwd.length → (∀ name ∈ start, Known a name) →
      ∃ spot, walk d.root follow (endsInSlash a) maxLinks start "" (partsOf a) = .ok spot := by
    intro start hlength hknown
    refine walk_of_dirs ((hdirs start).2 ⟨by omega, hknown⟩) (fun r hr => ?_) hfits.short _ _ _
    obtain ⟨front, hfront, rfl⟩ := prefix_of_mem_wayFrom hr
    have hdown := (length_foldl_stepTo start front).1
    have hlonger := hfront.length_le
    refine (hdirs _).2 ⟨by omega, fun name hname => ?_⟩
    exact (mem_foldl_stepTo hname).elim (hknown name) fun hpart => .inr ⟨hfront.subset hpart.1, hpart.2⟩
  rw [leads]
  split
  · exact hstart [] (Nat.zero_le _) (by simp)
  · exact hstart cwd (Nat.le_refl _) hcwd

/-- Paths with the same parts of which one is absolute are parted by a working directory that lies deep enough. -/
theorem parted_of_isAbsolute_ne (hfits : Fits a) (hparts : partsOf a = partsOf b)
    (hne : Path.isAbsolute a ≠ Path.isAbsolute b) : Parted a b := by
  obtain ⟨n, hn⟩ : ∃ n, (partsOf a).length = n := ⟨_, rfl⟩
  obtain ⟨d, hsound, hdirs⟩ := exists_full hfits (3 * n + 1)
  have hknown : ∀ name ∈ List.replicate (2 * n + 1) "w", Known a name := fun name hname =>
    .inl (List.eq_of_mem_replicate hname)
  have hlength : (List.replicate (2 * n + 1) "w").length = 2 * n + 1 := List.length_replicate
  have hcwd : d.node? (List.replicate (2 * n + 1) "w") = some .dir := (hdirs _).2 ⟨by omega, hknown⟩
  obtain ⟨spot, hspot⟩ := exists_leads hfits hdirs hknown (by omega) true
  refine ⟨d, _, spot, hsound, hcwd, hspot, fun other hother heq => ?_⟩
  have hfirst := (hsound.place_of_leads hcwd hspot).place_eq
  have hsecond := (hsound.place_of_leads hcwd hother).place_eq
  rw [← hparts, heq, hfirst] at hsecond
  -- from the root the parts lead less deep than they can lead up from the working directory
  have hroot := length_foldl_stepTo [] (partsOf a)
  have hdeep := length_foldl_stepTo (List.replicate (2 * n + 1) "w") (partsOf a)
  rw [List.length_nil] at hroot
  cases ha : Path.isAbsolute a with
  | true =>
      have hb : Path.isAbsolute b = false := by simpa [ha] using hne.symm
      rw [ha, hb, if_pos rfl, if_neg (by simp)] at hsecond
      rw [hsecond] at hroot
      omega
  | false =>
      have hb : Path.isAbsolute b = true := by simpa [ha] using hne.symm
      rw [ha, hb, if_pos rfl, if_neg (by simp)] at hsecond
      rw [hsecond] at hdeep
      omega

/-- A name that only the second of two paths has parts them. -/
theorem parted_of_name (hfits : Fits a) {name : String} (hb : name ∈ partsOf b) (hname : Path.IsName name)
    (hunknown : ¬ Known a name) : Parted a b := by
  obtain ⟨d, hsound, hdirs⟩ := exists_full hfits (partsOf a).length
  have hcwd : d.node? [] = some .dir := hsound.root
  have hempty : ∀ n ∈ ([] : Place), Known a n := by simp
  obtain ⟨spot, hspot⟩ := exists_leads hfits hdirs hempty (by simp) true
  refine ⟨d, [], spot, hsound, hcwd, hspot, fun other hother heq => ?_⟩
  have hfirst := hsound.place_of_leads hcwd hspot
  have hsecond := hsound.place_of_leads hcwd hother
  rw [ite_self] at hfirst hsecond
  -- the way of the second path leads through directories, or ends in the place of the first
  have hknown : ∀ r ∈ wayFrom [] (partsOf b), ∀ n ∈ r, Known a n := by
    intro r hr n hn
    by_cases hend : r = other.place
    · rw [hend, heq, hfirst.place_eq] at hn
      exact (mem_foldl_stepTo hn).elim (hempty n) .inr
    · exact ((hdirs r).1 (hsecond.way r hr hend)).2 n hn
  obtain ⟨r, hr, hin⟩ := exists_mem_wayFrom hname hb []
  exact hunknown (hknown r hr name hin)

end Parted

end Workbench.Disk

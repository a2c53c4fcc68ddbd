import Workbench.Disk.Walk
import Workbench.Proofs.Disk.Outcome
import Workbench.Proofs.Disk.Change

/-!
The ways that paths take through a disk without links.  Such a path leads where its parts say, whatever stands there;
to get anywhere it must pass directories only.
-/

namespace Workbench

namespace Disk

section PartsOf

variable {path base name : String}

theorem partsOf_eq (path : String) :
    partsOf path = ((Path.splitSlash path.toList).map String.ofList).filter (· ≠ "") := rfl

/-- The parts of a path are those before a separator and those after it. -/
theorem partsOf_of_toList {before after : List Char} (h : path.toList = before ++ '/' :: after) :
    partsOf path = partsOf (String.ofList before) ++ partsOf (String.ofList after) := by
  rw [partsOf_eq, h, Path.splitSlash_append, List.map_append, List.filter_append, partsOf_eq, partsOf_eq,
    String.toList_ofList, String.toList_ofList]

/-- A slash in front does not count among the parts. -/
theorem partsOf_slash (path : String) : partsOf ("/" ++ path) = partsOf path := by
  have hjoined : ("/" ++ path).toList = [] ++ '/' :: path.toList := by simp
  rw [partsOf_of_toList hjoined, String.ofList_toList, show partsOf (String.ofList []) = [] by decide,
    List.nil_append]

theorem partsOf_name (h : Path.IsName name) : partsOf name = [name] := by
  rw [partsOf_eq, Path.splitSlash_of_notMem h.no_slash]
  simp [h.ne_empty]

theorem partsOf_empty : partsOf "" = [] := by decide

/-- A part of a path that is not made of dots is a name. -/
theorem isName_of_mem_partsOf {part : String} (h : part ∈ partsOf path) (hnul : '\x00' ∉ path.toList)
    (hcurrent : part ≠ ".") (hparent : part ≠ "..") : Entry.IsName part := by
  rw [partsOf_eq, List.mem_filter] at h
  obtain ⟨⟨cs, hcs, rfl⟩, hne⟩ := And.imp_left List.mem_map.1 h
  obtain ⟨hslash, hsub⟩ := Path.mem_splitSlash hcs
  refine ⟨⟨by simpa using hne, hcurrent, hparent, ?_⟩, ?_⟩
  · rwa [String.toList_ofList]
  · rw [String.toList_ofList]
    exact fun hmem => hnul (hsub _ hmem)

/-- A name put behind a path is the last of its parts. -/
theorem partsOf_join (h : Path.IsName name) (base : String) :
    partsOf (Path.join base name) = partsOf base ++ [name] := by
  rw [Path.join, Path.isAbsolute_name h, if_neg (by decide)]
  split
  · next hempty =>
    rw [String.isEmpty_iff.1 hempty, partsOf_empty, partsOf_name h]
    rfl
  · split
    · next hslash =>
      obtain ⟨before, hbefore⟩ := List.getLast?_eq_some_iff.1 (eq_of_beq hslash)
      have hbase : partsOf base = partsOf (String.ofList before) ++ partsOf (String.ofList []) :=
        partsOf_of_toList hbefore
      have hjoined : (base ++ name).toList = before ++ '/' :: name.toList := by simp [hbefore]
      rw [partsOf_of_toList hjoined, hbase, String.ofList_toList, partsOf_name h,
        show partsOf (String.ofList []) = [] by decide, List.append_nil]
    · have hjoined : (base ++ "/" ++ name).toList = base.toList ++ '/' :: name.toList := by simp
      rw [partsOf_of_toList hjoined, String.ofList_toList, String.ofList_toList, partsOf_name h]

/-- A path gets longer by a name that is put behind it. -/
theorem size_lt_join (h : Path.IsName name) (base : String) :
    base.utf8ByteSize < (Path.join base name).utf8ByteSize := by
  have hname : name.utf8ByteSize ≠ 0 := fun hzero => h.ne_empty (String.utf8ByteSize_eq_zero_iff.1 hzero)
  rw [Path.join, Path.isAbsolute_name h, if_neg (by decide)]
  split
  · next hempty =>
    rw [String.isEmpty_iff.1 hempty]
    exact Nat.pos_of_ne_zero hname
  · split
    · rw [String.utf8ByteSize_append]
      omega
    · rw [String.utf8ByteSize_append, String.utf8ByteSize_append]
      omega

/-- Nothing but a separator comes between two paths. -/
theorem notMem_join {c : Char} (hslash : c ≠ '/') (hbase : c ∉ base.toList) (hname : c ∉ name.toList) :
    c ∉ (Path.join base name).toList := by
  rw [Path.join]
  split
  · exact hname
  · split
    · exact hname
    · split <;> simp [hslash, hbase, hname]

theorem join_ne_empty (hbase : base ≠ "") (name : String) : Path.join base name ≠ "" := by
  rw [Path.join]
  split
  · next habsolute =>
    rintro rfl
    exact absurd habsolute (by decide)
  · split
    · next hempty => exact absurd (String.isEmpty_iff.1 hempty) hbase
    · split <;> simp [hbase]

end PartsOf

section Parent

variable {path parent : String}

theorem partsOf_ofParts {ps : List String} (hslash : ∀ p ∈ ps, '/' ∉ p.toList) :
    partsOf (Path.ofParts ps) = ps.filter (· ≠ "") := by
  by_cases hne : ps = []
  · rw [hne]
    decide
  · rw [partsOf, Path.parts_ofParts hne hslash]

/-- Parts taken from the front of a path make a path with the parts of the first that are in front. -/
theorem partsOf_ofParts_front {ps : List String} (h : ps <+: Path.parts path) :
    partsOf (Path.ofParts ps) <+: partsOf path := by
  rw [partsOf_ofParts fun p hp => Path.slash_notMem_parts (h.subset hp)]
  exact h.filter _

theorem front_of_reverse_drop {α : Type} (p : α → Bool) (n : Nat) (l : List α) :
    ((l.reverse.dropWhile p).drop n).reverse <+: l := by
  have hsuffix := ((List.drop_suffix n _).trans (List.dropWhile_suffix p (l := l.reverse))).reverse
  rwa [List.reverse_reverse] at hsuffix

theorem partsOf_trimEnd (path : String) : partsOf (Path.trimEnd path) <+: partsOf path := by
  have hkept := partsOf_ofParts_front (front_of_reverse_drop Path.isBlankPart 0 (Path.parts path))
  rw [List.drop_zero] at hkept
  rw [Path.trimEnd]
  split
  · split
    · rw [show partsOf "/" = [] by decide]
      exact List.nil_prefix
    · exact hkept
  · split
    · next rest hparts =>
      split
      · have hdot : partsOf path = "." :: rest.filter (· ≠ "") := by
          rw [partsOf, hparts, List.filter_cons_of_pos (by decide)]
        rw [show partsOf "." = ["."] by decide, hdot]
        exact List.prefix_append ["."] _
      · exact hkept
    · exact hkept

/-- What is above a path has the first of its parts. -/
theorem partsOf_parent (h : Path.parent? path = some parent) : partsOf parent <+: partsOf path := by
  rw [Path.parent?] at h
  split at h
  · cases h
  · cases h
  · have hback := partsOf_ofParts_front (front_of_reverse_drop Path.isBlankPart 1 (Path.parts path))
    cases h
    refine (partsOf_trimEnd _).trans ?_
    dsimp only
    split
    · rw [partsOf_slash]
      exact hback
    · exact hback

end Parent

/-- Where a part of a path leads from a place, links aside. -/
def stepTo (place : Place) (part : String) : Place :=
  if part = "." then place else if part = ".." then place.dropLast else place ++ [part]

/-- The places that parts of a path lead through, one after another. -/
def wayFrom (place : Place) : List String → List Place
  | [] => []
  | part :: rest => stepTo place part :: wayFrom (stepTo place part) rest

/-- The places that a path leads through, the last one included. -/
def way (path : String) : List Place := wayFrom [] (partsOf path)

/-- The place that a path leads to, links aside. -/
def placeOf (path : String) : Place := (partsOf path).foldl stepTo []

section Way

variable {place r : Place} {name : String}

theorem stepTo_name (h : Path.IsName name) (place : Place) : stepTo place name = place ++ [name] := by
  rw [stepTo, if_neg h.ne_current, if_neg h.ne_parent]

theorem wayFrom_append (place : Place) (a b : List String) :
    wayFrom place (a ++ b) = wayFrom place a ++ wayFrom (a.foldl stepTo place) b := by
  induction a generalizing place with
  | nil => rfl
  | cons part a ih => rw [List.cons_append, wayFrom, wayFrom, ih, List.cons_append, List.foldl_cons]

theorem placeOf_join (h : Path.IsName name) (base : String) :
    placeOf (Path.join base name) = placeOf base ++ [name] := by
  rw [placeOf, partsOf_join h, List.foldl_append, ← placeOf]
  exact stepTo_name h _

theorem way_join (h : Path.IsName name) (base : String) :
    way (Path.join base name) = way base ++ [placeOf base ++ [name]] := by
  rw [way, partsOf_join h, wayFrom_append, ← way, ← placeOf, wayFrom, wayFrom, stepTo_name h]

theorem way_parent {path parent : String} (h : Path.parent? path = some parent) : way parent ⊆ way path := by
  obtain ⟨rest, hrest⟩ := partsOf_parent h
  rw [way, way, ← hrest, wayFrom_append]
  exact List.subset_append_left _ _

end Way

/-- A walk over the parts of a path that has come to a spot. -/
structure Arrives (d : Disk) (place : Place) (parts : List String) (spot : Spot) : Prop where
  place_eq : spot.place = parts.foldl stepTo place
  /-- The spot is in a directory. -/
  dir : d.node? spot.dir = some .dir
  /-- The way there led through directories. -/
  way : ∀ r ∈ wayFrom place parts, r ≠ spot.place → d.node? r = some .dir
  /-- What is at the spot is what stands at its place, under a name of the path. -/
  named : ∀ name entry, spot.final = .named name entry →
    entry = d.at? spot.place ∧ spot.place ∈ wayFrom place parts ∧ name ∈ parts ∧ name ≠ "." ∧ name ≠ ".."

section Arrives

variable {d : Disk} {place : Place} {parts : List String} {part : String} {spot : Spot}

theorem Arrives.start (hdir : d.node? place = some .dir) (last : String) (slash : Bool) :
    Arrives d place [] ⟨place, .dots last, slash⟩ where
  place_eq := rfl
  dir := hdir
  way := by simp [wayFrom]
  named := by simp

/-- One part of a path more, with a directory behind it. -/
theorem Arrives.cons (h : Arrives d (stepTo place part) parts spot) (hdir : d.node? (stepTo place part) = some .dir) :
    Arrives d place (part :: parts) spot where
  place_eq := h.place_eq
  dir := h.dir
  way := by
    rw [wayFrom, List.forall_mem_cons]
    exact ⟨fun _ => hdir, h.way⟩
  named name entry hfinal := by
    obtain ⟨hentry, hmem, hname, hdots⟩ := h.named name entry hfinal
    exact ⟨hentry, List.mem_cons_of_mem _ hmem, List.mem_cons_of_mem _ hname, hdots⟩

/-- The last part of a path, whatever stands there. -/
theorem Arrives.last (hdir : d.node? place = some .dir) (hcurrent : part ≠ ".") (hparent : part ≠ "..")
    (slash : Bool) : Arrives d place [part] ⟨place, .named part (d.at? (place ++ [part])), slash⟩ := by
  have hstep : stepTo place part = place ++ [part] := by rw [stepTo, if_neg hcurrent, if_neg hparent]
  have hway : wayFrom place [part] = [place ++ [part]] := by rw [wayFrom, wayFrom, hstep]
  refine ⟨hstep.symm, hdir, ?_, ?_⟩
  · rw [hway]
    intro r hr hne
    exact absurd (List.mem_singleton.1 hr) hne
  · rw [hway]
    rintro name entry ⟨⟩
    exact ⟨rfl, List.mem_singleton_self _, List.mem_singleton_self _, hcurrent, hparent⟩

/-- Above a directory there is a directory, and above the root there is the root. -/
theorem node?_dropLast (hroot : d.node? [] = some .dir) (hdir : d.node? place = some .dir) :
    d.node? place.dropLast = some .dir := by
  by_cases hnil : place = []
  · rw [hnil]
    exact hroot
  · rw [← List.dropLast_append_getLast hnil] at hdir
    exact node?_of_node?_append (by simp) (hdir ▸ Option.some_ne_none _)

/-- A walk through a disk without links gets where its parts lead, if it gets anywhere. -/
theorem Sound.walk_arrives (h : d.Sound) {follow slash : Bool} {links : Nat} {last : String}
    (hdir : d.node? place = some .dir) (hwalk : walk d.root follow slash links place last parts = .ok spot) :
    Arrives d place parts spot ∧ spot.slash = slash := by
  induction parts generalizing place last with
  | nil =>
      rw [walk] at hwalk
      cases hwalk
      exact ⟨.start hdir last slash, rfl⟩
  | cons part rest ih =>
      -- what follows the part starts where the part leads
      have hrest : ∀ {last}, d.node? (stepTo place part) = some .dir →
          walk d.root follow slash links (stepTo place part) last rest = .ok spot →
          Arrives d place (part :: rest) spot ∧ spot.slash = slash :=
        fun hstep hwalk => (ih hstep hwalk).imp_left fun harrives => harrives.cons hstep
      rw [walk] at hwalk
      split at hwalk
      · next hcurrent =>
        have hstep : stepTo place part = place := by rw [stepTo, if_pos hcurrent]
        rw [hstep] at hrest
        exact hrest hdir hwalk
      · next hcurrent =>
        split at hwalk
        · next hparent =>
          have hstep : stepTo place part = place.dropLast := by rw [stepTo, if_neg hcurrent, if_pos hparent]
          rw [hstep] at hrest
          exact hrest (node?_dropLast h.root hdir) hwalk
        · next hparent =>
          have hstep : stepTo place part = place ++ [part] := by rw [stepTo, if_neg hcurrent, if_neg hparent]
          rw [hstep] at hrest
          obtain ⟨entries, hentries⟩ := node?_eq_dir_iff.1 hdir
          have hlookup : ((d.root.at? place).bind fun e => Entry.lookup e.children part) = d.at? (place ++ [part]) := by
            rw [at?, Entry.at?_concat hentries, show d.root.at? place = some (.dir entries) from hentries]
            rfl
          -- a part with nothing behind it is the last
          have hlast : rest.isEmpty = true →
              Arrives d place (part :: rest) ⟨place, .named part (d.at? (place ++ [part])), slash⟩ := by
            intro hempty
            rw [List.isEmpty_iff.1 hempty]
            exact .last hdir hcurrent hparent slash
          rw [hlookup] at hwalk
          split at hwalk
          · cases hwalk
          · split at hwalk
            · next hnone =>
              split at hwalk
              · next hempty =>
                cases hwalk
                rw [hnone] at hlast
                exact ⟨hlast hempty, rfl⟩
              · cases hwalk
            · next es hes =>
              split at hwalk
              · next hempty =>
                cases hwalk
                rw [hes] at hlast
                exact ⟨hlast hempty, rfl⟩
              · exact hrest (node?_eq_dir_iff.2 ⟨es, hes⟩) hwalk
            · next id content hfile =>
              split at hwalk
              · next hempty =>
                cases hwalk
                rw [hfile] at hlast
                exact ⟨hlast hempty, rfl⟩
              · cases hwalk
            · next target hlink =>
              refine absurd ?_ (h.linkless (place ++ [part]) target)
              rw [node?, hlink]
              rfl

/-- A path that leads to a spot leads through directories to the place that it names. -/
theorem Sound.spot?_arrives (h : d.Sound) {path : String} {follow : Bool} (hspot : d.spot? path follow = .ok spot) :
    Arrives d [] (partsOf path) spot :=
  (h.walk_arrives h.root (walk_of_spot? hspot).2).1

/-- A path that leads to an entry leads through directories to the place that it names, where the entry stands. -/
theorem Sound.find?_arrives (h : d.Sound) {path : String} {follow : Bool} {e : Entry}
    (hfind : d.find? path follow = .ok (place, e)) :
    place = placeOf path ∧ d.at? place = some e ∧ ∀ r ∈ way path, r ≠ place → d.node? r = some .dir := by
  obtain ⟨spot, hspot, rfl, hfinal⟩ := spot?_of_find? hfind
  have harrives := h.spot?_arrives hspot
  refine ⟨harrives.place_eq, ?_, harrives.way⟩
  rcases hfinal with ⟨last, -, hat⟩ | ⟨name, hfinal, -⟩
  · exact hat
  · exact (harrives.named name _ hfinal).1.symm

/-- A path leads to a file or to a directory, where it names it, or it leads nowhere. -/
theorem Sound.find?_cases (h : d.Sound) (path : String) (follow : Bool) :
    (∃ e, d.find? path follow = .error e) ∨
    (∃ id content, d.find? path follow = .ok (placeOf path, .file id content) ∧
      d.at? (placeOf path) = some (.file id content)) ∨
    ∃ entries, d.find? path follow = .ok (placeOf path, .dir entries) ∧ d.at? (placeOf path) = some (.dir entries) := by
  cases hfind : d.find? path follow with
  | error e => exact .inl ⟨e, rfl⟩
  | ok found =>
      obtain ⟨place, entry⟩ := found
      obtain ⟨rfl, hentry, -⟩ := h.find?_arrives hfind
      cases entry with
      | file id content => exact .inr (.inl ⟨id, content, rfl, hentry⟩)
      | dir entries => exact .inr (.inr ⟨entries, rfl, hentry⟩)
      | link text =>
          refine absurd ?_ (h.linkless (placeOf path) text)
          rw [node?, hentry]
          rfl

end Arrives

section Plain

/-- A path of names that fit, none of which is made of dots. -/
def IsPlain (path : String) : Prop :=
  (path.toList.contains '\x00' = false ∧ path.isEmpty = false ∧ path.utf8ByteSize ≤ maxPath) ∧
    endsInSlash path = false ∧ ∀ part ∈ partsOf path, part ≠ "." ∧ part ≠ ".." ∧ part.utf8ByteSize ≤ maxName

instance (path : String) : Decidable (IsPlain path) := inferInstanceAs (Decidable ((_ ∧ _ ∧ _) ∧ _ ∧ _))

variable {root : Entry} {d : Disk} {front dir : Place} {name last path : String} {entries : List (String × Entry)}
  {follow slash : Bool} {links : Nat}

/-- A walk through directories comes to what the last name names, unless that is a link. -/
theorem walk_of_dir (hplain : ∀ part ∈ front ++ [name], part ≠ "." ∧ part ≠ ".." ∧ part.utf8ByteSize ≤ maxName)
    (hdir : root.at? (dir ++ front) = some (.dir entries))
    (hlink : ∀ target, Entry.lookup entries name ≠ some (.link target)) :
    walk root follow slash links dir last (front ++ [name]) =
      .ok ⟨dir ++ front, .named name (Entry.lookup entries name), slash⟩ := by
  induction front generalizing dir last with
  | nil =>
      obtain ⟨hcurrent, hparent, hshort⟩ := hplain name (List.mem_singleton_self name)
      rw [List.append_nil] at hdir
      rw [List.nil_append, walk, if_neg hcurrent, if_neg hparent, if_neg (Nat.not_lt.2 hshort), hdir,
        Option.bind_some, Entry.children, List.append_nil]
      cases hthere : Entry.lookup entries name with
      | none => rfl
      | some e =>
          cases e with
          | file id content => rfl
          | dir below => rfl
          | link target => exact absurd hthere (hlink target)
  | cons part rest ih =>
      obtain ⟨⟨hcurrent, hparent, hshort⟩, hrest⟩ := List.forall_mem_cons.1 hplain
      have hon : dir ++ part :: rest = dir ++ [part] ++ rest := by simp
      rw [hon] at hdir ⊢
      -- what stands at the first part is a directory, as the rest leads on from it
      obtain ⟨below, hbelow⟩ : ∃ below, root.at? (dir ++ [part]) = some (.dir below) := by
        cases rest with
        | nil => exact ⟨entries, by rwa [List.append_nil] at hdir⟩
        | cons _ _ => exact Entry.dir_of_at?_append (List.cons_ne_nil _ _) hdir
      obtain ⟨there, hthere⟩ := Entry.dir_of_at?_append (List.cons_ne_nil part []) hbelow
      have hlookup : Entry.lookup there part = some (.dir below) := by rw [← Entry.at?_concat hthere, hbelow]
      have hmore : (rest ++ [name]).isEmpty = false := by simp
      rw [List.cons_append, walk, if_neg hcurrent, if_neg hparent, if_neg (Nat.not_lt.2 hshort), hthere,
        Option.bind_some, Entry.children, hlookup]
      simp only [hmore, Bool.false_eq_true, if_false]
      exact ih hrest hdir

theorem spot?_of_plain (hpath : IsPlain path) (hparts : partsOf path = front ++ [name])
    (hdir : d.at? front = some (.dir entries)) (hlink : ∀ target, Entry.lookup entries name ≠ some (.link target)) :
    d.spot? path follow = .ok ⟨front, .named name (Entry.lookup entries name), false⟩ := by
  obtain ⟨hfits, hslash, hplain⟩ := hpath
  rw [hparts] at hplain
  rw [spot?_eq_walk hfits, hparts, hslash]
  exact walk_of_dir hplain hdir hlink

/-- A plain path leads where its names say. -/
theorem find?_of_plain {e : Entry} (hpath : IsPlain path) (hparts : partsOf path = front ++ [name])
    (hdir : d.at? front = some (.dir entries)) (hname : Entry.lookup entries name = some e)
    (hlink : ∀ target, e ≠ .link target) : d.find? path follow = .ok (front ++ [name], e) := by
  have hthere : ∀ target, Entry.lookup entries name ≠ some (.link target) := by simpa [hname] using hlink
  rw [find?, spot?_of_plain hpath hparts hdir hthere, hname]
  rfl

theorem spot?_of_plain_missing (hpath : IsPlain path) (hparts : partsOf path = front ++ [name])
    (hdir : d.at? front = some (.dir entries)) (hname : Entry.lookup entries name = none) :
    d.spot? path follow = .ok ⟨front, .named name none, false⟩ := by
  rw [← hname]
  exact spot?_of_plain hpath hparts hdir (by simp [hname])

/-- A plain path leads nowhere if the last of its names is missing. -/
theorem find?_of_plain_missing (hpath : IsPlain path) (hparts : partsOf path = front ++ [name])
    (hdir : d.at? front = some (.dir entries)) (hname : Entry.lookup entries name = none) :
    d.find? path follow = .error .noEntry := by
  rw [find?, spot?_of_plain_missing hpath hparts hdir hname]
  rfl

end Plain

end Disk

end Workbench

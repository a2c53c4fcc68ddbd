import Workbench.Proofs.Disk.Tree

/-!
What a disk goes through while something is copied: directories and files are made where nothing was, and contents
are given to files.  Nothing goes away by that, a disk that is in order stays so, and places that are not touched,
with all that stands below them, stay as they are.
-/

namespace Workbench.Disk

open Entry (Ascending IsName)

/-- What stands at a place, less what it holds. -/
def node? (d : Disk) (place : Place) : Option Node := (d.at? place).map Entry.node

section Nodes

variable {d : Disk} {place below : Place} {entries : List (String × Entry)} {name : String}

theorem node?_eq_dir_iff : d.node? place = some .dir ↔ ∃ entries, d.at? place = some (.dir entries) := by
  rw [node?, Option.map_eq_some_iff]
  constructor
  · rintro ⟨e, he, hnode⟩
    cases e with
    | dir entries => exact ⟨entries, he⟩
    | file id content => cases hnode
    | link target => cases hnode
  · rintro ⟨entries, he⟩
    exact ⟨_, he, rfl⟩

theorem node?_eq_file_iff {id : Nat} {content : ByteArray} :
    d.node? place = some (.file id content) ↔ d.at? place = some (.file id content) := by
  rw [node?, Option.map_eq_some_iff]
  constructor
  · rintro ⟨e, he, hnode⟩
    cases e with
    | dir entries => cases hnode
    | file id content =>
        cases hnode
        exact he
    | link target => cases hnode
  · intro he
    exact ⟨_, he, rfl⟩

theorem node?_eq_none_iff : d.node? place = none ↔ d.at? place = none := Option.map_eq_none_iff

/-- Above everything there is a directory. -/
theorem node?_of_node?_append (hne : below ≠ []) (h : d.node? (place ++ below) ≠ none) :
    d.node? place = some .dir := by
  obtain ⟨e, he⟩ := Option.ne_none_iff_exists'.1 (mt node?_eq_none_iff.2 h)
  exact node?_eq_dir_iff.2 (Entry.dir_of_at?_append hne he)

theorem node?_concat (hdir : d.at? place = some (.dir entries)) :
    d.node? (place ++ [name]) = (Entry.lookup entries name).map Entry.node := by
  rw [node?, at?, Entry.at?_concat hdir]

/-- Where there is something below a directory, the first step to it is among the entries. -/
theorem exists_child (hdir : d.at? place = some (.dir entries)) (h : d.node? (place ++ name :: below) ≠ none) :
    ∃ child, Entry.lookup entries name = some child := by
  cases hlookup : Entry.lookup entries name with
  | some child => exact ⟨child, rfl⟩
  | none =>
      refine absurd ?_ h
      rw [node?, at?, Entry.at?_append, show d.root.at? place = _ from hdir, Option.bind_some, Entry.at?_cons,
        Entry.children, hlookup]
      rfl

end Nodes

/-- A disk without links whose names are in order and whose files have numbers of their own. -/
structure Sound (d : Disk) : Prop where
  root : d.node? [] = some .dir
  tidy : d.root.Tidy
  linkless : ∀ place target, d.node? place ≠ some (.link target)
  distinct : ∀ {place place' id content content'}, d.node? place = some (.file id content) →
    d.node? place' = some (.file id content') → place = place'
  fresh : ∀ {place id content}, d.node? place = some (.file id content) → id < d.nextId

/-- One change at a place. -/
inductive Change (d : Disk) : Place → Disk → Prop
  | made {dir : Place} {entries : List (String × Entry)} {name : String} :
      d.at? dir = some (.dir entries) → IsName name → Entry.lookup entries name = none →
      Change d (dir ++ [name]) ((d.put (dir ++ [name]) (.dir [])).note (dir ++ [name]) .created)
  | added {dir : Place} {entries : List (String × Entry)} {name : String} :
      d.at? dir = some (.dir entries) → IsName name → Entry.lookup entries name = none →
      Change d (dir ++ [name]) (d.addFile (dir ++ [name]) .empty).2
  | filled {place : Place} {id : Nat} {old : ByteArray} (content : ByteArray) :
      d.node? place = some (.file id old) → Change d place (d.setContent id content)

section Change

variable {d d' : Disk} {place : Place}

theorem root_setContent (d : Disk) (id : Nat) (content : ByteArray) :
    (d.setContent id content).root = d.root.setContent id content := by
  rw [setContent]
  cases place? _ id <;> rfl

theorem nextId_setContent (d : Disk) (id : Nat) (content : ByteArray) :
    (d.setContent id content).nextId = d.nextId := by
  rw [setContent]
  cases place? _ id <;> rfl

theorem at?_setContent (d : Disk) (id : Nat) (content : ByteArray) (place : Place) :
    (d.setContent id content).at? place = (d.at? place).map (Entry.setContent id content) := by
  rw [at?, root_setContent, Entry.at?_setContent, at?]

/-- Every name on the way to something is one that an entry can have. -/
theorem names_of_tidy (htidy : d.root.Tidy) (hplace : d.node? place ≠ none) : ∀ name ∈ place, IsName name := by
  intro name hname
  obtain ⟨above, below, rfl⟩ := List.append_of_mem hname
  rw [List.append_cons] at hplace
  have habove : d.node? (above ++ [name]) ≠ none := by
    cases below with
    | nil => rwa [List.append_nil] at hplace
    | cons next rest =>
        rw [node?_of_node?_append (List.cons_ne_nil _ _) hplace]
        exact Option.some_ne_none _
  obtain ⟨entries, hentries⟩ := node?_eq_dir_iff.1 (node?_of_node?_append (by simp) habove)
  obtain ⟨e, he⟩ := Option.ne_none_iff_exists'.1 (mt node?_eq_none_iff.2 habove)
  rw [at?, Entry.at?_concat hentries] at he
  exact (htidy above entries hentries).names _ (Entry.mem_of_lookup he)

variable {dir : Place} {entries : List (String × Entry)} {name : String}

theorem Sound.node?_made (h : d.Sound) (hdir : d.at? dir = some (.dir entries))
    (hnone : Entry.lookup entries name = none) (r : Place) :
    ((d.put (dir ++ [name]) (.dir [])).note (dir ++ [name]) .created).node? r =
      if r = dir ++ [name] then some .dir else d.node? r :=
  h.tidy.node_at?_put hdir hnone rfl r

theorem Sound.node?_added (h : d.Sound) (hdir : d.at? dir = some (.dir entries))
    (hnone : Entry.lookup entries name = none) (r : Place) :
    (d.addFile (dir ++ [name]) .empty).2.node? r =
      if r = dir ++ [name] then some (.file d.nextId .empty) else d.node? r :=
  h.tidy.node_at?_put hdir hnone rfl r

theorem Sound.node?_filled (h : d.Sound) {id : Nat} {old : ByteArray} (content : ByteArray)
    (hfile : d.node? place = some (.file id old)) (r : Place) :
    (d.setContent id content).node? r = if r = place then some (.file id content) else d.node? r := by
  rw [node?, at?_setContent, Option.map_map]
  split
  · next heq =>
    subst heq
    rw [node?_eq_file_iff.1 hfile]
    show some (Entry.node (Entry.setContent id content (.file id old))) = _
    rw [Entry.setContent, if_pos rfl, Entry.node]
  · next hne =>
    rw [node?]
    cases hat : d.at? r with
    | none => rfl
    | some e =>
        show some (Entry.node (Entry.setContent id content e)) = some e.node
        cases e with
        | link target => rw [Entry.setContent]
        | dir entries => rw [Entry.setContent, Entry.node, Entry.node]
        | file n content' =>
            rw [Entry.setContent, if_neg]
            rintro rfl
            exact hne (h.distinct (node?_eq_file_iff.2 hat) hfile)

/-- What it takes for a disk with something new at one place to be in order. -/
theorem Sound.of_node? (h : d.Sound) {n : Node} (htidy : d'.root.Tidy)
    (hnode : ∀ r, d'.node? r = if r = place then some n else d.node? r) (hroot : place = [] → n = .dir)
    (hlinkless : ∀ target, n ≠ .link target) (hnext : d.nextId ≤ d'.nextId)
    (hfile : ∀ id content, n = .file id content →
      id < d'.nextId ∧ ∀ r content', d.node? r = some (.file id content') → r = place) : d'.Sound where
  root := by
    rw [hnode]
    split
    · next heq => rw [hroot heq.symm]
    · exact h.root
  tidy := htidy
  linkless r target := by
    rw [hnode]
    split
    · intro heq
      exact hlinkless target (Option.some.inj heq)
    · exact h.linkless r target
  distinct {r r' id content content'} hr hr' := by
    rw [hnode] at hr hr'
    split at hr
    · next heq =>
      split at hr'
      · next heq' => rw [heq, heq']
      · rw [heq, (hfile id content (Option.some.inj hr)).2 r' content' hr']
    · split at hr'
      · next heq' => rw [heq', (hfile id content' (Option.some.inj hr')).2 r content hr]
      · exact h.distinct hr hr'
  fresh {r id content} hr := by
    rw [hnode] at hr
    split at hr
    · exact (hfile id content (Option.some.inj hr)).1
    · exact Nat.lt_of_lt_of_le (h.fresh hr) hnext

/-- The tree stays in order when something that holds nothing is put into a directory, or taken out of it. -/
theorem tidy_alter (htidy : d.root.Tidy) (hdir : d.node? dir = some .dir) (hname : IsName name) {new : Option Entry}
    (hnew : ∀ e ∈ new, e.children = []) : (d.root.alter (fun _ => new) (dir ++ [name])).Tidy := by
  apply htidy.altered
  · intro n hn
    rcases List.mem_append.1 hn with hn | hn
    · exact names_of_tidy htidy (hdir ▸ Option.some_ne_none _) n hn
    · rw [List.mem_singleton.1 hn]
      exact hname
  · intro old e _ he
    exact Entry.tidy_of_children_eq_nil (hnew e he)

theorem Sound.tidy_put (h : d.Sound) (hdir : d.at? dir = some (.dir entries)) (hname : IsName name) {new : Entry}
    (hnew : new.children = []) : (d.root.alter (fun _ => some new) (dir ++ [name])).Tidy := by
  apply tidy_alter h.tidy (node?_eq_dir_iff.2 ⟨entries, hdir⟩) hname
  rintro _ ⟨⟩
  exact hnew

theorem tidy_setContent (htidy : d.root.Tidy) (id : Nat) (content : ByteArray) :
    (d.setContent id content).root.Tidy := by
  rw [root_setContent]
  exact htidy.filled id content

/-- Every change leaves a disk in order, and shows at its place only. -/
theorem Sound.change (h : d.Sound) (hchange : Change d place d') :
    d'.Sound ∧ ∀ r, r ≠ place → d'.node? r = d.node? r := by
  cases hchange with
  | made hdir hname hnone =>
      have hnode := h.node?_made hdir hnone
      refine ⟨h.of_node? (h.tidy_put hdir hname rfl) hnode ?_ ?_ (Nat.le_refl _) ?_, fun r hne => ?_⟩
      · simp
      · rintro target ⟨⟩
      · rintro id content ⟨⟩
      · rw [hnode, if_neg hne]
  | added hdir hname hnone =>
      have hnode := h.node?_added hdir hnone
      refine ⟨h.of_node? (h.tidy_put hdir hname rfl) hnode ?_ ?_ (Nat.le_succ _) ?_, fun r hne => ?_⟩
      · simp
      · rintro target ⟨⟩
      · rintro id content ⟨⟩
        exact ⟨Nat.lt_succ_self _, fun r content' hr => absurd (h.fresh hr) (Nat.lt_irrefl _)⟩
      · rw [hnode, if_neg hne]
  | @filled _ id old content hfile =>
      have hnode := h.node?_filled content hfile
      have hnext := Nat.le_of_eq (nextId_setContent d id content).symm
      refine ⟨h.of_node? (tidy_setContent h.tidy _ content) hnode ?_ ?_ hnext ?_, fun r hne => ?_⟩
      · rintro rfl
        rw [h.root] at hfile
        cases hfile
      · rintro target ⟨⟩
      · rintro id content ⟨⟩
        exact ⟨Nat.lt_of_lt_of_le (h.fresh hfile) hnext, fun r content' hr => h.distinct hr hfile⟩
      · rw [hnode, if_neg hne]

/-- Nothing goes away by a change, and directories stay directories. -/
theorem Sound.change_keeps (h : d.Sound) (hchange : Change d place d') (r : Place) :
    (d.node? r = some .dir → d'.node? r = some .dir) ∧ (d.node? r ≠ none → d'.node? r ≠ none) := by
  by_cases hne : r = place
  · subst hne
    cases hchange with
    | made hdir hname hnone =>
        rw [node?_concat hdir, hnone]
        exact ⟨(by rintro ⟨⟩), fun hsome => absurd rfl hsome⟩
    | added hdir hname hnone =>
        rw [node?_concat hdir, hnone]
        exact ⟨(by rintro ⟨⟩), fun hsome => absurd rfl hsome⟩
    | filled content hfile =>
        rw [hfile, h.node?_filled content hfile, if_pos rfl]
        exact ⟨(by rintro ⟨⟩), fun _ => Option.some_ne_none _⟩
  · rw [(h.change hchange).2 r hne]
    exact ⟨id, id⟩

/-- What stands at a place, with all it holds, is the same after a change that is neither there nor below. -/
theorem Sound.change_at? (h : d.Sound) (hchange : Change d place d') {p : Place} {e : Entry}
    (hp : d.at? p = some e) (hplace : ¬p <+: place) : d'.at? p = some e := by
  -- what is put where nothing is stands neither above the place nor below it
  have hput : ∀ {dir name entries} f, place = dir ++ [name] → d.at? dir = some (.dir entries) →
      Entry.lookup entries name = none → (d.root.alter f (dir ++ [name])).at? p = some e := by
    rintro dir name entries f rfl hdir hnone
    rw [h.tidy.at?_alter_of_apart f hdir]
    · exact hp
    · rintro ⟨rest, rfl⟩
      rw [at?, Entry.at?_append, Entry.at?_concat hdir, hnone] at hp
      cases hp
    · exact fun hbelow => hplace (hbelow.trans (List.prefix_append _ _))
  cases hchange with
  | made hdir hname hnone => exact hput _ rfl hdir hnone
  | added hdir hname hnone => exact hput _ rfl hdir hnone
  | @filled place id old content hfile =>
      rw [at?_setContent, hp, Option.map_some]
      congr 1
      have htidy : e.Tidy := by
        intro place entries hat
        apply h.tidy (p ++ place)
        rw [Entry.at?_append, show d.root.at? p = some e from hp]
        exact hat
      apply htidy.setContent_of_absent
      intro below old' hbelow
      apply hplace
      have hinside : d.node? (p ++ below) = some (.file id old') := by
        rw [node?_eq_file_iff, at?, Entry.at?_append, show d.root.at? p = some e from hp]
        exact hbelow
      exact ⟨below, h.distinct hinside hfile⟩

end Change

/-- What a disk becomes by changes at some places, one after another. -/
inductive Becomes (touch : Place → Prop) (d : Disk) : Disk → Prop
  | same : Becomes touch d d
  | change {d' d'' : Disk} {place : Place} :
      Becomes touch d d' → touch place → Change d' place d'' → Becomes touch d d''

section Becomes

variable {touch touch' : Place → Prop} {d d' d'' : Disk} {p r : Place} {e : Entry}

theorem Becomes.single {place : Place} (htouch : touch place) (hchange : Change d place d') : Becomes touch d d' :=
  .change .same htouch hchange

theorem Becomes.trans (h : Becomes touch d d') (h' : Becomes touch d' d'') : Becomes touch d d'' := by
  induction h' with
  | same => exact h
  | change _ htouch hchange ih => exact .change ih htouch hchange

theorem Becomes.mono (h : Becomes touch d d') (hmore : ∀ place, touch place → touch' place) : Becomes touch' d d' := by
  induction h with
  | same => exact .same
  | change _ htouch hchange ih => exact .change ih (hmore _ htouch) hchange

theorem Becomes.sound (h : Becomes touch d d') (hsound : d.Sound) : d'.Sound := by
  induction h with
  | same => exact hsound
  | change _ _ hchange ih => exact (ih.change hchange).1

/-- What is not touched is as it was. -/
theorem Becomes.node?_eq (h : Becomes touch d d') (hsound : d.Sound) (hr : ¬touch r) : d'.node? r = d.node? r := by
  induction h with
  | same => rfl
  | change hbefore htouch hchange ih =>
      rw [← ih]
      apply ((hbefore.sound hsound).change hchange).2
      rintro rfl
      exact hr htouch

theorem Becomes.dir (h : Becomes touch d d') (hsound : d.Sound) (hr : d.node? r = some .dir) :
    d'.node? r = some .dir := by
  induction h with
  | same => exact hr
  | change hbefore _ hchange ih => exact ((hbefore.sound hsound).change_keeps hchange r).1 ih

theorem Becomes.node?_ne_none (h : Becomes touch d d') (hsound : d.Sound) (hr : d.node? r ≠ none) :
    d'.node? r ≠ none := by
  induction h with
  | same => exact hr
  | change hbefore _ hchange ih => exact ((hbefore.sound hsound).change_keeps hchange r).2 ih

/-- What stands at a place is the same, with all it holds, if nothing there or below is touched. -/
theorem Becomes.at?_eq (h : Becomes touch d d') (hsound : d.Sound) (hp : d.at? p = some e)
    (houtside : ∀ place, touch place → ¬p <+: place) : d'.at? p = some e := by
  induction h with
  | same => exact hp
  | change hbefore htouch hchange ih => exact (hbefore.sound hsound).change_at? hchange ih (houtside _ htouch)

end Becomes

/-- The contents of a file are found by its number. -/
theorem Sound.content?_eq {d : Disk} (h : d.Sound) {place : Place} {id : Nat} {content : ByteArray}
    (hfile : d.node? place = some (.file id content)) : d.content? id = some content := by
  have hat := node?_eq_file_iff.1 hfile
  obtain ⟨found, hfound⟩ := Option.ne_none_iff_exists'.1 (Entry.content?_ne_none_of_at? hat)
  obtain ⟨place', hplace'⟩ := h.tidy.at?_of_content? _ hfound
  have hsame : place' = place := h.distinct (node?_eq_file_iff.2 hplace') hfile
  rw [hsame, show d.root.at? place = _ from hat] at hplace'
  cases hplace'
  rw [content?, hfound, Option.some_or]

end Workbench.Disk

import Workbench.Proofs.Lists
import Workbench.Terminal.Local

/-!
What the operations of a host of terminals change of the table, of the terminals and of their children.  Whatever
happens, a number leads to a terminal that has it, and the child of such a terminal has not ended.
-/

namespace Workbench.LocalTerminals

/-- The terminals of the children, and whether their ends have been told. -/
def marks (t : LocalTerminals) : List (UInt32 × Bool) := t.children.map fun c => (c.terminal, c.told)

/-- The child that a number leads to. -/
def stored (t : LocalTerminals) (id : UInt32) : Option ChildId := (t.terminal? id).bind (·.2.child)

/-- Every child whose end has not been told is the one that the number of its terminal leads to. -/
def Reached (t : LocalTerminals) : Prop :=
  ∀ c child, t.children[c]? = some child → child.told = false → t.childOf child.terminal = .ok (c, child)

/-- The terminal at a place is the one that its number leads to, and has no child. -/
def Vacant (t : LocalTerminals) (place : Nat) (id : UInt32) : Prop :=
  (t.terminal? id).map (fun found => (found.1, found.2.child)) = some (place, none)

instance (t : LocalTerminals) (place : Nat) (id : UInt32) : Decidable (t.Vacant place id) :=
  inferInstanceAs (Decidable ((t.terminal? id).map (fun found => (found.1, found.2.child)) = some (place, none)))

section Operations

variable (t : LocalTerminals)

theorem find_eq_ok_iff {id : UInt32} {found : Nat × LocalTerminal} :
    t.find id = .ok found ↔ t.terminal? id = some found := by
  rw [find]
  cases t.terminal? id <;> simp

theorem childOf_eq_ok_iff {id : UInt32} {c : ChildId} {child : Child} :
    t.childOf id = .ok (c, child) ↔ t.stored id = some c ∧ t.children[c]? = some child := by
  rw [childOf, find, stored]
  rcases t.terminal? id with _ | ⟨place, x⟩
  · simp [bind, Except.bind]
  · simp only [bind, Except.bind, Option.bind_some]
    rcases x.child with _ | c'
    · simp
    · simp only [Option.bind_some, Option.some.injEq]
      cases hthere : t.children[c']? with
      | none =>
          refine iff_of_false (by simp) ?_
          rintro ⟨rfl, hchild⟩
          rw [hchild] at hthere
          cases hthere
      | some child' =>
          simp only [Option.map_some, Except.ok.injEq, Prod.mk.injEq]
          constructor
          · rintro ⟨rfl, rfl⟩
            exact ⟨rfl, hthere⟩
          · rintro ⟨rfl, hchild⟩
            exact ⟨rfl, Option.some.inj (hthere.symm.trans hchild)⟩

theorem mark_eq_some_iff {c : ChildId} {id : UInt32} {told : Bool} :
    t.marks[c]? = some (id, told) ↔
      ∃ child, t.children[c]? = some child ∧ child.terminal = id ∧ child.told = told := by
  simp [marks]

/-- A number leads to every child that its end has not been told of. -/
theorem reached_iff_stored :
    t.Reached ↔ ∀ c id, t.marks[c]? = some (id, false) → t.stored id = some c := by
  constructor
  · intro hreached c id hmark
    obtain ⟨child, hchild, rfl, htold⟩ := t.mark_eq_some_iff.1 hmark
    exact (t.childOf_eq_ok_iff.1 (hreached c child hchild htold)).1
  · intro hstored c child hchild htold
    refine t.childOf_eq_ok_iff.2 ⟨hstored c child.terminal ?_, hchild⟩
    exact t.mark_eq_some_iff.2 ⟨child, hchild, rfl, htold⟩

theorem terminal?_unlist (id other : UInt32) :
    (t.unlist id).terminal? other = if other = id then none else t.terminal? other := by
  simp only [terminal?, unlist, find?_filter_key Prod.fst]
  by_cases heq : other = id
  · simp only [heq, if_true]
  · simp only [heq, if_false]

theorem stored_unlist (id other : UInt32) :
    (t.unlist id).stored other = if other = id then none else t.stored other := by
  rw [stored, terminal?_unlist]
  split <;> rfl

/-- Every row of the table is about a terminal. -/
def Placed (t : LocalTerminals) : Prop := ∀ row ∈ t.table, row.2 < t.terminals.length

theorem terminal?_create (hplaced : t.Placed) (request : ProcessRequest) (other : UInt32) :
    (t.create request).2.terminal? other =
      if other = t.nextId then some (t.terminals.length, { id := t.nextId, request }) else t.terminal? other := by
  simp only [terminal?, create, List.find?_append, find?_filter_key Prod.fst]
  by_cases heq : other = t.nextId
  · simp [heq]
  · have hnew : (t.nextId == other) = false := by simpa using Ne.symm heq
    simp only [heq, if_false, List.find?_singleton, hnew, Bool.false_eq_true, Option.or_none]
    cases hrow : t.table.find? fun row => row.1 == other with
    | none => rfl
    | some row =>
        have hplace := hplaced row (List.mem_of_find?_eq_some hrow)
        simp only [List.getElem?_append_left hplace]

theorem stored_create (hplaced : t.Placed) (request : ProcessRequest) (other : UInt32) :
    (t.create request).2.stored other = if other = t.nextId then none else t.stored other := by
  rw [stored, terminal?_create t hplaced]
  split <;> rfl

/-- A terminal gets a child. -/
theorem terminal?_launched (place : Nat) (x : LocalTerminal) (tty : Tty) (other : UInt32) :
    (t.launched place x (.ok tty)).2.terminal? other =
      (t.terminal? other).map fun found =>
        (found.1, if found.1 = place then { found.2 with child := some t.children.length } else found.2) := by
  simp only [terminal?, launched, addChild, attach, fireReady]
  cases hrow : t.table.find? fun row => row.1 == other with
  | none => rfl
  | some row =>
      simp only [List.getElem?_modify]
      cases t.terminals[row.2]? with
      | none => rfl
      | some y =>
          by_cases heq : row.2 = place
          · simp [heq]
          · simp [heq, Ne.symm heq]

theorem mem_terminals_of_terminal? {id : UInt32} {place : Nat} {x : LocalTerminal}
    (hfound : t.terminal? id = some (place, x)) : t.terminals[place]? = some x := by
  rw [terminal?] at hfound
  split at hfound
  · obtain ⟨y, hy, heq⟩ := Option.map_eq_some_iff.1 hfound
    cases heq
    exact hy
  · cases hfound

end Operations

section Changes

variable {t u : LocalTerminals}

/-- Nothing has changed of who is reached under which number, and of what has been told of ends. -/
structure Alike (t u : LocalTerminals) : Prop where
  nextId : u.nextId = t.nextId
  terminals : u.terminals = t.terminals
  table : u.table = t.table
  marks : u.marks = t.marks
  exits : u.exits = t.exits

theorem Alike.refl (t : LocalTerminals) : Alike t t := ⟨rfl, rfl, rfl, rfl, rfl⟩

theorem Alike.terminal? (h : Alike t u) (id : UInt32) : u.terminal? id = t.terminal? id := by
  simp only [LocalTerminals.terminal?, h.table, h.terminals]

theorem setTty_alike (t : LocalTerminals) (c : ChildId) (f : Tty → Tty) : Alike t (t.setTty c f) where
  nextId := rfl
  terminals := rfl
  table := rfl
  marks := by
    refine List.ext_getElem? fun i => ?_
    simp only [LocalTerminals.marks, setTty, List.getElem?_map, List.getElem?_modify]
    cases t.children[i]? with
    | none => rfl
    | some child => by_cases heq : c = i <;> simp [heq]
  exits := rfl

theorem marks_set (t : LocalTerminals) (c : ChildId) (child : Child) :
    { t with children := t.children.set c child }.marks = t.marks.set c (child.terminal, child.told) := by
  simp only [marks, List.map_set]

theorem tellOutput_alike (t : LocalTerminals) (c : ChildId) (octets : Bytes) : Alike t (t.tellOutput c octets) := by
  rw [tellOutput]
  cases hchild : t.children[c]? with
  | none => exact Alike.refl t
  | some child =>
      have hmark : t.marks[c]? = some (child.terminal, child.told) :=
        t.mark_eq_some_iff.2 ⟨child, hchild, rfl, rfl⟩
      obtain ⟨hlt, hget⟩ := List.getElem?_eq_some_iff.1 hmark
      have hmarks : ∀ unread : Bytes,
          { t with children := t.children.set c { child with unread } }.marks = t.marks := by
        intro unread
        rw [marks_set, ← hget]
        exact List.set_getElem_self hlt
      dsimp only
      split
      · exact ⟨rfl, rfl, rfl, hmarks _, rfl⟩
      · exact ⟨rfl, rfl, rfl, hmarks _, rfl⟩

theorem tellEnd_of_mark {c : ChildId} {id : UInt32} {told : Bool} (hmark : t.marks[c]? = some (id, told))
    (status : Nat) :
    (t.tellEnd c status).nextId = t.nextId ∧ (t.tellEnd c status).terminals = t.terminals ∧
      (t.tellEnd c status).table = (t.unlist id).table ∧ (t.tellEnd c status).marks = t.marks.set c (id, true) ∧
      (t.tellEnd c status).exits = t.exits.fire (processEvent id (Json.nat status)) := by
  obtain ⟨child, hchild, rfl, -⟩ := t.mark_eq_some_iff.1 hmark
  have hend : t.tellEnd c status =
      { t.unlist child.terminal with
        children := t.children.set c { child with told := true }
        exits := t.exits.fire (processEvent child.terminal (Json.nat status)) } := by
    simp only [tellEnd, hchild]
  rw [hend]
  exact ⟨rfl, rfl, rfl, marks_set (t.unlist child.terminal) c _, rfl⟩

/-- What an event does to a host, and the condition under which it is orderly. -/
inductive Change (t : LocalTerminals) : LocalTerminals → Prop → Prop
  | same {u : LocalTerminals} (alike : Alike t u) : Change t u True
  | registers (request : ProcessRequest) : Change t (t.create request).2 (t.stored t.nextId = none)
  | starts (place : Nat) (x : LocalTerminal) (tty : Tty) (found : t.terminals[place]?.map (·.id) = some x.id) :
      Change t (t.launched place x (.ok tty)).2 (t.Vacant place x.id)
  | unlists (id : UInt32) (childless : t.stored id = none) : Change t (t.unlist id) True
  | ends {u : LocalTerminals} (alike : Alike t u) (c : ChildId) (id : UInt32) (status : Nat)
      (running : t.marks[c]? = some (id, false)) : Change t (u.tellEnd c status) True

theorem onChild_change (t : LocalTerminals) (id : UInt32) (f : Tty → Tty) : Change t (t.onChild id f).2 True := by
  rw [onChild]
  rcases t.childOf id with fault | ⟨c, child⟩
  · exact .same (.refl t)
  · exact .same (setTty_alike t c f)

theorem turn_change (disk : Disk) (t : LocalTerminals) (c : ChildId) : Change t (turn disk t c) True := by
  rw [turn]
  cases hchild : t.children[c]? with
  | none => exact .same (.refl t)
  | some child =>
      dsimp only
      cases htold : child.told with
      | true => exact .same (.refl t)
      | false =>
          have hmark : t.marks[c]? = some (child.terminal, false) :=
            t.mark_eq_some_iff.2 ⟨child, hchild, rfl, htold⟩
          simp only [Bool.false_eq_true, if_false]
          have hset := setTty_alike t c fun _ => (child.tty.run disk.isDir).takeScreen.2
          have hsaid := tellOutput_alike (t.setTty c fun _ => (child.tty.run disk.isDir).takeScreen.2) c
            (child.tty.run disk.isDir).takeScreen.1
          have halike : Alike t _ := ⟨hsaid.nextId.trans hset.nextId, hsaid.terminals.trans hset.terminals,
            hsaid.table.trans hset.table, hsaid.marks.trans hset.marks, hsaid.exits.trans hset.exits⟩
          split
          · exact .ends halike c child.terminal _ hmark
          · exact .same halike

/-- What is known of every host: its numbers are given out in order, and a number leads to a terminal that has it,
whose child, if it has one, has not ended. -/
structure Sound (t : LocalTerminals) : Prop where
  placed : t.Placed
  leads : ∀ id place x, t.terminal? id = some (place, x) →
    x.id = id ∧ ∀ c, x.child = some c → t.marks[c]? = some (id, false)
  ids : ∀ place x, t.terminals[place]? = some x → x.id = UInt32.ofNat (place + 1)
  next : t.nextId = UInt32.ofNat (t.terminals.length + 1)

theorem Sound.mark_of_stored (hsound : t.Sound) {id : UInt32} {c : ChildId} (hstored : t.stored id = some c) :
    t.marks[c]? = some (id, false) := by
  obtain ⟨⟨place, x⟩, hfound, hchild⟩ := Option.bind_eq_some_iff.1 hstored
  exact (hsound.leads id place x hfound).2 c hchild

theorem Sound.stored_of_childOf_error (hsound : t.Sound) {id : UInt32} {fault : Fault}
    (herror : t.childOf id = .error fault) : t.stored id = none := by
  cases hstored : t.stored id with
  | none => rfl
  | some c =>
      obtain ⟨child, hchild, -, -⟩ := t.mark_eq_some_iff.1 (hsound.mark_of_stored hstored)
      rw [t.childOf_eq_ok_iff.2 ⟨hstored, hchild⟩] at herror
      cases herror

theorem Sound.shutdown_change (hsound : t.Sound) (disk : Disk) (id : UInt32) :
    Change t (shutdown disk t id).2 True := by
  rw [shutdown]
  cases hfind : t.find id with
  | error fault => exact .same (.refl t)
  | ok _ =>
      rcases hchild : t.childOf id with fault | ⟨c, child⟩
      · exact .unlists id (hsound.stored_of_childOf_error hchild)
      · exact .same (setTty_alike t c fun tty => (tty.run disk.isDir).kill)

theorem terminals_launched (t : LocalTerminals) (place : Nat) (x : LocalTerminal) (tty : Tty) :
    (t.launched place x (.ok tty)).2.terminals =
      t.terminals.modify place fun y => { y with child := some t.children.length } :=
  rfl

theorem marks_launched (t : LocalTerminals) (place : Nat) (x : LocalTerminal) (tty : Tty) :
    (t.launched place x (.ok tty)).2.marks = t.marks ++ [(x.id, false)] := by
  simp [marks, launched, addChild, attach, fireReady]

theorem mark_launched_iff {place : Nat} {x : LocalTerminal} {tty : Tty} {c : ChildId} {id : UInt32} {told : Bool} :
    (t.launched place x (.ok tty)).2.marks[c]? = some (id, told) ↔
      t.marks[c]? = some (id, told) ∨ (c = t.marks.length ∧ x.id = id ∧ told = false) := by
  rw [marks_launched, getElem?_concat_eq_some_iff, Prod.mk.injEq, eq_comm (a := false)]

theorem stored_launched (t : LocalTerminals) (place : Nat) (x : LocalTerminal) (tty : Tty) (id : UInt32) :
    (t.launched place x (.ok tty)).2.stored id =
      (t.terminal? id).bind fun found => if found.1 = place then some t.marks.length else found.2.child := by
  rw [stored, terminal?_launched]
  rcases t.terminal? id with _ | ⟨place', y⟩
  · rfl
  · simp only [Option.map_some, Option.bind_some, marks, List.length_map]
    split <;> rfl

theorem Sound.of_alike (hsound : t.Sound) (alike : Alike t u) : u.Sound where
  placed := by
    rw [Placed, alike.table, alike.terminals]
    exact hsound.placed
  leads id place x hfound := by
    rw [alike.marks]
    rw [alike.terminal?] at hfound
    exact hsound.leads id place x hfound
  ids := by
    rw [alike.terminals]
    exact hsound.ids
  next := by
    rw [alike.nextId, alike.terminals]
    exact hsound.next

theorem Sound.create (hsound : t.Sound) (request : ProcessRequest) : (t.create request).2.Sound := by
  have hlength : (t.create request).2.terminals.length = t.terminals.length + 1 := List.length_append
  refine ⟨?_, ?_, ?_, ?_⟩
  · intro row hrow
    rw [hlength]
    rcases List.mem_append.1 hrow with hold | hnew
    · exact Nat.lt_succ_of_lt (hsound.placed row (List.mem_filter.1 hold).1)
    · rw [List.mem_singleton.1 hnew]
      exact Nat.lt_succ_self _
  · intro id place x hfound
    rw [terminal?_create t hsound.placed] at hfound
    by_cases heq : id = t.nextId
    · rw [if_pos heq] at hfound
      cases hfound
      exact ⟨heq.symm, fun c hchild => by cases hchild⟩
    · rw [if_neg heq] at hfound
      exact hsound.leads id place x hfound
  · intro place x hx
    rcases getElem?_concat_eq_some_iff.1 hx with hold | ⟨rfl, rfl⟩
    · exact hsound.ids place x hold
    · exact hsound.next
  · have hnext : (t.create request).2.nextId = t.nextId + 1 := rfl
    rw [hnext, hlength, hsound.next]
    exact (UInt32.ofNat_add _ 1).symm

theorem Sound.launched (hsound : t.Sound) {place : Nat} {x : LocalTerminal}
    (found : t.terminals[place]?.map (·.id) = some x.id) (tty : Tty) :
    (t.launched place x (.ok tty)).2.Sound := by
  have hlength : (t.launched place x (.ok tty)).2.terminals.length = t.terminals.length := by
    rw [terminals_launched, List.length_modify]
  refine ⟨?_, ?_, ?_, ?_⟩
  · intro row hrow
    rw [hlength]
    exact hsound.placed row hrow
  · intro id place' y hfound
    rw [terminal?_launched] at hfound
    obtain ⟨⟨place', z⟩, hz, heq⟩ := Option.map_eq_some_iff.1 hfound
    obtain ⟨hid, hchild⟩ := hsound.leads id place' z hz
    by_cases hplace : place' = place
    · -- the terminal that gets the child
      subst hplace
      rw [t.mem_terminals_of_terminal? hz] at found
      have hx : z.id = x.id := Option.some.inj found
      simp only [if_true] at heq
      cases heq
      refine ⟨hid, fun c hc => mark_launched_iff.2 (.inr ⟨?_, hx.symm.trans hid, rfl⟩)⟩
      rw [← Option.some.inj hc, LocalTerminals.marks, List.length_map]
    · simp only [hplace, if_false] at heq
      cases heq
      exact ⟨hid, fun c hc => mark_launched_iff.2 (.inl (hchild c hc))⟩
  · intro place' y hy
    rw [terminals_launched, List.getElem?_modify] at hy
    obtain ⟨z, hz, rfl⟩ := Option.map_eq_some_iff.1 hy
    have hid := hsound.ids place' z hz
    split <;> exact hid
  · rw [hlength]
    exact hsound.next

theorem Sound.unlist (hsound : t.Sound) (id : UInt32) : (t.unlist id).Sound where
  placed row hrow := hsound.placed row (List.mem_filter.1 hrow).1
  leads other place x hfound := by
    rw [terminal?_unlist] at hfound
    split at hfound
    · cases hfound
    · exact hsound.leads other place x hfound
  ids := hsound.ids
  next := hsound.next

theorem terminal?_tellEnd {c : ChildId} {id : UInt32} {told : Bool} (hmark : t.marks[c]? = some (id, told))
    (status : Nat) (other : UInt32) :
    (t.tellEnd c status).terminal? other = if other = id then none else t.terminal? other := by
  obtain ⟨-, hterminals, htable, -, -⟩ := tellEnd_of_mark hmark status
  rw [← terminal?_unlist]
  simp only [terminal?, hterminals, htable]
  rfl

theorem mark_tellEnd_iff {c c' : ChildId} {id other : UInt32} {told told' : Bool}
    (hmark : t.marks[c]? = some (id, told)) (status : Nat) :
    (t.tellEnd c status).marks[c']? = some (other, told') ↔
      (c' = c ∧ id = other ∧ told' = true) ∨ (c' ≠ c ∧ t.marks[c']? = some (other, told')) := by
  obtain ⟨-, -, -, hmarks, -⟩ := tellEnd_of_mark hmark status
  rw [hmarks]
  by_cases hc : c' = c
  · subst hc
    rw [List.getElem?_set_self (List.getElem?_eq_some_iff.1 hmark).1]
    simp [eq_comm]
  · rw [List.getElem?_set_ne (Ne.symm hc)]
    simp [hc]

theorem Sound.tellEnd (hsound : t.Sound) {c : ChildId} {id : UInt32} {told : Bool}
    (hmark : t.marks[c]? = some (id, told)) (status : Nat) : (t.tellEnd c status).Sound := by
  obtain ⟨hnext, hterminals, htable, -, -⟩ := tellEnd_of_mark hmark status
  refine ⟨?_, ?_, ?_, ?_⟩
  · intro row hrow
    rw [htable] at hrow
    rw [hterminals]
    exact hsound.placed row (List.mem_filter.1 hrow).1
  · intro other place x hfound
    rw [terminal?_tellEnd hmark] at hfound
    split at hfound
    · cases hfound
    · next hne =>
      obtain ⟨hid, hchild⟩ := hsound.leads other place x hfound
      refine ⟨hid, fun c' hc' => ?_⟩
      have hother := hchild c' hc'
      refine (mark_tellEnd_iff hmark status).2 (.inr ⟨?_, hother⟩)
      rintro rfl
      rw [hmark] at hother
      exact hne (congrArg Prod.fst (Option.some.inj hother)).symm
  · rw [hterminals]
    exact hsound.ids
  · rw [hnext, hterminals]
    exact hsound.next

theorem Sound.change (hsound : t.Sound) {orderly : Prop} (hchange : Change t u orderly) : u.Sound := by
  cases hchange with
  | same alike => exact hsound.of_alike alike
  | registers request => exact hsound.create request
  | starts place x tty found => exact hsound.launched found tty
  | unlists id childless => exact hsound.unlist id
  | ends alike c id status running =>
      exact (hsound.of_alike alike).tellEnd (alike.marks ▸ running) status

end Changes

end Workbench.LocalTerminals

import Mathlib.Data.List.DropRight
import Mathlib.Data.List.Nodup
import Workbench.Console.History
import Workbench.Proofs.Lists

/-!
A history in use, beside a chronicle of it that lets nothing go.  The chronicle has every entry since the last
reset and knows who watches.  Whatever is done, the history is what the chronicle comes to when only the
newest entries are kept, and its watchers have been shown what had to leave, each entry once.
-/

namespace Workbench.Console.History

variable {α : Type}

/-- What can be done to a history. -/
inductive Act (α : Type) where
  | push (item : α)
  | extend (items : List α)
  | reset
  | watch
  | unwatch (id : Nat)

/-- A history and all that it has shown, oldest first. -/
structure Recording (α : Type) where
  history : History α
  shown : List (Nat × α) := []

namespace Recording

def step (r : Recording α) : Act α → Recording α
  | .push item =>
    let (eviction, history) := r.history.push item
    ⟨history, r.shown ++ eviction.shown⟩
  | .extend items =>
    let (shown, history) := r.history.extend items
    ⟨history, r.shown ++ shown⟩
  | .reset => { r with history := r.history.reset }
  | .watch => { r with history := r.history.watch.2 }
  | .unwatch id => { r with history := (r.history.unwatch id).2 }

def run (r : Recording α) (acts : List (Act α)) : Recording α := acts.foldl step r

end Recording

/-- What has to leave when items come behind some entries and only so many can stay. -/
def leaving (capacity : Nat) (entries items : List α) : List α :=
  ((entries ++ items).take (entries.length + items.length - capacity)).drop (entries.length - capacity)

/-- Every item is shown to every watcher. -/
def notices (watchers : List Nat) (items : List α) : List (Nat × α) :=
  items.flatMap fun item => watchers.map (·, item)

/-- All that has been done to a history: the entries since the last reset, the watchers that are registered and
the number of those that ever were, and what has been shown. -/
structure Chronicle (α : Type) where
  entries : List α := []
  watchers : List Nat := []
  registrations : Nat := 0
  shown : List (Nat × α) := []

namespace Chronicle

def add (capacity : Nat) (c : Chronicle α) (items : List α) : Chronicle α :=
  { c with
    entries := c.entries ++ items
    shown := c.shown ++ notices c.watchers (leaving capacity c.entries items) }

/-- Watchers are numbered from one as they register. -/
def step (capacity : Nat) (c : Chronicle α) : Act α → Chronicle α
  | .push item => c.add capacity [item]
  | .extend items => c.add capacity items
  | .reset => { c with entries := [] }
  | .watch =>
    { c with watchers := c.watchers ++ [c.registrations + 1], registrations := c.registrations + 1 }
  | .unwatch id => { c with watchers := c.watchers.filter (· != id) }

def run (capacity : Nat) (c : Chronicle α) (acts : List (Act α)) : Chronicle α := acts.foldl (step capacity) c

/-- What is left of a chronicle when only so many entries are kept. -/
def history (capacity : Nat) (c : Chronicle α) : History α where
  capacity
  firstKey := c.entries.length - capacity
  nextKey := c.entries.length
  items := c.entries.drop (c.entries.length - capacity)
  watchers := c.watchers
  nextWatcher := c.registrations + 1

end Chronicle

/-- A single item makes the oldest leave of those that are there with it, once there is no room. -/
theorem leaving_single (capacity : Nat) (entries : List α) (item : α) :
    leaving capacity entries [item] =
      if entries.length < capacity then []
      else (entries.drop (entries.length - capacity) ++ [item]).take 1 := by
  rw [leaving, List.drop_take, List.drop_append_of_le_length (Nat.sub_le ..)]
  split
  · have hroom : entries.length + [item].length - capacity - (entries.length - capacity) = 0 := by
      simp only [List.length_singleton]
      omega
    rw [hroom, List.take_zero]
  · have hfull : entries.length + [item].length - capacity - (entries.length - capacity) = 1 := by
      simp only [List.length_singleton]
      omega
    rw [hfull]

theorem leaving_append (capacity : Nat) (entries first later : List α) :
    leaving capacity entries (first ++ later) =
      leaving capacity entries first ++ leaving capacity (entries ++ first) later := by
  simp only [leaving, List.drop_take, List.length_append, ← List.append_assoc]
  have hcount : entries.length + (first.length + later.length) - capacity - (entries.length - capacity) =
      (entries.length + first.length - capacity - (entries.length - capacity)) +
        (entries.length + first.length + later.length - capacity -
          (entries.length + first.length - capacity)) := by
    omega
  have hnext : entries.length - capacity +
      (entries.length + first.length - capacity - (entries.length - capacity)) =
        entries.length + first.length - capacity := by
    omega
  rw [hcount, List.take_add, List.drop_drop, hnext]
  congr 1
  rw [List.drop_append_of_le_length (by simp only [List.length_append]; omega),
    List.take_append_of_le_length (by simp only [List.length_drop, List.length_append]; omega)]

theorem push_of_room {h : History α} (hroom : h.items.length < h.capacity) (item : α) :
    h.push item = ({}, { h with nextKey := h.nextKey + 1, items := h.items ++ [item] }) := by
  have hcapacity : h.capacity ≠ 0 := by omega
  cases hitems : h.items with
  | nil => simp [push, hcapacity, hitems]
  | cons oldest rest =>
      have hnot : ¬ h.capacity ≤ rest.length + 1 := by simpa [hitems] using hroom
      simp [push, hcapacity, hitems, hnot]

/-- Without room the oldest entry leaves, or the new one if there is no older. -/
theorem push_of_full {h : History α} (hfull : h.items.length = h.capacity) {item oldest : α} {rest : List α}
    (hqueue : h.items ++ [item] = oldest :: rest) :
    h.push item =
      (h.evict oldest, { h with firstKey := h.firstKey + 1, nextKey := h.nextKey + 1, items := rest }) := by
  cases hitems : h.items with
  | nil =>
      have hcapacity : h.capacity = 0 := by simpa [hitems] using hfull.symm
      obtain ⟨rfl, rfl⟩ : item = oldest ∧ [] = rest := by simpa [hitems] using hqueue
      simp [push, hcapacity, hitems]
  | cons first others =>
      have hcapacity : h.capacity = others.length + 1 := by simpa [hitems] using hfull.symm
      obtain ⟨rfl, rfl⟩ : first = oldest ∧ others ++ [item] = rest := by simpa [hitems] using hqueue
      simp [push, hcapacity, hitems]

/-- A push beyond the capacity takes the oldest entry, and that is all that goes. -/
theorem push_evicted {h : History α} (hlength : h.length ≤ h.capacity) (item : α) :
    let evicted := if h.length < h.capacity then none else (h.items ++ [item]).head?
    (h.push item).1 = ⟨evicted, notices h.watchers evicted.toList⟩ ∧
      evicted.toList ++ (h.push item).2.items = h.items ++ [item] := by
  intro evicted
  by_cases hroom : h.length < h.capacity
  · have hevicted : evicted = none := if_pos hroom
    rw [push_of_room hroom, hevicted]
    exact ⟨rfl, rfl⟩
  · obtain ⟨oldest, rest, hqueue⟩ : ∃ oldest rest, h.items ++ [item] = oldest :: rest :=
      List.exists_cons_of_ne_nil (by simp)
    have hevicted : evicted = some oldest := by rw [← List.head?_cons, ← hqueue]; exact if_neg hroom
    have hfull : h.items.length = h.capacity := Nat.le_antisymm hlength (Nat.le_of_not_lt hroom)
    rw [push_of_full hfull hqueue, hevicted, hqueue]
    exact ⟨by simp [evict, notices], rfl⟩

/-- A history that has what is left of a chronicle takes one more entry. -/
theorem push_history (capacity : Nat) (c : Chronicle α) (item : α) :
    (c.history capacity).push item =
      (⟨(leaving capacity c.entries [item]).head?, notices c.watchers (leaving capacity c.entries [item])⟩,
        (c.add capacity [item]).history capacity) := by
  rw [leaving_single]
  by_cases hroom : c.entries.length < capacity
  · have hall : c.entries.length - capacity = 0 := by omega
    have hstill : c.entries.length + 1 - capacity = 0 := by omega
    rw [push_of_room (by simpa [Chronicle.history, hall] using hroom), if_pos hroom]
    simp [Chronicle.history, Chronicle.add, notices, hall, hstill]
  · have hfull : (c.history capacity).items.length = capacity := by
      simp only [Chronicle.history, List.length_drop]
      omega
    have hnext : (c.entries ++ [item]).length - capacity = c.entries.length - capacity + 1 := by
      simp only [List.length_append, List.length_singleton]
      omega
    have hwindow : (c.entries ++ [item]).drop (c.entries.length - capacity) =
        (c.history capacity).items ++ [item] :=
      List.drop_append_of_le_length (Nat.sub_le ..)
    obtain ⟨oldest, rest, hqueue⟩ : ∃ oldest rest, (c.history capacity).items ++ [item] = oldest :: rest :=
      List.exists_cons_of_ne_nil (by simp)
    have hrest : (c.entries ++ [item]).drop (c.entries.length - capacity + 1) = rest := by
      rw [← List.drop_drop, hwindow, hqueue, List.drop_one, List.tail_cons]
    have hfirst : (c.entries.drop (c.entries.length - capacity) ++ [item]).take 1 = [oldest] := by
      rw [show c.entries.drop (c.entries.length - capacity) ++ [item] = oldest :: rest from hqueue]
      rfl
    rw [push_of_full hfull hqueue, if_neg hroom, hfirst]
    simp only [Chronicle.history, Chronicle.add, hnext, hrest]
    simp [evict, notices]

theorem leaving_nil (capacity : Nat) (entries : List α) : leaving capacity entries [] = [] := by
  simp [leaving]

theorem add_add (capacity : Nat) (c : Chronicle α) (first later : List α) :
    (c.add capacity first).add capacity later = c.add capacity (first ++ later) := by
  simp [Chronicle.add, leaving_append, notices]

theorem extend_history (capacity : Nat) (c : Chronicle α) (items : List α) :
    (c.history capacity).extend items =
      (notices c.watchers (leaving capacity c.entries items), (c.add capacity items).history capacity) := by
  induction items generalizing c with
  | nil => simp [extend, leaving_nil, notices, Chronicle.add, Chronicle.history]
  | cons item items ih =>
      have hwatchers : (c.add capacity [item]).watchers = c.watchers := rfl
      have hentries : (c.add capacity [item]).entries = c.entries ++ [item] := rfl
      have hleaving : leaving capacity c.entries (item :: items) =
          leaving capacity c.entries [item] ++ leaving capacity (c.entries ++ [item]) items :=
        leaving_append capacity c.entries [item] items
      simp only [extend, push_history, ih, hwatchers, hentries, add_add, List.singleton_append, hleaving]
      simp [notices]

/-- Whatever is done to a history, it is what is left of its chronicle. -/
theorem step_history (capacity : Nat) (c : Chronicle α) (act : Act α) :
    Recording.step ⟨c.history capacity, c.shown⟩ act =
      ⟨(c.step capacity act).history capacity, (c.step capacity act).shown⟩ := by
  cases act with
  | push item => simp only [Recording.step, push_history]; rfl
  | extend items => simp only [Recording.step, extend_history]; rfl
  | reset => simp [Recording.step, reset, Chronicle.step, Chronicle.history]
  | watch | unwatch id => rfl

theorem run_history (capacity : Nat) (c : Chronicle α) (acts : List (Act α)) :
    Recording.run ⟨c.history capacity, c.shown⟩ acts =
      ⟨(c.run capacity acts).history capacity, (c.run capacity acts).shown⟩ := by
  induction acts generalizing c with
  | nil => rfl
  | cons act acts ih =>
      simp only [Recording.run, Chronicle.run, List.foldl_cons, step_history]
      exact ih (c.step capacity act)

namespace Chronicle

/-- Watchers have numbers of their own. -/
structure Registered (c : Chronicle α) : Prop where
  nodup : c.watchers.Nodup
  le_registrations : ∀ w ∈ c.watchers, w ≤ c.registrations

theorem Registered.step {capacity : Nat} {c : Chronicle α} (h : c.Registered) (act : Act α) :
    (c.step capacity act).Registered := by
  cases act with
  | push item | extend items | reset => exact ⟨h.nodup, h.le_registrations⟩
  | watch =>
      refine ⟨?_, ?_⟩
      · refine pairwise_concat_iff.2 ⟨h.nodup, fun w hw => ?_⟩
        have hle := h.le_registrations w hw
        omega
      · intro w hw
        rcases List.mem_append.1 hw with hw | hw
        · exact Nat.le_succ_of_le (h.le_registrations w hw)
        · exact Nat.le_of_eq (List.mem_singleton.1 hw)
  | unwatch id =>
      refine ⟨h.nodup.filter _, ?_⟩
      intro w hw
      exact h.le_registrations w (List.mem_filter.1 hw).1

theorem Registered.run {capacity : Nat} {c : Chronicle α} (h : c.Registered) (acts : List (Act α)) :
    (c.run capacity acts).Registered := by
  induction acts generalizing c with
  | nil => exact h
  | cons act acts ih => exact ih (h.step act)

end Chronicle

theorem length_history (capacity : Nat) (c : Chronicle α) :
    (c.history capacity).length = min c.entries.length capacity := by
  simp only [length, Chronicle.history, List.length_drop]
  omega

theorem get?_history (capacity : Nat) (c : Chronicle α) {key : Nat}
    (hkey : c.entries.length - capacity ≤ key) : (c.history capacity).get? key = c.entries[key]? := by
  have hitems : (c.history capacity).get? key =
      (c.entries.drop (c.entries.length - capacity))[key - (c.entries.length - capacity)]? :=
    if_neg (Nat.not_lt.2 hkey)
  rw [hitems, List.getElem?_drop, Nat.add_sub_cancel' hkey]

/-- In any use of a history of any capacity: its keys span just its entries, no more than there is room for;
a key leads to the entry that was pushed as the so manieth since the last reset, as long as that is there;
and the newest are there.  A push beyond the capacity gives back the oldest of the entries that are there, or
the new one if there is room for none, and shows just that to every registered watcher, in the order in which
they registered.  What watchers have been shown is what had to leave for others. -/
theorem newest_kept (capacity : Nat) (acts : List (Act α)) :
    let r := Recording.run { history := { capacity } } acts
    let c := Chronicle.run capacity {} acts
    let h := r.history
    (h.nextKey - h.firstKey = h.length ∧ h.firstKey ≤ h.nextKey ∧ h.length ≤ capacity) ∧
    (∀ key, (h.get? key).isSome ↔ h.firstKey ≤ key ∧ key < h.nextKey) ∧
    (∀ key, h.firstKey ≤ key → h.get? key = c.entries[key]?) ∧
    h.items = c.entries.rtake (min c.entries.length capacity) ∧
    (∀ item,
      let evicted := if h.length < capacity then none else (h.items ++ [item]).head?
      (h.push item).1 = ⟨evicted, notices c.watchers evicted.toList⟩ ∧
        evicted.toList ++ (h.push item).2.items = h.items ++ [item]) ∧
    r.shown = c.shown ∧ c.watchers.Nodup := by
  intro r c h
  have hstart : ({ history := { capacity } } : Recording α) = ⟨Chronicle.history capacity {}, []⟩ := by
    simp [Chronicle.history]
  have hr : r = ⟨c.history capacity, c.shown⟩ := by
    simp only [r, hstart]
    exact run_history capacity {} acts
  have hh : h = c.history capacity := congrArg Recording.history hr
  have hlength : h.length = min c.entries.length capacity := hh ▸ length_history capacity c
  have hfirst : h.firstKey = c.entries.length - capacity := by rw [hh]; rfl
  have hnext : h.nextKey = c.entries.length := by rw [hh]; rfl
  have hget : ∀ key, h.firstKey ≤ key → h.get? key = c.entries[key]? := by
    intro key hkey
    rw [hh]
    exact get?_history capacity c (hfirst ▸ hkey)
  refine ⟨⟨by omega, by omega, by omega⟩, ?_, hget, ?_, ?_, ?_, ?_⟩
  · intro key
    by_cases hkey : h.firstKey ≤ key
    · rw [hget key hkey, hnext, isSome_getElem?]
      exact ⟨fun hlt => ⟨hkey, hlt⟩, And.right⟩
    · rw [get?, if_pos (Nat.lt_of_not_le hkey)]
      exact iff_of_false Bool.false_ne_true fun hbounds => hkey hbounds.1
  · have hitems : h.items = c.entries.drop (c.entries.length - capacity) := by rw [hh]; rfl
    rw [hitems, List.rtake]
    congr 1
    omega
  · intro item
    have hcapacity : h.capacity = capacity := by rw [hh]; rfl
    have hwatchers : h.watchers = c.watchers := by rw [hh]; rfl
    have hevicted := push_evicted (h := h) (by omega) item
    rwa [hcapacity, hwatchers] at hevicted
  · exact congrArg Recording.shown hr
  · exact (Chronicle.Registered.run ⟨List.nodup_nil, by simp⟩ acts).nodup

end Workbench.Console.History

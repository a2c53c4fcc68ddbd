import Mathlib.Data.List.DropRight
import Workbench.Console.Output

/-!
What a ring of octets holds.  Read on from its position and around, a ring is always full, at first of octets that
nobody has written; a write pushes the oldest octets out of it, however the octets come to lie in the store.  As long
as a ring has not been filled, its position tells where the first octet that was never written is.
-/

namespace Workbench.Console.Ring

variable {capacity : Nat}

theorem toList_overwrite (store : Vector UInt8 capacity) (start : Nat) (octets : Bytes)
    (h : start + octets.length ≤ capacity) :
    (overwrite store start octets h).toList =
      store.toList.take start ++ octets ++ store.toList.drop (start + octets.length) := by
  induction octets generalizing store start with
  | nil => simp [overwrite]
  | cons octet rest ih =>
      have hlt : start < capacity := by
        rw [List.length_cons] at h
        omega
      have hfront : (store.toList.set start octet).take (start + 1) = store.toList.take start ++ [octet] := by
        rw [List.take_add_one, List.take_set_of_le (Nat.le_refl _), List.getElem?_set_self (by simpa using hlt)]
        rfl
      have hback : (store.toList.set start octet).drop (start + 1 + rest.length) =
          store.toList.drop (start + (octet :: rest).length) := by
        rw [List.drop_set_of_lt (by omega), List.length_cons]
        congr 1
        omega
      rw [overwrite, ih, Vector.toList_set, hfront, hback]
      simp

/-- What a ring holds, the octets that nobody has written among it, from its position around to its position. -/
def around (r : Ring capacity) : Bytes := r.store.toList.drop r.position ++ r.store.toList.take r.position

theorem length_around (r : Ring capacity) : r.around.length = capacity := by
  simp only [around, List.length_append, List.length_drop, List.length_take, Vector.length_toList]
  omega

/-- A ring that has not been filled is read from the start of its store on, another one around. -/
theorem toList_eq_ite (r : Ring capacity) :
    r.toList = if r.total ≤ capacity then r.store.toList.take r.total else r.around := by
  have hpart : ∀ start stop, (r.store.toArray.extract start stop).toList = (r.store.toList.take stop).drop start := by
    intro start stop
    rw [Array.toList_extract, List.extract_eq_take_drop, List.drop_take]
    rfl
  have hend : r.store.toList.take capacity = r.store.toList := List.take_of_length_le (by simp)
  simp only [toList, hpart, List.drop_zero, hend]
  rfl

theorem toList_zero (r : Ring 0) : r.toList = [] := by
  have hstore : r.store.toArray = #[] := Array.eq_empty_of_size_eq_zero r.store.size_toArray
  simp [toList, hstore]

/-- What is pushed into a full stretch pushes out as much at its front. -/
theorem rtake_append_of_full {l k : Bytes} {n : Nat} (hfull : l.length = n) :
    (l ++ k).rtake n = l.drop (k.rtake n).length ++ k.rtake n := by
  have hcount : (l ++ k).length - n = k.length := by rw [List.length_append, hfull, Nat.add_sub_cancel_left]
  have hfront : l.drop k.length = l.drop (k.rtake n).length := by
    rw [List.rtake, List.length_drop]
    by_cases hshort : k.length ≤ n
    · rw [Nat.sub_eq_zero_of_le hshort, Nat.sub_zero]
    · rw [List.drop_eq_nil_of_le (by omega), List.drop_eq_nil_of_le (by omega)]
  rw [List.rtake, hcount, List.drop_append, hfront, hfull]
  rfl

theorem rtake_append_rtake (n : Nat) (l k : Bytes) : (l.rtake n ++ k).rtake n = (l ++ k).rtake n := by
  simp only [List.rtake, List.drop_append, List.length_append, List.length_drop, List.drop_drop]
  congr 2 <;> omega

/-- Two copies, up to the end of a store and from its start on, push octets in at a place. -/
theorem around_copies {l k : Bytes} {p : Nat} (hp : p < l.length) (hk : k.length ≤ l.length) {ahead next : Nat}
    (hahead : ahead = min k.length (l.length - p)) (hnext : next = (p + k.length) % l.length) {m : Bytes}
    (hm : m = k.drop ahead ++ (l.take p ++ k.take ahead ++ l.drop (p + ahead)).drop (k.length - ahead)) :
    m.drop next ++ m.take next = (l.drop p ++ l.take p).drop k.length ++ k := by
  by_cases hfits : p + k.length < l.length
  · -- nothing is left for a second copy
    have hall : ahead = k.length := by omega
    have hplace : next = (l.take p ++ k).length := by
      rw [hnext, Nat.mod_eq_of_lt hfits, List.length_append, List.length_take, Nat.min_eq_left (Nat.le_of_lt hp)]
    have hstore : m = l.take p ++ k ++ l.drop (p + k.length) := by
      rw [hm, hall, Nat.sub_self, List.drop_length, List.take_length, List.drop_zero, List.nil_append]
    have hpushed : (l.drop p ++ l.take p).drop k.length = l.drop (p + k.length) ++ l.take p := by
      rw [List.drop_append_of_le_length (by rw [List.length_drop]; omega), List.drop_drop]
    rw [hstore, List.drop_left' hplace.symm, List.take_left' hplace.symm, hpushed, List.append_assoc]
  · have hall : ahead = l.length - p := by omega
    have hplace : next = k.length - ahead := by
      rw [hnext, Nat.mod_eq_sub_mod (Nat.le_of_not_lt hfits), Nat.mod_eq_of_lt (by omega)]
      omega
    have hfront : (k.drop ahead).length = next := by rw [List.length_drop, hplace]
    have hstore : m = k.drop ahead ++ ((l.take p).drop next ++ k.take ahead) := by
      have hend : l.drop (p + ahead) = [] := List.drop_eq_nil_of_le (by omega)
      rw [hm, hend, List.append_nil, ← hplace, List.drop_append_of_le_length (by rw [List.length_take]; omega)]
    have hpushed : (l.drop p ++ l.take p).drop k.length = (l.take p).drop next := by
      have hold : (l.drop p).drop k.length = [] := List.drop_eq_nil_of_le (by rw [List.length_drop]; omega)
      rw [List.drop_append, hold, List.nil_append, List.length_drop, ← hall, ← hplace]
    rw [hstore, List.drop_left' hfront, List.take_left' hfront, hpushed, List.append_assoc, List.take_append_drop]

theorem copy?_of_le {store : Vector UInt8 capacity} {start : Nat} {octets : Bytes}
    (h : start + octets.length ≤ capacity) : copy? store start octets = some (overwrite store start octets h) :=
  dif_pos h

/-- A write in a ring that stands inside its store finds its places, and pushes out the oldest octets. -/
theorem write?_around {r : Ring capacity} (hinside : r.position < capacity) (octets : Bytes) :
    ∃ s : Ring capacity, r.write? octets = some s ∧ s.around = (r.around ++ octets).rtake capacity ∧
      s.total = r.total + octets.length ∧ s.position = (r.position + (octets.rtake capacity).length) % capacity := by
  have hcapacity : capacity ≠ 0 := by omega
  obtain ⟨newest, hnewest⟩ : ∃ newest, newest = octets.rtake capacity := ⟨_, rfl⟩
  obtain ⟨ahead, hahead⟩ : ∃ ahead, ahead = min newest.length (capacity - r.position) := ⟨_, rfl⟩
  have hlength : newest.length ≤ capacity := by
    rw [hnewest, List.rtake, List.length_drop]
    omega
  have hfirst : r.position + (newest.take ahead).length ≤ capacity := by
    rw [List.length_take]
    omega
  have hsecond : 0 + (newest.drop ahead).length ≤ capacity := by
    rw [List.length_drop]
    omega
  let store := overwrite (overwrite r.store r.position (newest.take ahead) hfirst) 0 (newest.drop ahead) hsecond
  have hwrite : r.write? octets =
      some ⟨store, (r.position + newest.length) % capacity, r.total + octets.length⟩ := by
    rw [List.rtake] at hnewest
    simp only [write?, if_neg hcapacity, ← hnewest, ← hahead, copy?_of_le hfirst, copy?_of_le hsecond]
    rfl
  have hstore : store.toList = newest.drop ahead ++
      (r.store.toList.take r.position ++ newest.take ahead ++ r.store.toList.drop (r.position + ahead)).drop
        (newest.length - ahead) := by
    have hreach : (newest.take ahead).length = ahead := by
      rw [List.length_take]
      omega
    simp only [store, toList_overwrite, hreach, List.take_zero, List.nil_append, Nat.zero_add, List.length_drop]
  have hsize : r.store.toList.length = capacity := Vector.length_toList ..
  have hpushed := around_copies (hsize.symm ▸ hinside) (hsize.symm ▸ hlength) (hsize.symm ▸ hahead) rfl hstore
  refine ⟨_, hwrite, ?_, rfl, hnewest ▸ rfl⟩
  rw [rtake_append_of_full r.length_around, ← hnewest]
  rw [hsize] at hpushed
  exact hpushed

/-- What can be done to a ring. -/
inductive Act where
  | write (octets : Bytes)
  | clear

def act (r : Ring capacity) : Act → Ring capacity
  | .write octets => r.write octets
  | .clear => r.clear

/-- What has been written since the last time that all was forgotten. -/
def written (before : Bytes) : Act → Bytes
  | .write octets => before ++ octets
  | .clear => []

/-- What a ring that can hold anything holds of what has been written. -/
structure Holds (r : Ring capacity) (said : Bytes) : Prop where
  inside : r.position < capacity
  total_eq : r.total = said.length
  /-- There were as many other octets before the first one that counts. -/
  around_eq : ∃ before : Bytes, before.length = capacity ∧ r.around = (before ++ said).rtake capacity
  /-- Until all places have been written the position is behind the last one. -/
  position_eq : said.length ≤ capacity → r.position = said.length % capacity

namespace Holds

variable {r : Ring capacity} {said : Bytes}

theorem empty (hcapacity : 0 < capacity) : Holds (Ring.empty capacity) [] where
  inside := hcapacity
  total_eq := rfl
  around_eq := ⟨(Ring.empty capacity).around, length_around _, by
    rw [List.append_nil, List.rtake, length_around, Nat.sub_self, List.drop_zero]⟩
  position_eq _ := (Nat.zero_mod capacity).symm

theorem clear (h : r.Holds said) : r.clear.Holds [] where
  inside := Nat.zero_lt_of_lt h.inside
  total_eq := rfl
  around_eq := ⟨r.clear.around, length_around _, by
    rw [List.append_nil, List.rtake, length_around, Nat.sub_self, List.drop_zero]⟩
  position_eq _ := (Nat.zero_mod capacity).symm

theorem write (h : r.Holds said) (octets : Bytes) :
    r.write? octets = some (r.write octets) ∧ (r.write octets).Holds (said ++ octets) := by
  obtain ⟨s, hwrite, haround, htotal, hposition⟩ := write?_around h.inside octets
  have hs : r.write octets = s := by rw [Ring.write, hwrite, Option.getD_some]
  rw [hs]
  refine ⟨hwrite, ?_, ?_, ?_, ?_⟩
  · rw [hposition]
    exact Nat.mod_lt _ (Nat.zero_lt_of_lt h.inside)
  · rw [htotal, h.total_eq, List.length_append]
  · obtain ⟨before, hbefore, hheld⟩ := h.around_eq
    refine ⟨before, hbefore, ?_⟩
    rw [haround, hheld, rtake_append_rtake, List.append_assoc]
  · intro hroom
    rw [List.length_append] at hroom ⊢
    have hall : octets.rtake capacity = octets := by
      rw [List.rtake, Nat.sub_eq_zero_of_le (by omega), List.drop_zero]
    rw [hposition, hall, h.position_eq (by omega), Nat.mod_add_mod]

theorem act (h : r.Holds said) (a : Act) : (r.act a).Holds (Ring.written said a) := by
  cases a with
  | write octets => exact (h.write octets).2
  | clear => exact h.clear

theorem run (h : r.Holds said) (acts : List Act) : (acts.foldl Ring.act r).Holds (acts.foldl written said) := by
  induction acts generalizing r said with
  | nil => exact h
  | cons a acts ih => exact ih (h.act a)

/-- The octets that are read out are the newest that have been written. -/
theorem toList_eq (h : r.Holds said) : r.toList = said.rtake capacity := by
  obtain ⟨before, hbefore, hheld⟩ := h.around_eq
  rw [around, rtake_append_of_full hbefore] at hheld
  have hsize : r.store.toList.length = capacity := Vector.length_toList ..
  rw [toList_eq_ite, h.total_eq]
  by_cases hroom : said.length ≤ capacity
  · have hall : said.rtake capacity = said := by
      rw [List.rtake, Nat.sub_eq_zero_of_le hroom, List.drop_zero]
    rw [if_pos hroom, hall]
    rw [hall, h.position_eq hroom] at hheld
    rcases Nat.lt_or_eq_of_le hroom with hlt | hfull
    · rw [Nat.mod_eq_of_lt hlt] at hheld
      refine List.append_inj_right' hheld ?_
      rw [List.length_take, hsize, Nat.min_eq_left hroom]
    · have hnone : before.drop said.length = [] := List.drop_eq_nil_of_le (by omega)
      rw [hnone, hfull, Nat.mod_self, List.drop_zero, List.take_zero, List.append_nil, List.nil_append] at hheld
      rw [hheld, List.take_length]
  · have hnone : before.drop (said.rtake capacity).length = [] := by
      rw [List.rtake, List.length_drop]
      exact List.drop_eq_nil_of_le (by omega)
    rw [if_neg hroom, around, hheld, hnone, List.nil_append]

end Holds

/-- However a ring of any capacity is used, what is read out of it are the newest octets that have been written since
all was forgotten last, as many as there is room for, and as many as its length tells.  Unless it has no room at all,
it counts every octet that was written.  Wherever it stands, a write of any length finds its places in the store. -/
theorem newest_octets_held (capacity : Nat) (acts : List Act) :
    let r := acts.foldl act (empty capacity)
    let said := acts.foldl written []
    r.toList = said.rtake (min said.length capacity) ∧ r.length = r.toList.length ∧
      (0 < capacity → r.total = said.length) ∧ ∀ octets, r.write? octets = some (r.write octets) := by
  intro r said
  have hcut : said.rtake (min said.length capacity) = said.rtake capacity := by
    rw [List.rtake, List.rtake]
    congr 1
    omega
  rw [hcut]
  rcases Nat.eq_zero_or_pos capacity with rfl | hcapacity
  · have hlast : said.rtake 0 = [] := by simp [List.rtake]
    refine ⟨r.toList_zero.trans hlast.symm, ?_, fun hpos => absurd hpos (Nat.lt_irrefl 0), fun octets => ?_⟩
    · rw [r.toList_zero, length, Nat.min_zero, List.length_nil]
    · rw [write, write?, if_pos rfl, Option.getD_some]
  · have hholds : r.Holds said := (Holds.empty hcapacity).run acts
    refine ⟨hholds.toList_eq, ?_, fun _ => hholds.total_eq, fun octets => (hholds.write octets).1⟩
    rw [hholds.toList_eq, length, hholds.total_eq, List.rtake, List.length_drop]
    omega

/-- A ring that is full to the last octet, then one write longer than it at a place amid the store. -/
example :
    let full := (empty 4).write [1, 2, 3, 4]
    let r := (full.write [5]).write [6, 7, 8, 9, 10, 11]
    full.toList = [1, 2, 3, 4] ∧ r.position = 1 ∧ r.toList = [8, 9, 10, 11] ∧ r.total = 11 := by
  decide

end Workbench.Console.Ring

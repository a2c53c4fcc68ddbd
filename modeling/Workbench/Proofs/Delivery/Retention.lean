import Mathlib.Data.List.Sort
import Workbench.Delivery

/-!
What a sender of a numbered delivery keeps.  The payloads that it has been given stand in one list, numbered
from one on; what it keeps is that list without a first part, and each operation only moves the cut.
-/

namespace Workbench.Delivery

/-- Payloads with the numbers that they are given, `first` being the lowest. -/
def numbered (first : Nat) (said : List α) : List (Nat × α) :=
  (said.zipIdx first).map Prod.swap

@[simp] theorem numbered_cons (first : Nat) (payload : α) (said : List α) :
    numbered first (payload :: said) = (first, payload) :: numbered (first + 1) said := rfl

@[simp] theorem length_numbered (first : Nat) (said : List α) :
    (numbered first said).length = said.length := by
  simp [numbered]

theorem numbered_concat (first : Nat) (said : List α) (payload : α) :
    numbered first (said ++ [payload]) =
      numbered first said ++ [(first + said.length, payload)] := by
  simp [numbered, List.zipIdx_append]

theorem drop_numbered (first gone : Nat) (said : List α) :
    (numbered first said).drop gone = numbered (first + gone) (said.drop gone) := by
  induction said generalizing first gone with
  | nil => simp [numbered]
  | cons payload said ih =>
      cases gone with
      | zero => rfl
      | succ gone =>
          rw [numbered_cons, List.drop_succ_cons, List.drop_succ_cons, ih]
          congr 1
          omega

/-- The numbers are consecutive, so an entry tells its own place. -/
theorem mem_numbered_iff {first : Nat} {said : List α} {entry : Nat × α} :
    entry ∈ numbered first said ↔
      first ≤ entry.1 ∧ said[entry.1 - first]? = some entry.2 := by
  rw [← List.mk_mem_zipIdx_iff_le_and_getElem?_sub]
  constructor
  · intro hentry
    obtain ⟨found, hfound, rfl⟩ := List.mem_map.1 hentry
    exact hfound
  · intro hentry
    exact List.mem_map.2 ⟨_, hentry, rfl⟩

theorem numbered_bounds {first : Nat} {said : List α} {entry : Nat × α}
    (hentry : entry ∈ numbered first said) :
    first ≤ entry.1 ∧ entry.1 < first + said.length := by
  obtain ⟨hfirst, hfound⟩ := mem_numbered_iff.1 hentry
  obtain ⟨hlt, _⟩ := List.getElem?_eq_some_iff.1 hfound
  omega

theorem numbered_ascending (first : Nat) (said : List α) :
    (numbered first said).Pairwise (·.1 < ·.1) := by
  induction said generalizing first with
  | nil => exact List.Pairwise.nil
  | cons payload said ih =>
      rw [numbered_cons, List.pairwise_cons]
      refine ⟨?_, ih (first + 1)⟩
      intro entry hentry
      exact (numbered_bounds hentry).1

/-- Entries of an ascending list, themselves ascending, are a part of it in its order. -/
theorem sublist_of_ascending {part all : List (Nat × α)}
    (hpart : part.Pairwise (·.1 < ·.1)) (hall : all.Pairwise (·.1 < ·.1))
    (hmem : ∀ entry ∈ part, entry ∈ all) : part.Sublist all := by
  have hasymm : Std.Antisymm fun left right : Nat × α => left.1 < right.1 :=
    ⟨fun _ _ hlt hgt => absurd hgt (Nat.lt_asymm hlt)⟩
  have hnodup : part.Nodup := hpart.imp fun hlt heq => by
    rw [heq] at hlt
    exact Nat.lt_irrefl _ hlt
  exact List.sublist_of_subperm_of_pairwise
    (List.subperm_of_subset hnodup hmem) hpart hall

/-- What a sender has said so far, and how much of it, from the start, it no longer keeps. -/
structure Remembers (d : Delivery α) (said : List α) (gone : Nat) : Prop where
  sent_eq : d.sent = said.length
  gone_le : gone ≤ said.length
  kept_eq : d.kept.toList = (numbered 1 said).drop gone

theorem remembers_start : Remembers ({} : Delivery α) [] 0 :=
  ⟨rfl, Nat.le_refl _, rfl⟩

theorem Remembers.size_kept {d : Delivery α} {said : List α} {gone : Nat}
    (hkeeps : Remembers d said gone) : d.kept.size = said.length - gone := by
  rw [← Array.length_toList, hkeeps.kept_eq, List.length_drop, length_numbered]

/-- The first part of the numbers up to `ack` is as long as there are such numbers. -/
theorem length_takeWhile_numbered (first ack : Nat) (said : List α) :
    ((numbered first said).takeWhile fun entry => entry.1 ≤ ack).length =
      min (ack + 1 - first) said.length := by
  induction said generalizing first with
  | nil => simp [numbered]
  | cons payload said ih =>
      rw [numbered_cons, List.takeWhile_cons]
      by_cases hack : first ≤ ack
      · simp only [hack, decide_true, ↓reduceIte, List.length_cons, ih]
        omega
      · simp only [hack, decide_false, Bool.false_eq_true, ↓reduceIte, List.length_nil,
          List.length_cons]
        omega

/-- An acknowledgement moves the cut up to itself, but never back and never beyond the end. -/
theorem Remembers.acknowledge {d : Delivery α} {said : List α} {gone : Nat}
    (hkeeps : Remembers d said gone) (ack : Nat) :
    Remembers (d.acknowledge ack) said (max gone (min ack said.length)) := by
  refine ⟨hkeeps.sent_eq, ?_, ?_⟩
  · have := hkeeps.gone_le
    omega
  · have hdone : (d.kept.toList.takeWhile fun entry => entry.1 ≤ ack).length =
        min (ack - gone) (said.length - gone) := by
      rw [hkeeps.kept_eq, drop_numbered, length_takeWhile_numbered, List.length_drop]
      congr 1
      omega
    rw [Delivery.acknowledge, hdone]
    simp only [Array.toList_extract, List.extract_eq_take_drop, hkeeps.kept_eq, List.drop_drop]
    rw [hkeeps.size_kept, List.take_of_length_le]
    · have := hkeeps.gone_le
      congr 1
      omega
    · simp only [List.length_drop, length_numbered]
      omega

/-- A payload more is kept; the oldest one goes when there are too many. -/
theorem Remembers.enqueue {d : Delivery α} {said : List α} {gone : Nat}
    (hkeeps : Remembers d said gone) (payload : α) :
    Remembers (d.enqueue payload).2 (said ++ [payload])
      (if maxKept ≤ d.unacknowledged then gone + 1 else gone) := by
  have hsize := hkeeps.size_kept
  have hgone := hkeeps.gone_le
  have hlimit : 0 < maxKept := by decide
  have hconcat : (numbered 1 said).drop gone ++ [(d.sent + 1, payload)] =
      (numbered 1 (said ++ [payload])).drop gone := by
    rw [numbered_concat, List.drop_append_of_le_length (by simpa using hgone),
      hkeeps.sent_eq, Nat.add_comm]
  have hsent : (d.enqueue payload).2.sent = (said ++ [payload]).length := by
    simp [Delivery.enqueue, hkeeps.sent_eq]
  rw [unacknowledged]
  by_cases hfull : maxKept ≤ d.kept.size
  · rw [if_pos hfull]
    refine ⟨hsent, by simp only [List.length_append, List.length_singleton]; omega, ?_⟩
    rw [← List.drop_drop, ← hconcat, List.drop_append_of_le_length]
    · simp only [Delivery.enqueue, hfull, ↓reduceIte, Array.toList_push, Array.toList_extract,
        List.extract_eq_take_drop, hkeeps.kept_eq]
      rw [List.take_of_length_le]
      simp only [List.length_drop, length_numbered]
      omega
    · simp only [List.length_drop, length_numbered]
      omega
  · rw [if_neg hfull]
    refine ⟨hsent, by simp only [List.length_append, List.length_singleton]; omega, ?_⟩
    simp only [Delivery.enqueue, hfull, ↓reduceIte, Array.toList_push, hkeeps.kept_eq, hconcat]

/-- The frame of a payload carries the next number, and what has been received by then. -/
theorem Remembers.enqueue_frame {d : Delivery α} {said : List α} {gone : Nat}
    (hkeeps : Remembers d said gone) (payload : α) :
    (d.enqueue payload).1 = ⟨said.length + 1, d.received, payload⟩ := by
  rw [Delivery.enqueue, hkeeps.sent_eq]

@[simp] theorem acknowledge_received (d : Delivery α) (ack : Nat) :
    (d.acknowledge ack).received = d.received := by
  rw [acknowledge]

/-- A number that is not new hands nothing on, but its acknowledgement counts all the same. -/
theorem accept_of_le {d : Delivery α} {seq : Nat} (hold : seq ≤ d.received) (ack : Nat)
    (payload : α) : d.accept seq ack payload = (none, d.acknowledge ack) := by
  simp [accept, acknowledge_received, hold]

theorem accept_of_lt {d : Delivery α} {seq : Nat} (hnew : d.received < seq) (ack : Nat)
    (payload : α) :
    d.accept seq ack payload = (some payload, { d.acknowledge ack with received := seq }) := by
  simp [accept, acknowledge_received, Nat.not_le.2 hnew]

/-- What is sent again is what is kept. -/
theorem Remembers.replay {d : Delivery α} {said : List α} {gone : Nat}
    (hkeeps : Remembers d said gone) :
    d.replay = ((numbered 1 said).drop gone).map
      fun entry => ⟨entry.1, d.received, entry.2⟩ := by
  rw [Delivery.replay, hkeeps.kept_eq]

end Workbench.Delivery

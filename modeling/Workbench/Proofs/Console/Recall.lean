import Workbench.Console.Input
import Workbench.Proofs.Console.History

/-!
Recall in use.  However commands are pushed and the cursor walks, it stays between the oldest command and the write
head, and what is remembered is what there is room for of the commands that were pushed at the write head.  Steps
back and then forward lead as far as that window reaches.
-/

namespace Workbench.Console.Recall

open History

/-- What can be done with a recall. -/
inductive Act where
  | push (command : String)
  | back
  | forward
  | toHead

def step (r : Recall) : Act → Recall
  | .push command => r.push command
  | .back => r.back.2
  | .forward => r.forward.2
  | .toHead => r.toHead

def run (r : Recall) (acts : List Act) : Recall := acts.foldl step r

/-- The commands that an act pushes at the write head: one at most. -/
def submitted (r : Recall) : Act → List String
  | .push command => if r.atHead then [command] else []
  | _ => []

/-- The commands that are pushed at the write head in a run, oldest first. -/
def submissions (r : Recall) : List Act → List String
  | [] => []
  | a :: acts => r.submitted a ++ submissions (r.step a) acts

theorem run_append (r : Recall) (before after : List Act) : r.run (before ++ after) = (r.run before).run after :=
  List.foldl_append

theorem run_replicate_succ (r : Recall) (n : Nat) (a : Act) :
    r.run (List.replicate (n + 1) a) = (r.run (List.replicate n a)).step a := by
  rw [List.replicate_succ', run_append]
  rfl

theorem atHead_iff (r : Recall) : r.atHead = true ↔ r.cursor = r.entries.nextKey := by simp [atHead]

/-- The history holds what is left of these commands, and the cursor is inside it. -/
structure Recalls (capacity : Nat) (commands : List String) (r : Recall) : Prop where
  entries_eq : r.entries = Chronicle.history capacity { entries := commands }
  first_le : r.entries.firstKey ≤ r.cursor
  le_next : r.cursor ≤ r.entries.nextKey

section Steps

variable {capacity : Nat} {commands : List String} {r : Recall}

theorem start_recalls (capacity : Nat) : Recalls capacity [] (ofCapacity capacity) where
  entries_eq := by simp [ofCapacity, Chronicle.history]
  first_le := Nat.le_refl 0
  le_next := Nat.le_refl 0

theorem Recalls.firstKey_eq (h : Recalls capacity commands r) :
    r.entries.firstKey = commands.length - capacity := by
  rw [h.entries_eq]
  rfl

theorem Recalls.nextKey_eq (h : Recalls capacity commands r) : r.entries.nextKey = commands.length := by
  rw [h.entries_eq]
  rfl

theorem Recalls.first_le_next (h : Recalls capacity commands r) : r.entries.firstKey ≤ r.entries.nextKey :=
  Nat.le_trans h.first_le h.le_next

/-- The cursor can be put anywhere inside the history. -/
theorem Recalls.at_cursor (h : Recalls capacity commands r) {cursor : Nat} (hfirst : r.entries.firstKey ≤ cursor)
    (hnext : cursor ≤ r.entries.nextKey) : Recalls capacity commands { r with cursor } :=
  ⟨h.entries_eq, hfirst, hnext⟩

theorem Recalls.back_eq (h : Recalls capacity commands r) :
    r.back.2 = { r with cursor := max r.entries.firstKey (r.cursor - 1) } := by
  have hfirst := h.first_le
  have hcursor : (if r.entries.firstKey < r.cursor then r.cursor - 1 else r.entries.firstKey) =
      max r.entries.firstKey (r.cursor - 1) := by
    split <;> omega
  simp only [back, hcursor]

theorem Recalls.forward_eq (h : Recalls capacity commands r) :
    r.forward.2 = { r with cursor := min r.entries.nextKey (r.cursor + 1) } := by
  have hnext := h.le_next
  unfold forward
  split
  · have hcursor : min r.entries.nextKey (r.cursor + 1) = r.cursor := by omega
    rw [hcursor]
  · have hcursor : min r.entries.nextKey (r.cursor + 1) = r.cursor + 1 := by omega
    rw [hcursor]

/-- A command is added at the write head only. -/
theorem Recalls.push (h : Recalls capacity commands r) (command : String) :
    Recalls capacity (commands ++ r.submitted (.push command)) (r.push command) := by
  by_cases hhead : r.atHead = true
  · have hentries : (r.entries.push command).2 =
        Chronicle.history capacity { entries := commands ++ [command] } := by
      rw [h.entries_eq, push_history]
      rfl
    simp only [Recall.push, submitted, hhead, ↓reduceIte, toHead, hentries]
    exact ⟨rfl, Nat.sub_le .., Nat.le_refl _⟩
  · simp only [Recall.push, submitted, hhead, Bool.false_eq_true, ↓reduceIte, List.append_nil, toHead]
    exact h.at_cursor h.first_le_next (Nat.le_refl _)

theorem Recalls.step (h : Recalls capacity commands r) (a : Act) :
    Recalls capacity (commands ++ r.submitted a) (r.step a) := by
  have hfirst := h.first_le
  have hnext := h.le_next
  cases a with
  | push command => exact h.push command
  | back =>
      simp only [Recall.step, submitted, List.append_nil, h.back_eq]
      apply h.at_cursor <;> omega
  | forward =>
      simp only [Recall.step, submitted, List.append_nil, h.forward_eq]
      apply h.at_cursor <;> omega
  | toHead =>
      simp only [Recall.step, submitted, List.append_nil, toHead]
      exact h.at_cursor h.first_le_next (Nat.le_refl _)

theorem Recalls.run (h : Recalls capacity commands r) (acts : List Act) :
    Recalls capacity (commands ++ r.submissions acts) (r.run acts) := by
  induction acts generalizing commands r with
  | nil => simpa [submissions, Recall.run] using h
  | cons a acts ih =>
      have hrest := ih (h.step a)
      rwa [List.append_assoc] at hrest

/-- What is remembered changes only when a command is pushed at the write head. -/
theorem entries_step {a : Act} (hnone : r.submitted a = []) : (r.step a).entries = r.entries := by
  cases a with
  | push command =>
      have hhead : r.atHead = false := by simpa [submitted] using hnone
      simp [step, push, hhead, toHead]
  | back => rfl
  | forward =>
      simp only [step, forward]
      split <;> rfl
  | toHead => rfl

end Steps

section Walks

variable {capacity : Nat} {commands : List String} {r : Recall}

theorem Recalls.run_back (h : Recalls capacity commands r) (i : Nat) :
    r.run (List.replicate i .back) = { r with cursor := max r.entries.firstKey (r.cursor - i) } := by
  have hfirst := h.first_le
  have hnext := h.le_next
  induction i with
  | zero =>
      have hstay : max r.entries.firstKey (r.cursor - 0) = r.cursor := by omega
      rw [hstay]
      rfl
  | succ i ih =>
      have hthere : Recalls capacity commands { r with cursor := max r.entries.firstKey (r.cursor - i) } := by
        apply h.at_cursor <;> omega
      have hcursor : max r.entries.firstKey (max r.entries.firstKey (r.cursor - i) - 1) =
          max r.entries.firstKey (r.cursor - (i + 1)) := by
        omega
      rw [run_replicate_succ, ih, Recall.step, hthere.back_eq, hcursor]

theorem Recalls.run_forward (h : Recalls capacity commands r) (j : Nat) :
    r.run (List.replicate j .forward) = { r with cursor := min r.entries.nextKey (r.cursor + j) } := by
  have hfirst := h.first_le
  have hnext := h.le_next
  induction j with
  | zero =>
      have hstay : min r.entries.nextKey (r.cursor + 0) = r.cursor := by omega
      rw [hstay]
      rfl
  | succ j ih =>
      have hthere : Recalls capacity commands { r with cursor := min r.entries.nextKey (r.cursor + j) } := by
        apply h.at_cursor <;> omega
      have hcursor : min r.entries.nextKey (min r.entries.nextKey (r.cursor + j) + 1) =
          min r.entries.nextKey (r.cursor + (j + 1)) := by
        omega
      rw [run_replicate_succ, ih, Recall.step, hthere.forward_eq, hcursor]

/-- Back and then forward, from wherever the cursor is. -/
theorem Recalls.run_back_forward (h : Recalls capacity commands r) (i j : Nat) :
    (r.run (List.replicate i .back ++ List.replicate j .forward)).cursor =
      min r.entries.nextKey (max r.entries.firstKey (r.cursor - i) + j) := by
  have hfirst := h.first_le
  have hnext := h.le_next
  have hthere : Recalls capacity commands { r with cursor := max r.entries.firstKey (r.cursor - i) } := by
    apply h.at_cursor <;> omega
  rw [run_append, h.run_back, hthere.run_forward]

end Walks

section Answers

variable {capacity : Nat} {commands : List String} {r : Recall}

/-- A step shows the command at the cursor that it leads to, which is none at the write head. -/
def Shows (commands : List String) (outcome : Option String × Recall) : Prop :=
  outcome.1 = commands[outcome.2.cursor]? ∧ (outcome.1 = none ↔ outcome.2.atHead = true)

theorem Recalls.get?_eq (h : Recalls capacity commands r) : r.entries.get? r.cursor = commands[r.cursor]? := by
  have hfirst := h.first_le
  rw [h.firstKey_eq] at hfirst
  rw [h.entries_eq]
  exact get?_history capacity _ hfirst

theorem Recalls.getElem?_eq_none_iff (h : Recalls capacity commands r) :
    commands[r.cursor]? = none ↔ r.atHead = true := by
  have hnext := h.le_next
  rw [h.nextKey_eq] at hnext
  rw [List.getElem?_eq_none_iff, atHead_iff, h.nextKey_eq]
  omega

theorem Recalls.shows_of_get? (h : Recalls capacity commands r) {answer : Option String}
    (hanswer : answer = r.entries.get? r.cursor) : Shows commands (answer, r) := by
  have hcommand : answer = commands[r.cursor]? := hanswer.trans h.get?_eq
  refine ⟨hcommand, ?_⟩
  rw [hcommand]
  exact h.getElem?_eq_none_iff

theorem Recalls.back_shows (h : Recalls capacity commands r) : Shows commands r.back := by
  have hthere : Recalls capacity (commands ++ []) r.back.2 := h.step .back
  rw [List.append_nil] at hthere
  exact hthere.shows_of_get? rfl

theorem Recalls.forward_shows (h : Recalls capacity commands r) : Shows commands r.forward := by
  have hfirst := h.first_le
  have hnext := h.le_next
  by_cases hhead : r.entries.nextKey ≤ r.cursor
  · have hstay : r.forward = (none, r) := if_pos hhead
    have hatHead : r.atHead = true := r.atHead_iff.2 (Nat.le_antisymm hnext hhead)
    rw [hstay]
    apply h.shows_of_get?
    rw [h.get?_eq, h.getElem?_eq_none_iff.2 hatHead]
  · have hon : r.forward = (r.entries.get? (r.cursor + 1), { r with cursor := r.cursor + 1 }) := if_neg hhead
    have hthere : Recalls capacity commands { r with cursor := r.cursor + 1 } := by
      apply h.at_cursor <;> omega
    rw [hon]
    exact hthere.shows_of_get? rfl

/-- With nothing remembered there is nothing to show. -/
theorem shows_nothing (hempty : r.entries.items = []) : r.back.1 = none ∧ r.forward.1 = none := by
  have hnone : ∀ key, r.entries.get? key = none := by
    intro key
    simp [History.get?, hempty]
  refine ⟨hnone _, ?_⟩
  unfold forward
  split
  · rfl
  · exact hnone _

end Answers

/-- In any use of a recall of any capacity: the cursor stays between the oldest command and the write head; what is
remembered are the newest of the commands that were pushed at the write head, as many as there is room for and in
order, and nothing but a push at the write head changes them.  Every step shows the command at the cursor that it
leads to, none at the write head, and none if nothing is remembered.  Steps back from the write head stop at the
oldest command, and steps forward from there stop at the write head. -/
theorem newest_recalled (capacity : Nat) (acts : List Act) :
    let r := (ofCapacity capacity).run acts
    let commands := (ofCapacity capacity).submissions acts
    let h := r.entries
    (h.firstKey ≤ r.cursor ∧ r.cursor ≤ h.nextKey) ∧
    (h.items = commands.rtake (min commands.length capacity) ∧
      ∀ a, r.submitted a = [] → (r.step a).entries = h) ∧
    (Shows commands r.back ∧ Shows commands r.forward ∧
      (h.items = [] → r.back.1 = none ∧ r.forward.1 = none)) ∧
    (r.atHead = true → ∀ i j,
      (r.run (List.replicate i .back ++ List.replicate j .forward)).cursor =
        min h.nextKey (max h.firstKey (h.nextKey - i) + j)) := by
  intro r commands h
  have hrecalls : Recalls capacity commands r := by
    simpa using (start_recalls capacity).run acts
  refine ⟨⟨hrecalls.first_le, hrecalls.le_next⟩, ⟨?_, fun a => entries_step⟩,
    ⟨hrecalls.back_shows, hrecalls.forward_shows, shows_nothing⟩, ?_⟩
  · have hitems : h.items = commands.drop (commands.length - capacity) := by
      rw [show h = _ from hrecalls.entries_eq]
      rfl
    rw [hitems, List.rtake]
    congr 1
    omega
  · intro hhead i j
    have hcursor : r.cursor = h.nextKey := r.atHead_iff.1 hhead
    have hwalk := hrecalls.run_back_forward i j
    rwa [hcursor] at hwalk

/-- Of four commands one is pushed while another is recalled, and there is room for two.  Three steps back lead no
further than the older of these. -/
theorem newest_recalled_pair :
    let acts : List Act := [.push "one", .push "two", .back, .push "lost", .push "three"]
    let r := (ofCapacity 2).run acts
    r.entries.items = ["two", "three"] ∧ (r.step .back).entries = r.entries ∧ r.atHead = true ∧
      (r.run (List.replicate 3 .back ++ List.replicate 1 .forward)).cursor = 2 := by
  intro acts r
  have hrecalled := newest_recalled 2 acts
  have hhead : r.atHead = true := by decide
  exact ⟨hrecalled.2.1.1, hrecalled.2.1.2 .back rfl, hhead, hrecalled.2.2.2 hhead 3 1⟩

end Workbench.Console.Recall

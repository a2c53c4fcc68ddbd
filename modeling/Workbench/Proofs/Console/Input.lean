import Workbench.Console.Input
import Workbench.Proofs.Console.Recall
import Workbench.Proofs.Text.Blank

/-!
An input line in use.  Whatever is typed and pressed, the line does to its recall what the keys ask for and no
more: what has been typed is neither changed nor exchanged for a recalled command, and commands that are sent off
at the write head are remembered, the newest as far as there is room.
-/

namespace Workbench.Console.Input

open Text (AllBlank LeftOf)

/-- What can be done with an input line. -/
inductive Act where
  | type (text : String)
  | press (key : Key)
deriving DecidableEq

def step (i : Input) : Act → Input
  | .type text => i.type text
  | .press key => (i.press key).2

def run (i : Input) (acts : List Act) : Input := acts.foldl step i

/-- The command that an act sends off. -/
def sent? (i : Input) : Act → Option String
  | .type _ => none
  | .press key => (i.press key).1

/-- The commands that an act sends off at the write head: one at most. -/
def submitted (i : Input) (a : Act) : List String := if i.commands.atHead then (i.sent? a).toList else []

/-- The commands that are sent off at the write head in a run, oldest first. -/
def submissions (i : Input) : List Act → List String
  | [] => []
  | a :: acts => i.submitted a ++ submissions (i.step a) acts

/-- An empty line over an empty history. -/
def ofCapacity (capacity : Nat) : Input := { commands := Recall.ofCapacity capacity }

/-- What an act asks of the recall: one thing at most. -/
def asked (i : Input) : Act → List Recall.Act
  | .type _ => []
  | .press .enter => if AllBlank i.value then [] else [.push (Text.trim i.value)]
  | .press .up => if i.dirty then [] else [.back]
  | .press .down => if i.dirty then [] else [.forward]
  | .press .other => []

section Steps

variable (i : Input)

theorem press_enter_of_blank (hblank : AllBlank i.value) : i.press .enter = (none, { i with dirty := false }) := by
  simp only [press, (Text.trim_eq_empty_iff _).2 hblank, if_true]

theorem press_enter_of_text (htext : ¬ AllBlank i.value) :
    i.press .enter = (some (Text.trim i.value),
      { value := "", dirty := false, commands := i.commands.push (Text.trim i.value) }) := by
  simp only [press, if_neg (mt (Text.trim_eq_empty_iff _).1 htext)]

theorem press_up_of_clean (hclean : i.dirty = false) :
    i.press .up = (none, { i with value := i.commands.back.1.getD "", commands := i.commands.back.2 }) := by
  simp [press, hclean]

theorem press_down_of_clean (hclean : i.dirty = false) :
    i.press .down = (none, { i with value := i.commands.forward.1.getD "", commands := i.commands.forward.2 }) := by
  simp [press, hclean]

theorem type_eq (text : String) : i.type text = { i with value := text, dirty := decide (¬ AllBlank text) } := by
  have hdirty : (Text.trim text != "") = decide (¬ AllBlank text) := by
    rw [decide_not, decide_eq_decide.2 (Text.trim_eq_empty_iff text).symm]
    rfl
  simp only [type, press, hdirty]

/-- The recall moves as it is asked to. -/
theorem commands_step (a : Act) : (i.step a).commands = i.commands.run (i.asked a) := by
  cases a with
  | type text => simp [step, type_eq, asked, Recall.run]
  | press key =>
      cases key with
      | enter =>
          by_cases hblank : AllBlank i.value
          · simp [step, asked, press_enter_of_blank i hblank, hblank, Recall.run]
          · simp [step, asked, press_enter_of_text i hblank, hblank, Recall.run, Recall.step]
      | up =>
          cases hdirty : i.dirty with
          | true => simp [step, asked, press, hdirty, Recall.run]
          | false => simp [step, asked, press_up_of_clean i hdirty, hdirty, Recall.run, Recall.step]
      | down =>
          cases hdirty : i.dirty with
          | true => simp [step, asked, press, hdirty, Recall.run]
          | false => simp [step, asked, press_down_of_clean i hdirty, hdirty, Recall.run, Recall.step]
      | other => simp [step, asked, press, Recall.run]

/-- Only Enter sends a command off, and only when the line is not blank. -/
theorem sent?_eq (a : Act) :
    i.sent? a = if a = .press .enter ∧ ¬ AllBlank i.value then some (Text.trim i.value) else none := by
  cases a with
  | type text => simp [sent?]
  | press key =>
      cases key with
      | enter =>
          by_cases hblank : AllBlank i.value
          · simp [sent?, press_enter_of_blank i hblank, hblank]
          · simp [sent?, press_enter_of_text i hblank, hblank]
      | up | down =>
          simp only [sent?, press]
          split <;> simp
      | other => simp [sent?, press]

/-- What is pushed at the write head has been sent off there. -/
theorem submissions_asked (a : Act) : i.commands.submissions (i.asked a) = i.submitted a := by
  rw [submitted, sent?_eq]
  cases a with
  | type text => simp [asked, Recall.submissions]
  | press key =>
      cases key with
      | enter =>
          by_cases hblank : AllBlank i.value
          · simp [asked, hblank, Recall.submissions]
          · simp [asked, hblank, Recall.submissions, Recall.submitted]
      | up | down =>
          simp only [asked]
          split <;> simp [Recall.submissions, Recall.submitted]
      | other => simp [asked, Recall.submissions]

end Steps

section Runs

variable {capacity : Nat} {commands : List String} {i : Input}

/-- The recall of a line remembers what was sent off at the write head. -/
theorem step_recalls (h : i.commands.Recalls capacity commands) (a : Act) :
    (i.step a).commands.Recalls capacity (commands ++ i.submitted a) := by
  rw [commands_step, ← submissions_asked]
  exact h.run (i.asked a)

theorem run_recalls (h : i.commands.Recalls capacity commands) (acts : List Act) :
    (i.run acts).commands.Recalls capacity (commands ++ i.submissions acts) := by
  induction acts generalizing commands i with
  | nil => simpa [submissions, run] using h
  | cons a acts ih =>
      have hrest := ih (step_recalls h a)
      rwa [List.append_assoc] at hrest

/-- While something that is not blank has been typed, no key but Enter changes anything. -/
theorem press_typed (hdirty : i.dirty = true) (htext : ¬ AllBlank i.value) {key : Key} (hkey : key ≠ .enter) :
    i.press key = (none, i) := by
  cases key with
  | enter => exact absurd rfl hkey
  | up | down => simp [press, hdirty]
  | other =>
      have htrim : (Text.trim i.value != "") = i.dirty := by
        rw [hdirty, bne_iff_ne]
        exact mt (Text.trim_eq_empty_iff _).1 htext
      rw [press, htrim]

theorem run_press_typed (hdirty : i.dirty = true) (htext : ¬ AllBlank i.value) {keys : List Key}
    (hkeys : .enter ∉ keys) : i.run (keys.map .press) = i := by
  induction keys with
  | nil => rfl
  | cons key keys ih =>
      obtain ⟨hkey, hrest⟩ := not_or.1 (mt List.mem_cons.2 hkeys)
      have hstep : i.step (.press key) = i := by
        rw [step, press_typed hdirty htext (Ne.symm hkey)]
      rw [List.map_cons, run, List.foldl_cons, hstep]
      exact ih hrest

end Runs

/-- In any use of an input line over a history of any capacity.  Once something that is not blank has been typed,
presses of keys other than Enter leave the line and its recall as they are.  Only Enter sends a command off, and
does so unless the line is blank: what is left of the line without the blanks around it; the line is then empty and
clean, and the cursor at the write head.  The history holds the newest of the commands that were sent off at the
write head, as many as there is room for and in order; and as long as the line is clean an arrow key walks there,
and shows the command that the cursor comes to. -/
theorem typed_text_kept (capacity : Nat) (acts : List Act) :
    let i := (ofCapacity capacity).run acts
    let commands := (ofCapacity capacity).submissions acts
    (∀ text, ¬ AllBlank text → ∀ keys : List Key, .enter ∉ keys →
      i.run (.type text :: keys.map .press) = { i with value := text, dirty := true }) ∧
    (∀ a command, i.sent? a = some command →
      a = .press .enter ∧ LeftOf i.value command ∧ ¬ AllBlank command ∧
        (i.step a).value = "" ∧ (i.step a).dirty = false ∧ (i.step a).commands.atHead = true) ∧
    (i.sent? (.press .enter) = none → AllBlank i.value) ∧
    i.commands.entries.items = commands.rtake (min commands.length capacity) ∧
    (i.dirty = false →
      (i.step (.press .up)).commands = i.commands.back.2 ∧
      (i.step (.press .down)).commands = i.commands.forward.2 ∧
      ∀ arrow ∈ [Key.up, Key.down],
        (i.step (.press arrow)).value = (commands[(i.step (.press arrow)).commands.cursor]?).getD "") := by
  intro i commands
  have hrecalls : i.commands.Recalls capacity commands := by
    have hstart : (ofCapacity capacity).commands.Recalls capacity [] := Recall.start_recalls capacity
    simpa using run_recalls hstart acts
  refine ⟨?_, ?_, ?_, ?_, ?_⟩
  · intro text htext keys hkeys
    have htyped : i.step (.type text) = { i with value := text, dirty := true } := by
      simp [step, type_eq, htext]
    rw [run, List.foldl_cons, htyped]
    exact run_press_typed rfl htext hkeys
  · intro a command hsent
    rw [sent?_eq] at hsent
    split at hsent
    · next hboth =>
      obtain ⟨rfl, htext⟩ := hboth
      obtain rfl := Option.some.inj hsent
      have hhead : (i.commands.push (Text.trim i.value)).atHead = true := by
        rw [Recall.push]
        split <;> simp [Recall.toHead, Recall.atHead]
      have hkept : ¬ AllBlank (Text.trim i.value) := by
        intro hblank
        obtain ⟨⟨front, back, hvalue, hfront, hback⟩, -, -⟩ := Text.leftOf_trim i.value
        refine htext ?_
        rw [hvalue]
        intro c hc
        rw [String.toList_append, String.toList_append, List.mem_append, List.mem_append] at hc
        exact hc.elim (Or.rec (hfront c) (hblank c)) (hback c)
      refine ⟨rfl, Text.leftOf_trim _, hkept, ?_⟩
      rw [step, press_enter_of_text i htext]
      exact ⟨rfl, rfl, hhead⟩
    · cases hsent
  · intro hnone
    rw [sent?_eq] at hnone
    by_contra htext
    rw [if_pos ⟨rfl, htext⟩] at hnone
    cases hnone
  · have hitems : i.commands.entries.items = commands.drop (commands.length - capacity) := by
      rw [hrecalls.entries_eq]
      rfl
    rw [hitems, List.rtake]
    congr 1
    omega
  · intro hclean
    have hup := press_up_of_clean i hclean
    have hdown := press_down_of_clean i hclean
    refine ⟨by rw [step, hup], by rw [step, hdown], ?_⟩
    intro arrow harrow
    rcases List.mem_pair.1 harrow with rfl | rfl
    · rw [step, hup]
      exact congrArg (Option.getD · "") hrecalls.back_shows.1
    · rw [step, hdown]
      exact congrArg (Option.getD · "") hrecalls.forward_shows.1

/-- A command between blanks is sent off and recalled.  Sent off again it is not remembered twice, for it was being
recalled; and what is typed instead stays, whatever arrows are pressed. -/
theorem typed_text_kept_restart :
    let acts : List Act := [.type "\u2003restart ", .press .enter, .press .up]
    let i := (ofCapacity 1).run acts
    i.run (.type "restart\u00a0chat " :: [Key.up, .other, .down].map .press) =
        { i with value := "restart\u00a0chat ", dirty := true } ∧
      i.sent? (.press .enter) = some "restart" ∧ (i.step (.press .enter)).value = "" ∧
      (i.step (.press .enter)).commands.atHead = true ∧ i.commands.entries.items = ["restart"] := by
  intro acts i
  obtain ⟨hkept, hsends, -, hitems, -⟩ := typed_text_kept 1 acts
  have hsent : i.sent? (.press .enter) = some "restart" := by decide
  have hafter := hsends (.press .enter) "restart" hsent
  exact ⟨hkept _ (by decide) [.up, .other, .down] (by decide), hsent, hafter.2.2.2.1, hafter.2.2.2.2.2, hitems⟩

end Workbench.Console.Input

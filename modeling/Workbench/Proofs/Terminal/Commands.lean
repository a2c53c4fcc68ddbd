import Workbench.Channel.Terminal
import Workbench.Proofs.Lists

/-!
Commands that clients run for the server.  Requests are made, results come in that name a waiting request, another
one or none, and callers give up or go on, all in any order.  Looked at under one number, a request waits, has its
result, is over or is given up, and nothing under another number changes that: who waits gets the first result that
names the request, once, and all other results change nothing.
-/

namespace Workbench

/-- The result of a command as a client sends it. -/
structure CommandResult where
  /-- The number of the request. -/
  id : Nat
  failed : Bool
  payload : Json

namespace TerminalChannel

/-- The result that the arguments of a call mean. -/
def resultOf (args : Json) : Outcome CommandResult := do
  let id ← requestIdAt.read Shape.u64 args
  let failed ← failedAt.readOr Shape.bool false args
  let payload ← payloadAt.read Shape.json args
  return ⟨id.toNat, failed, payload⟩

theorem takeResult_eq (args : Json) (c : ClientCommands) :
    takeResult args c = (resultOf args).map fun r => c.answer r.id r.failed r.payload := by
  simp only [takeResult, resultOf]
  cases requestIdAt.read Shape.u64 args with
  | error e => rfl
  | ok id =>
      cases failedAt.readOr Shape.bool false args with
      | error e => rfl
      | ok failed => cases payloadAt.read Shape.json args <;> rfl

end TerminalChannel

namespace ClientCommands

/-- What a result means to whoever waits for it: resources in it are read as the request was addressed. -/
def outcome (a : Addressing) (r : CommandResult) : Outcome Json :=
  if r.failed then .error (failure (a.incomingJson r.payload)) else .ok (a.incomingJson r.payload)

/-- What can happen to the commands asked for. -/
inductive Event where
  | started (a : Addressing) (command : String) (args : Json)
  /-- A client sends a result, or what it takes for one. -/
  | replied (args : Json)
  /-- Whoever waits for a request gives up. -/
  | abandoned (id : Nat)
  /-- Whoever waits for a request looks for its result, and goes on if it is there. -/
  | resumed (id : Nat)

namespace Event

def isStart : Event → Bool
  | started .. => true
  | _ => false

end Event

/-- The commands asked for, with what callers have gone on with, oldest first. -/
structure Errands where
  commands : ClientCommands := {}
  completed : List (Nat × Outcome Json) := []

namespace Errands

def step (s : Errands) : Event → Errands
  | .started a command args => { s with commands := (s.commands.start a command args).2 }
  | .replied args =>
    { s with commands := ((TerminalChannel.takeResult args s.commands).toOption).getD s.commands }
  | .abandoned id => { s with commands := s.commands.abandon id }
  | .resumed id =>
    let (result, commands) := s.commands.finish id
    { commands, completed := s.completed ++ (result.map fun o => (id, o)).toList }

def run (s : Errands) (events : List Event) : Errands := events.foldl step s

end Errands

/-- What has become of a request. -/
inductive Fate where
  | waiting
  /-- Its result is there, and its caller has not gone on yet. -/
  | answered (o : Outcome Json)
  | completed (o : Outcome Json)
  | abandoned

namespace Fate

/-- What becomes of a request by something that happens after it was made. -/
def turn (id : Nat) (a : Addressing) : Fate → Event → Fate
  | waiting, .replied args =>
    match TerminalChannel.resultOf args with
    | .ok r => if r.id = id then answered (outcome a r) else waiting
    | .error _ => waiting
  | waiting, .abandoned other => if other = id then abandoned else waiting
  | answered o, .abandoned other => if other = id then abandoned else answered o
  | answered o, .resumed other => if other = id then completed o else answered o
  | fate, _ => fate

def turns (id : Nat) (a : Addressing) (fate : Fate) (events : List Event) : Fate := events.foldl (turn id a) fate

/-- What there is to wait for. -/
def pending (id : Nat) (a : Addressing) : Fate → List (Nat × Addressing)
  | waiting => [(id, a)]
  | _ => []

/-- The result that has not been picked up. -/
def answers (id : Nat) : Fate → List (Nat × Outcome Json)
  | answered o => [(id, o)]
  | _ => []

/-- What the caller has gone on with. -/
def completions (id : Nat) : Fate → List (Nat × Outcome Json)
  | completed o => [(id, o)]
  | _ => []

end Fate

/-- What is kept under the number of a request, in each of the three places, shows what has become of it. -/
structure Held (s : Errands) (id : Nat) (a : Addressing) (fate : Fate) : Prop where
  pending : s.commands.pending.filter (·.1 == id) = fate.pending id a
  answered : s.commands.answered.filter (·.1 == id) = fate.answers id
  completed : s.completed.filter (·.1 == id) = fate.completions id

section Keyed

variable {β : Type} {entries : List (Nat × β)} {id other : Nat}

theorem filter_drop_self : (entries.filter (·.1 != id)).filter (·.1 == id) = [] := by
  rw [List.filter_filter, List.filter_eq_nil_iff]
  intro e _
  simp

theorem filter_drop_other (hne : other ≠ id) :
    (entries.filter (·.1 != other)).filter (·.1 == id) = entries.filter (·.1 == id) := by
  rw [List.filter_filter]
  congr 1
  funext e
  by_cases he : e.1 = id
  · simp [he, hne.symm]
  · simp [he]

theorem filter_concat (e : Nat × β) :
    (entries ++ [e]).filter (·.1 == id) = entries.filter (·.1 == id) ++ if e.1 = id then [e] else [] := by
  rw [List.filter_append, List.filter_cons]
  simp

theorem find?_eq_of_filter {found : List (Nat × β)} (hfound : entries.filter (·.1 == id) = found) :
    entries.find? (·.1 == id) = found.head? := by
  rw [← hfound, List.head?_filter]

end Keyed

variable {s : Errands} {id : Nat} {a : Addressing} {fate : Fate}

theorem addressing?_of_held (h : Held s id a fate) :
    s.commands.addressing? id = match fate with
      | .waiting => some a
      | _ => none := by
  rw [addressing?, find?_eq_of_filter h.pending]
  cases fate <;> rfl

/-- A result changes nothing unless it names a request that is waited for. -/
theorem answer_of_none {c : ClientCommands} (hnone : c.addressing? id = none) (failed : Bool) (payload : Json) :
    c.answer id failed payload = c := by
  rw [answer, hnone]

theorem step_replied (s : Errands) (args : Json) :
    s.step (.replied args) = match TerminalChannel.resultOf args with
      | .ok r => { s with commands := s.commands.answer r.id r.failed r.payload }
      | .error _ => s := by
  rw [Errands.step, TerminalChannel.takeResult_eq]
  cases TerminalChannel.resultOf args <;> rfl

/-- The first result completes the request that it names. -/
theorem answer_of_some {c : ClientCommands} {r : CommandResult} (hsome : c.addressing? r.id = some a) :
    c.answer r.id r.failed r.payload =
      { c with
        pending := c.pending.filter (·.1 != r.id)
        answered := c.answered ++ [(r.id, outcome a r)] } := by
  rw [answer, hsome, outcome]

theorem Held.replied (h : Held s id a fate) (args : Json) :
    Held (s.step (.replied args)) id a (fate.turn id a (.replied args)) := by
  rw [step_replied]
  cases hr : TerminalChannel.resultOf args with
  | error e =>
      have hsame : fate.turn id a (.replied args) = fate := by
        cases fate <;> simp [Fate.turn, hr]
      rw [hsame]
      exact h
  | ok r =>
      by_cases hid : r.id = id
      · subst hid
        cases fate with
        | waiting =>
            have hturn : Fate.turn r.id a .waiting (.replied args) = .answered (outcome a r) := by
              simp [Fate.turn, hr]
            simp only [hturn, answer_of_some (addressing?_of_held h)]
            refine ⟨filter_drop_self, ?_, h.completed⟩
            rw [filter_concat, h.answered, if_pos rfl]
            rfl
        | answered o | completed o | abandoned =>
            have hsame : s.commands.answer r.id r.failed r.payload = s.commands :=
              answer_of_none (addressing?_of_held h) _ _
            simp only [hsame]
            exact h
      · have hsame : fate.turn id a (.replied args) = fate := by
          cases fate <;> simp [Fate.turn, hr, hid]
        rw [hsame]
        cases hother : s.commands.addressing? r.id with
        | none =>
            simp only [answer_of_none hother]
            exact h
        | some b =>
            simp only [answer_of_some hother]
            refine ⟨?_, ?_, h.completed⟩
            · rw [filter_drop_other hid]
              exact h.pending
            · rw [filter_concat, if_neg hid, List.append_nil]
              exact h.answered

theorem Held.abandoned (h : Held s id a fate) (other : Nat) :
    Held (s.step (.abandoned other)) id a (fate.turn id a (.abandoned other)) := by
  by_cases hid : other = id
  · subst hid
    cases fate with
    | waiting | answered o =>
        simp only [Fate.turn, if_true]
        exact ⟨filter_drop_self, filter_drop_self, h.completed⟩
    | completed o | abandoned => exact ⟨filter_drop_self, filter_drop_self, h.completed⟩
  · have hsame : fate.turn id a (.abandoned other) = fate := by
      cases fate <;> simp [Fate.turn, hid]
    rw [hsame]
    exact ⟨(filter_drop_other hid).trans h.pending, (filter_drop_other hid).trans h.answered, h.completed⟩

theorem step_resumed (s : Errands) (id : Nat) :
    s.step (.resumed id) = match s.commands.answered.find? (·.1 == id) with
      | none => s
      | some (_, o) => { commands := s.commands.abandon id, completed := s.completed ++ [(id, o)] } := by
  simp only [Errands.step, finish]
  cases s.commands.answered.find? (·.1 == id) <;> simp

theorem Held.resumed (h : Held s id a fate) (other : Nat) :
    Held (s.step (.resumed other)) id a (fate.turn id a (.resumed other)) := by
  rw [step_resumed]
  by_cases hid : other = id
  · subst hid
    rw [find?_eq_of_filter h.answered]
    cases fate with
    | answered o =>
        simp only [Fate.turn, if_true, Fate.answers, List.head?_cons]
        refine ⟨filter_drop_self, filter_drop_self, ?_⟩
        rw [filter_concat, h.completed, if_pos rfl]
        rfl
    | waiting | completed o | abandoned => exact h
  · have hsame : fate.turn id a (.resumed other) = fate := by
      cases fate <;> simp [Fate.turn, hid]
    rw [hsame]
    cases s.commands.answered.find? (·.1 == other) with
    | none => exact h
    | some e =>
        refine ⟨(filter_drop_other hid).trans h.pending, (filter_drop_other hid).trans h.answered, ?_⟩
        rw [filter_concat, if_neg hid, List.append_nil]
        exact h.completed

theorem last_step (s : Errands) (e : Event) :
    (s.step e).commands.last = s.commands.last + if e.isStart then 1 else 0 := by
  cases e with
  | started b command args => rfl
  | abandoned other => rfl
  | replied args =>
      rw [step_replied]
      cases TerminalChannel.resultOf args with
      | error e => rfl
      | ok r =>
          simp only [answer]
          split <;> rfl
  | resumed other =>
      rw [step_resumed]
      split <;> rfl

/-- Nothing but what concerns a request changes what has become of it. -/
theorem Held.step (h : Held s id a fate) {e : Event} (hother : e.isStart → s.commands.last + 1 ≠ id) :
    Held (s.step e) id a (fate.turn id a e) := by
  cases e with
  | started b command args =>
      have hsame : fate.turn id a (.started b command args) = fate := by
        cases fate <;> rfl
      rw [hsame]
      refine ⟨?_, h.answered, h.completed⟩
      simp only [Errands.step, start]
      rw [filter_concat, if_neg (hother rfl), List.append_nil]
      exact h.pending
  | replied args => exact h.replied args
  | abandoned other => exact h.abandoned other
  | resumed other => exact h.resumed other

theorem Held.run (h : Held s id a fate) (hmade : id ≤ s.commands.last) (events : List Event) :
    Held (s.run events) id a (fate.turns id a events) := by
  induction events generalizing s fate with
  | nil => exact h
  | cons e events ih =>
      apply ih (h.step fun _ => by omega)
      rw [last_step]
      omega

section Fates

end Fates

end ClientCommands
end Workbench

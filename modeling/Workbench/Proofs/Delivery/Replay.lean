import Workbench.Proofs.Delivery.Retention

/-!
What one side of a delivery sends again.  It may be handed any acknowledgements and any numbers, stale ones, the same
ones again or some of payloads that nobody has numbered yet.  What it sends again is always the last stretch of what
it has numbered: all behind the furthest acknowledgement, as far as there is room.
-/

namespace Workbench.Delivery

/-- The entries with numbers beyond a mark are those that come after it. -/
theorem filter_numbered (first mark : Nat) (said : List α) :
    ((numbered first said).filter fun entry => mark < entry.1) =
      (numbered first said).drop (mark + 1 - first) := by
  induction said generalizing first with
  | nil => simp [numbered]
  | cons payload said ih =>
      rw [numbered_cons]
      by_cases hmark : mark < first
      · have hnone : mark + 1 - first = 0 := by omega
        rw [hnone, List.drop_zero, List.filter_eq_self]
        intro entry hentry
        have hentry : entry ∈ numbered first (payload :: said) := hentry
        exact decide_eq_true (Nat.lt_of_lt_of_le hmark (numbered_bounds hentry).1)
      · have hsome : mark + 1 - first = mark + 1 - (first + 1) + 1 := by omega
        rw [List.filter_cons_of_neg (by simpa using hmark), ih, hsome, List.drop_succ_cons]

/-- What can be done with one side of a delivery. -/
inductive Act (α : Type) where
  | enqueue (payload : α)
  | acknowledge (ack : Nat)
  | accept (seq ack : Nat) (payload : α)

/-- The payload that is to be numbered. -/
def Act.numbers? : Act α → Option α
  | .enqueue payload => some payload
  | .acknowledge _ | .accept _ _ _ => none

/-- One side in use, with a record of what has come of it. -/
structure Usage (α : Type) where
  delivery : Delivery α := {}
  /-- The frames that it has made of payloads, oldest first. -/
  frames : List (Numbered α) := []
  /-- How far each acknowledgement reached among the frames that there were. -/
  reached : List Nat := []
  /-- The numbers under which it has handed payloads on. -/
  accepted : List Nat := []

namespace Usage

def step (u : Usage α) : Act α → Usage α
  | .enqueue payload =>
    let (frame, delivery) := u.delivery.enqueue payload
    { u with delivery, frames := u.frames ++ [frame] }
  | .acknowledge ack =>
    { u with
      delivery := u.delivery.acknowledge ack
      reached := u.reached ++ [min ack u.frames.length] }
  | .accept seq ack payload =>
    let (handed, delivery) := u.delivery.accept seq ack payload
    { u with
      delivery
      reached := u.reached ++ [min ack u.frames.length]
      accepted := u.accepted ++ (handed.map fun _ => seq).toList }

def run (u : Usage α) (acts : List (Act α)) : Usage α := acts.foldl step u

/-- The furthest that an acknowledgement has reached. -/
def furthest (u : Usage α) : Nat := u.reached.foldl max 0

/-- Frames from the start that are not sent again: they are acknowledged, or there is no room for them. -/
def gone (u : Usage α) : Nat := max u.furthest (u.frames.length - maxKept)

def said (u : Usage α) : List α := u.frames.map (·.payload)

/-- What is known of every side in use. -/
structure Sound (u : Usage α) : Prop where
  remembers : Remembers u.delivery u.said u.gone
  frames_numbered : (u.frames.map fun f => (f.seq, f.payload)) = numbered 1 u.said
  /-- A number is new just if it is positive and exceeds those that have been accepted. -/
  received_lt_iff : ∀ seq, u.delivery.received < seq ↔ 0 < seq ∧ ∀ earlier ∈ u.accepted, earlier < seq

theorem start_sound : Sound ({} : Usage α) where
  remembers := by simpa [said, gone, furthest] using remembers_start
  frames_numbered := rfl
  received_lt_iff _ := ⟨fun hpos => ⟨hpos, by simp⟩, And.left⟩

variable {u : Usage α}

@[simp] theorem length_said (u : Usage α) : u.said.length = u.frames.length := List.length_map ..

/-- Heeding an acknowledgement moves the cut as far as it reaches. -/
theorem Sound.acknowledge (h : u.Sound) (ack : Nat) :
    Remembers (u.delivery.acknowledge ack) u.said
      (max ((u.reached ++ [min ack u.frames.length]).foldl max 0) (u.frames.length - maxKept)) := by
  have hkeeps := h.remembers.acknowledge ack
  rw [length_said, gone, Nat.max_right_comm] at hkeeps
  rwa [List.foldl_append]

theorem Sound.step (h : u.Sound) (act : Act α) : (u.step act).Sound := by
  cases act with
  | enqueue payload =>
      have hframe := h.remembers.enqueue_frame payload
      have hsaid : (u.step (.enqueue payload)).said = u.said ++ [payload] := by
        simp [Usage.step, said, hframe]
      refine ⟨?_, ?_, h.received_lt_iff⟩
      · have hkeeps := h.remembers.enqueue payload
        have hsize := h.remembers.size_kept
        rw [length_said] at hsize
        have hgone : (u.step (.enqueue payload)).gone =
            if maxKept ≤ u.delivery.unacknowledged then u.gone + 1 else u.gone := by
          have hgrown : (u.step (.enqueue payload)).gone = max u.furthest (u.frames.length + 1 - maxKept) := by
            simp [Usage.step, gone, furthest]
          have hroom : 0 < maxKept := by decide
          rw [hgrown, unacknowledged, hsize, gone]
          split <;> omega
        rw [hsaid, hgone]
        exact hkeeps
      · have hpairs : ((u.step (.enqueue payload)).frames.map fun f => (f.seq, f.payload)) =
            (u.frames.map fun f => (f.seq, f.payload)) ++ [(u.frames.length + 1, payload)] := by
          simp [Usage.step, hframe]
        rw [hpairs, hsaid, numbered_concat, h.frames_numbered, length_said, Nat.add_comm]
  | acknowledge ack => exact ⟨h.acknowledge ack, h.frames_numbered, h.received_lt_iff⟩
  | accept seq ack payload =>
      by_cases hnew : u.delivery.received < seq
      · have hstep : u.step (.accept seq ack payload) =
            { u with
              delivery := { u.delivery.acknowledge ack with received := seq }
              reached := u.reached ++ [min ack u.frames.length]
              accepted := u.accepted ++ [seq] } := by
          simp only [Usage.step, accept_of_lt hnew, Option.map_some, Option.toList_some]
        obtain ⟨hsent, hle, hkept⟩ := h.acknowledge ack
        rw [hstep]
        refine ⟨⟨hsent, hle, hkept⟩, h.frames_numbered, fun later => ?_⟩
        obtain ⟨hpos, hexceeds⟩ := (h.received_lt_iff seq).1 hnew
        constructor
        · intro hlater
          have hlater : seq < later := hlater
          refine ⟨Nat.lt_trans hpos hlater, fun earlier hearlier => ?_⟩
          rcases List.mem_append.1 hearlier with hold | hlast
          · exact Nat.lt_trans (hexceeds earlier hold) hlater
          · exact List.mem_singleton.1 hlast ▸ hlater
        · rintro ⟨-, hall⟩
          exact hall seq (List.mem_append_right _ (List.mem_singleton_self seq))
      · have hstep : u.step (.accept seq ack payload) = u.step (.acknowledge ack) := by
          simp [Usage.step, accept_of_le (Nat.le_of_not_lt hnew)]
        rw [hstep]
        exact ⟨h.acknowledge ack, h.frames_numbered, h.received_lt_iff⟩

theorem Sound.run (h : u.Sound) (acts : List (Act α)) : (u.run acts).Sound := by
  induction acts generalizing u with
  | nil => exact h
  | cons act acts ih => exact ih (h.step act)

/-- Payloads are numbered as they are enqueued, and nothing else is. -/
theorem Sound.said_step (h : u.Sound) (act : Act α) : (u.step act).said = u.said ++ act.numbers?.toList := by
  cases act with
  | enqueue payload => simp [Usage.step, said, h.remembers.enqueue_frame payload, Act.numbers?]
  | acknowledge ack | accept seq ack payload => simp [Usage.step, said, Act.numbers?]

theorem Sound.said_run (h : u.Sound) (acts : List (Act α)) :
    (u.run acts).said = u.said ++ acts.filterMap Act.numbers? := by
  induction acts generalizing u with
  | nil => simp [Usage.run]
  | cons act acts ih =>
      have hrest := ih (h.step act)
      rw [h.said_step act] at hrest
      rw [List.filterMap_cons]
      cases hact : act.numbers? with
      | none => simpa [hact, Usage.run] using hrest
      | some payload => simpa [hact, Usage.run] using hrest

/-- However one side of a delivery is used, its frames are numbered from one on in the order in which the payloads
were enqueued.  Those that it sends again are just those with numbers beyond the furthest acknowledgement and
beyond all but the last ones that there is room for, each under the number it had, and all with what has been
received by now.  A payload is handed on just if its number is positive and exceeds all that were accepted. -/
theorem replays_last_stretch (acts : List (Act α)) :
    let u := run {} acts
    (u.frames.map (·.payload) = acts.filterMap Act.numbers? ∧
      u.frames.map (·.seq) = List.range' 1 u.frames.length) ∧
    u.delivery.replay =
      (u.frames.filter fun f => max u.furthest (u.frames.length - maxKept) < f.seq).map
        (fun f => { f with ack := u.delivery.received }) ∧
    ∀ seq ack payload, (u.delivery.accept seq ack payload).1 =
      if 0 < seq ∧ ∀ earlier ∈ u.accepted, earlier < seq then some payload else none := by
  intro u
  have hsound : u.Sound := start_sound.run acts
  refine ⟨⟨?_, ?_⟩, ?_, ?_⟩
  · have hsaid := start_sound.said_run acts
    simpa [said] using hsaid
  · have hseqs := congrArg (List.map Prod.fst) hsound.frames_numbered
    simpa [numbered, Function.comp_def, List.zipIdx_map_snd] using hseqs
  · have hpairs : ((u.frames.map fun f => (f.seq, f.payload)).filter fun entry => u.gone < entry.1) =
        (numbered 1 u.said).drop u.gone := by
      rw [hsound.frames_numbered, filter_numbered, Nat.add_sub_cancel]
    rw [hsound.remembers.replay, ← hpairs, List.filter_map, List.map_map]
    rfl
  · intro seq ack payload
    by_cases hnew : u.delivery.received < seq
    · rw [accept_of_lt hnew, if_pos ((hsound.received_lt_iff seq).1 hnew)]
    · rw [accept_of_le (Nat.le_of_not_lt hnew), if_neg fun hall => hnew ((hsound.received_lt_iff seq).2 hall)]

end Usage
end Workbench.Delivery

import Mathlib.Data.List.Induction
import Workbench.Proofs.Delivery.Retention

/-!
Two ends that deliver to each other over connections that come and go.  Frames arrive in the order in which
they were sent, until the connection is lost and with it all that is under way.  What either end hands
over are payloads of the other in their order and none twice; as long as the other end has had room for
all it kept, none is missing.
-/

namespace Workbench.Delivery

/-- A frame under way. -/
inductive Packet (α : Type) where
  | payload (n : Numbered α)
  | ack (received : Nat)

namespace Packet

/-- What a frame acknowledges.  A payload does so on the way. -/
def acknowledged : Packet α → Nat
  | .payload n => n.ack
  | .ack received => received

/-- The payload of a frame with its number. -/
def entry? : Packet α → Option (Nat × α)
  | .payload n => some (n.seq, n.payload)
  | .ack _ => none

end Packet

/-- One end of an exchange, with a record of what it has done. -/
structure Party (α : Type) where
  delivery : Delivery α := {}
  /-- It has sent again, on the connection there is, what it kept. -/
  attached : Bool := false
  /-- Its frames that the other end has not taken. -/
  flight : List (Packet α) := []
  /-- Payloads that it has numbered. -/
  said : List α := []
  /-- Payloads of the other end that it has handed over, with their numbers. -/
  heard : List (Nat × α) := []
  /-- Acknowledgements that it has followed. -/
  followed : List Nat := []

namespace Party

/-- Numbers a payload, and sends it if there is a connection. -/
def enqueue (p : Party α) (payload : α) : Party α :=
  let (frame, delivery) := p.delivery.enqueue payload
  { p with
    delivery
    said := p.said ++ [payload]
    flight := if p.attached then p.flight ++ [.payload frame] else p.flight }

/-- Takes a frame of the other end; a payload is answered by an acknowledgement. -/
def take (p : Party α) : Packet α → Party α
  | .payload n =>
    let (new, delivery) := p.delivery.accept n.seq n.ack n.payload
    { p with
      delivery
      heard := p.heard ++ (new.map fun payload => (n.seq, payload)).toList
      followed := p.followed ++ [n.ack]
      flight := p.flight ++ [.ack delivery.received] }
  | .ack received =>
    { p with
      delivery := p.delivery.acknowledge received
      followed := p.followed ++ [received] }

/-- Begins on a new connection: everything kept is sent again. -/
def attach (p : Party α) : Party α :=
  if p.attached then p
  else { p with attached := true, flight := p.delivery.replay.map .payload }

/-- The connection is gone, and with it what was under way. -/
def detach (p : Party α) : Party α := { p with attached := false, flight := [] }

end Party

inductive Side where
  | near
  | far
deriving DecidableEq, Repr

namespace Side

def other : Side → Side
  | near => far
  | far => near

end Side

/-- Two ends. -/
structure Exchange (α : Type) where
  near : Party α := {}
  far : Party α := {}

/-- What an end can do. -/
inductive Move (α : Type) where
  | enqueue (payload : α)
  /-- Takes the next frame under way. -/
  | receive
  /-- Begins on a new connection.  The ends need not do so at the same time. -/
  | attach

/-- What can happen to an exchange. -/
inductive Event (α : Type) where
  | move (side : Side) (m : Move α)
  | lose

namespace Exchange

def party (x : Exchange α) : Side → Party α
  | .near => x.near
  | .far => x.far

/-- The same exchange seen from the other end. -/
def swap (x : Exchange α) : Exchange α := ⟨x.far, x.near⟩

/-- A move of the near end. -/
def act (x : Exchange α) : Move α → Exchange α
  | .enqueue payload => { x with near := x.near.enqueue payload }
  | .receive =>
    match x.near.attached, x.far.flight with
    | true, frame :: rest => ⟨x.near.take frame, { x.far with flight := rest }⟩
    | _, _ => x
  | .attach => { x with near := x.near.attach }

def step (x : Exchange α) : Event α → Exchange α
  | .move .near m => x.act m
  | .move .far m => (x.swap.act m).swap
  | .lose => ⟨x.near.detach, x.far.detach⟩

/-- What has become of two fresh ends after these events. -/
def run (events : List (Event α)) : Exchange α := events.foldl step {}

/-- Whenever this end numbered a payload in the run, it kept fewer than it may. -/
def HasRoom (side : Side) (events : List (Event α)) : Prop :=
  ∀ before payload, before ++ [.move side (.enqueue payload)] <+: events →
    ((run before).party side).delivery.unacknowledged < maxKept

end Exchange

namespace Party

/-- Nothing is acknowledged, or the number of a payload handed over. -/
def Told (p : Party α) (ack : Nat) : Prop := ack = 0 ∨ ack ∈ p.heard.map Prod.fst

/-- Everything that taking a frame can do. -/
theorem take_cases (p : Party α) (frame : Packet α) :
    (∃ ack, frame = .ack ack ∧
      p.take frame = { p with
        delivery := p.delivery.acknowledge ack
        followed := p.followed ++ [ack] }) ∨
    (∃ n, frame = .payload n ∧ n.seq ≤ p.delivery.received ∧
      p.take frame = { p with
        delivery := p.delivery.acknowledge n.ack
        followed := p.followed ++ [n.ack]
        flight := p.flight ++ [.ack p.delivery.received] }) ∨
    (∃ n, frame = .payload n ∧ p.delivery.received < n.seq ∧
      p.take frame = { p with
        delivery := { p.delivery.acknowledge n.ack with received := n.seq }
        heard := p.heard ++ [(n.seq, n.payload)]
        followed := p.followed ++ [n.ack]
        flight := p.flight ++ [.ack n.seq] }) := by
  cases frame with
  | ack received => exact Or.inl ⟨received, rfl, rfl⟩
  | payload n =>
      rcases Nat.lt_or_ge p.delivery.received n.seq with hnew | hold
      · refine Or.inr (Or.inr ⟨n, rfl, hnew, ?_⟩)
        simp [take, accept_of_lt hnew]
      · refine Or.inr (Or.inl ⟨n, rfl, hold, ?_⟩)
        simp [take, accept_of_le hold, acknowledge_received]

@[simp] theorem attach_delivery (p : Party α) : p.attach.delivery = p.delivery := by
  rw [attach]
  split <;> rfl

@[simp] theorem attach_said (p : Party α) : p.attach.said = p.said := by
  rw [attach]
  split <;> rfl

@[simp] theorem attach_heard (p : Party α) : p.attach.heard = p.heard := by
  rw [attach]
  split <;> rfl

@[simp] theorem attach_followed (p : Party α) : p.attach.followed = p.followed := by
  rw [attach]
  split <;> rfl

theorem mem_flight_enqueue {p : Party α} {payload : α} {frame : Packet α}
    (hframe : frame ∈ (p.enqueue payload).flight) :
    frame ∈ p.flight ∨ frame = .payload (p.delivery.enqueue payload).1 := by
  simp only [enqueue] at hframe
  split at hframe
  · simpa using hframe
  · exact Or.inl hframe

theorem mem_flight_attach {p : Party α} {frame : Packet α}
    (hframe : frame ∈ p.attach.flight) :
    frame ∈ p.flight ∨ ∃ n ∈ p.delivery.replay, frame = .payload n := by
  simp only [attach] at hframe
  split at hframe
  · exact Or.inl hframe
  · obtain ⟨n, hn, rfl⟩ := List.mem_map.1 hframe
    exact Or.inr ⟨n, hn, rfl⟩

/-- An acknowledgement that was right stays so when more is handed over. -/
theorem Told.mono {p q : Party α} (hheard : p.heard ⊆ q.heard) {ack : Nat}
    (htold : p.Told ack) : q.Told ack := by
  rcases htold with rfl | hack
  · exact Or.inl rfl
  · exact Or.inr (List.map_subset Prod.fst hheard hack)

/-- What holds between an end that says something and the one that hears it, room or not. -/
structure Sound (speaker listener : Party α) : Prop where
  remembers : ∃ gone, Remembers speaker.delivery speaker.said gone
  flight_said : ∀ frame ∈ speaker.flight, ∀ entry ∈ frame.entry?,
    entry ∈ numbered 1 speaker.said
  heard_said : ∀ entry ∈ listener.heard, entry ∈ numbered 1 speaker.said
  heard_ascending : listener.heard.Pairwise (·.1 < ·.1)
  heard_le : ∀ entry ∈ listener.heard, entry.1 ≤ listener.delivery.received
  received_told : listener.Told listener.delivery.received
  flight_told : ∀ frame ∈ listener.flight, listener.Told frame.acknowledged
  followed_told : ∀ ack ∈ speaker.followed, listener.Told ack

namespace Sound

variable {speaker listener : Party α}

theorem enqueue_speaker (hsound : speaker.Sound listener) (payload : α) :
    (speaker.enqueue payload).Sound listener := by
  obtain ⟨gone, hgone⟩ := hsound.remembers
  have hmore : ∀ entry ∈ numbered 1 speaker.said,
      entry ∈ numbered 1 (speaker.said ++ [payload]) := by
    intro entry hentry
    rw [numbered_concat]
    exact List.mem_append_left _ hentry
  refine { hsound with
    remembers := ⟨_, hgone.enqueue payload⟩
    flight_said := ?_
    heard_said := fun entry hentry => hmore entry (hsound.heard_said entry hentry) }
  intro frame hframe entry hentry
  rcases mem_flight_enqueue hframe with hold | rfl
  · exact hmore entry (hsound.flight_said frame hold entry hentry)
  · rw [hgone.enqueue_frame] at hentry
    cases hentry
    show _ ∈ numbered 1 (speaker.said ++ [payload])
    rw [numbered_concat, Nat.add_comm]
    exact List.mem_append_right _ List.mem_cons_self

theorem enqueue_listener (hsound : speaker.Sound listener) (payload : α) :
    speaker.Sound (listener.enqueue payload) := by
  refine { hsound with flight_told := ?_ }
  intro frame hframe
  rcases mem_flight_enqueue hframe with hold | rfl
  · exact hsound.flight_told frame hold
  · exact hsound.received_told

theorem attach_speaker (hsound : speaker.Sound listener) : speaker.attach.Sound listener := by
  obtain ⟨gone, hgone⟩ := hsound.remembers
  refine { hsound with
    remembers := ⟨gone, by rwa [attach_delivery, attach_said]⟩
    flight_said := ?_
    heard_said := by
      rw [attach_said]
      exact hsound.heard_said
    followed_told := by
      rw [attach_followed]
      exact hsound.followed_told }
  intro frame hframe entry hentry
  rw [attach_said]
  rcases mem_flight_attach hframe with hold | ⟨n, hn, rfl⟩
  · exact hsound.flight_said frame hold entry hentry
  · rw [hgone.replay] at hn
    obtain ⟨found, hfound, rfl⟩ := List.mem_map.1 hn
    cases hentry
    exact List.mem_of_mem_drop hfound

theorem attach_listener (hsound : speaker.Sound listener) : speaker.Sound listener.attach := by
  have htold : listener.attach.Told = listener.Told := by
    funext ack
    rw [Told, Told, attach_heard]
  refine { hsound with
    heard_said := by simpa using hsound.heard_said
    heard_ascending := by simpa using hsound.heard_ascending
    heard_le := by
      rw [attach_heard, attach_delivery]
      exact hsound.heard_le
    received_told := by
      rw [htold, attach_delivery]
      exact hsound.received_told
    flight_told := ?_
    followed_told := by simpa [htold] using hsound.followed_told }
  intro frame hframe
  rw [htold]
  rcases mem_flight_attach hframe with hold | ⟨n, hn, rfl⟩
  · exact hsound.flight_told frame hold
  · obtain ⟨_, _, rfl⟩ := List.mem_map.1 hn
    exact hsound.received_told

theorem detach (hsound : speaker.Sound listener) : speaker.detach.Sound listener.detach :=
  { hsound with
    flight_said := fun _ hframe => absurd hframe List.not_mem_nil
    flight_told := fun _ hframe => absurd hframe List.not_mem_nil }

/-- The listener takes the frame in front. -/
theorem take_listener (hsound : speaker.Sound listener) {frame : Packet α}
    {rest : List (Packet α)} (hflight : speaker.flight = frame :: rest) :
    Party.Sound { speaker with flight := rest } (listener.take frame) := by
  have hrest : ∀ next ∈ rest, ∀ entry ∈ next.entry?, entry ∈ numbered 1 speaker.said := by
    intro next hnext
    exact hsound.flight_said next (hflight ▸ List.mem_cons_of_mem frame hnext)
  rcases take_cases listener frame with
    ⟨ack, rfl, htake⟩ | ⟨n, rfl, hold, htake⟩ | ⟨n, rfl, hnew, htake⟩
  · rw [htake]
    exact { hsound with flight_said := hrest }
  · rw [htake]
    refine { hsound with flight_said := hrest, flight_told := ?_ }
    intro next hnext
    rcases List.mem_append.1 hnext with hnext | hnext
    · exact hsound.flight_told next hnext
    · rw [List.mem_singleton.1 hnext]
      exact hsound.received_told
  · have hentry : (n.seq, n.payload) ∈ numbered 1 speaker.said :=
      hsound.flight_said _ (hflight ▸ List.mem_cons_self) _ rfl
    have hgrown : listener.heard ⊆ (listener.take (.payload n)).heard := by
      rw [htake]
      exact List.subset_append_left _ _
    have htold : (listener.take (.payload n)).Told n.seq := by
      rw [htake]
      exact Or.inr (by simp)
    refine {
      remembers := hsound.remembers
      flight_said := hrest
      heard_said := ?_
      heard_ascending := ?_
      heard_le := ?_
      received_told := ?_
      flight_told := ?_
      followed_told := fun ack hack => (hsound.followed_told ack hack).mono hgrown }
    · rw [htake]
      intro entry hheard
      rcases List.mem_append.1 hheard with hheard | hheard
      · exact hsound.heard_said entry hheard
      · rw [List.mem_singleton.1 hheard]
        exact hentry
    · rw [htake, List.pairwise_append]
      refine ⟨hsound.heard_ascending, List.pairwise_singleton _ _, ?_⟩
      intro entry hheard last hlast
      rw [List.mem_singleton.1 hlast]
      exact Nat.lt_of_le_of_lt (hsound.heard_le entry hheard) hnew
    · rw [htake]
      intro entry hheard
      rcases List.mem_append.1 hheard with hheard | hheard
      · exact Nat.le_of_lt (Nat.lt_of_le_of_lt (hsound.heard_le entry hheard) hnew)
      · rw [List.mem_singleton.1 hheard]
    · rwa [show (listener.take (.payload n)).delivery.received = n.seq by rw [htake]]
    · intro next hnext
      rw [htake] at hnext
      rcases List.mem_append.1 hnext with hnext | hnext
      · exact (hsound.flight_told next hnext).mono hgrown
      · rw [List.mem_singleton.1 hnext]
        exact htold

/-- The speaker takes the frame in front: it follows what the listener acknowledges. -/
theorem take_speaker (hsound : speaker.Sound listener) {frame : Packet α}
    {rest : List (Packet α)} (hflight : listener.flight = frame :: rest) :
    (speaker.take frame).Sound { listener with flight := rest } := by
  obtain ⟨gone, hgone⟩ := hsound.remembers
  have htold : listener.Told frame.acknowledged :=
    hsound.flight_told frame (hflight ▸ List.mem_cons_self)
  have hrest : ∀ next ∈ rest, listener.Told next.acknowledged := fun next hnext =>
    hsound.flight_told next (hflight ▸ List.mem_cons_of_mem frame hnext)
  have hfollowed : ∀ ack ∈ speaker.followed ++ [frame.acknowledged], listener.Told ack := by
    intro ack hack
    rcases List.mem_append.1 hack with hack | hack
    · exact hsound.followed_told ack hack
    · rwa [List.mem_singleton.1 hack]
  have hmore : ∀ ack, ∀ next ∈ speaker.flight ++ [.ack ack], ∀ entry ∈ next.entry?,
      entry ∈ numbered 1 speaker.said := by
    intro ack next hnext entry hentry
    rcases List.mem_append.1 hnext with hnext | hnext
    · exact hsound.flight_said next hnext entry hentry
    · rw [List.mem_singleton.1 hnext] at hentry
      cases hentry
  rcases take_cases speaker frame with
    ⟨ack, rfl, htake⟩ | ⟨n, rfl, _, htake⟩ | ⟨n, rfl, _, htake⟩
  · rw [htake]
    exact { hsound with
      remembers := ⟨_, hgone.acknowledge ack⟩
      flight_told := hrest
      followed_told := hfollowed }
  · rw [htake]
    exact { hsound with
      remembers := ⟨_, hgone.acknowledge n.ack⟩
      flight_said := hmore _
      flight_told := hrest
      followed_told := hfollowed }
  · rw [htake]
    have hkept := hgone.acknowledge n.ack
    exact { hsound with
      remembers := ⟨_, ⟨hkept.sent_eq, hkept.gone_le, hkept.kept_eq⟩⟩
      flight_said := hmore _
      flight_told := hrest
      followed_told := hfollowed }

end Sound
end Party

namespace Exchange

/-- Both ends, each as the one that hears the other. -/
def Sound (x : Exchange α) : Prop := x.near.Sound x.far ∧ x.far.Sound x.near

theorem start_sound : ({} : Exchange α).Sound := by
  have hfresh : ({} : Party α).Sound {} := {
    remembers := ⟨0, remembers_start⟩
    flight_said := fun _ hframe => absurd hframe List.not_mem_nil
    heard_said := fun _ hheard => absurd hheard List.not_mem_nil
    heard_ascending := List.Pairwise.nil
    heard_le := fun _ hheard => absurd hheard List.not_mem_nil
    received_told := Or.inl rfl
    flight_told := fun _ hframe => absurd hframe List.not_mem_nil
    followed_told := fun _ hack => absurd hack List.not_mem_nil }
  exact ⟨hfresh, hfresh⟩

/-- A frame is only taken on a connection, and then it is the one in front. -/
theorem act_receive (x : Exchange α) :
    x.act .receive = x ∨ ∃ frame rest, x.near.attached = true ∧
      x.far.flight = frame :: rest ∧
      x.act .receive = ⟨x.near.take frame, { x.far with flight := rest }⟩ := by
  simp only [act]
  split
  · next frame rest hattached hflight =>
      exact Or.inr ⟨frame, rest, hattached, hflight, rfl⟩
  · exact Or.inl rfl

theorem Sound.act {x : Exchange α} (hsound : x.Sound) (m : Move α) : (x.act m).Sound := by
  cases m with
  | enqueue payload =>
      exact ⟨hsound.1.enqueue_speaker payload, hsound.2.enqueue_listener payload⟩
  | receive =>
      rcases act_receive x with hsame | ⟨frame, rest, _, hflight, htaken⟩
      · rwa [hsame]
      · rw [htaken]
        exact ⟨hsound.1.take_speaker hflight, hsound.2.take_listener hflight⟩
  | attach => exact ⟨hsound.1.attach_speaker, hsound.2.attach_listener⟩

theorem Sound.step {x : Exchange α} (hsound : x.Sound) (e : Event α) : (x.step e).Sound := by
  cases e with
  | move side m =>
      cases side with
      | near => exact hsound.act m
      | far => exact (Sound.act (x := x.swap) hsound.symm m).symm
  | lose => exact ⟨hsound.1.detach, hsound.2.detach⟩

theorem run_concat (events : List (Event α)) (e : Event α) :
    run (events ++ [e]) = (run events).step e := by
  simp [run]

theorem run_sound (events : List (Event α)) : (run events).Sound := by
  induction events using List.reverseRecOn with
  | nil => exact start_sound
  | append_singleton events e ih =>
      rw [run_concat]
      exact ih.step e

end Exchange
end Workbench.Delivery

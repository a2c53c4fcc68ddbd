import Workbench.Proofs.Delivery.Exchange

/-!
Delivery in order.  In every run each end hands over what the other has said in its order and none twice,
and acknowledges only what it has handed over.  If an end had room whenever it said something, nothing is
missing in what the other has handed over, and the rest is still kept.
-/

namespace Workbench.Delivery

namespace Party

/-- What holds besides as long as nothing that the listener lacks has been dropped. -/
structure Gapless (speaker listener : Party α) : Prop where
  remembers : ∃ gone ≤ listener.delivery.received,
    Remembers speaker.delivery speaker.said gone
  heard_eq : listener.heard = (numbered 1 speaker.said).take listener.delivery.received
  /-- The payloads under way are the last ones, and they begin no later than with the next one wanted. -/
  flight_eq : speaker.attached = true → ∃ seen ≤ listener.delivery.received,
    speaker.flight.filterMap Packet.entry? = (numbered 1 speaker.said).drop seen
  flight_nil : speaker.attached = false → speaker.flight = []

theorem Sound.told_le {speaker listener : Party α} (hsound : speaker.Sound listener) {ack : Nat}
    (htold : listener.Told ack) : ack ≤ listener.delivery.received := by
  rcases htold with rfl | hack
  · exact Nat.zero_le _
  · obtain ⟨entry, hentry, rfl⟩ := List.mem_map.1 hack
    exact hsound.heard_le entry hentry

theorem Sound.received_le {speaker listener : Party α} (hsound : speaker.Sound listener) :
    listener.delivery.received ≤ speaker.said.length := by
  rcases hsound.received_told with hzero | hheard
  · omega
  · obtain ⟨entry, hentry, heq⟩ := List.mem_map.1 hheard
    have := numbered_bounds (hsound.heard_said entry hentry)
    omega

namespace Gapless

variable {speaker listener : Party α}

theorem enqueue_speaker (hgapless : speaker.Gapless listener)
    (hsound : speaker.Sound listener) (payload : α)
    (hroom : speaker.delivery.unacknowledged < maxKept) :
    (speaker.enqueue payload).Gapless listener := by
  obtain ⟨gone, hgone, hkept⟩ := hgapless.remembers
  have hreceived := hsound.received_le
  refine ⟨⟨gone, hgone, ?_⟩, ?_, ?_, ?_⟩
  · have hkept' := hkept.enqueue payload
    rwa [if_neg (Nat.not_le.2 hroom)] at hkept'
  · show _ = (numbered 1 (speaker.said ++ [payload])).take _
    rw [numbered_concat, List.take_append_of_le_length (by simpa using hreceived)]
    exact hgapless.heard_eq
  · intro hattached
    obtain ⟨seen, hseen, hflight⟩ := hgapless.flight_eq hattached
    refine ⟨seen, hseen, ?_⟩
    have hattached' : speaker.attached = true := hattached
    show (speaker.enqueue payload).flight.filterMap Packet.entry? =
      (numbered 1 (speaker.said ++ [payload])).drop seen
    rw [numbered_concat, List.drop_append_of_le_length (by simp; omega), ← hflight]
    simp [enqueue, hattached', hkept.enqueue_frame, Packet.entry?, Nat.add_comm]
  · intro hdetached
    have hdetached' : speaker.attached = false := hdetached
    simp [enqueue, hdetached', hgapless.flight_nil hdetached']

theorem attach_speaker (hgapless : speaker.Gapless listener) :
    speaker.attach.Gapless listener := by
  cases hattached : speaker.attached with
  | true => rwa [attach, if_pos hattached]
  | false =>
      obtain ⟨gone, hgone, hkept⟩ := hgapless.remembers
      rw [attach, if_neg (by simp [hattached])]
      refine ⟨⟨gone, hgone, hkept⟩, hgapless.heard_eq, fun _ => ⟨gone, hgone, ?_⟩,
        fun hdetached => Bool.noConfusion hdetached⟩
      rw [hkept.replay, List.map_map, List.filterMap_map]
      exact List.filterMap_some

theorem attach_listener (hgapless : speaker.Gapless listener) :
    speaker.Gapless listener.attach := by
  refine { hgapless with
    remembers := by simpa using hgapless.remembers
    heard_eq := by simpa using hgapless.heard_eq
    flight_eq := by simpa using hgapless.flight_eq }

theorem detach (hgapless : speaker.Gapless listener) :
    speaker.detach.Gapless listener.detach :=
  { hgapless with
    flight_eq := nofun
    flight_nil := fun _ => rfl }

/-- The listener takes the frame in front.  A payload that is new to it is the very next one. -/
theorem take_listener (hgapless : speaker.Gapless listener) {frame : Packet α}
    {rest : List (Packet α)} (hflight : speaker.flight = frame :: rest) :
    Party.Gapless { speaker with flight := rest } (listener.take frame) := by
  have hattached : speaker.attached = true := by
    cases hattached : speaker.attached with
    | true => rfl
    | false => rw [hgapless.flight_nil hattached] at hflight; cases hflight
  have hnil : ∀ flight : List (Packet α), speaker.attached = false → flight = [] :=
    fun _ hdetached => Bool.noConfusion (hattached.symm.trans hdetached)
  obtain ⟨gone, hgone, hkept⟩ := hgapless.remembers
  obtain ⟨seen, hseen, hentries⟩ := hgapless.flight_eq hattached
  rw [hflight] at hentries
  -- A payload in front is the first of those under way, so its number says how many came before.
  have hfront : ∀ n, frame = .payload n → n.seq = seen + 1 ∧
      (numbered 1 speaker.said)[seen]? = some (n.seq, n.payload) ∧
      rest.filterMap Packet.entry? = (numbered 1 speaker.said).drop (seen + 1) := by
    rintro n rfl
    have hcons : (n.seq, n.payload) :: rest.filterMap Packet.entry? =
        (numbered 1 speaker.said).drop seen := hentries
    have hget : (numbered 1 speaker.said)[seen]? = some (n.seq, n.payload) := by
      rw [← List.head?_drop, ← hcons, List.head?_cons]
    have hseq : n.seq = seen + 1 := by
      simp only [numbered, List.getElem?_map, List.getElem?_zipIdx, Option.map_eq_some_iff,
        Prod.exists, Prod.swap_prod_mk, Prod.mk.injEq] at hget
      obtain ⟨_, _, ⟨_, _, _, hplace⟩, hnumber, _⟩ := hget
      omega
    refine ⟨hseq, hget, ?_⟩
    rw [← List.drop_drop, ← hcons, List.drop_one, List.tail_cons]
  rcases take_cases listener frame with
    ⟨ack, rfl, htake⟩ | ⟨n, rfl, hold, htake⟩ | ⟨n, rfl, hnew, htake⟩
  · rw [htake]
    exact { hgapless with
      flight_eq := fun _ => ⟨seen, hseen, hentries⟩
      flight_nil := hnil _ }
  · obtain ⟨hseq, _, hrest⟩ := hfront n rfl
    rw [htake]
    exact { hgapless with
      flight_eq := fun _ => ⟨seen + 1, hseq ▸ hold, hrest⟩
      flight_nil := hnil _ }
  · obtain ⟨hseq, hget, hrest⟩ := hfront n rfl
    have hreceived : listener.delivery.received = seen := by omega
    rw [htake]
    refine ⟨⟨gone, by simp only; omega, hkept⟩, ?_, fun _ => ⟨seen + 1, ?_, hrest⟩, ?_⟩
    · simp only [hseq, List.take_add_one, hgapless.heard_eq, hreceived]
      rw [hget, hseq, Option.toList_some]
    · simp only [hseq, Nat.le_refl]
    · exact hnil _

/-- The speaker takes the frame in front: it lets go of nothing that the listener lacks. -/
theorem take_speaker (hgapless : speaker.Gapless listener) (hsound : speaker.Sound listener)
    (hattached : speaker.attached = true) {frame : Packet α} {rest : List (Packet α)}
    (hflight : listener.flight = frame :: rest) :
    (speaker.take frame).Gapless { listener with flight := rest } := by
  have hnil : ∀ flight : List (Packet α), speaker.attached = false → flight = [] :=
    fun _ hdetached => Bool.noConfusion (hattached.symm.trans hdetached)
  obtain ⟨gone, hgone, hkept⟩ := hgapless.remembers
  obtain ⟨seen, hseen, hentries⟩ := hgapless.flight_eq hattached
  have hack : frame.acknowledged ≤ listener.delivery.received :=
    hsound.told_le (hsound.flight_told frame (hflight ▸ List.mem_cons_self))
  have hkept' := hkept.acknowledge frame.acknowledged
  have hgone' : max gone (min frame.acknowledged speaker.said.length) ≤
      listener.delivery.received := by omega
  have hmore : ∀ ack, (speaker.flight ++ [Packet.ack ack]).filterMap Packet.entry? =
      (numbered 1 speaker.said).drop seen := by
    intro ack
    rw [List.filterMap_append, hentries]
    exact List.append_nil _
  rcases take_cases speaker frame with
    ⟨ack, rfl, htake⟩ | ⟨n, rfl, _, htake⟩ | ⟨n, rfl, _, htake⟩
  · rw [htake]
    exact { hgapless with remembers := ⟨_, hgone', hkept'⟩ }
  · rw [htake]
    exact { hgapless with
      remembers := ⟨_, hgone', hkept'⟩
      flight_eq := fun _ => ⟨seen, hseen, hmore _⟩
      flight_nil := hnil _ }
  · rw [htake]
    exact { hgapless with
      remembers := ⟨_, hgone', ⟨hkept'.sent_eq, hkept'.gone_le, hkept'.kept_eq⟩⟩
      flight_eq := fun _ => ⟨seen, hseen, hmore _⟩
      flight_nil := hnil _ }

end Gapless

/-- What a listener lacks, the speaker still keeps. -/
theorem Gapless.mem_kept {speaker listener : Party α} (hgapless : speaker.Gapless listener)
    {entry : Nat × α} (hsaid : entry ∈ numbered 1 speaker.said) (hlacks : entry ∉ listener.heard) :
    entry ∈ speaker.delivery.kept := by
  obtain ⟨gone, hgone, hkept⟩ := hgapless.remembers
  rw [hgapless.heard_eq] at hlacks
  rw [← List.take_append_drop listener.delivery.received (numbered 1 speaker.said)] at hsaid
  have hcome := (List.mem_append.1 hsaid).resolve_left hlacks
  rw [← Nat.add_sub_cancel' hgone, ← List.drop_drop] at hcome
  rw [← Array.mem_toList_iff, hkept.kept_eq]
  exact List.mem_of_mem_drop hcome

end Party

namespace Exchange

theorem Sound.party {x : Exchange α} (hsound : x.Sound) (side : Side) :
    (x.party side).Sound (x.party side.other) := by
  cases side with
  | near => exact hsound.1
  | far => exact hsound.2

/-- A move of the near end keeps both directions without a gap, given room for what it says. -/
theorem act_gapless {x : Exchange α} (hsound : x.Sound) (side : Side) {m : Move α}
    (hgapless : (x.party side).Gapless (x.party side.other))
    (hroom : ∀ payload, side = .near → m = .enqueue payload →
      x.near.delivery.unacknowledged < maxKept) :
    ((x.act m).party side).Gapless ((x.act m).party side.other) := by
  cases m with
  | enqueue payload =>
      cases side with
      | near => exact hgapless.enqueue_speaker hsound.1 payload (hroom payload rfl rfl)
      | far => exact { hgapless with }
  | receive =>
      rcases act_receive x with hsame | ⟨frame, rest, hattached, hflight, htaken⟩
      · rwa [hsame]
      · rw [htaken]
        cases side with
        | near => exact hgapless.take_speaker hsound.1 hattached hflight
        | far => exact hgapless.take_listener hflight
  | attach =>
      cases side with
      | near => exact hgapless.attach_speaker
      | far => exact hgapless.attach_listener

theorem step_gapless {x : Exchange α} (hsound : x.Sound) (side : Side) {e : Event α}
    (hgapless : (x.party side).Gapless (x.party side.other))
    (hroom : ∀ payload, e = .move side (.enqueue payload) →
      (x.party side).delivery.unacknowledged < maxKept) :
    ((x.step e).party side).Gapless ((x.step e).party side.other) := by
  cases e with
  | move mover m =>
      cases mover with
      | near =>
          apply act_gapless hsound side hgapless
          rintro payload rfl rfl
          exact hroom payload rfl
      | far =>
          -- The far end moves as the near end of the same exchange seen from the other side.
          have hswap := act_gapless (x := x.swap) (m := m) hsound.symm side.other
          cases side with
          | near => exact hswap hgapless fun _ hside => absurd hside (by decide)
          | far =>
              apply hswap hgapless
              rintro payload _ rfl
              exact hroom payload rfl
  | lose =>
      cases side with
      | near => exact hgapless.detach
      | far => exact hgapless.detach

theorem HasRoom.of_concat {side : Side} {events : List (Event α)} {e : Event α}
    (hroom : HasRoom side (events ++ [e])) :
    HasRoom side events ∧ ∀ payload, e = .move side (.enqueue payload) →
      ((run events).party side).delivery.unacknowledged < maxKept := by
  constructor
  · intro before payload hbegin
    exact hroom before payload (hbegin.trans (List.prefix_append events [e]))
  · rintro payload rfl
    exact hroom events payload List.prefix_rfl

theorem run_gapless {side : Side} {events : List (Event α)} (hroom : HasRoom side events) :
    ((run events).party side).Gapless ((run events).party side.other) := by
  -- From the end of the run, since having room speaks of how it begins.
  induction events using List.reverseRecOn with
  | nil =>
      cases side <;>
        exact ⟨⟨0, Nat.le_refl _, remembers_start⟩, rfl,
          fun hattached => Bool.noConfusion hattached, fun _ => rfl⟩
  | append_singleton events e ih =>
      obtain ⟨hbefore, hlast⟩ := hroom.of_concat
      rw [run_concat]
      exact step_gapless (run_sound events) side (ih hbefore) hlast

/-- In every run, whatever was lost and sent again: what an end has handed over are payloads of the other
in their order and none twice; every acknowledgement, on the way or followed, is the number of a payload
that its sender has handed over; and if the other end had room whenever it said something, nothing is
missing in what was handed over, and all that is still to come is kept. -/
theorem handed_over_in_order (events : List (Event α)) (side : Side) :
    let speaker := (run events).party side
    let listener := (run events).party side.other
    listener.heard.Sublist (numbered 1 speaker.said) ∧
    (∀ ack ∈ listener.flight.map Packet.acknowledged ++ speaker.followed,
      ack = 0 ∨ ack ∈ listener.heard.map Prod.fst) ∧
    (HasRoom side events →
      listener.heard <+: numbered 1 speaker.said ∧
      ∀ entry ∈ numbered 1 speaker.said, entry ∉ listener.heard →
        entry ∈ speaker.delivery.kept) := by
  have hsound := (run_sound events).party side
  refine ⟨?_, ?_, ?_⟩
  · exact sublist_of_ascending hsound.heard_ascending (numbered_ascending 1 _) hsound.heard_said
  · intro ack hack
    rcases List.mem_append.1 hack with hflight | hfollowed
    · obtain ⟨frame, hframe, rfl⟩ := List.mem_map.1 hflight
      exact hsound.flight_told frame hframe
    · exact hsound.followed_told ack hfollowed
  · intro hroom
    have hgapless := run_gapless hroom
    refine ⟨hgapless.heard_eq ▸ List.take_prefix _ _, ?_⟩
    intro entry hentry hlacks
    exact hgapless.mem_kept hentry hlacks

theorem act_said_le (x : Exchange α) (m : Move α) (side : Side) :
    ((x.act m).party side).said.length ≤ (x.party side).said.length + 1 := by
  cases m with
  | enqueue payload =>
      cases side with
      | near => exact Nat.le_of_eq List.length_append
      | far => exact Nat.le_succ _
  | receive =>
      rcases act_receive x with hsame | ⟨frame, rest, _, _, htaken⟩
      · rw [hsame]
        exact Nat.le_succ _
      · rw [htaken]
        cases side with
        | near =>
            rcases Party.take_cases x.near frame with
              ⟨_, _, htake⟩ | ⟨_, _, _, htake⟩ | ⟨_, _, _, htake⟩ <;>
              exact htake ▸ Nat.le_succ _
        | far => exact Nat.le_succ _
  | attach =>
      cases side with
      | near => exact Party.attach_said x.near ▸ Nat.le_succ _
      | far => exact Nat.le_succ _

theorem run_said_le (events : List (Event α)) (side : Side) :
    ((run events).party side).said.length ≤ events.length := by
  induction events using List.reverseRecOn with
  | nil => cases side <;> exact Nat.le_refl 0
  | append_singleton events e ih =>
      rw [run_concat, List.length_append]
      refine Nat.le_trans ?_ (Nat.add_le_add_right ih 1)
      cases e with
      | move mover m =>
          cases mover with
          | near => exact act_said_le (run events) m side
          | far =>
              have hswap := act_said_le (run events).swap m side.other
              cases side <;> exact hswap
      | lose => cases side <;> exact Nat.le_succ _

/-- A run that is short enough leaves room for everything that is said in it. -/
theorem hasRoom_of_length_le {events : List (Event α)} (hlength : events.length ≤ maxKept)
    (side : Side) : HasRoom side events := by
  intro before payload hbegin
  obtain ⟨gone, hkept⟩ := ((run_sound before).party side).remembers
  have hsaid := run_said_le before side
  have hbefore := hbegin.length_le
  rw [List.length_append, List.length_singleton] at hbefore
  rw [unacknowledged, hkept.size_kept]
  omega

/-- A payload comes, the connection is lost, and another payload is numbered. -/
def cutOff : List (Event Char) :=
  [.move .near .attach, .move .far .attach, .move .near (.enqueue 'a'), .move .far .receive, .lose,
    .move .near (.enqueue 'b')]

/-- The first has been handed over, and the second is kept. -/
theorem handed_over_in_order_cutOff :
    HasRoom .near cutOff ∧ (run cutOff).far.heard = [(1, 'a')] ∧
      (run cutOff).far.heard <+: numbered 1 ['a', 'b'] ∧ (2, 'b') ∈ (run cutOff).near.delivery.kept := by
  have hroom : HasRoom .near cutOff := hasRoom_of_length_le (by decide) .near
  have hheard : (run cutOff).far.heard = [(1, 'a')] := by decide
  obtain ⟨-, -, hall⟩ := handed_over_in_order cutOff .near
  obtain ⟨hbegins, hkept⟩ := hall hroom
  have hlacks : (2, 'b') ∉ (run cutOff).far.heard := by
    rw [hheard]
    decide
  exact ⟨hroom, hheard, hbegins, hkept (2, 'b') (by decide) hlacks⟩

/-- A frame is lost and sent again. -/
example :
    let x := run [.move .near .attach, .move .far .attach, .move .near (.enqueue 'a'), .lose,
      .move .near (.enqueue 'b'), .move .near .attach, .move .far .attach,
      .move .far .receive, .move .far .receive, .move .near .receive, .move .near .receive]
    x.far.heard = [(1, 'a'), (2, 'b')] ∧ x.near.delivery.kept = #[] := by
  decide

end Exchange
end Workbench.Delivery

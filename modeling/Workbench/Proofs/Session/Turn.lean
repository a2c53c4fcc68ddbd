import Workbench.Session

/-!
What the task of a session can do in one turn.  A turn is what the task does between two points at which
others may look at the session: sockets and the runtime are its own, and of what it shares it touches each part
once.  All turns are of a few kinds, and whatever every kind keeps, every turn keeps.
-/

namespace Workbench.Session

/-- A turn of the task of a session.  Any of them may come next; one that does not fit the phase does
nothing. -/
inductive Move where
  | adopt (now : Instant)
  /-- The socket is lost while its client is told; only so many frames are sent after the first. -/
  | adoptPartly (frames : Nat) (now : Instant)
  | lose (now : Instant)
  /-- The loss of a socket is marked, however late. -/
  | markOffline (now : Instant)
  | takeNext
  /-- Follows the order to shut down. -/
  | stop
  /-- The runtime has ended. -/
  | leave
  | receive (frame : Frame)
  | produce (payload : Payload)
  | expire (now : Instant)
  | keepAlive (now : Instant)
  | finish

/-- An adoption that fails on the way, and the loss of the socket that follows. -/
def adoptPartly (s : Session) (frames : Nat) (now : Instant) : List Effect × Session :=
  let (sent, adopted) := s.adopt now
  let (lost, rest) := adopted.lose now
  (sent.take (frames + 1) ++ lost, rest)

def Move.act : Move → Session → List Effect × Session
  | .adopt now, s => s.adopt now
  | .adoptPartly frames now, s => s.adoptPartly frames now
  | .lose now, s => s.lose now
  | .markOffline now, s => ([], s.markOffline now)
  | .takeNext, s => s.takeNext
  | .stop, s => s.stop
  | .leave, s => s.leave
  | .receive frame, s => s.receive frame
  | .produce payload, s => s.produce payload
  | .expire now, s => s.expire now
  | .keepAlive now, s => s.keepAlive now
  | .finish, s => s.finish

/-- What a session does on a socket whose client has been told, or to its runtime. -/
def IsTalk (socket : SocketId) (effect : Effect) : Prop :=
  (∃ payload, effect = .deliver payload) ∨
    ∃ frame, effect = .send socket frame ∧ ∀ resumed, frame ≠ .ok resumed

/-- The session after its socket has been adopted. -/
def adopted (s : Session) (resumed : Bool) (phase : Phase) : Session :=
  { s with
    offlineSince := none
    pendingAttaches := if resumed then s.pendingAttaches - 1 else s.pendingAttaches
    phase }

/-- The session after it has been torn down. -/
def torn (s : Session) : Session :=
  { s with phase := .ending, disposed := true, offlineSince := none }

/-- The kinds of turns, with what each does.  Two of them may make one turn. -/
inductive Turn : Session → List Effect → Session → Prop where
  | quiet {s : Session} (delivery : Delivery Payload) : Turn s [] { s with delivery }
  | talk {s : Session} {socket : SocketId} {next : Instant}
      (hphase : s.phase = .online socket next) (delivery : Delivery Payload) (later : Instant)
      {said : List Effect} (htalk : ∀ effect ∈ said, IsTalk socket effect) :
      Turn s said { s with delivery, phase := .online socket later }
  | mark {s : Session} (now : Instant) : Turn s [] (s.markOffline now)
  | adopt {s : Session} {socket : SocketId} {resumed : Bool}
      (hphase : s.phase = .adopting socket resumed) (next : Instant)
      {said : List Effect} (htalk : ∀ effect ∈ said, IsTalk socket effect) :
      Turn s (.send socket (.ok resumed) :: said) (s.adopted resumed (.online socket next))
  | lose {s : Session} {socket : SocketId} {next : Instant}
      (hphase : s.phase = .online socket next) (now deadline : Instant) :
      Turn s [.close socket] { s.markOffline now with phase := .waiting deadline }
  | replace {s : Session} {socket : SocketId} {next : Instant}
      (hphase : s.phase = .online socket next) {newer : SocketId} {rest : List SocketId}
      (hqueue : s.queue = newer :: rest) :
      Turn s [.close socket] { s with queue := rest, phase := .adopting newer true }
  | resume {s : Session} {deadline : Instant} (hphase : s.phase = .waiting deadline)
      {newer : SocketId} {rest : List SocketId} (hqueue : s.queue = newer :: rest) :
      Turn s [] { s with queue := rest, phase := .adopting newer true }
  | part {s : Session} {socket : SocketId} {next : Instant}
      (hphase : s.phase = .online socket next) :
      Turn s [.send socket (.disconnect none), .close socket, .shutRuntime] s.torn
  | giveUp {s : Session} {deadline : Instant} (hphase : s.phase = .waiting deadline) :
      Turn s [.shutRuntime] s.torn
  | finish {s : Session} (hphase : s.phase = .ending) :
      Turn s (s.queue.map fun socket => .refuse socket (.sessionDisposed s.token))
        { s with queue := [], phase := .closed }
  | trans {s t u : Session} {first second : List Effect} (hfirst : Turn s first t)
      (hsecond : Turn t second u) : Turn s (first ++ second) u

section Kinds

variable (s : Session)

theorem replay_isTalk (socket : SocketId) {effect : Effect}
    (heffect : effect ∈ s.delivery.replay.map fun n => Effect.send socket (regular n)) :
    IsTalk socket effect := by
  obtain ⟨n, _, rfl⟩ := List.mem_map.1 heffect
  exact Or.inr ⟨_, rfl, by simp [regular]⟩

theorem adopt_turn (now : Instant) : Turn s (s.adopt now).1 (s.adopt now).2 := by
  cases hphase : s.phase with
  | adopting socket resumed =>
      simp only [Session.adopt, hphase]
      exact Turn.adopt hphase (now + keepAlivePeriod) fun _ => replay_isTalk s socket
  | online | waiting | ending | closed =>
      simp only [Session.adopt, hphase]
      exact Turn.quiet s.delivery

theorem lose_turn (now : Instant) : Turn s (s.lose now).1 (s.lose now).2 := by
  cases hphase : s.phase with
  | online socket next =>
      simp only [Session.lose, hphase]
      exact Turn.lose hphase now (now + s.grace)
  | adopting | waiting | ending | closed =>
      simp only [Session.lose, hphase]
      exact Turn.quiet s.delivery

theorem adoptPartly_turn (frames : Nat) (now : Instant) :
    Turn s (s.adoptPartly frames now).1 (s.adoptPartly frames now).2 := by
  cases hphase : s.phase with
  | adopting socket resumed =>
      simp only [Session.adoptPartly, Session.adopt, hphase, Session.lose, List.take_succ_cons,
        List.cons_append]
      rw [← List.cons_append]
      refine Turn.trans (Turn.adopt hphase (now + keepAlivePeriod) ?_)
        (Turn.lose rfl now (now + s.grace))
      intro effect heffect
      exact replay_isTalk s socket (List.mem_of_mem_take heffect)
  | online | waiting | ending | closed =>
      simp only [Session.adoptPartly, Session.adopt, hphase, List.take_nil, List.nil_append]
      exact lose_turn s now

theorem takeNext_turn : Turn s s.takeNext.1 s.takeNext.2 := by
  cases hqueue : s.queue with
  | nil =>
      simp only [Session.takeNext, hqueue]
      exact Turn.quiet s.delivery
  | cons newer rest =>
      cases hphase : s.phase with
      | online socket next =>
          simp only [Session.takeNext, hqueue, hphase]
          exact Turn.replace hphase hqueue
      | waiting deadline =>
          simp only [Session.takeNext, hqueue, hphase]
          exact Turn.resume hphase hqueue
      | adopting | ending | closed =>
          simp only [Session.takeNext, hqueue, hphase]
          exact Turn.quiet s.delivery

theorem leave_turn : Turn s s.leave.1 s.leave.2 := by
  cases hphase : s.phase with
  | online socket next =>
      simp only [Session.leave, hphase]
      exact Turn.part hphase
  | waiting deadline =>
      simp only [Session.leave, hphase]
      exact Turn.giveUp hphase
  | adopting | ending | closed =>
      simp only [Session.leave, hphase]
      exact Turn.quiet s.delivery

theorem stop_turn : Turn s s.stop.1 s.stop.2 := by
  rw [Session.stop]
  split
  · exact leave_turn s
  · exact Turn.quiet s.delivery

theorem receive_turn (frame : Frame) : Turn s (s.receive frame).1 (s.receive frame).2 := by
  cases hphase : s.phase with
  | online socket next =>
      cases frame with
      | regular seq ack payload =>
          simp only [Session.receive, hphase]
          refine Turn.talk hphase _ next ?_
          intro effect heffect
          rcases List.mem_append.1 heffect with hnew | hack
          · obtain ⟨new, _, rfl⟩ := Option.map_eq_some_iff.1 (Option.mem_toList.1 hnew)
            exact Or.inl ⟨new, rfl⟩
          · rw [List.mem_singleton.1 hack]
            exact Or.inr ⟨_, rfl, by simp⟩
      | ack ack =>
          simp only [Session.receive, hphase]
          exact Turn.talk hphase _ next fun _ hnone => absurd hnone List.not_mem_nil
      | disconnect reason =>
          simp only [Session.receive, hphase]
          exact leave_turn s
      | handshake | ok | error | keepAlive =>
          simp only [Session.receive, hphase]
          exact Turn.quiet s.delivery
  | adopting | waiting | ending | closed =>
      simp only [Session.receive, hphase]
      exact Turn.quiet s.delivery

theorem produce_turn (payload : Payload) :
    Turn s (s.produce payload).1 (s.produce payload).2 := by
  cases hphase : s.phase with
  | online socket next =>
      simp only [Session.produce, hphase]
      refine Turn.talk hphase _ next ?_
      intro effect heffect
      rw [List.mem_singleton.1 heffect]
      exact Or.inr ⟨_, rfl, by simp [regular]⟩
  | waiting deadline =>
      simp only [Session.produce, hphase]
      have hquiet := Turn.quiet (s := s) (s.delivery.enqueue payload).2
      rwa [hphase] at hquiet
  | adopting | ending | closed =>
      simp only [Session.produce, hphase]
      exact Turn.quiet s.delivery

theorem expire_turn (now : Instant) : Turn s (s.expire now).1 (s.expire now).2 := by
  simp only [Session.expire]
  split
  · split
    · exact leave_turn s
    · exact Turn.quiet s.delivery
  · exact Turn.quiet s.delivery

theorem keepAlive_turn (now : Instant) : Turn s (s.keepAlive now).1 (s.keepAlive now).2 := by
  cases hphase : s.phase with
  | online socket next =>
      simp only [Session.keepAlive, hphase]
      split
      · refine Turn.talk hphase s.delivery _ ?_
        intro effect heffect
        rw [List.mem_singleton.1 heffect]
        exact Or.inr ⟨_, rfl, by simp⟩
      · exact Turn.quiet s.delivery
  | adopting | waiting | ending | closed =>
      simp only [Session.keepAlive, hphase]
      exact Turn.quiet s.delivery

theorem finish_turn : Turn s s.finish.1 s.finish.2 := by
  cases hphase : s.phase with
  | ending =>
      simp only [Session.finish, hphase]
      exact Turn.finish hphase
  | adopting | online | waiting | closed =>
      simp only [Session.finish, hphase]
      exact Turn.quiet s.delivery

/-- Every turn is of one of the kinds. -/
theorem act_turn (m : Move) : Turn s (m.act s).1 (m.act s).2 := by
  cases m with
  | adopt now => exact adopt_turn s now
  | adoptPartly frames now => exact adoptPartly_turn s frames now
  | lose now => exact lose_turn s now
  | markOffline now => exact Turn.mark now
  | takeNext => exact takeNext_turn s
  | stop => exact stop_turn s
  | leave => exact leave_turn s
  | receive frame => exact receive_turn s frame
  | produce payload => exact produce_turn s payload
  | expire now => exact expire_turn s now
  | keepAlive now => exact keepAlive_turn s now
  | finish => exact finish_turn s

end Kinds

/-- Sockets that have been attached and whose clients have not been told, oldest first. -/
def unanswered (s : Session) : List SocketId :=
  match s.phase with
  | .adopting socket true => socket :: s.queue
  | _ => s.queue

/-- The runtime has been shut, or is about to be. -/
def isOver (s : Session) : Bool :=
  match s.phase with
  | .ending | .closed => true
  | _ => false

/-- What holds of a session whenever others may look at it. -/
structure Sound (s : Session) : Prop where
  disposed_eq : s.disposed = s.isOver
  offline_disposed : s.disposed = true → s.offlineSince = none
  offline_pending : 0 < s.pendingAttaches → s.offlineSince = none
  pending_eq : s.disposed = false → s.pendingAttaches = s.unanswered.length
  queue_closed : s.phase = .closed → s.queue = []

theorem start_sound (token : String) (kind : ConnectionKind) (grace : Nat) (socket : SocketId) :
    (start token kind grace socket).Sound :=
  ⟨rfl, nofun, nofun, fun _ => rfl, nofun⟩

/-- Marking the loss of a socket changes the time of the loss only, and not even that while another
socket is on its way. -/
theorem markOffline_eq (s : Session) (now : Instant) :
    s.markOffline now = { s with offlineSince := (s.markOffline now).offlineSince } := by
  rw [markOffline]
  split <;> rfl

theorem markOffline_of_disposed {s : Session} (hdisposed : s.disposed = true) (now : Instant) :
    s.markOffline now = s := by
  simp [markOffline, hdisposed]

theorem markOffline_of_pending {s : Session} (hpending : 0 < s.pendingAttaches)
    (now : Instant) : s.markOffline now = s := by
  simp [markOffline, hpending]

theorem Sound.markOffline {s : Session} (hsound : s.Sound) (now : Instant) :
    (s.markOffline now).Sound := by
  cases hdisposed : s.disposed with
  | true => rwa [markOffline_of_disposed hdisposed]
  | false =>
      rcases Nat.eq_zero_or_pos s.pendingAttaches with hzero | hpending
      · rw [markOffline_eq]
        refine { hsound with offline_disposed := ?_, offline_pending := ?_ }
        · intro htrue
          exact Bool.noConfusion (hdisposed.symm.trans htrue)
        · intro hpositive
          exact absurd hpositive (hzero ▸ Nat.lt_irrefl 0)
      · rwa [markOffline_of_pending hpending]

theorem Sound.adopted {s : Session} (hsound : s.Sound) {socket : SocketId} {resumed : Bool}
    (hphase : s.phase = .adopting socket resumed) (next : Instant) :
    (s.adopted resumed (.online socket next)).Sound := by
  have hover := hsound.disposed_eq
  rw [isOver, hphase] at hover
  have hpending := hsound.pending_eq hover
  rw [unanswered, hphase] at hpending
  refine ⟨hover, fun _ => rfl, fun _ => rfl, fun _ => ?_, fun hclosed => by cases hclosed⟩
  cases resumed with
  | false => exact hpending
  | true =>
      show s.pendingAttaches - 1 = s.queue.length
      rw [hpending, List.length_cons, Nat.add_sub_cancel]

/-- Only the phase and the queue change, and no socket is forgotten. -/
theorem Sound.of_unanswered {s : Session} (hsound : s.Sound) (phase : Phase)
    (queue : List SocketId) (hover : s.isOver = false)
    (hphase : ({ s with phase, queue } : Session).isOver = false)
    (hsame : ({ s with phase, queue } : Session).unanswered = s.unanswered) :
    ({ s with phase, queue } : Session).Sound := by
  have hdisposed : s.disposed = false := hsound.disposed_eq.trans hover
  refine { hsound with
    disposed_eq := hdisposed.trans hphase.symm
    pending_eq := fun _ => ?_
    queue_closed := ?_ }
  · rw [hsame]
    exact hsound.pending_eq hdisposed
  · intro hclosed
    have hclosed' : phase = .closed := hclosed
    rw [hclosed'] at hphase
    cases hphase

theorem Sound.torn {s : Session} (_ : s.Sound) : s.torn.Sound :=
  ⟨rfl, fun _ => rfl, fun _ => rfl, nofun, nofun⟩

/-- Every turn keeps the books of the session right. -/
theorem Turn.sound {s t : Session} {effects : List Effect} (hturn : Turn s effects t)
    (hsound : s.Sound) : t.Sound := by
  induction hturn with
  | quiet delivery => exact { hsound with }
  | @talk s socket _ hphase delivery later _ htalk =>
      have hover : s.isOver = false := by rw [isOver, hphase]
      have hsame := hsound.of_unanswered (.online socket later) s.queue hover rfl
        (by simp only [unanswered, hphase])
      exact { hsame with }
  | mark now => exact hsound.markOffline now
  | adopt hphase next htalk => exact hsound.adopted hphase next
  | @lose s _ _ hphase now deadline =>
      have hmarked := hsound.markOffline now
      rw [markOffline_eq] at hmarked ⊢
      apply hmarked.of_unanswered _ s.queue _ rfl _
      · simp only [isOver, hphase]
      · simp only [unanswered, hphase]
  | replace hphase hqueue =>
      apply hsound.of_unanswered _ _ _ rfl _
      · rw [isOver, hphase]
      · simp only [unanswered, hphase, hqueue]
  | resume hphase hqueue =>
      apply hsound.of_unanswered _ _ _ rfl _
      · rw [isOver, hphase]
      · simp only [unanswered, hphase, hqueue]
  | part hphase => exact hsound.torn
  | giveUp hphase => exact hsound.torn
  | finish hphase =>
      have hover := hsound.disposed_eq
      rw [isOver, hphase] at hover
      refine { hsound with
        disposed_eq := hover
        pending_eq := fun hnot => Bool.noConfusion (hover.symm.trans hnot)
        queue_closed := fun _ => rfl }
  | trans _ _ ihfirst ihsecond => exact ihsecond (ihfirst hsound)

/-- The session with one more socket in its queue. -/
def attached (s : Session) (socket : SocketId) : Session :=
  { s with
    offlineSince := none
    pendingAttaches := s.pendingAttaches + 1
    queue := s.queue ++ [socket] }

theorem reconnect_of_disposed {s : Session} (hdisposed : s.disposed = true) (socket : SocketId) :
    s.reconnect socket = .error (.sessionDisposed s.token) := by
  rw [Session.reconnect, if_pos hdisposed]

theorem reconnect_of_live {s : Session} (hlive : s.disposed = false) (socket : SocketId) :
    s.reconnect socket = .ok (s.attached socket) := by
  rw [Session.reconnect, if_neg (by simp [hlive])]
  rfl

theorem unanswered_attached (s : Session) (socket : SocketId) :
    (s.attached socket).unanswered = s.unanswered ++ [socket] := by
  simp only [unanswered, attached]
  split <;> rfl

theorem Sound.attached {s : Session} (hsound : s.Sound) (hlive : s.disposed = false)
    (socket : SocketId) : (s.attached socket).Sound := by
  refine { hsound with
    offline_disposed := fun _ => rfl
    offline_pending := fun _ => rfl
    pending_eq := fun _ => ?_
    queue_closed := fun hclosed => ?_ }
  · rw [unanswered_attached, List.length_append, ← hsound.pending_eq hlive]
    rfl
  · have hover := hsound.disposed_eq
    rw [isOver, show s.phase = .closed from hclosed, hlive] at hover
    cases hover

theorem Sound.dispose {s : Session} (hsound : s.Sound) : s.dispose.Sound := { hsound with }

/-- What nothing takes back. -/
structure Follows (t s : Session) : Prop where
  token_eq : t.token = s.token
  kind_eq : t.kind = s.kind
  disposed : s.disposed = true → t.disposed = true
  stopping : s.stopping = true → t.stopping = true
  sound : s.Sound → t.Sound

theorem Follows.refl (s : Session) : s.Follows s := ⟨rfl, rfl, id, id, id⟩

theorem Follows.trans {u t s : Session} (hlater : u.Follows t) (hfirst : t.Follows s) :
    u.Follows s :=
  ⟨hlater.token_eq.trans hfirst.token_eq, hlater.kind_eq.trans hfirst.kind_eq,
    hlater.disposed ∘ hfirst.disposed, hlater.stopping ∘ hfirst.stopping,
    hlater.sound ∘ hfirst.sound⟩

theorem Turn.follows {s t : Session} {effects : List Effect} (hturn : Turn s effects t) :
    t.Follows s := by
  have hsound : s.Sound → t.Sound := hturn.sound
  induction hturn with
  | quiet | talk | adopt | replace | resume | finish => exact ⟨rfl, rfl, id, id, hsound⟩
  | mark now =>
      rw [markOffline_eq] at hsound ⊢
      exact ⟨rfl, rfl, id, id, hsound⟩
  | lose hphase now deadline =>
      rw [markOffline_eq] at hsound ⊢
      exact ⟨rfl, rfl, id, id, hsound⟩
  | part | giveUp => exact ⟨rfl, rfl, fun _ => rfl, id, hsound⟩
  | trans hfirst hsecond ihfirst ihsecond =>
      exact (ihsecond hsecond.sound).trans (ihfirst hfirst.sound)

theorem act_follows (s : Session) (m : Move) : (m.act s).2.Follows s := (act_turn s m).follows

/-- The session after these turns of its task. -/
def turns (s : Session) (moves : List Move) : Session := moves.foldl (fun s m => (m.act s).2) s

theorem turns_follows (s : Session) (moves : List Move) : (s.turns moves).Follows s := by
  induction moves generalizing s with
  | nil => exact Follows.refl s
  | cons m moves ih => exact (ih (m.act s).2).trans (act_follows s m)

theorem attached_follows {s : Session} (hlive : s.disposed = false) (socket : SocketId) :
    (s.attached socket).Follows s :=
  ⟨rfl, rfl, id, id, fun hsound => hsound.attached hlive socket⟩

theorem dispose_follows (s : Session) : s.dispose.Follows s :=
  ⟨rfl, rfl, id, fun _ => rfl, Sound.dispose⟩

end Workbench.Session

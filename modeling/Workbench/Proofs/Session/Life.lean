import Mathlib.Data.List.Nodup
import Workbench.Proofs.Session.Turn

/-!
The life of a session: its task takes turns, sockets are attached and the order to shut down is given, in
any order.  Every socket that has been attached is told that the session was found again, before anything
else is sent on it, or is refused when the session is torn down.
-/

namespace Workbench

namespace Effect

/-- Whether an effect is on a socket. -/
def isOn (socket : SocketId) : Effect → Bool
  | .send other _ | .close other | .refuse other _ => other == socket
  | .deliver _ | .shutRuntime => false

/-- The socket whose client is told that its session was found again. -/
def adopted? : Effect → Option SocketId
  | .send socket (.ok true) => some socket
  | _ => none

def refused? : Effect → Option SocketId
  | .refuse socket _ => some socket
  | _ => none

def isShut : Effect → Bool
  | .shutRuntime => true
  | _ => false

end Effect

/-- A session with a record of what has become of it. -/
structure Life where
  session : Session
  /-- The socket that it started on. -/
  first : SocketId
  /-- Everything that it has done, in order. -/
  log : List Effect := []
  /-- Sockets that have been attached, in order. -/
  accepted : List SocketId := []
  /-- Sockets that were handed back, with the reason. -/
  returned : List (SocketId × Fault) := []

namespace Life

/-- What can happen in the life of a session. -/
inductive Event where
  | reconnect (socket : SocketId)
  /-- The session is told to shut down. -/
  | dispose
  /-- Its task takes a turn. -/
  | task (m : Session.Move)

def start (token : String) (kind : ConnectionKind) (grace : Nat) (socket : SocketId) : Life where
  session := .start token kind grace socket
  first := socket

/-- A socket that the session has taken is nobody else's, so that it cannot be attached again. -/
def step (l : Life) : Event → Life
  | .reconnect socket =>
    if socket ∈ l.first :: l.accepted then l
    else match l.session.reconnect socket with
      | .ok session => { l with session, accepted := l.accepted ++ [socket] }
      | .error fault => { l with returned := l.returned ++ [(socket, fault)] }
  | .dispose => { l with session := l.session.dispose }
  | .task m =>
    let (effects, session) := m.act l.session
    { l with session, log := l.log ++ effects }

def after (l : Life) (events : List Event) : Life := events.foldl step l

/-- Everything that has been done on a socket, in order. -/
def effectsOn (effects : List Effect) (socket : SocketId) : List Effect :=
  effects.filter (Effect.isOn socket)

/-- Sockets whose clients have been told that their session was found again. -/
def adoptions (effects : List Effect) : List SocketId := effects.filterMap Effect.adopted?

def refusals (effects : List Effect) : List SocketId := effects.filterMap Effect.refused?

/-- How many times the runtime has been shut. -/
def shutdowns (effects : List Effect) : Nat := effects.countP Effect.isShut

/-- The client of a socket has been told, before anything else, that its session was found again. -/
def Adopted (l : Life) (socket : SocketId) : Prop :=
  (effectsOn l.log socket).head? = some (.send socket (.ok true))

/-- All that a client was told is that the session has been torn down. -/
def Refused (l : Life) (socket : SocketId) : Prop :=
  effectsOn l.log socket = [.refuse socket (.sessionDisposed l.session.token)]

section Logs

variable (effects more : List Effect)

theorem effectsOn_append (socket : SocketId) :
    effectsOn (effects ++ more) socket = effectsOn effects socket ++ effectsOn more socket :=
  List.filter_append effects more

theorem adoptions_append : adoptions (effects ++ more) = adoptions effects ++ adoptions more :=
  List.filterMap_append

theorem refusals_append : refusals (effects ++ more) = refusals effects ++ refusals more :=
  List.filterMap_append

theorem shutdowns_append : shutdowns (effects ++ more) = shutdowns effects + shutdowns more :=
  List.countP_append

theorem refusals_send (socket : SocketId) (frame : Frame) :
    refusals (.send socket frame :: more) = refusals more := rfl

theorem shutdowns_send (socket : SocketId) (frame : Frame) :
    shutdowns (.send socket frame :: more) = shutdowns more :=
  List.countP_cons_of_neg nofun

theorem effectsOn_send (socket : SocketId) (frame : Frame) :
    effectsOn (.send socket frame :: more) socket = .send socket frame :: effectsOn more socket :=
  List.filter_cons_of_pos (by simp [Effect.isOn])

theorem effectsOn_send_of_ne {socket other : SocketId} (hne : other ≠ socket) (frame : Frame) :
    effectsOn (.send other frame :: more) socket = effectsOn more socket :=
  List.filter_cons_of_neg (by simpa [Effect.isOn] using hne)

theorem effectsOn_close_of_ne {socket other : SocketId} (hne : other ≠ socket) :
    effectsOn (.close other :: more) socket = effectsOn more socket :=
  List.filter_cons_of_neg (by simpa [Effect.isOn] using hne)

end Logs

section Talk

variable {socket : SocketId} {said : List Effect}

theorem adoptions_talk (htalk : ∀ effect ∈ said, Session.IsTalk socket effect) :
    adoptions said = [] := by
  rw [adoptions, List.filterMap_eq_nil_iff]
  intro effect heffect
  rcases htalk effect heffect with ⟨payload, rfl⟩ | ⟨frame, rfl, hframe⟩
  · rfl
  · cases frame with
    | ok resumed => exact absurd rfl (hframe resumed)
    | handshake | error | regular | ack | keepAlive | disconnect => rfl

theorem refusals_talk (htalk : ∀ effect ∈ said, Session.IsTalk socket effect) :
    refusals said = [] := by
  rw [refusals, List.filterMap_eq_nil_iff]
  intro effect heffect
  rcases htalk effect heffect with ⟨payload, rfl⟩ | ⟨frame, rfl, _⟩ <;> rfl

theorem shutdowns_talk (htalk : ∀ effect ∈ said, Session.IsTalk socket effect) :
    shutdowns said = 0 := by
  rw [shutdowns, List.countP_eq_zero]
  intro effect heffect
  rcases htalk effect heffect with ⟨payload, rfl⟩ | ⟨frame, rfl, _⟩ <;> simp [Effect.isShut]

theorem effectsOn_talk (htalk : ∀ effect ∈ said, Session.IsTalk socket effect)
    {other : SocketId} (hother : other ≠ socket) : effectsOn said other = [] := by
  rw [effectsOn, List.filter_eq_nil_iff]
  intro effect heffect
  rcases htalk effect heffect with ⟨payload, rfl⟩ | ⟨frame, rfl, _⟩
  · simp [Effect.isOn]
  · simpa [Effect.isOn] using hother.symm

end Talk

section Refusing

variable (sockets : List SocketId) (fault : Fault)

theorem adoptions_refuse : adoptions (sockets.map fun socket => .refuse socket fault) = [] := by
  simp [adoptions, Effect.adopted?]

theorem refusals_refuse :
    refusals (sockets.map fun socket => .refuse socket fault) = sockets := by
  rw [refusals, List.filterMap_map]
  exact List.filterMap_some

theorem shutdowns_refuse : shutdowns (sockets.map fun socket => .refuse socket fault) = 0 := by
  simp [shutdowns, Effect.isShut]

theorem effectsOn_refuse_of_not_mem {socket : SocketId} (hsocket : socket ∉ sockets) :
    effectsOn (sockets.map fun socket => .refuse socket fault) socket = [] := by
  rw [effectsOn, List.filter_eq_nil_iff]
  intro effect heffect
  obtain ⟨other, hother, rfl⟩ := List.mem_map.1 heffect
  have hne : other ≠ socket := fun heq => hsocket (heq ▸ hother)
  simpa [Effect.isOn] using hne

theorem effectsOn_refuse_of_mem (hnodup : sockets.Nodup) {socket : SocketId}
    (hsocket : socket ∈ sockets) :
    effectsOn (sockets.map fun socket => .refuse socket fault) socket = [.refuse socket fault] := by
  induction sockets with
  | nil => exact absurd hsocket List.not_mem_nil
  | cons head rest ih =>
      rw [List.nodup_cons] at hnodup
      rcases List.mem_cons.1 hsocket with rfl | hrest
      · rw [List.map_cons, effectsOn, List.filter_cons_of_pos (by simp [Effect.isOn]), ← effectsOn,
          effectsOn_refuse_of_not_mem rest fault hnodup.1]
      · have hne : head ≠ socket := fun heq => hnodup.1 (heq ▸ hrest)
        rw [List.map_cons, effectsOn, List.filter_cons_of_neg (by simpa [Effect.isOn] using hne)]
        exact ih hnodup.2 hrest

end Refusing

end Life

/-- The socket that a session uses, other than those whose clients wait to be told. -/
def Session.held? (s : Session) : Option SocketId :=
  match s.phase with
  | .online socket _ | .adopting socket false => some socket
  | _ => none

namespace Life

/-- Sockets whose clients have been told, or that the session started on. -/
def told (l : Life) : List SocketId := l.first :: (adoptions l.log ++ refusals l.log)

/-- What holds of the record of a session at any time. -/
structure Sound (l : Life) : Prop where
  session : l.session.Sound
  owned_nodup : (l.first :: l.accepted).Nodup
  accepted_eq : l.accepted = adoptions l.log ++ refusals l.log ++ l.session.unanswered
  held : ∀ socket ∈ l.session.held?, socket = l.first ∨ socket ∈ adoptions l.log
  untouched : ∀ socket, socket ∉ l.told → effectsOn l.log socket = []
  adopted : ∀ socket ∈ adoptions l.log, l.Adopted socket
  refused : ∀ socket ∈ refusals l.log, l.Refused socket
  refusals_closed : refusals l.log ≠ [] → l.session.phase = .closed
  shutdowns_eq : shutdowns l.log = if l.session.disposed then 1 else 0
  returned_disposed : ∀ entry ∈ l.returned, entry.2 = .sessionDisposed l.session.token

theorem start_sound (token : String) (kind : ConnectionKind) (grace : Nat) (socket : SocketId) :
    (start token kind grace socket).Sound where
  session := Session.start_sound token kind grace socket
  owned_nodup := List.nodup_singleton socket
  accepted_eq := rfl
  held := fun _ hheld => Or.inl (Option.some.inj hheld).symm
  untouched := fun _ _ => rfl
  adopted := fun _ hsocket => absurd hsocket List.not_mem_nil
  refused := fun _ hsocket => absurd hsocket List.not_mem_nil
  refusals_closed := fun hne => absurd rfl hne
  shutdowns_eq := rfl
  returned_disposed := fun _ hentry => absurd hentry List.not_mem_nil

/-- The record after a turn. -/
def turned (l : Life) (effects : List Effect) (session : Session) : Life :=
  { l with session, log := l.log ++ effects }

theorem mem_told_turned (l : Life) (effects : List Effect) (session : Session)
    {socket : SocketId} : socket ∈ (l.turned effects session).told ↔
      socket ∈ l.told ∨ socket ∈ adoptions effects ∨ socket ∈ refusals effects := by
  simp only [told, turned, adoptions_append, refusals_append, List.mem_cons, List.mem_append]
  tauto

namespace Sound

variable {l : Life}

/-- A socket whose client waits to be told is not among those that have been answered. -/
theorem unanswered_fresh (hsound : l.Sound) {socket : SocketId}
    (hsocket : socket ∈ l.session.unanswered) : socket ∉ l.told := by
  have hnodup := hsound.owned_nodup
  rw [hsound.accepted_eq, ← List.cons_append, List.nodup_append] at hnodup
  intro hanswered
  exact hnodup.2.2 socket hanswered socket hsocket rfl

theorem refusals_nil (hsound : l.Sound) (hphase : l.session.phase ≠ .closed) :
    refusals l.log = [] := by
  by_contra hne
  exact hphase (hsound.refusals_closed hne)

theorem held_told (hsound : l.Sound) {socket : SocketId} (hheld : socket ∈ l.session.held?) :
    socket ∈ l.told := by
  rcases hsound.held socket hheld with rfl | hadopted
  · exact List.mem_cons_self
  · exact List.mem_cons_of_mem _ (List.mem_append_left _ hadopted)

/-- A turn tells clients that wait, in one of two ways, and uses no other socket but the one it holds. -/
theorem record (hsound : l.Sound) {effects : List Effect} {t : Session} (ht : t.Sound)
    (htoken : t.token = l.session.token)
    (haccepted : l.accepted =
      adoptions (l.log ++ effects) ++ refusals (l.log ++ effects) ++ t.unanswered)
    (hheld : ∀ socket ∈ t.held?, socket ∈ l.session.held? ∨ socket ∈ adoptions effects)
    (hwaited : ∀ socket, socket ∈ adoptions effects ∨ socket ∈ refusals effects →
      socket ∈ l.session.unanswered)
    (hadopted : ∀ socket ∈ adoptions effects,
      (effectsOn effects socket).head? = some (.send socket (.ok true)))
    (hrefused : ∀ socket ∈ refusals effects,
      effectsOn effects socket = [.refuse socket (.sessionDisposed l.session.token)])
    (hon : ∀ socket, socket ∉ l.session.held? → socket ∉ adoptions effects →
      socket ∉ refusals effects → effectsOn effects socket = [])
    (hclosed : l.session.phase = .closed ∨ refusals effects ≠ [] → t.phase = .closed)
    (hshut : (if l.session.disposed then 1 else 0) + shutdowns effects =
      if t.disposed then 1 else 0) : (l.turned effects t).Sound := by
  have hnew : ∀ socket, socket ∈ adoptions effects ∨ socket ∈ refusals effects →
      effectsOn l.log socket = [] := fun socket hsocket =>
    hsound.untouched socket (hsound.unanswered_fresh (hwaited socket hsocket))
  refine {
    session := ht
    owned_nodup := hsound.owned_nodup
    accepted_eq := haccepted
    held := ?_
    untouched := ?_
    adopted := ?_
    refused := ?_
    refusals_closed := ?_
    shutdowns_eq := ?_
    returned_disposed := htoken ▸ hsound.returned_disposed }
  · intro socket hsocket
    show socket = l.first ∨ socket ∈ adoptions (l.log ++ effects)
    rw [adoptions_append, List.mem_append, ← or_assoc]
    exact (hheld socket hsocket).imp_left (hsound.held socket)
  · intro socket hsocket
    rw [mem_told_turned, not_or, not_or] at hsocket
    obtain ⟨htold, hnotAdopted, hnotRefused⟩ := hsocket
    have hnotHeld : socket ∉ l.session.held? := fun hmem => htold (hsound.held_told hmem)
    show effectsOn (l.log ++ effects) socket = []
    rw [effectsOn_append, hsound.untouched socket htold, hon socket hnotHeld hnotAdopted hnotRefused]
    rfl
  · intro socket hsocket
    rw [turned, adoptions_append, List.mem_append] at hsocket
    show (effectsOn (l.log ++ effects) socket).head? = _
    rw [effectsOn_append]
    rcases hsocket with hbefore | hnow
    · rw [List.head?_append, hsound.adopted socket hbefore]
      rfl
    · rw [hnew socket (Or.inl hnow), List.nil_append, hadopted socket hnow]
  · intro socket hsocket
    rw [turned, refusals_append, List.mem_append] at hsocket
    show effectsOn (l.log ++ effects) socket = [.refuse socket (.sessionDisposed t.token)]
    rw [effectsOn_append, htoken]
    rcases hsocket with hbefore | hnow
    · -- A closed session holds no socket and no client waits any more.
      have hphase := hsound.refusals_closed (List.ne_nil_of_mem hbefore)
      have htold : socket ∈ l.told := List.mem_cons_of_mem _ (List.mem_append_right _ hbefore)
      have hnotHeld : socket ∉ l.session.held? := by
        rw [Session.held?, hphase]
        exact Option.not_mem_none socket
      have hnotNow : ∀ h : socket ∈ adoptions effects ∨ socket ∈ refusals effects, False :=
        fun h => hsound.unanswered_fresh (hwaited socket h) htold
      rw [hsound.refused socket hbefore, hon socket hnotHeld (hnotNow ∘ Or.inl)
        (hnotNow ∘ Or.inr), List.append_nil]
    · rw [hnew socket (Or.inr hnow), List.nil_append, hrefused socket hnow]
  · intro hne
    rw [turned, refusals_append] at hne
    by_cases hbefore : refusals l.log = []
    · exact hclosed (Or.inr (by rwa [hbefore, List.nil_append] at hne))
    · exact hclosed (Or.inl (hsound.refusals_closed hbefore))
  · show shutdowns (l.log ++ effects) = _
    rw [shutdowns_append, hsound.shutdowns_eq]
    exact hshut

theorem held_of_none {s t : Session} (hnone : t.held? = none) :
    ∀ socket ∈ t.held?, socket ∈ s.held? := by
  simp [hnone]

/-- A turn that neither adopts nor refuses a socket. -/
theorem extend (hsound : l.Sound) {effects : List Effect} {t : Session} (ht : t.Sound)
    (htoken : t.token = l.session.token) (hunanswered : t.unanswered = l.session.unanswered)
    (hheld : ∀ socket ∈ t.held?, socket ∈ l.session.held?)
    (hclosed : l.session.phase = .closed → t.phase = .closed)
    (hadoptions : adoptions effects = []) (hrefusals : refusals effects = [])
    (hon : ∀ socket, socket ∉ l.session.held? → effectsOn effects socket = [])
    (hshut : (if l.session.disposed then 1 else 0) + shutdowns effects =
      if t.disposed then 1 else 0) : (l.turned effects t).Sound := by
  apply hsound.record ht htoken _ (fun socket hsocket => Or.inl (hheld socket hsocket)) _ _ _
    (fun socket hsocket _ _ => hon socket hsocket) _ hshut
  · rw [adoptions_append, refusals_append, hadoptions, hrefusals, List.append_nil, List.append_nil,
      hunanswered]
    exact hsound.accepted_eq
  · rw [hadoptions, hrefusals]
    exact fun _ hsocket => absurd hsocket (by simp)
  · simp [hadoptions]
  · simp [hrefusals]
  · rw [hrefusals]
    exact fun hor => hclosed (hor.resolve_right fun hne => hne rfl)

/-- The client of an attached socket is told, before anything else. -/
theorem adopt (hsound : l.Sound) {socket : SocketId}
    (hphase : l.session.phase = .adopting socket true) (next : Instant) {said : List Effect}
    (htalk : ∀ effect ∈ said, Session.IsTalk socket effect) :
    (l.turned (.send socket (.ok true) :: said)
      (l.session.adopted true (.online socket next))).Sound := by
  have hunanswered : l.session.unanswered = socket :: l.session.queue := by
    rw [Session.unanswered, hphase]
  have hadoptions : adoptions (.send socket (.ok true) :: said) = [socket] :=
    congrArg (socket :: ·) (adoptions_talk htalk)
  have hrefusals : refusals (.send socket (.ok true) :: said) = [] := by
    rw [refusals_send, refusals_talk htalk]
  apply hsound.record (hsound.session.adopted hphase next) rfl
  · rw [adoptions_append, refusals_append, hadoptions, hrefusals, hsound.accepted_eq, hunanswered,
      hsound.refusals_nil (by simp [hphase])]
    simp [Session.unanswered, Session.adopted]
  · intro other hother
    cases hother
    exact Or.inr (hadoptions ▸ List.mem_cons_self)
  · rw [hadoptions, hrefusals, hunanswered]
    simp
  · rw [hadoptions]
    intro other hother
    rw [List.mem_singleton.1 hother, effectsOn_send, List.head?_cons]
  · simp [hrefusals]
  · intro other _ hother _
    have hne : other ≠ socket := by
      rintro rfl
      exact hother (hadoptions ▸ List.mem_cons_self)
    rw [effectsOn_send_of_ne _ hne.symm, effectsOn_talk htalk hne]
  · rw [hphase, hrefusals]
    simp
  · rw [shutdowns_send, shutdowns_talk htalk, Nat.add_zero]
    rfl

/-- The sockets that came too late are refused. -/
theorem finish (hsound : l.Sound) (hphase : l.session.phase = .ending) :
    (l.turned (l.session.queue.map fun socket =>
        .refuse socket (.sessionDisposed l.session.token))
      { l.session with queue := [], phase := .closed }).Sound := by
  have hunanswered : l.session.unanswered = l.session.queue := by
    rw [Session.unanswered, hphase]
  have hnodup : l.session.queue.Nodup := by
    have hnodup := hsound.owned_nodup.of_cons
    rw [hsound.accepted_eq, hunanswered, List.nodup_append] at hnodup
    exact hnodup.2.1
  have ht := (Session.Turn.finish hphase).sound hsound.session
  apply hsound.record ht rfl
  · rw [adoptions_append, refusals_append, adoptions_refuse, refusals_refuse, hsound.accepted_eq,
      hunanswered, hsound.refusals_nil (by simp [hphase])]
    simp [Session.unanswered]
  · exact fun socket hheld => absurd hheld (Option.not_mem_none socket)
  · rw [adoptions_refuse, refusals_refuse, hunanswered]
    simp
  · simp [adoptions_refuse]
  · rw [refusals_refuse]
    exact fun socket => effectsOn_refuse_of_mem _ _ hnodup
  · rw [refusals_refuse]
    exact fun socket _ _ => effectsOn_refuse_of_not_mem _ _
  · exact fun _ => rfl
  · rw [shutdowns_refuse, Nat.add_zero]

/-- Tearing down shuts the runtime, for the first and only time. -/
theorem tear (hsound : l.Sound) (hover : l.session.isOver = false) {effects : List Effect}
    (hadoptions : adoptions effects = []) (hrefusals : refusals effects = [])
    (hon : ∀ socket, socket ∉ l.session.held? → effectsOn effects socket = [])
    (hshut : shutdowns effects = 1)
    (hunanswered : l.session.unanswered = l.session.queue) :
    (l.turned effects l.session.torn).Sound := by
  apply hsound.extend hsound.session.torn rfl hunanswered.symm (held_of_none rfl) _ hadoptions
    hrefusals hon
  · rw [hsound.session.disposed_eq, hover, hshut]
    rfl
  · intro hclosed
    rw [Session.isOver, hclosed] at hover
    cases hover

theorem ne_of_not_held {s : Session} {socket : SocketId} {next : Instant}
    (hphase : s.phase = .online socket next) {other : SocketId} (hother : other ∉ s.held?) :
    socket ≠ other := by
  rintro rfl
  exact hother (by rw [Session.held?, hphase]; rfl)

/-- Closing the socket that is held is no matter to any other. -/
theorem closing_effectsOn {s : Session} {socket : SocketId} {next : Instant}
    (hphase : s.phase = .online socket next) (other : SocketId) (hother : other ∉ s.held?) :
    effectsOn [.close socket] other = [] := by
  rw [effectsOn_close_of_ne _ (ne_of_not_held hphase hother)]
  rfl

/-- Whatever the kind of a turn, the record stays right. -/
theorem turn {s t : Session} {effects : List Effect} (hturn : Session.Turn s effects t) :
    ∀ {l : Life}, l.session = s → l.Sound → (l.turned effects t).Sound := by
  induction hturn with
  | quiet delivery =>
      rintro l rfl hsound
      exact hsound.extend { hsound.session with } rfl rfl (fun _ => id) id rfl rfl
        (fun _ _ => rfl) rfl
  | @talk s socket next hphase delivery later said htalk =>
      rintro l rfl hsound
      have ht := (Session.Turn.talk hphase delivery later htalk).sound hsound.session
      have hheld : l.session.held? = some socket := by rw [Session.held?, hphase]
      apply hsound.extend ht rfl _ _ _ (adoptions_talk htalk) (refusals_talk htalk)
      · intro other hother
        apply effectsOn_talk htalk
        rintro rfl
        exact hother hheld
      · rw [shutdowns_talk htalk, Nat.add_zero]
      · simp only [Session.unanswered, hphase]
      · rw [hheld]
        exact fun _ => id
      · simp [hphase]
  | mark now =>
      rintro l rfl hsound
      have ht := hsound.session.markOffline now
      rw [Session.markOffline_eq] at ht ⊢
      exact hsound.extend ht rfl rfl (fun _ => id) id rfl rfl (fun _ _ => rfl) rfl
  | @adopt s socket resumed hphase next said htalk =>
      rintro l rfl hsound
      cases resumed with
      | true => exact hsound.adopt hphase next htalk
      | false =>
          have ht := hsound.session.adopted hphase next
          have hheld : l.session.held? = some socket := by rw [Session.held?, hphase]
          have hadoptions : adoptions (.send socket (.ok false) :: said) = [] := by
            show adoptions said = []
            exact adoptions_talk htalk
          have hrefusals : refusals (.send socket (.ok false) :: said) = [] := by
            rw [refusals_send, refusals_talk htalk]
          apply hsound.extend ht rfl _ _ _ hadoptions hrefusals
          · intro other hother
            have hne : other ≠ socket := by
              rintro rfl
              exact hother hheld
            rw [effectsOn_send_of_ne _ hne.symm, effectsOn_talk htalk hne]
          · rw [shutdowns_send, shutdowns_talk htalk, Nat.add_zero]
            rfl
          · simp only [Session.unanswered, Session.adopted, hphase]
          · rw [hheld]
            exact fun _ => id
          · simp [hphase]
  | @lose s socket next hphase now deadline =>
      rintro l rfl hsound
      have ht := (Session.Turn.lose hphase now deadline).sound hsound.session
      rw [Session.markOffline_eq] at ht ⊢
      apply hsound.extend ht rfl _ (held_of_none rfl) _ rfl rfl (closing_effectsOn hphase) rfl
      · simp only [Session.unanswered, hphase]
      · simp [hphase]
  | replace hphase hqueue =>
      rintro l rfl hsound
      have ht := (Session.Turn.replace hphase hqueue).sound hsound.session
      apply hsound.extend ht rfl _ (held_of_none rfl) _ rfl rfl (closing_effectsOn hphase) rfl
      · simp only [Session.unanswered, hphase, hqueue]
      · simp [hphase]
  | resume hphase hqueue =>
      rintro l rfl hsound
      have ht := (Session.Turn.resume hphase hqueue).sound hsound.session
      apply hsound.extend ht rfl _ (held_of_none rfl) _ rfl rfl (fun _ _ => rfl) rfl
      · simp only [Session.unanswered, hphase, hqueue]
      · simp [hphase]
  | @part s socket next hphase =>
      rintro l rfl hsound
      apply hsound.tear _ rfl rfl _ rfl
      · simp only [Session.unanswered, hphase]
      · rw [Session.isOver, hphase]
      · intro other hother
        have hne := ne_of_not_held hphase hother
        rw [effectsOn_send_of_ne _ hne, effectsOn_close_of_ne _ hne]
        rfl
  | giveUp hphase =>
      rintro l rfl hsound
      apply hsound.tear _ rfl rfl (fun _ _ => rfl) rfl
      · simp only [Session.unanswered, hphase]
      · rw [Session.isOver, hphase]
  | finish hphase =>
      rintro l rfl hsound
      exact hsound.finish hphase
  | @trans s t u first second _ _ ihfirst ihsecond =>
      intro l hsession hsound
      have hboth := ihsecond (l := l.turned first t) rfl (ihfirst hsession hsound)
      rwa [turned, turned, List.append_assoc] at hboth

theorem attached (hsound : l.Sound) (hlive : l.session.disposed = false) {socket : SocketId}
    (hfresh : socket ∉ l.first :: l.accepted) :
    ({ l with
      session := l.session.attached socket
      accepted := l.accepted ++ [socket] } : Life).Sound := by
  refine { hsound with
    session := hsound.session.attached hlive socket
    owned_nodup := ?_
    accepted_eq := ?_ }
  · rw [← List.cons_append, List.nodup_append]
    refine ⟨hsound.owned_nodup, List.nodup_singleton socket, ?_⟩
    rintro owned howned other hother rfl
    exact hfresh (List.mem_singleton.1 hother ▸ howned)
  · rw [Session.unanswered_attached, ← List.append_assoc, ← hsound.accepted_eq]

theorem step (hsound : l.Sound) (e : Event) : (l.step e).Sound := by
  cases e with
  | reconnect socket =>
      rw [Life.step]
      split
      · exact hsound
      · next hfresh =>
          cases hdisposed : l.session.disposed with
          | false =>
              rw [Session.reconnect_of_live hdisposed]
              exact hsound.attached hdisposed hfresh
          | true =>
              rw [Session.reconnect_of_disposed hdisposed]
              refine { hsound with returned_disposed := ?_ }
              intro entry hentry
              rcases List.mem_append.1 hentry with hold | hnew
              · exact hsound.returned_disposed entry hold
              · rw [List.mem_singleton.1 hnew]
  | dispose => exact { hsound with session := hsound.session.dispose }
  | task m => exact turn (Session.act_turn l.session m) rfl hsound

theorem after (hsound : l.Sound) (events : List Event) : (l.after events).Sound := by
  induction events generalizing l with
  | nil => exact hsound
  | cons e events ih => exact ih (hsound.step e)

end Sound
end Life
end Workbench

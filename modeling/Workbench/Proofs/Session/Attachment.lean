import Workbench.Proofs.Session.Life

/-!
What becomes of the sockets attached to a session.  None is forgotten: its client is told that the session
was found again, or that it has been torn down, and the session does not close before all have been told.
A session that has been torn down takes no socket any more.
-/

namespace Workbench

/-- What the task of a session owes to those that wait to be told. -/
inductive Duty where
  | adopt
  | takeNext
  | finish
deriving DecidableEq

namespace Phase

/-- The duty that comes next. -/
def duty? : Phase → Option Duty
  | .adopting .. => some .adopt
  | .online .. | .waiting _ => some .takeNext
  | .ending => some .finish
  | .closed => none

/-- How many duties at most are done before a client has been told, by its place among those that wait: those in
front of it are told first, and all are told at once when the session ends. -/
def due : Phase → Nat → Nat
  | .adopting _ true, place => 2 * place + 2
  | .online .., place | .waiting _, place => 2 * place + 3
  | .adopting _ false, place => 2 * place + 4
  | .ending, _ => 1
  | .closed, _ => 0

theorem due_le (phase : Phase) (place : Nat) : phase.due place ≤ 2 * place + 4 := by
  cases phase with
  | adopting socket resumed => cases resumed <;> simp [due]
  | online | waiting | ending | closed => simp [due]

end Phase

namespace Session

/-- The duty that a turn does, if it comes at its time.  A client may be lost while it is told. -/
def Move.duty? : Move → Option Duty
  | .adopt _ | .adoptPartly .. => some .adopt
  | .takeNext => some .takeNext
  | .finish => some .finish
  | _ => none

/-- How many duties at most are done before the client of a socket has been told. -/
def due (s : Session) (socket : SocketId) : Nat :=
  if socket ∈ s.unanswered then s.phase.due (s.unanswered.idxOf socket) else 0

/-- The client of a socket is told sooner in the second session, or as late, and then the same duty comes next. -/
def Nearer (socket : SocketId) (s t : Session) : Prop :=
  t.due socket < s.due socket ∨
    t.due socket = s.due socket ∧ (s.due socket = 0 ∨ t.phase.duty? = s.phase.duty?)

section Due

variable {s t u : Session} {socket : SocketId} {effects : List Effect}

/-- Whoever does not wait has been told. -/
theorem due_of_notMem (h : socket ∉ s.unanswered) : s.due socket = 0 := if_neg h

theorem due_of_mem (h : socket ∈ s.unanswered) : s.due socket = s.phase.due (s.unanswered.idxOf socket) := if_pos h

theorem due_le (s : Session) (socket : SocketId) : s.due socket ≤ 2 * s.unanswered.length + 2 := by
  by_cases hwaits : socket ∈ s.unanswered
  · rw [due_of_mem hwaits]
    have hplace := List.idxOf_lt_length_of_mem hwaits
    have hdue := s.phase.due_le (s.unanswered.idxOf socket)
    omega
  · rw [due_of_notMem hwaits]
    exact Nat.zero_le _

namespace Nearer

theorem refl (socket : SocketId) (s : Session) : Nearer socket s s := Or.inr ⟨rfl, Or.inr rfl⟩

theorem le (h : Nearer socket s t) : t.due socket ≤ s.due socket := by
  rcases h with hlt | ⟨heq, -⟩
  · exact Nat.le_of_lt hlt
  · exact Nat.le_of_eq heq

theorem trans (hfirst : Nearer socket s t) (hsecond : Nearer socket t u) : Nearer socket s u := by
  rcases hfirst with hlt | ⟨heq, hduty⟩
  · exact Or.inl (Nat.lt_of_le_of_lt hsecond.le hlt)
  rcases hsecond with hlt | ⟨heq', hduty'⟩
  · exact Or.inl (heq ▸ hlt)
  refine Or.inr ⟨heq'.trans heq, ?_⟩
  rcases hduty with hzero | hsame
  · exact Or.inl hzero
  · exact hduty'.imp (heq ▸ ·) (·.trans hsame)

theorem of_notMem (hs : socket ∉ s.unanswered) (ht : socket ∉ t.unanswered) : Nearer socket s t :=
  Or.inr ⟨(due_of_notMem ht).trans (due_of_notMem hs).symm, Or.inl (due_of_notMem hs)⟩

/-- The same clients wait, and for the same. -/
theorem of_eq (hwaits : t.unanswered = s.unanswered) (hdue : t.phase.due = s.phase.due)
    (hduty : t.phase.duty? = s.phase.duty?) : Nearer socket s t :=
  Or.inr ⟨by rw [due, due, hwaits, hdue], Or.inr hduty⟩

end Nearer

/-- The same clients wait, for less. -/
theorem due_lt_of_eq (hwaits : t.unanswered = s.unanswered) (hdue : ∀ place, t.phase.due place < s.phase.due place)
    (hmem : socket ∈ s.unanswered) : t.due socket < s.due socket := by
  rw [due_of_mem hmem, due_of_mem (hwaits ▸ hmem), hwaits]
  exact hdue _

/-- Nobody who waits is passed over or put back. -/
theorem Turn.unanswered_suffix (hturn : Turn s effects t) : t.unanswered <:+ s.unanswered := by
  induction hturn with
  | quiet delivery => exact List.suffix_rfl
  | talk hphase delivery later htalk =>
      simp only [unanswered, hphase]
      exact List.suffix_rfl
  | mark now =>
      rw [markOffline_eq]
      exact List.suffix_rfl
  | @adopt s socket resumed hphase next said htalk =>
      cases resumed <;> simp [unanswered, adopted, hphase]
  | lose hphase now deadline =>
      rw [markOffline_eq]
      simp only [unanswered, hphase]
      exact List.suffix_rfl
  | replace hphase hqueue | resume hphase hqueue =>
      simp only [unanswered, hphase, hqueue]
      exact List.suffix_rfl
  | part hphase | giveUp hphase =>
      simp only [unanswered, hphase, torn]
      exact List.suffix_rfl
  | finish hphase => exact List.nil_suffix
  | trans _ _ ihfirst ihsecond => exact ihsecond.trans ihfirst

theorem Turn.nearer_of_lt (hturn : Turn s effects t) (hlt : socket ∈ s.unanswered → t.due socket < s.due socket) :
    Nearer socket s t := by
  by_cases hwaits : socket ∈ s.unanswered
  · exact Or.inl (hlt hwaits)
  · exact Nearer.of_notMem hwaits fun hmem => hwaits (hturn.unanswered_suffix.subset hmem)

/-- Whoever is adopted is told, and the others are one place nearer. -/
theorem due_adopted_lt {first : SocketId} {resumed : Bool} (hphase : s.phase = .adopting first resumed)
    (hnodup : s.unanswered.Nodup) (hwaits : socket ∈ s.unanswered) (next : Instant) :
    (s.adopted resumed (.online first next)).due socket < s.due socket := by
  have hafter : (s.adopted resumed (.online first next)).unanswered = s.queue := rfl
  cases resumed with
  | false =>
      refine due_lt_of_eq ?_ (fun place => ?_) hwaits
      · rw [hafter, unanswered, hphase]
      · simp only [adopted, hphase, Phase.due]
        omega
  | true =>
      have hbefore : s.unanswered = first :: s.queue := by rw [unanswered, hphase]
      by_cases hfirst : socket = first
      · have hnot : first ∉ s.queue := (List.nodup_cons.1 (hbefore ▸ hnodup)).1
        rw [due_of_notMem (hafter ▸ hfirst ▸ hnot), due_of_mem hwaits, hphase, Phase.due]
        exact Nat.succ_pos _
      · have hqueue : socket ∈ s.queue := (List.mem_cons.1 (hbefore ▸ hwaits)).resolve_left hfirst
        rw [due_of_mem (hafter ▸ hqueue), due_of_mem hwaits, hbefore, hafter,
          List.idxOf_cons_ne _ (Ne.symm hfirst), hphase]
        simp only [adopted, Phase.due]
        omega

theorem due_ended_lt (hphase : s.phase = .ending) (hwaits : socket ∈ s.unanswered) :
    ({ s with queue := [], phase := .closed } : Session).due socket < s.due socket := by
  rw [due_of_mem hwaits, hphase, due_of_notMem List.not_mem_nil]
  exact Nat.one_pos

/-- Whatever the task does, nobody waits for longer, and what it owes stays the same until somebody waits for less. -/
theorem Turn.nearer (hturn : Turn s effects t) (hnodup : s.unanswered.Nodup) (socket : SocketId) :
    Nearer socket s t := by
  induction hturn with
  | quiet delivery => exact Nearer.refl socket _
  | talk hphase delivery later htalk =>
      refine Nearer.of_eq ?_ ?_ ?_
      · simp only [unanswered, hphase]
      · funext place
        rw [hphase, Phase.due, Phase.due]
      · rw [hphase, Phase.duty?, Phase.duty?]
  | mark now =>
      rw [markOffline_eq]
      exact Nearer.refl socket _
  | adopt hphase next htalk =>
      exact (Turn.adopt hphase next htalk).nearer_of_lt fun hwaits => due_adopted_lt hphase hnodup hwaits next
  | lose hphase now deadline =>
      rw [markOffline_eq]
      refine Nearer.of_eq ?_ ?_ ?_
      · simp only [unanswered, hphase]
      · funext place
        simp only [hphase, Phase.due]
      · simp only [hphase, Phase.duty?]
  | replace hphase hqueue =>
      refine (Turn.replace hphase hqueue).nearer_of_lt (due_lt_of_eq ?_ fun place => ?_)
      · simp only [unanswered, hphase, hqueue]
      · simp only [hphase, Phase.due]
        omega
  | resume hphase hqueue =>
      refine (Turn.resume hphase hqueue).nearer_of_lt (due_lt_of_eq ?_ fun place => ?_)
      · simp only [unanswered, hphase, hqueue]
      · simp only [hphase, Phase.due]
        omega
  | part hphase =>
      refine (Turn.part hphase).nearer_of_lt (due_lt_of_eq ?_ fun place => ?_)
      · simp only [unanswered, hphase, torn]
      · simp only [hphase, torn, Phase.due]
        omega
  | giveUp hphase =>
      refine (Turn.giveUp hphase).nearer_of_lt (due_lt_of_eq ?_ fun place => ?_)
      · simp only [unanswered, hphase, torn]
      · simp only [hphase, torn, Phase.due]
        omega
  | finish hphase => exact (Turn.finish hphase).nearer_of_lt (due_ended_lt hphase)
  | trans hfirst _ ihfirst ihsecond =>
      exact (ihfirst hnodup).trans (ihsecond (hfirst.unanswered_suffix.sublist.nodup hnodup))

theorem due_adopt_lt (hnodup : s.unanswered.Nodup) (hwaits : socket ∈ s.unanswered)
    (hduty : s.phase.duty? = some .adopt) (now : Instant) : (s.adopt now).2.due socket < s.due socket := by
  cases hphase : s.phase with
  | adopting first resumed =>
      have hadopt : (s.adopt now).2 = s.adopted resumed (.online first (now + keepAlivePeriod)) := by
        rw [Session.adopt, hphase]
        rfl
      rw [hadopt]
      exact due_adopted_lt hphase hnodup hwaits _
  | online | waiting | ending | closed => simp [hphase, Phase.duty?] at hduty

theorem due_takeNext_lt (hwaits : socket ∈ s.unanswered) (hduty : s.phase.duty? = some .takeNext) :
    s.takeNext.2.due socket < s.due socket := by
  have hqueue : s.unanswered = s.queue := by
    cases hphase : s.phase <;> simp [hphase, Phase.duty?, unanswered] at hduty ⊢
  obtain ⟨next, rest, hcons⟩ := List.exists_cons_of_ne_nil (List.ne_nil_of_mem (hqueue ▸ hwaits))
  cases hphase : s.phase with
  | online holder later | waiting deadline =>
      refine due_lt_of_eq ?_ (fun place => ?_) hwaits
      · simp only [takeNext, hcons, hphase, unanswered]
      · simp only [takeNext, hcons, hphase, Phase.due]
        omega
  | adopting | ending | closed => simp [hphase, Phase.duty?] at hduty

/-- Once the duty is done that comes next, whoever waits waits for less. -/
theorem due_act_lt {m : Move} {duty : Duty} (hnodup : s.unanswered.Nodup) (hwaits : socket ∈ s.unanswered)
    (hduty : s.phase.duty? = some duty) (hmove : m.duty? = some duty) :
    (m.act s).2.due socket < s.due socket := by
  cases m with
  | adopt now =>
      cases hmove
      exact due_adopt_lt hnodup hwaits hduty now
  | adoptPartly frames now =>
      cases hmove
      have hkept : (s.adopt now).2.unanswered.Nodup := (adopt_turn s now).unanswered_suffix.sublist.nodup hnodup
      exact Nat.lt_of_le_of_lt ((lose_turn _ now).nearer hkept socket).le (due_adopt_lt hnodup hwaits hduty now)
  | takeNext =>
      cases hmove
      exact due_takeNext_lt hwaits hduty
  | finish =>
      cases hmove
      cases hphase : s.phase with
      | ending =>
          have hfinish : s.finish.2 = { s with queue := [], phase := .closed } := by
            rw [Session.finish, hphase]
          exact hfinish ▸ due_ended_lt hphase hwaits
      | adopting | online | waiting | closed => simp [hphase, Phase.duty?] at hduty
  | lose | markOffline | stop | leave | receive | produce | expire | keepAlive => cases hmove

end Due

end Session

namespace Life

/-- The client of a socket has been told what became of the session. -/
def Answered (l : Life) (socket : SocketId) : Prop := l.Adopted socket ∨ l.Refused socket

theorem step_follows (l : Life) (e : Event) : (l.step e).session.Follows l.session := by
  cases e with
  | reconnect socket =>
      rw [step]
      split
      · exact Session.Follows.refl _
      · cases hdisposed : l.session.disposed with
        | true =>
            rw [Session.reconnect_of_disposed hdisposed]
            exact Session.Follows.refl _
        | false =>
            rw [Session.reconnect_of_live hdisposed]
            exact Session.attached_follows hdisposed socket
  | dispose => exact Session.dispose_follows l.session
  | task m => exact Session.act_follows l.session m

theorem after_follows (l : Life) (events : List Event) :
    (l.after events).session.Follows l.session := by
  induction events generalizing l with
  | nil => exact Session.Follows.refl _
  | cons e events ih => exact (ih (l.step e)).trans (step_follows l e)

/-- A session that has been torn down hands a socket back, and nothing else happens. -/
theorem step_reconnect_of_disposed {l : Life} (hdisposed : l.session.disposed = true)
    {socket : SocketId} (hfresh : socket ∉ l.first :: l.accepted) :
    l.step (.reconnect socket) =
      { l with returned := l.returned ++ [(socket, .sessionDisposed l.session.token)] } := by
  rw [step, if_neg hfresh, Session.reconnect_of_disposed hdisposed]

theorem step_accepted_of_disposed {l : Life} (hdisposed : l.session.disposed = true) (e : Event) :
    (l.step e).accepted = l.accepted := by
  cases e with
  | reconnect socket =>
      by_cases hfresh : socket ∈ l.first :: l.accepted
      · rw [step, if_pos hfresh]
      · rw [step_reconnect_of_disposed hdisposed hfresh]
  | dispose | task => rfl

theorem after_accepted_of_disposed {l : Life} (hdisposed : l.session.disposed = true)
    (events : List Event) : (l.after events).accepted = l.accepted := by
  induction events generalizing l with
  | nil => rfl
  | cons e events ih =>
      exact (ih ((step_follows l e).disposed hdisposed)).trans
        (step_accepted_of_disposed hdisposed e)

namespace Sound

variable {l : Life}

theorem answered_or_unanswered (hsound : l.Sound) {socket : SocketId}
    (hsocket : socket ∈ l.accepted) :
    l.Answered socket ∨ socket ∈ l.session.unanswered ∧ effectsOn l.log socket = [] := by
  have hmem := hsocket
  rw [hsound.accepted_eq] at hmem
  rcases List.mem_append.1 hmem with hanswered | hwaits
  · left
    rcases List.mem_append.1 hanswered with hadopted | hrefused
    · exact Or.inl (hsound.adopted socket hadopted)
    · exact Or.inr (hsound.refused socket hrefused)
  · exact Or.inr ⟨hwaits, hsound.untouched socket (hsound.unanswered_fresh hwaits)⟩

theorem answered (hsound : l.Sound) {socket : SocketId} (hsocket : socket ∈ l.accepted)
    (hnot : socket ∉ l.session.unanswered) : l.Answered socket :=
  (hsound.answered_or_unanswered hsocket).resolve_right fun hwaits => hnot hwaits.1

/-- Until the session is torn down nobody is refused. -/
theorem adopted_of_answered (hsound : l.Sound) {socket : SocketId} (hsocket : socket ∈ l.accepted)
    (hnot : socket ∉ l.session.unanswered) (hlive : l.session.disposed = false) : l.Adopted socket := by
  have hopen : l.session.phase ≠ .closed := by
    intro hclosed
    have hover := hsound.session.disposed_eq
    rw [Session.isOver, hclosed, hlive] at hover
    cases hover
  rw [hsound.accepted_eq, hsound.refusals_nil hopen, List.append_nil] at hsocket
  exact hsound.adopted socket ((List.mem_append.1 hsocket).resolve_right hnot)

theorem unanswered_nodup (hsound : l.Sound) : l.session.unanswered.Nodup := by
  have hnodup := (List.nodup_cons.1 hsound.owned_nodup).2
  rw [hsound.accepted_eq] at hnodup
  exact (List.nodup_append.1 hnodup).2.1

/-- A session that has closed owes nothing to anybody. -/
theorem duty?_of_mem (hsound : l.Sound) {socket : SocketId} (hwaits : socket ∈ l.session.unanswered) :
    ∃ duty, l.session.phase.duty? = some duty := by
  cases hphase : l.session.phase with
  | closed =>
      rw [Session.unanswered, hphase, hsound.session.queue_closed hphase] at hwaits
      exact absurd hwaits List.not_mem_nil
  | adopting | online | waiting | ending => exact ⟨_, rfl⟩

theorem notMem_of_due (hsound : l.Sound) {socket : SocketId} (hdue : l.session.due socket = 0) :
    socket ∉ l.session.unanswered := by
  intro hwaits
  obtain ⟨duty, hduty⟩ := hsound.duty?_of_mem hwaits
  rw [Session.due_of_mem hwaits] at hdue
  cases hphase : l.session.phase with
  | closed => simp [hphase, Phase.duty?] at hduty
  | adopting first resumed => cases resumed <;> simp [hphase, Phase.due] at hdue
  | online | waiting | ending => simp [hphase, Phase.due] at hdue

end Sound

theorem accepted_step {l : Life} {socket : SocketId} (hsocket : socket ∈ l.accepted) (e : Event) :
    socket ∈ (l.step e).accepted := by
  cases e with
  | reconnect other =>
      rw [step]
      split
      · exact hsocket
      · split
        · exact List.mem_append_left _ hsocket
        · exact hsocket
  | dispose | task => exact hsocket

theorem accepted_after {l : Life} {socket : SocketId} (hsocket : socket ∈ l.accepted) (events : List Event) :
    socket ∈ (l.after events).accepted := by
  induction events generalizing l with
  | nil => exact hsocket
  | cons e events ih => exact ih (accepted_step hsocket e)

section Rounds

variable {l : Life} {socket : SocketId}

/-- Another socket that is attached comes behind. -/
theorem nearer_attached {other : SocketId} (hne : socket ≠ other) :
    Session.Nearer socket l.session (l.session.attached other) := by
  have hafter := Session.unanswered_attached l.session other
  by_cases hwaits : socket ∈ l.session.unanswered
  · refine Or.inr ⟨?_, Or.inr rfl⟩
    rw [Session.due_of_mem hwaits, Session.due_of_mem (hafter ▸ List.mem_append_left _ hwaits), hafter,
      List.idxOf_append_of_mem hwaits]
    rfl
  · exact Session.Nearer.of_notMem hwaits (by simp [hafter, hwaits, hne])

theorem nearer_step (hsound : l.Sound) (hsocket : socket ∈ l.accepted) (e : Event) :
    Session.Nearer socket l.session (l.step e).session := by
  cases e with
  | reconnect other =>
      rw [step]
      split
      · exact Session.Nearer.refl socket _
      · next hfresh =>
        cases hdisposed : l.session.disposed with
        | true =>
            rw [Session.reconnect_of_disposed hdisposed]
            exact Session.Nearer.refl socket _
        | false =>
            rw [Session.reconnect_of_live hdisposed]
            exact nearer_attached fun heq => hfresh (heq ▸ List.mem_cons_of_mem _ hsocket)
  | dispose => exact Session.Nearer.refl socket _
  | task m => exact (Session.act_turn l.session m).nearer hsound.unanswered_nodup socket

theorem nearer_after (hsound : l.Sound) (hsocket : socket ∈ l.accepted) (events : List Event) :
    Session.Nearer socket l.session (l.after events).session := by
  induction events generalizing l with
  | nil => exact Session.Nearer.refl socket _
  | cons e events ih =>
      exact (nearer_step hsound hsocket e).trans (ih (hsound.step e) (accepted_step hsocket e))

/-- The task comes to each of its duties, in whatever order; anything else may happen in between. -/
def Round (events : List Event) : Prop := ∀ duty, ∃ m, m.duty? = some duty ∧ .task m ∈ events

/-- Whoever waits waits for less after a round.  Either that happens before the task comes to the duty that is next,
or it is still next when the task comes to it. -/
theorem due_round_lt (hsound : l.Sound) (hsocket : socket ∈ l.accepted) (hdue : 0 < l.session.due socket)
    {round : List Event} (hround : Round round) : (l.after round).session.due socket < l.session.due socket := by
  have hwaits : socket ∈ l.session.unanswered := by
    by_contra hnot
    exact Nat.ne_of_gt hdue (Session.due_of_notMem hnot)
  obtain ⟨duty, hduty⟩ := hsound.duty?_of_mem hwaits
  obtain ⟨m, hmove, hmem⟩ := hround duty
  obtain ⟨before, behind, rfl⟩ := List.append_of_mem hmem
  have hreached : (l.after before).Sound := hsound.after before
  have hthere := accepted_after hsocket before
  have hlast := (nearer_after (hreached.step (.task m)) (accepted_step hthere _) behind).le
  rw [after, List.foldl_append]
  rcases nearer_after hsound hsocket before with hsooner | ⟨hsame, hnext⟩
  · have hstep := (nearer_step hreached hthere (.task m)).le
    exact Nat.lt_of_le_of_lt hlast (Nat.lt_of_le_of_lt hstep hsooner)
  · have hstill : socket ∈ (l.after before).session.unanswered := by
      by_contra hnot
      rw [Session.due_of_notMem hnot] at hsame
      omega
    have hstep := Session.due_act_lt hreached.unanswered_nodup hstill
      ((hnext.resolve_left (Nat.ne_of_gt hdue)).trans hduty) hmove
    exact Nat.lt_of_le_of_lt hlast (hsame ▸ hstep)

/-- Whatever else happens, after enough rounds nobody waits any more. -/
theorem due_rounds (hsound : l.Sound) (hsocket : socket ∈ l.accepted) {rounds : List (List Event)}
    (hrounds : ∀ round ∈ rounds, Round round) (henough : l.session.due socket ≤ rounds.length) :
    (l.after rounds.flatten).session.due socket = 0 := by
  induction rounds generalizing l with
  | nil => exact Nat.eq_zero_of_le_zero henough
  | cons round rounds ih =>
      rw [List.forall_mem_cons] at hrounds
      rw [List.flatten_cons, after, List.foldl_append]
      refine ih (hsound.after round) (accepted_after hsocket round) hrounds.2 ?_
      have hle := (nearer_after hsound hsocket round).le
      rcases Nat.eq_zero_or_pos (l.session.due socket) with hzero | hdue
      · show (l.after round).session.due socket ≤ _
        omega
      · have hlt := due_round_lt hsound hsocket hdue hrounds.1
        rw [List.length_cons] at henough
        exact Nat.le_of_lt_succ (Nat.lt_of_lt_of_le hlt henough)

end Rounds

/-- Whatever the order in which sockets are attached and lost, the session is told to shut down and its
task takes turns: the client of every socket attached has been told that the session was found again or
that it has been torn down, or still waits, untouched.  None waits forever: each has been told after some
rounds in which the task comes to what it owes, whatever else happens meanwhile, and as long as the session
has not been torn down it has been told that it was found again.  When the session closes none waits and the
runtime has been shut; it is never shut twice.  A session that has been torn down stays so: it does not count
as offline, and every socket is handed back. -/
theorem attached_sockets_answered (token : String) (kind : ConnectionKind) (grace : Nat)
    (first : SocketId) (events : List Event) :
    let l := (start token kind grace first).after events
    (∀ socket ∈ l.accepted,
      l.Answered socket ∨ socket ∈ l.session.unanswered ∧ effectsOn l.log socket = []) ∧
    (∀ rounds : List (List Event), (∀ round ∈ rounds, Round round) →
      2 * l.session.unanswered.length + 2 ≤ rounds.length →
      let later := l.after rounds.flatten
      ∀ socket ∈ l.accepted, later.Answered socket ∧ (later.session.disposed = false → later.Adopted socket)) ∧
    (l.session.phase = .closed → l.session.queue = [] ∧
      (∀ socket ∈ l.accepted, l.Answered socket) ∧ shutdowns l.log = 1) ∧
    shutdowns l.log ≤ 1 ∧
    (l.session.disposed = true → ∀ more, let later := l.after more
      later.session.disposed = true ∧ later.session.offlineSince = none ∧
      later.accepted = l.accepted ∧
      ∀ socket, later.session.reconnect socket = .error (.sessionDisposed token) ∧
        (socket ∉ later.first :: later.accepted → later.step (.reconnect socket) =
          { later with returned := later.returned ++ [(socket, .sessionDisposed token)] })) := by
  intro l
  have hsound : l.Sound := (start_sound token kind grace first).after events
  refine ⟨fun socket => hsound.answered_or_unanswered, ?_, ?_, ?_, ?_⟩
  · intro rounds hrounds hlength later socket hsocket
    have hlater : later.Sound := hsound.after rounds.flatten
    have hthere : socket ∈ later.accepted := accepted_after hsocket rounds.flatten
    have henough := Nat.le_trans (l.session.due_le socket) hlength
    have hnot := hlater.notMem_of_due (due_rounds hsound hsocket hrounds henough)
    exact ⟨hlater.answered hthere hnot, hlater.adopted_of_answered hthere hnot⟩
  · intro hclosed
    have hqueue := hsound.session.queue_closed hclosed
    have hnone : l.session.unanswered = [] := by rw [Session.unanswered, hclosed, hqueue]
    have hdisposed : l.session.disposed = true := by
      rw [hsound.session.disposed_eq, Session.isOver, hclosed]
    refine ⟨hqueue, fun socket hsocket => hsound.answered hsocket (hnone ▸ List.not_mem_nil), ?_⟩
    rw [hsound.shutdowns_eq, if_pos hdisposed]
  · rw [hsound.shutdowns_eq]
    split <;> decide
  · intro hdisposed more later
    have hlater : later.session.disposed = true := (after_follows l more).disposed hdisposed
    have htoken : later.session.token = token :=
      (after_follows l more).token_eq.trans (after_follows _ events).token_eq
    refine ⟨hlater, (hsound.after more).session.offline_disposed hlater,
      after_accepted_of_disposed hdisposed more, fun socket => ⟨?_, fun hfresh => ?_⟩⟩
    · rw [Session.reconnect_of_disposed hlater, htoken]
    · rw [step_reconnect_of_disposed hlater hfresh, htoken]

/-- A round in which a socket is attached too. -/
def busyRound : List Event := [.task .finish, .reconnect 3, .task .takeNext, .task (.adopt 9)]

theorem round_busyRound : Round busyRound := by
  intro duty
  cases duty with
  | adopt => exact ⟨.adopt 9, rfl, by simp [busyRound]⟩
  | takeNext => exact ⟨.takeNext, rfl, by simp [busyRound]⟩
  | finish => exact ⟨.finish, rfl, by simp [busyRound]⟩

/-- Two sockets are attached before the first is lost. -/
def twoQueued : List Event := [.task (.adopt 0), .reconnect 1, .reconnect 2, .task (.lose 5)]

/-- A socket is attached before the session follows the order to shut down. -/
def lateComer : List Event := [.task (.adopt 0), .dispose, .reconnect 1, .task .stop, .task .finish]

/-- Those that wait are told that the session was found again; one that has come too late is refused before the
session closes. -/
theorem attached_sockets_answered_twoQueued :
    (∀ round ∈ List.replicate 6 busyRound, Round round) ∧
    (((start "t" .management 1000 0).after twoQueued).after (List.replicate 6 busyRound).flatten).Adopted 1 ∧
    (((start "t" .management 1000 0).after twoQueued).after (List.replicate 6 busyRound).flatten).Adopted 2 ∧
    ((start "t" .management 1000 0).after lateComer).session.phase = .closed ∧
    ((start "t" .management 1000 0).after lateComer).Answered 1 ∧
    refusals ((start "t" .management 1000 0).after lateComer).log = [1] := by
  obtain ⟨-, htold, -⟩ := attached_sockets_answered "t" .management 1000 0 twoQueued
  obtain ⟨-, -, hclosed, -⟩ := attached_sockets_answered "t" .management 1000 0 lateComer
  have hrounds : ∀ round ∈ List.replicate 6 busyRound, Round round := fun round hround =>
    List.eq_of_mem_replicate hround ▸ round_busyRound
  have hboth := htold (List.replicate 6 busyRound) hrounds (by decide)
  have hshut : ((start "t" .management 1000 0).after lateComer).session.phase = .closed := by decide
  obtain ⟨-, hanswered, -⟩ := hclosed hshut
  refine ⟨hrounds, ?_, ?_, hshut, hanswered 1 (by decide), by decide⟩
  · exact (hboth 1 (by decide)).2 (by decide)
  · exact (hboth 2 (by decide)).2 (by decide)

end Life
end Workbench

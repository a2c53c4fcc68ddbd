import Workbench.Proofs.Session.Offline
import Workbench.Server

/-!
The table of a server in use.  Whatever a server does, its table has come about by what can happen to a table of
sessions, one event after another, and there are no tunnels in it.
-/

namespace Workbench

namespace SessionTable

/-- The tables of servers: they come about by what happens to tables, and have no tunnels. -/
structure Served (t : SessionTable) : Prop where
  reached : ∃ events, (Roster.run events).table = t
  no_tunnel : ∀ entry ∈ t.live, entry.1.kind ≠ .tunnel

variable {t : SessionTable}

theorem served_empty : Served {} := ⟨⟨[], rfl⟩, nofun⟩

theorem Served.proper (h : t.Served) : t.Proper := by
  obtain ⟨events, rfl⟩ := h.reached
  exact (Roster.run_sound events).proper

/-- No tunnel is ever offline, since there is none. -/
theorem Served.offline_tunnel (h : t.Served) : t.offline .tunnel = [] := by
  rw [List.eq_nil_iff_forall_not_mem]
  intro entry hentry
  obtain ⟨-, key, hlive, hkind⟩ := mem_offline.1 hentry
  exact h.no_tunnel _ hlive hkind

/-- One more event. -/
theorem Served.event (h : t.Served) (e : Roster.Event) {later : SessionTable}
    (hstep : ∀ w : Roster, w.table = t → w.Sound → (w.step e).table = later)
    (hlive : ∀ entry ∈ later.live, entry ∈ t.live ∨ entry.1.kind ≠ .tunnel) : later.Served := by
  obtain ⟨events, hreached⟩ := h.reached
  refine ⟨⟨events ++ [e], ?_⟩, ?_⟩
  · rw [Roster.run, List.foldl_append]
    exact hstep (Roster.run events) hreached (Roster.run_sound events)
  · intro entry hentry
    exact (hlive entry hentry).elim (h.no_tunnel entry) id

theorem Served.turn (h : t.Served) {id : SessionId} {s : Session} (hs : t.session? id = some s)
    (m : Session.Move) : (t.setSession id (m.act s).2).Served := by
  apply h.event (.turn id m)
  · rintro w rfl -
    simp only [Roster.step, hs]
  · exact fun _ => Or.inl

theorem Served.remove (h : t.Served) {id : SessionId} {s : Session} (hs : t.session? id = some s)
    (hclosed : s.phase = .closed) : (t.remove id).2.Served := by
  apply h.event (.remove id)
  · rintro w rfl -
    simp only [Roster.step, hs, hclosed, ↓reduceIte]
  · rw [remove_eq]
    exact fun _ hentry => Or.inl (List.mem_of_mem_filter hentry)

theorem Served.release (h : t.Served) (key : SessionKey) : (t.release key).Served := by
  apply h.event (.failed key)
  · rintro w rfl -
    rfl
  · exact fun _ => Or.inl

theorem Served.sweepOffline (h : t.Served) (kind : ConnectionKind) (keep : Nat) :
    (t.sweepOffline kind keep).2.Served := by
  apply h.event (.sweep kind keep)
  · rintro w rfl -
    rfl
  · exact fun _ hentry => Or.inl (List.mem_of_mem_filter hentry)

theorem Served.shutdown (h : t.Served) : t.shutdown.Served := by
  apply h.event .shutdown
  · rintro w rfl -
    rfl
  · intro entry hentry
    rw [SessionTable.shutdown, live_disposeAll] at hentry
    cases hentry

theorem Served.foldl (h : t.Served) {step : SessionTable → SessionId → SessionTable}
    (hstep : ∀ t id, t.Served → (step t id).Served) (ids : List SessionId) : (ids.foldl step t).Served := by
  induction ids generalizing t with
  | nil => exact h
  | cons id ids ih => exact ih (hstep t id h)

theorem live_seat {later : SessionTable} {key : SessionKey} {reconnection : Bool} {socket : SocketId}
    {a : Admission} (hseat : t.seat key reconnection socket = .ok (a, later)) : later.live = t.live := by
  cases reconnection with
  | true =>
      rw [seat_again] at hseat
      split at hseat
      · cases hseat
        rfl
      · cases hseat
  | false =>
      rw [seat_anew] at hseat
      split at hseat
      · cases hseat
        rfl
      · cases hseat

theorem Served.seat (h : t.Served) {later : SessionTable} {key : SessionKey} {reconnection : Bool}
    {socket : SocketId} {a : Admission} (hseat : t.seat key reconnection socket = .ok (a, later)) :
    later.Served := by
  apply h.event (.ask key reconnection socket)
  · rintro w rfl -
    cases a <;> simp only [Roster.step, hseat]
  · rw [live_seat hseat]
    exact fun _ => Or.inl

theorem mem_reserved_of_seat {later : SessionTable} {key : SessionKey} {reconnection : Bool} {socket : SocketId}
    (hseat : t.seat key reconnection socket = .ok (.reserved, later)) : key ∈ later.reserved := by
  cases reconnection with
  | true =>
      rw [seat_again] at hseat
      split at hseat <;> cases hseat
  | false =>
      rw [seat_anew] at hseat
      split at hseat
      · cases hseat
        exact List.mem_cons_self
      · cases hseat

/-- A session is registered for a reserved key. -/
theorem Served.register (h : t.Served) {key : SessionKey} (hkey : key ∈ t.reserved) (hkind : key.kind ≠ .tunnel)
    (grace : Nat) (socket : SocketId) : (t.register (.start key.token key.kind grace socket)).2.Served := by
  apply h.event (.made key grace socket [])
  · rintro w rfl hsound
    have hmaking : key ∈ w.making := hsound.making_eq ▸ hkey
    simp only [Roster.step, hmaking, ↓reduceIte]
    rfl
  · intro entry hentry
    rcases List.mem_cons.1 hentry with rfl | hold
    · exact Or.inr hkind
    · exact Or.inl (List.mem_of_mem_filter hold)

end SessionTable

section Work

variable {τ σ α β : Type}

theorem bind_apply (act : StateT τ (StateM σ) α) (next : α → StateT τ (StateM σ) β) (s : τ) (x : σ) :
    (act >>= next) s x = next (act s x).1.1 (act s x).1.2 (act s x).2 := rfl

theorem get_apply (s : τ) (x : σ) : (MonadState.get : StateT τ (StateM σ) τ) s x = ((s, s), x) := rfl

theorem modify_bind_apply (g : τ → τ) (next : PUnit → StateT τ (StateM σ) β) (s : τ) (x : σ) :
    ((modify g : StateT τ (StateM σ) PUnit) >>= next) s x = next ⟨⟩ (g s) x := rfl

theorem lift_bind_apply (act : StateM σ α) (next : α → StateT τ (StateM σ) β) (s : τ) (x : σ) :
    ((StateT.lift act : StateT τ (StateM σ) α) >>= next) s x = next (act x).1 s (act x).2 := rfl

end Work

/-- Work on a state of which a table is a part leaves it a table of a server. -/
def Keeps {τ σ α : Type} (view : τ → SessionTable) (act : StateT τ (StateM σ) α) : Prop :=
  ∀ s f, (view s).Served → (view (act s f).1.2).Served

namespace Keeps

variable {τ σ α β : Type} {view : τ → SessionTable}

theorem pure (a : α) : Keeps view (Pure.pure a : StateT τ (StateM σ) α) := fun _ _ h => h

theorem get : Keeps view (MonadState.get : StateT τ (StateM σ) τ) := fun _ _ h => h

theorem bind {act : StateT τ (StateM σ) α} {next : α → StateT τ (StateM σ) β} (hact : Keeps view act)
    (hnext : ∀ a, Keeps view (next a)) : Keeps view (act >>= next) :=
  fun s f h => hnext _ _ _ (hact s f h)

theorem modifyGet {g : τ → α × τ} (h : ∀ s, (view s).Served → (view (g s).2).Served) :
    Keeps view (MonadState.modifyGet g : StateT τ (StateM σ) α) := fun s _ => h s

theorem modify {g : τ → τ} (h : ∀ s, (view s).Served → (view (g s)).Served) :
    Keeps view (modify g : StateT τ (StateM σ) PUnit) := fun s _ => h s

theorem lift (act : StateM σ α) : Keeps view (StateT.lift act : StateT τ (StateM σ) α) := fun _ _ h => h

theorem forM {act : α → StateT τ (StateM σ) PUnit} (hact : ∀ a, Keeps view (act a)) (l : List α) :
    Keeps view (l.forM act) := by
  induction l with
  | nil => exact Keeps.pure _
  | cons a l ih => exact Keeps.bind (hact a) fun _ => ih

theorem mapM {act : α → StateT τ (StateM σ) β} (hact : ∀ a, Keeps view (act a)) (l : List α) :
    Keeps view (l.mapM act) := by
  induction l with
  | nil =>
      rw [List.mapM_nil]
      exact Keeps.pure _
  | cons a l ih =>
      rw [List.mapM_cons]
      exact Keeps.bind (hact a) fun _ => Keeps.bind ih fun _ => Keeps.pure _

theorem foldlM {act : β → α → StateT τ (StateM σ) β} (hact : ∀ b a, Keeps view (act b a)) (l : List α) (b : β) :
    Keeps view (l.foldlM act b) := by
  induction l generalizing b with
  | nil => exact Keeps.pure _
  | cons a l ih =>
      rw [List.foldlM_cons]
      exact Keeps.bind (hact b a) fun _ => ih _

end Keeps

namespace Switchboard

variable {ρ σ : Type}

/-- The work leaves the table of a switchboard one that servers have. -/
abbrev Kept {α : Type} (act : Switching ρ σ α) : Prop := Keeps Switchboard.table act

theorem onLink_kept (socket : SocketId) (f : Link → Link) : Kept (onLink socket f : Switching ρ σ Unit) :=
  Keeps.modify fun _ h => h

theorem addLink_kept (link : Link) : Kept (addLink link : Switching ρ σ SocketId) :=
  Keeps.modifyGet fun _ h => h

theorem link?_kept (socket : SocketId) : Kept (link? socket : Switching ρ σ (Option Link)) :=
  Keeps.bind Keeps.get fun _ => Keeps.pure _

theorem receive_kept (socket : SocketId) : Kept (receive socket : Switching ρ σ Transport.Received) := by
  apply Keeps.bind (link?_kept socket)
  intro found
  cases found with
  | none => exact Keeps.pure _
  | some l => exact Keeps.bind (onLink_kept socket _) fun _ => Keeps.pure _

theorem runtime?_kept (id : SessionId) : Kept (runtime? id : Switching ρ σ (Option ρ)) :=
  Keeps.bind Keeps.get fun _ => Keeps.pure _

theorem setRuntime_kept (id : SessionId) (r : Option ρ) : Kept (setRuntime id r : Switching ρ σ Unit) :=
  Keeps.modify fun _ h => h

variable (ops : RuntimeOps ρ σ) (id : SessionId)

theorem perform_kept (e : Effect) : Kept (perform ops id e) := by
  cases e with
  | send socket | close socket | refuse socket => exact onLink_kept socket _
  | deliver payload =>
      apply Keeps.bind (runtime?_kept id)
      intro found
      cases found with
      | none => exact Keeps.pure _
      | some r => exact Keeps.bind (Keeps.lift _) fun _ => setRuntime_kept id _
  | shutRuntime =>
      apply Keeps.bind (runtime?_kept id)
      intro found
      cases found with
      | none => exact Keeps.pure _
      | some r => exact Keeps.bind (Keeps.lift _) fun _ => setRuntime_kept id _

/-- A session that is found makes its step, and then its effects are carried out. -/
theorem step_of_some {b : Switchboard ρ} {s : Session} (hs : b.table.session? id = some s)
    (f : Session → List Effect × Session) (x : σ) :
    step ops id f b x =
      (f s).1.forM (perform ops id) { b with table := b.table.setSession id (f s).2 } x := by
  simp only [step, bind_apply, get_apply, hs]
  rfl

theorem step_of_none {b : Switchboard ρ} (hs : b.table.session? id = none)
    (f : Session → List Effect × Session) (x : σ) : step ops id f b x = (((), b), x) := by
  simp only [step, bind_apply, get_apply, hs]
  rfl

theorem step_kept (m : Session.Move) : Kept (step ops id m.act) := by
  intro b x hserved
  cases hs : b.table.session? id with
  | none =>
      rw [step_of_none ops id hs]
      exact hserved
  | some s =>
      rw [step_of_some ops id hs]
      exact Keeps.forM (perform_kept ops id) _ _ _ (hserved.turn hs m)

/-- What makes the runtime of a session works on what all share, and not at the switchboard. -/
theorem seat_kept {key : SessionKey} (hkind : key.kind ≠ .tunnel) (reconnection : Bool) (socket : SocketId)
    (grace : Nat) (make : StateM σ (Outcome ρ)) :
    Kept (seat key reconnection socket grace (StateT.lift make)) := by
  intro b x hserved
  simp only [seat, bind_apply, get_apply]
  cases hseat : b.table.seat key reconnection socket with
  | error e => exact hserved
  | ok seated =>
      obtain ⟨a, table⟩ := seated
      have hseated : table.Served := hserved.seat hseat
      cases a with
      | resumed id => exact hseated
      | reserved =>
          have hreserved : key ∈ table.reserved := SessionTable.mem_reserved_of_seat hseat
          dsimp only
          rw [modify_bind_apply, lift_bind_apply]
          cases (make x).1 with
          | error e => exact hseated.release key
          | ok r => exact hseated.register hreserved hkind grace socket

theorem produce_kept : Kept (produce ops id) := by
  apply Keeps.bind (runtime?_kept id)
  intro found
  cases found with
  | none => exact Keeps.pure _
  | some r =>
      apply Keeps.bind (Keeps.lift _)
      intro produced
      apply Keeps.bind (setRuntime_kept id _)
      intro _
      apply Keeps.bind (Keeps.forM (fun payload => step_kept ops id (.produce payload)) _)
      intro _
      split
      · exact Keeps.bind (step_kept ops id .leave) fun _ => Keeps.pure _
      · exact Keeps.pure _

theorem timers_kept (s : Session) : Kept (timers ops id s) := by
  apply Keeps.bind Keeps.get
  intro b
  have hdue : ∀ due : Bool, Kept (do
      if due then
        step ops id (·.keepAlive b.now)
        step ops id (·.expire b.now)
      return due) := by
    intro due
    split
    · apply Keeps.bind (step_kept ops id (.keepAlive b.now))
      intro _
      exact Keeps.bind (step_kept ops id (.expire b.now)) fun _ => Keeps.pure _
    · exact Keeps.pure _
  exact hdue _

theorem turn_kept : Kept (turn ops id) := by
  apply Keeps.bind Keeps.get
  intro b
  have hmove : ∀ m : Session.Move, Kept (do step ops id m.act; return true) :=
    fun m => Keeps.bind (step_kept ops id m) fun _ => Keeps.pure _
  cases b.table.session? id with
  | none => exact Keeps.pure _
  | some s =>
      have hidle : Kept (do if ← produce ops id then return true else timers ops id s) := by
        apply Keeps.bind (produce_kept ops id)
        intro some
        cases some with
        | true => exact Keeps.pure _
        | false => exact timers_kept ops id s
      have hwanted : ∀ otherwise : Switching ρ σ Bool, Kept otherwise → Kept (do
          if s.stopping then
            step ops id Session.stop
            return true
          else if !s.queue.isEmpty then
            step ops id Session.takeNext
            return true
          else otherwise) := by
        intro otherwise hotherwise
        split
        · exact hmove .stop
        · split
          · exact hmove .takeNext
          · exact hotherwise
      dsimp only
      split
      · exact Keeps.pure _
      · exact hmove .finish
      · exact hmove (.adopt b.now)
      · exact hwanted _ hidle
      · apply hwanted
        apply Keeps.bind (receive_kept _)
        intro received
        cases received with
        | frame f => exact hmove (.receive f)
        | closed | failed _ => exact hmove (.lose b.now)
        | pending => exact hidle

theorem turns_kept : Kept (turns ops) := by
  apply Keeps.bind Keeps.get
  intro b
  apply Keeps.foldlM
  intro busy id
  exact Keeps.bind (turn_kept ops id) fun _ => Keeps.pure _

theorem settle_keeps {τ : Type} {view : τ → SessionTable} {round : StateT τ (StateM σ) Bool}
    (hround : Keeps view round) (fuel : Nat) : Keeps view (settle round fuel) := by
  induction fuel with
  | zero => exact Keeps.pure _
  | succ fuel ih =>
      apply Keeps.bind hround
      intro busy
      cases busy with
      | true => exact ih
      | false => exact Keeps.pure _

end Switchboard
end Workbench

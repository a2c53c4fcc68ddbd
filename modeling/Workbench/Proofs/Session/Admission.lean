import Workbench.Proofs.Session.Roster

/-!
Admissions of sockets to sessions.  An admission that makes a new session puts it in the place of one that is
gone, or of none.  One that comes to nothing, at once or when the session cannot be made, leaves everything as
if it had not been tried, whatever has happened meanwhile.
-/

namespace Workbench

namespace SessionTable

theorem dispose_release (t : SessionTable) (key : SessionKey) (id : SessionId) :
    (t.release key).dispose id = (t.dispose id).release key := by
  have hsame : (t.release key).session? id = t.session? id := rfl
  rw [dispose, dispose, hsame]
  cases t.session? id <;> rfl

theorem disposeAll_release (t : SessionTable) (key : SessionKey) (ids : List SessionId) :
    ids.foldl dispose (t.release key) = (ids.foldl dispose t).release key := by
  induction ids generalizing t with
  | nil => rfl
  | cons id ids ih => rw [List.foldl_cons, dispose_release, ih, List.foldl_cons]

end SessionTable

namespace Roster

namespace Event

/-- An admission of this key ends. -/
def ends (key : SessionKey) : Event → Bool
  | .made other _ _ _ | .failed other => other == key
  | _ => false

/-- A socket asks for a new session of this key. -/
def asksAnew (key : SessionKey) : Event → Bool
  | .ask other reconnection _ => other == key && !reconnection
  | _ => false

/-- Not half of a sweep or of a shutdown. -/
def isWhole : Event → Bool
  | .evict _ _ | .drain => false
  | _ => true

end Event

theorem filter_ne_comm {α : Type} [DecidableEq α] (xs : List α) (a b : α) :
    (xs.filter (· ≠ a)).filter (· ≠ b) = (xs.filter (· ≠ b)).filter (· ≠ a) := by
  rw [List.filter_filter, List.filter_filter]
  simp only [Bool.and_comm]

section Withdrawing

variable (w : Roster) (key : SessionKey)

theorem usable?_withdraw (other : SessionKey) :
    (w.withdraw key).table.usable? other = w.table.usable? other := rfl

theorem session?_withdraw (id : SessionId) :
    (w.withdraw key).table.session? id = w.table.session? id := rfl

variable {key}

theorem mem_reserved_withdraw {other : SessionKey} (hother : other ≠ key) :
    other ∈ (w.withdraw key).table.reserved ↔ other ∈ w.table.reserved := by
  simp [withdraw, SessionTable.release, hother]

theorem mem_making_withdraw {other : SessionKey} (hother : other ≠ key) :
    other ∈ (w.withdraw key).making ↔ other ∈ w.making := by
  simp [withdraw, hother]

/-- The end of an admission without a session can be put before anything that does not belong to it and
does not compete with it. -/
theorem withdraw_step {e : Event} (hends : e.ends key = false) (hasks : e.asksAnew key = false) :
    (w.step e).withdraw key = (w.withdraw key).step e := by
  cases e with
  | ask other reconnection socket =>
      cases reconnection with
      | true =>
          simp only [step_ask_again, usable?_withdraw]
          cases w.table.usable? other <;> rfl
      | false =>
          have hother : other ≠ key := by simpa [Event.asksAnew] using hasks
          simp only [step_ask_anew, usable?_withdraw, mem_reserved_withdraw w hother]
          split
          · simp [withdraw, SessionTable.release, hother]
          · rfl
  | made other grace socket early =>
      have hother : other ≠ key := by simpa [Event.ends] using hends
      simp only [step, mem_making_withdraw w hother]
      split
      · simp only [withdraw, SessionTable.register, SessionTable.release, filter_ne_comm]
      · rfl
  | failed other => simp only [step, withdraw, SessionTable.release, filter_ne_comm]
  | remove id =>
      simp only [step, session?_withdraw, SessionTable.remove_eq]
      cases w.table.session? id with
      | none => rfl
      | some s =>
          simp only
          split <;> rfl
  | sweep kind keep =>
      have hexcess : (w.withdraw key).table.excess kind keep = w.table.excess kind keep := rfl
      have htold := SessionTable.disposeAll_release w.table key (w.table.excess kind keep)
      simp only [step, SessionTable.sweepOffline, hexcess]
      simp only [withdraw, htold]
      rfl
  | shutdown =>
      have htold := SessionTable.disposeAll_release w.table.drain.2 key (w.table.live.map (·.2))
      exact congrArg (fun table => ({ w.withdraw key with table } : Roster)) htold.symm
  | evict | drain => rfl
  | tell id => simp only [step, withdraw, SessionTable.dispose_release]
  | turn id m =>
      simp only [step, session?_withdraw]
      cases w.table.session? id <;> rfl

end Withdrawing

/-- While a session is being made for a key, nobody else gets to make one. -/
theorem step_of_asksAnew {w : Roster} {key : SessionKey} (hkey : key ∈ w.table.reserved)
    {e : Event} (hasks : e.asksAnew key = true) : w.step e = w := by
  cases e with
  | ask other reconnection socket =>
      obtain ⟨rfl, rfl⟩ : other = key ∧ reconnection = false := by
        simpa [Event.asksAnew] using hasks
      rw [step_ask_anew, if_neg fun hfree => hfree.2 hkey]
  | made | failed | remove | sweep | shutdown | evict | drain | tell | turn => cases hasks

theorem mem_making_step {w : Roster} {key : SessionKey} (hkey : key ∈ w.making) {e : Event}
    (hends : e.ends key = false) : key ∈ (w.step e).making := by
  cases e with
  | ask other reconnection socket =>
      rw [step]
      split
      · exact List.mem_cons_of_mem _ hkey
      · exact hkey
      · exact hkey
  | made other grace socket early =>
      have hother : other ≠ key := by simpa [Event.ends] using hends
      rw [step]
      split
      · exact List.mem_filter.2 ⟨hkey, by simpa using hother.symm⟩
      · exact hkey
  | failed other =>
      have hother : other ≠ key := by simpa [Event.ends] using hends
      exact List.mem_filter.2 ⟨hkey, by simpa using hother.symm⟩
  | remove id =>
      rw [step]
      split
      · split <;> exact hkey
      · exact hkey
  | sweep | shutdown | evict | drain | tell => exact hkey
  | turn id m =>
      rw [step]
      split <;> exact hkey

/-- Whatever has happened while a session was being made for a key, when that fails everything is as if
neither it nor those that it kept off had been there. -/
theorem withdraw_after {w : Roster} (hsound : w.Sound) {key : SessionKey} (hkey : key ∈ w.making)
    (others : List Event) (hends : ∀ e ∈ others, e.ends key = false) :
    (others.foldl step w).withdraw key =
      (others.filter fun e => !e.asksAnew key).foldl step (w.withdraw key) := by
  -- The end is moved forward, event by event, to where the admission began.
  induction others generalizing w with
  | nil => rfl
  | cons e others ih =>
      obtain ⟨hfirst, hrest⟩ := List.forall_mem_cons.1 hends
      rw [List.foldl_cons, ih (hsound.step e) (mem_making_step hkey hfirst) hrest]
      cases hasks : e.asksAnew key with
      | true =>
          rw [step_of_asksAnew (hsound.making_eq ▸ hkey) hasks, List.filter_cons_of_neg (by simp [hasks])]
      | false =>
          rw [withdraw_step w hfirst hasks, List.filter_cons_of_pos (by simp [hasks]),
            List.foldl_cons]

theorem withdraw_ask {w : Roster} (hsound : w.Sound) {key : SessionKey} {socket : SocketId}
    {t : SessionTable} (hseat : w.table.seat key false socket = .ok (.reserved, t)) :
    key ∈ (w.step (.ask key false socket)).making ∧
      (w.step (.ask key false socket)).withdraw key = w := by
  have hfree : w.table.usable? key = none ∧ key ∉ w.table.reserved := by
    by_contra htaken
    rw [SessionTable.seat_anew, if_neg htaken] at hseat
    cases hseat
  have hmaking : key ∉ w.making := hsound.making_eq ▸ hfree.2
  have hsame : ∀ keys : List SessionKey, key ∉ keys → (key :: keys).filter (· ≠ key) = keys := by
    intro keys hkeys
    rw [List.filter_cons_of_neg (by simp), List.filter_eq_self]
    rintro other hother
    simpa using fun heq : other = key => hkeys (heq ▸ hother)
  rw [step_ask_anew, if_pos hfree]
  refine ⟨List.mem_cons_self, ?_⟩
  simp only [withdraw, SessionTable.release, hsame _ hfree.2, hsame _ hmaking]

theorem condemned_step {w : Roster} (hnone : w.condemned = []) {e : Event}
    (hwhole : e.isWhole = true) : (w.step e).condemned = [] := by
  cases e with
  | ask key reconnection socket =>
      rw [step]
      split <;> exact hnone
  | made key grace socket early =>
      rw [step]
      split <;> exact hnone
  | remove id =>
      rw [step]
      split
      · split <;> exact hnone
      · exact hnone
  | failed | sweep | shutdown => exact hnone
  | tell id =>
      show w.condemned.filter _ = []
      rw [hnone, List.filter_nil]
  | turn id m =>
      rw [step]
      split <;> exact hnone
  | evict | drain => cases hwhole

/-- As long as sweeps and shutdowns are not interrupted, nobody waits to be told. -/
theorem run_condemned {events : List Event} (hwhole : ∀ e ∈ events, e.isWhole = true) :
    (run events).condemned = [] := by
  have hsteps : ∀ w : Roster, w.condemned = [] → (events.foldl step w).condemned = [] := by
    induction events with
    | nil => exact fun _ hnone => hnone
    | cons e events ih =>
        obtain ⟨hfirst, hrest⟩ := List.forall_mem_cons.1 hwhole
        exact fun w hnone => ih hrest (w.step e) (condemned_step hnone hfirst)
  exact hsteps {} rfl

/-- If nobody waits to be told, a session is in use unless it was torn down or told itself. -/
theorem active_of_running {w : Roster} (hnone : w.condemned = []) {id : SessionId} {s : Session}
    (hs : w.table.session? id = some s) (hrunning : s.disposed = false ∧ s.stopping = false) :
    w.Active s.key id := by
  refine ⟨s, hs, rfl, ?_⟩
  rintro (hcondemned | hgone)
  · rw [hnone] at hcondemned
    cases hcondemned
  · rcases hgone s hs with hdisposed | hstopping
    · exact Bool.noConfusion (hrunning.1.symm.trans hdisposed)
    · exact Bool.noConfusion (hrunning.2.symm.trans hstopping)

namespace Sound

variable {w : Roster}

/-- A new session is found by its key, and nothing but a session that was torn down had to go for it. -/
theorem made_displaces (hsound : w.Sound) {key : SessionKey} (hkey : key ∈ w.making) (grace : Nat)
    (socket : SocketId) (early : List Session.Move) :
    let later := w.step (.made key grace socket early)
    later.table.find? key = some w.table.sessions.length ∧
      ∀ entry ∈ w.table.live, entry ∈ later.table.live ∨
        entry.1 = key ∧ ∃ old, w.table.session? entry.2 = some old ∧ old.disposed = true := by
  intro later
  have hnew := newcomer_key key grace socket early
  have hlater : later.table = (w.table.register (newcomer key grace socket early)).2 := by
    simp only [later, Roster.step, if_pos hkey]
  rw [hlater]
  refine ⟨?_, ?_⟩
  · have hfound := w.table.find?_register (newcomer key grace socket early)
    rwa [hnew] at hfound
  · intro entry hentry
    by_cases hsame : entry.1 = key
    · exact Or.inr ⟨hsame, hsound.making_gone entry hentry (hsame ▸ hkey)⟩
    · left
      apply List.mem_cons_of_mem
      refine List.mem_filter.2 ⟨hentry, decide_eq_true ?_⟩
      exact fun heq => hsame (heq.trans hnew)

/-- A session is taken out only if it is still the one found by its key. -/
theorem remove_iff (hsound : w.Sound) {id : SessionId} {s : Session}
    (hs : w.table.session? id = some s) :
    (w.table.remove id).1 = true ↔ w.table.find? s.key = some id := by
  have hany : (w.table.remove id).1 = w.table.live.any (·.2 == id) := by
    rw [SessionTable.remove]
    cases w.table.live.any (·.2 == id) <;> rfl
  rw [hany, List.any_eq_true]
  constructor
  · rintro ⟨entry, hentry, hid⟩
    have hid : entry.2 = id := by simpa using hid
    obtain ⟨there, hthere, hkey⟩ := hsound.live_key entry hentry
    rw [hid] at hthere
    cases hs.symm.trans hthere
    apply SessionTable.find?_of_mem hsound.keys_nodup
    rwa [hkey, ← hid]
  · intro hfind
    exact ⟨(s.key, id), SessionTable.mem_of_find? hfind, by simp⟩

end Sound

/-- In every run of a table, also one in which the halves of sweeps and shutdowns are apart: a key has at
most one session that is not over, and none while one is being made for it.  A session that a sweep or a shutdown has
taken out counts as over before it is told.  That a key has at most one session that was neither torn down nor told
to shut down is said of runs of whole events only: `isWhole` leaves out the halves of sweeps and shutdowns, between
which such a session can still stand beside its successor.  A new session displaces none
but one that was torn down; taking out a session, however late, leaves what is found for every other.  Keys
are reserved exactly for the sessions being made, each once.  An admission that is refused at once changes
nothing.  One that fails at its end leaves everything as if neither it nor those that it kept off had been there:
the run it is compared with is without the competing asks for a new session of the same key, which `asksAnew` leaves
out and which were refused while it lasted. -/
theorem one_session_per_key (events : List Event) :
    let w := run events
    ((∀ key i j, w.Active key i → w.Active key j → i = j) ∧
      (∀ key ∈ w.making, ∀ id, ¬ w.Active key id) ∧
      ((∀ e ∈ events, e.isWhole = true) → ∀ i j s t,
        w.table.session? i = some s → w.table.session? j = some t → s.key = t.key →
        s.disposed = false ∧ s.stopping = false → t.disposed = false ∧ t.stopping = false →
        i = j)) ∧
    (∀ key ∈ w.making, ∀ grace socket early,
      let later := w.step (.made key grace socket early)
      later.table.find? key = some w.table.sessions.length ∧
      ∀ entry ∈ w.table.live, entry ∈ later.table.live ∨
        entry.1 = key ∧ ∃ old, w.table.session? entry.2 = some old ∧ old.disposed = true) ∧
    (∀ id s, w.table.session? id = some s →
      ((w.table.remove id).1 = true ↔ w.table.find? s.key = some id) ∧
      ∀ key other, other ≠ id → w.table.find? key = some other →
        (w.table.remove id).2.find? key = some other) ∧
    (w.table.reserved = w.making ∧ w.making.Nodup) ∧
    (∀ key reconnection socket fault, w.table.seat key reconnection socket = .error fault →
      w.step (.ask key reconnection socket) = w) ∧
    (∀ key socket table others, w.table.seat key false socket = .ok (.reserved, table) →
      (∀ e ∈ others, e.ends key = false) →
      run (events ++ .ask key false socket :: others ++ [.failed key]) =
        run (events ++ others.filter fun e => !e.asksAnew key)) := by
  intro w
  have hsound : w.Sound := run_sound events
  refine ⟨⟨fun _ _ _ => hsound.active_unique, fun _ => hsound.not_active, ?_⟩,
    fun _ => hsound.made_displaces, fun id s hs => ⟨hsound.remove_iff hs, ?_⟩,
    ⟨hsound.making_eq.symm, hsound.making_nodup⟩, ?_, ?_⟩
  · intro hwhole i j s t hs ht hkey hsActive htActive
    have hnone : w.condemned = [] := run_condemned hwhole
    have hj := active_of_running hnone ht htActive
    rw [← hkey] at hj
    exact hsound.active_unique (active_of_running hnone hs hsActive) hj
  · exact fun _ _ => w.table.find?_remove
  · intro key reconnection socket fault hrefused
    rw [step, hrefused]
  · intro key socket table others hseat hends
    obtain ⟨hmaking, hback⟩ := withdraw_ask hsound hseat
    have hafter := withdraw_after (hsound.step (.ask key false socket)) hmaking others hends
    rw [hback] at hafter
    rw [run, run, List.foldl_append, List.foldl_append, List.foldl_append]
    exact hafter

/-- The key of a client of management. -/
def someKey : SessionKey := ⟨.management, "a"⟩

/-- A session is made for it, and is torn down while it is still found by its key. -/
def tornDown : List Event := [.ask someKey false 0, .made someKey 9 0 [.adopt 0, .leave]]

/-- The successor takes its place and is the only one in use; the late removal of the first is of no effect.  While the
successor was being made another socket was kept off, and had its making failed it would all be as before. -/
theorem one_session_per_key_successor :
    let w := run (tornDown ++ [.ask someKey false 1])
    let later := run (tornDown ++ [.ask someKey false 1, .made someKey 9 1 []])
    w.making = [someKey] ∧ w.step (.ask someKey false 2) = w ∧ later.table.find? someKey = some 1 ∧
      later.Active someKey 1 ∧ (∀ i, later.Active someKey i → i = 1) ∧ (later.table.remove 0).1 = false ∧
      run (tornDown ++ .ask someKey false 1 :: [.ask someKey false 2] ++ [.failed someKey]) = run tornDown := by
  intro w later
  obtain ⟨-, hmade, -, -, hrefused, -⟩ := one_session_per_key (tornDown ++ [.ask someKey false 1])
  obtain ⟨⟨hunique, -, -⟩, -, hremove, -, -, -⟩ :=
    one_session_per_key (tornDown ++ [.ask someKey false 1, .made someKey 9 1 []])
  obtain ⟨-, -, -, -, -, hfailed⟩ := one_session_per_key tornDown
  have hfound := (hmade someKey (by decide) 9 1 []).1
  have hactive : later.Active someKey 1 := by
    refine ⟨.start "a" .management 9 1, rfl, rfl, ?_⟩
    rintro (hcondemned | hgone)
    · cases hcondemned
    · rcases hgone _ rfl with hdisposed | hstopping
      · cases hdisposed
      · cases hstopping
  have hgone : (later.table.remove 0).1 ≠ true := by
    intro htrue
    have hstill := ((hremove 0 _ rfl).1).1 htrue
    cases hfound.symm.trans hstill
  refine ⟨rfl, hrefused someKey false 2 _ rfl, hfound, hactive, fun i hi => hunique _ _ _ hi hactive,
    Bool.eq_false_iff.2 hgone, ?_⟩
  exact (hfailed someKey 1 _ [.ask someKey false 2] rfl (by decide)).trans rfl

end Roster
end Workbench

import Workbench.Proofs.Session.Table

/-!
A table of sessions in use.  Sockets ask for sessions, sessions are made while the table is open to others,
take turns, are told to shut down and are taken out, in any order.  At any time a key has at most one
session that is neither torn down nor told to shut down, and none while a new one is being made for it.
-/

namespace Workbench

/-- A table of sessions with what is under way around it. -/
structure Roster where
  table : SessionTable := {}
  /-- Keys whose admission has begun and not ended, so that a session is being made. -/
  making : List SessionKey := []
  /-- Sessions that have been taken out to be told to shut down and have not been told. -/
  condemned : List SessionId := []

namespace SessionTable

/-- The table without some of its sessions. -/
def without (t : SessionTable) (gone : List SessionId) : SessionTable :=
  { t with live := t.live.filter fun e => !gone.contains e.2 }

/-- Empties the table and tells every session that it held to shut down. -/
def shutdown (t : SessionTable) : SessionTable :=
  let (all, rest) := t.drain
  (all.map (·.2)).foldl dispose rest

end SessionTable

namespace Roster

/-- What can happen to a table. -/
inductive Event where
  /-- An admission begins. -/
  | ask (key : SessionKey) (reconnection : Bool) (socket : SocketId)
  /-- An admission ends with a new session, which may have taken turns already. -/
  | made (key : SessionKey) (grace : Nat) (socket : SocketId) (early : List Session.Move)
  /-- An admission ends without one. -/
  | failed (key : SessionKey)
  /-- A session that has closed is taken out, however late. -/
  | remove (id : SessionId)
  | sweep (kind : ConnectionKind) (keep : Nat)
  | shutdown
  /-- The first half of a sweep: sessions are taken out and have not been told. -/
  | evict (kind : ConnectionKind) (keep : Nat)
  /-- The first half of a shutdown. -/
  | drain
  /-- A session is told to shut down. -/
  | tell (id : SessionId)
  /-- The task of a session takes a turn. -/
  | turn (id : SessionId) (m : Session.Move)

/-- The session that an admission makes. -/
def newcomer (key : SessionKey) (grace : Nat) (socket : SocketId) (early : List Session.Move) :
    Session :=
  (Session.start key.token key.kind grace socket).turns early

/-- An admission ends without a session. -/
def withdraw (w : Roster) (key : SessionKey) : Roster :=
  { w with table := w.table.release key, making := w.making.filter (· ≠ key) }

def step (w : Roster) : Event → Roster
  | .ask key reconnection socket =>
    match w.table.seat key reconnection socket with
    | .ok (.reserved, table) => { w with table, making := key :: w.making }
    | .ok (.resumed _, table) => { w with table }
    | .error _ => w
  | .made key grace socket early =>
    if key ∈ w.making then
      { w with
        table := (w.table.register (newcomer key grace socket early)).2
        making := w.making.filter (· ≠ key) }
    else w
  | .failed key => w.withdraw key
  | .remove id =>
    match w.table.session? id with
    | some s => if s.phase = .closed then { w with table := (w.table.remove id).2 } else w
    | none => w
  | .sweep kind keep => { w with table := (w.table.sweepOffline kind keep).2 }
  | .shutdown => { w with table := w.table.shutdown }
  | .evict kind keep =>
    let gone := w.table.excess kind keep
    { w with table := w.table.without gone, condemned := gone ++ w.condemned }
  | .drain =>
    let (all, table) := w.table.drain
    { w with table, condemned := all.map (·.2) ++ w.condemned }
  | .tell id =>
    { w with table := w.table.dispose id, condemned := w.condemned.filter (· ≠ id) }
  | .turn id m =>
    match w.table.session? id with
    | some s => { w with table := w.table.setSession id (m.act s).2 }
    | none => w

/-- What has become of an empty table after these events. -/
def run (events : List Event) : Roster := events.foldl step {}

/-- A session has been torn down, or told to shut down, or is about to be told. -/
def Over (w : Roster) (id : SessionId) : Prop :=
  id ∈ w.condemned ∨
    ∀ s, w.table.session? id = some s → s.disposed = true ∨ s.stopping = true

/-- There is a session of this key, and it is not over. -/
def Active (w : Roster) (key : SessionKey) (id : SessionId) : Prop :=
  ∃ s, w.table.session? id = some s ∧ s.key = key ∧ ¬ w.Over id

/-- What holds of a table in use at any time. -/
structure Sound (w : Roster) : Prop where
  sessions : ∀ id s, w.table.session? id = some s → s.Sound
  keys_nodup : (w.table.live.map Prod.fst).Nodup
  live_key : ∀ entry ∈ w.table.live, ∃ s, w.table.session? entry.2 = some s ∧ s.key = entry.1
  active_live : ∀ key id, w.Active key id → (key, id) ∈ w.table.live
  making_eq : w.making = w.table.reserved
  making_nodup : w.making.Nodup
  making_gone : ∀ entry ∈ w.table.live, entry.1 ∈ w.making →
    ∃ s, w.table.session? entry.2 = some s ∧ s.disposed = true

theorem start_sound : Sound {} where
  sessions := nofun
  keys_nodup := List.nodup_nil
  live_key := nofun
  active_live := fun _ _ ⟨_, hid, _⟩ => nomatch hid
  making_eq := rfl
  making_nodup := List.nodup_nil
  making_gone := nofun

/-- What a step does that neither begins nor ends the making of a session. -/
structure Succeeds (later w : Roster) : Prop where
  goes : w.table.Goes later.table
  reserved_eq : later.table.reserved = w.table.reserved
  making_eq : later.making = w.making
  live_sublist : later.table.live.Sublist w.table.live
  condemned : ∀ id ∈ w.condemned, later.Over id
  gone : ∀ entry ∈ w.table.live, entry ∉ later.table.live → later.Over entry.2

theorem Succeeds.over {later w : Roster} (hsucceeds : later.Succeeds w) {id : SessionId}
    (hover : w.Over id) : later.Over id := by
  rcases hover with hcondemned | hover
  · exact hsucceeds.condemned id hcondemned
  · right
    intro s hs
    obtain ⟨old, hold, hfollows⟩ := hsucceeds.goes.of_later hs
    exact (hover old hold).imp hfollows.disposed hfollows.stopping

theorem Sound.succeed {later w : Roster} (hsound : w.Sound) (hsucceeds : later.Succeeds w) :
    later.Sound where
  sessions := by
    intro id s hs
    obtain ⟨old, hold, hfollows⟩ := hsucceeds.goes.of_later hs
    exact hfollows.sound (hsound.sessions id old hold)
  keys_nodup := (hsucceeds.live_sublist.map Prod.fst).nodup hsound.keys_nodup
  live_key := by
    intro entry hentry
    obtain ⟨old, hold, hkey⟩ := hsound.live_key entry (hsucceeds.live_sublist.subset hentry)
    obtain ⟨s, hs, hfollows⟩ := hsucceeds.goes.of_earlier hold
    exact ⟨s, hs, hfollows.key_eq.trans hkey⟩
  active_live := by
    rintro key id ⟨s, hs, hkey, hactive⟩
    obtain ⟨old, hold, hfollows⟩ := hsucceeds.goes.of_later hs
    -- It was in use before, so it was found; had it been taken out, it would be over now.
    have hlive : (key, id) ∈ w.table.live := hsound.active_live key id
      ⟨old, hold, hfollows.key_eq.symm.trans hkey, fun hover => hactive (hsucceeds.over hover)⟩
    by_contra hgone
    exact hactive (hsucceeds.gone (key, id) hlive hgone)
  making_eq := by rw [hsucceeds.making_eq, hsucceeds.reserved_eq, hsound.making_eq]
  making_nodup := hsucceeds.making_eq ▸ hsound.making_nodup
  making_gone := by
    intro entry hentry hmaking
    rw [hsucceeds.making_eq] at hmaking
    obtain ⟨old, hold, hdisposed⟩ :=
      hsound.making_gone entry (hsucceeds.live_sublist.subset hentry) hmaking
    obtain ⟨s, hs, hfollows⟩ := hsucceeds.goes.of_earlier hold
    exact ⟨s, hs, hfollows.disposed hdisposed⟩

section Steps

variable {w : Roster}

theorem step_ask_again (w : Roster) (key : SessionKey) (socket : SocketId) :
    w.step (.ask key true socket) =
      match w.table.usable? key with
      | some (id, s) => { w with table := w.table.setSession id (s.attached socket) }
      | none => w := by
  rw [step, SessionTable.seat_again]
  cases w.table.usable? key <;> rfl

theorem step_ask_anew (w : Roster) (key : SessionKey) (socket : SocketId) :
    w.step (.ask key false socket) =
      if w.table.usable? key = none ∧ key ∉ w.table.reserved then
        { w with
          table := { w.table with reserved := key :: w.table.reserved }
          making := key :: w.making }
      else w := by
  by_cases hfree : w.table.usable? key = none ∧ key ∉ w.table.reserved
  · simp only [step, SessionTable.seat_anew, if_pos hfree]
  · simp only [step, SessionTable.seat_anew, if_neg hfree]

/-- Only what is known of some sessions changes. -/
theorem Succeeds.of_goes {t : SessionTable} (hgoes : w.table.Goes t) (hlive : t.live = w.table.live)
    (hreserved : t.reserved = w.table.reserved) : ({ w with table := t } : Roster).Succeeds w where
  goes := hgoes
  reserved_eq := hreserved
  making_eq := rfl
  live_sublist := hlive ▸ List.Sublist.refl _
  condemned := fun _ hcondemned => Or.inl hcondemned
  gone := fun _ hentry hgone => absurd (hlive ▸ hentry) hgone

/-- Sessions that have been told are over. -/
theorem over_of_told {later : Roster} (t : SessionTable) (told : List SessionId)
    (hsession : ∀ id, later.table.session? id = (told.foldl SessionTable.dispose t).session? id)
    {id : SessionId} (hid : id ∈ told) : later.Over id := by
  right
  intro s hs
  rw [hsession, SessionTable.session?_disposeAll, if_pos hid] at hs
  obtain ⟨old, _, rfl⟩ := Option.map_eq_some_iff.1 hs
  exact Or.inr rfl

theorem remove_succeeds (hsound : w.Sound) {id : SessionId} {s : Session}
    (hs : w.table.session? id = some s) (hclosed : s.phase = .closed) :
    ({ w with table := (w.table.remove id).2 } : Roster).Succeeds w := by
  rw [SessionTable.remove_eq]
  refine {
    goes := SessionTable.Goes.refl
    reserved_eq := rfl
    making_eq := rfl
    live_sublist := List.filter_sublist
    condemned := fun _ hcondemned => Or.inl hcondemned
    gone := ?_ }
  intro entry hentry hgone
  have hid : entry.2 = id := by
    by_contra hother
    exact hgone (List.mem_filter.2 ⟨hentry, by simpa using hother⟩)
  right
  intro there hthere
  rw [hid] at hthere
  cases hs.symm.trans hthere
  left
  rw [(hsound.sessions id s hs).disposed_eq, Session.isOver, hclosed]

theorem sweep_succeeds (w : Roster) (kind : ConnectionKind) (keep : Nat) :
    (w.step (.sweep kind keep)).Succeeds w where
  goes := SessionTable.disposeAll_goes (w.table.excess kind keep)
  reserved_eq := SessionTable.reserved_disposeAll w.table (w.table.excess kind keep)
  making_eq := rfl
  live_sublist := List.filter_sublist
  condemned := fun _ hcondemned => Or.inl hcondemned
  gone := by
    intro entry hentry hgone
    apply over_of_told w.table (w.table.excess kind keep) fun _ => rfl
    by_contra hspared
    exact hgone (List.mem_filter.2 ⟨hentry, by simpa using hspared⟩)

theorem shutdown_succeeds (w : Roster) : (w.step .shutdown).Succeeds w where
  goes := SessionTable.disposeAll_goes (t := w.table.drain.2) (w.table.live.map Prod.snd)
  reserved_eq := SessionTable.reserved_disposeAll w.table.drain.2 (w.table.live.map Prod.snd)
  making_eq := rfl
  live_sublist := by
    show (SessionTable.live (List.foldl _ w.table.drain.2 _)).Sublist _
    rw [SessionTable.live_disposeAll]
    exact List.nil_sublist _
  condemned := fun _ hcondemned => Or.inl hcondemned
  gone := by
    intro entry hentry _
    exact over_of_told w.table.drain.2 (w.table.live.map Prod.snd) (fun _ => rfl)
      (List.mem_map_of_mem hentry)

theorem evict_succeeds (w : Roster) (kind : ConnectionKind) (keep : Nat) :
    (w.step (.evict kind keep)).Succeeds w where
  goes := SessionTable.Goes.refl
  reserved_eq := rfl
  making_eq := rfl
  live_sublist := List.filter_sublist
  condemned := fun _ hcondemned => Or.inl (List.mem_append_right _ hcondemned)
  gone := by
    intro entry hentry hgone
    left
    apply List.mem_append_left
    by_contra hspared
    exact hgone (List.mem_filter.2 ⟨hentry, by simpa using hspared⟩)

theorem drain_succeeds (w : Roster) : (w.step .drain).Succeeds w where
  goes := SessionTable.Goes.refl
  reserved_eq := rfl
  making_eq := rfl
  live_sublist := List.nil_sublist _
  condemned := fun _ hcondemned => Or.inl (List.mem_append_right _ hcondemned)
  gone := fun _ hentry _ => Or.inl (List.mem_append_left _ (List.mem_map_of_mem hentry))

theorem tell_succeeds (w : Roster) (id : SessionId) : (w.step (.tell id)).Succeeds w where
  goes := SessionTable.disposeAll_goes [id]
  reserved_eq := SessionTable.reserved_dispose w.table id
  making_eq := rfl
  live_sublist := SessionTable.live_dispose w.table id ▸ List.Sublist.refl _
  condemned := by
    intro other hcondemned
    by_cases hother : other = id
    · exact over_of_told w.table [id] (fun _ => rfl) (by simp [hother])
    · exact Or.inl (List.mem_filter.2 ⟨hcondemned, by simpa using hother⟩)
  gone := fun _ hentry hgone => absurd (SessionTable.live_dispose w.table id ▸ hentry) hgone

theorem turn_succeeds {id : SessionId} {s : Session} (hs : w.table.session? id = some s)
    (m : Session.Move) :
    ({ w with table := w.table.setSession id (m.act s).2 } : Roster).Succeeds w :=
  Succeeds.of_goes (SessionTable.setSession_goes hs (Session.act_follows s m)) rfl rfl

/-- A key is reserved: nothing that is found by it is in use. -/
theorem Sound.reserve (hsound : w.Sound) {key : SessionKey} (husable : w.table.usable? key = none)
    (hfree : key ∉ w.table.reserved) :
    ({ w with
      table := { w.table with reserved := key :: w.table.reserved }
      making := key :: w.making } : Roster).Sound where
  sessions := hsound.sessions
  keys_nodup := hsound.keys_nodup
  live_key := hsound.live_key
  active_live := hsound.active_live
  making_eq := congrArg (key :: ·) hsound.making_eq
  making_nodup := List.nodup_cons.2 ⟨hsound.making_eq ▸ hfree, hsound.making_nodup⟩
  making_gone := by
    intro entry hentry hmaking
    rcases List.mem_cons.1 hmaking with rfl | hbefore
    · obtain ⟨s, hs, _⟩ := hsound.live_key entry hentry
      have hfind := SessionTable.find?_of_mem hsound.keys_nodup hentry
      exact ⟨s, hs, SessionTable.disposed_of_usable?_eq_none husable hfind hs⟩
    · exact hsound.making_gone entry hentry hbefore

theorem Sound.withdraw (hsound : w.Sound) (key : SessionKey) : (w.withdraw key).Sound where
  sessions := hsound.sessions
  keys_nodup := hsound.keys_nodup
  live_key := hsound.live_key
  active_live := hsound.active_live
  making_eq := congrArg (List.filter (· ≠ key)) hsound.making_eq
  making_nodup := hsound.making_nodup.filter _
  making_gone := fun entry hentry hmaking =>
    hsound.making_gone entry hentry (List.mem_of_mem_filter hmaking)

theorem newcomer_follows (key : SessionKey) (grace : Nat) (socket : SocketId)
    (early : List Session.Move) :
    (newcomer key grace socket early).Follows (.start key.token key.kind grace socket) :=
  Session.turns_follows _ early

theorem newcomer_key (key : SessionKey) (grace : Nat) (socket : SocketId)
    (early : List Session.Move) : (newcomer key grace socket early).key = key :=
  (newcomer_follows key grace socket early).key_eq

/-- Nothing in use belongs to a key for which a session is being made. -/
theorem Sound.not_active (hsound : w.Sound) {key : SessionKey} (hkey : key ∈ w.making)
    (id : SessionId) : ¬ w.Active key id := by
  intro hactive
  obtain ⟨s, hs, hdisposed⟩ :=
    hsound.making_gone (key, id) (hsound.active_live key id hactive) hkey
  obtain ⟨_, _, _, hnot⟩ := hactive
  apply hnot
  right
  intro there hthere
  cases hs.symm.trans hthere
  exact Or.inl hdisposed

/-- The session made for a key takes the place of one that is not in use. -/
theorem Sound.register (hsound : w.Sound) {key : SessionKey} (hkey : key ∈ w.making)
    {s : Session} (hs : s.Sound) (hskey : s.key = key) :
    ({ w with
      table := (w.table.register s).2
      making := w.making.filter (· ≠ key) } : Roster).Sound where
  sessions := by
    intro id there hthere
    rw [SessionTable.session?_register] at hthere
    split at hthere
    · cases hthere
      exact hs
    · exact hsound.sessions id there hthere
  keys_nodup := by
    show (s.key :: (w.table.live.filter (·.1 ≠ s.key)).map Prod.fst).Nodup
    rw [List.nodup_cons]
    refine ⟨?_, (List.filter_sublist.map Prod.fst).nodup hsound.keys_nodup⟩
    intro hmem
    obtain ⟨entry, hentry, heq⟩ := List.mem_map.1 hmem
    exact absurd heq (by simpa using (List.mem_filter.1 hentry).2)
  live_key := by
    intro entry hentry
    rw [SessionTable.session?_register]
    rcases List.mem_cons.1 hentry with rfl | hold
    · exact ⟨s, if_pos rfl, rfl⟩
    · obtain ⟨there, hthere, hkey⟩ := hsound.live_key entry (List.mem_of_mem_filter hold)
      refine ⟨there, ?_, hkey⟩
      rw [if_neg (Nat.ne_of_lt (w.table.session?_lt hthere)), hthere]
  active_live := by
    rintro other id ⟨there, hthere, hother, hactive⟩
    rw [SessionTable.session?_register] at hthere
    split at hthere
    · next hnew =>
        cases hthere
        rw [hnew, ← hother]
        exact List.mem_cons_self
    · next hold =>
        have hbefore : w.Active other id := by
          refine ⟨there, hthere, hother, fun hover => hactive (hover.imp_right ?_)⟩
          intro hgone there hthere
          rw [SessionTable.session?_register, if_neg hold] at hthere
          exact hgone there hthere
        -- An entry goes only if its key is the one being made, which nothing in use has.
        have hne : other ≠ s.key := by
          rintro rfl
          exact hsound.not_active (hskey ▸ hkey) id hbefore
        apply List.mem_cons_of_mem
        exact List.mem_filter.2 ⟨hsound.active_live other id hbefore, decide_eq_true hne⟩
  making_eq := by
    show w.making.filter (· ≠ key) = w.table.reserved.filter (· ≠ s.key)
    rw [hsound.making_eq, hskey]
  making_nodup := hsound.making_nodup.filter _
  making_gone := by
    intro entry hentry hmaking
    obtain ⟨hmaking, hne⟩ := List.mem_filter.1 hmaking
    rw [SessionTable.session?_register]
    rcases List.mem_cons.1 hentry with rfl | hold
    · exact absurd hskey (of_decide_eq_true hne)
    · obtain ⟨there, hthere, hdisposed⟩ :=
        hsound.making_gone entry (List.mem_of_mem_filter hold) hmaking
      refine ⟨there, ?_, hdisposed⟩
      rw [if_neg (Nat.ne_of_lt (w.table.session?_lt hthere)), hthere]

theorem Sound.step (hsound : w.Sound) (e : Event) : (w.step e).Sound := by
  cases e with
  | ask key reconnection socket =>
      cases reconnection with
      | true =>
          rw [step_ask_again]
          split
          · next id s husable =>
              obtain ⟨_, hs, hlive⟩ := SessionTable.usable?_eq_some husable
              exact hsound.succeed (Succeeds.of_goes (SessionTable.setSession_goes hs
                (Session.attached_follows hlive socket)) rfl rfl)
          · exact hsound
      | false =>
          rw [step_ask_anew]
          split
          · next hfree => exact hsound.reserve hfree.1 hfree.2
          · exact hsound
  | made key grace socket early =>
      rw [Roster.step]
      split
      · next hkey =>
          apply hsound.register hkey
          · exact (newcomer_follows key grace socket early).sound (Session.start_sound _ _ _ _)
          · exact newcomer_key key grace socket early
      · exact hsound
  | failed key => exact hsound.withdraw key
  | remove id =>
      rw [Roster.step]
      split
      · next s hs =>
          split
          · next hclosed => exact hsound.succeed (remove_succeeds hsound hs hclosed)
          · exact hsound
      · exact hsound
  | sweep kind keep => exact hsound.succeed (sweep_succeeds w kind keep)
  | shutdown => exact hsound.succeed (shutdown_succeeds w)
  | evict kind keep => exact hsound.succeed (evict_succeeds w kind keep)
  | drain => exact hsound.succeed (drain_succeeds w)
  | tell id => exact hsound.succeed (tell_succeeds w id)
  | turn id m =>
      rw [Roster.step]
      split
      · next s hs => exact hsound.succeed (turn_succeeds hs m)
      · exact hsound

end Steps

theorem run_sound (events : List Event) : (run events).Sound := by
  have hsteps : ∀ w : Roster, w.Sound → (events.foldl step w).Sound := by
    induction events with
    | nil => exact fun _ hsound => hsound
    | cons e events ih => exact fun w hsound => ih (w.step e) (hsound.step e)
  exact hsteps {} start_sound

/-- No key has two sessions in use. -/
theorem Sound.active_unique {w : Roster} (hsound : w.Sound) {key : SessionKey} {i j : SessionId}
    (hi : w.Active key i) (hj : w.Active key j) : i = j := by
  have hfindi := SessionTable.find?_of_mem hsound.keys_nodup (hsound.active_live key i hi)
  have hfindj := SessionTable.find?_of_mem hsound.keys_nodup (hsound.active_live key j hj)
  exact Option.some.inj (hfindi.symm.trans hfindj)

end Roster
end Workbench

import Mathlib.Data.List.Nodup
import Workbench.Proofs.Session.Turn
import Workbench.Session.Table

/-!
What the operations of a session table do to the sessions in it, to what can be found and to what is
reserved.
-/

namespace Workbench

/-- What a session is to be found by. -/
def Session.key (s : Session) : SessionKey := ⟨s.kind, s.token⟩

theorem Session.Follows.key_eq {t s : Session} (hfollows : t.Follows s) : t.key = s.key := by
  rw [Session.key, hfollows.kind_eq, hfollows.token_eq, Session.key]

namespace SessionTable

variable (t : SessionTable)

theorem session?_setSession {id : SessionId} {old : Session} (hid : t.session? id = some old)
    (s : Session) (other : SessionId) :
    (t.setSession id s).session? other = if other = id then some s else t.session? other := by
  obtain ⟨hlt, _⟩ := List.getElem?_eq_some_iff.1 hid
  by_cases hother : other = id
  · subst hother
    simp [session?, setSession, hlt]
  · rw [if_neg hother]
    exact List.getElem?_set_ne (Ne.symm hother)

theorem session?_dispose (id other : SessionId) :
    (t.dispose id).session? other =
      if other = id then (t.session? other).map Session.dispose else t.session? other := by
  cases hid : t.session? id with
  | none =>
      have hsame : t.dispose id = t := by rw [dispose, hid]
      rw [hsame]
      split
      · next heq => rw [heq, hid, Option.map_none]
      · rfl
  | some s =>
      have hset : t.dispose id = t.setSession id s.dispose := by rw [dispose, hid]
      rw [hset, session?_setSession t hid]
      split
      · next heq => rw [heq, hid, Option.map_some]
      · rfl

@[simp] theorem live_dispose (id : SessionId) : (t.dispose id).live = t.live := by
  rw [dispose]
  split <;> rfl

@[simp] theorem reserved_dispose (id : SessionId) : (t.dispose id).reserved = t.reserved := by
  rw [dispose]
  split <;> rfl

theorem live_disposeAll (ids : List SessionId) : (ids.foldl dispose t).live = t.live := by
  induction ids generalizing t with
  | nil => rfl
  | cons id ids ih => rw [List.foldl_cons, ih, live_dispose]

theorem reserved_disposeAll (ids : List SessionId) :
    (ids.foldl dispose t).reserved = t.reserved := by
  induction ids generalizing t with
  | nil => rfl
  | cons id ids ih => rw [List.foldl_cons, ih, reserved_dispose]

theorem session?_disposeAll (ids : List SessionId) (id : SessionId) :
    (ids.foldl dispose t).session? id =
      if id ∈ ids then (t.session? id).map Session.dispose else t.session? id := by
  induction ids generalizing t with
  | nil => rfl
  | cons head ids ih =>
      rw [List.foldl_cons, ih, session?_dispose]
      by_cases hhead : id = head
      · simp only [hhead, ↓reduceIte, List.mem_cons, true_or]
        split
        · rw [Option.map_map]
          rfl
        · rfl
      · simp only [hhead, ↓reduceIte, List.mem_cons, false_or]

/-- Taking entries out by their sessions does not touch what is found for other sessions. -/
theorem find?_filter (keep : SessionId → Bool) {key : SessionKey} {id : SessionId}
    (hfind : t.find? key = some id) (hkeep : keep id = true) :
    find? { t with live := t.live.filter fun e => keep e.2 } key = some id := by
  rw [find?, Option.map_eq_some_iff] at hfind ⊢
  obtain ⟨entry, hentry, rfl⟩ := hfind
  refine ⟨entry, ?_, rfl⟩
  rw [List.find?_filter]
  rw [List.find?_eq_some_iff_append] at hentry ⊢
  obtain ⟨hkey, before, rest, hlive, hbefore⟩ := hentry
  refine ⟨by simp [hkeep, hkey], before, rest, hlive, ?_⟩
  intro other hother
  have hne : other.1 ≠ key := by simpa using hbefore other hother
  simp [hne]

/-- Only sessions that have lost their socket are swept. -/
theorem offline_of_mem_excess {kind : ConnectionKind} {keep : Nat} {id : SessionId}
    (hid : id ∈ t.excess kind keep) :
    ∃ s since, t.session? id = some s ∧ s.offlineSince = some since := by
  obtain ⟨entry, hentry, rfl⟩ := List.mem_map.1 hid
  have hoffline : entry ∈ t.offline kind :=
    (List.mergeSort_perm _ _).mem_iff.1 (List.mem_of_mem_take hentry)
  obtain ⟨id, _, hsome⟩ := List.mem_filterMap.1 hoffline
  cases hs : t.session? id with
  | none =>
      rw [hs] at hsome
      cases hsome
  | some s =>
      cases hsince : s.offlineSince with
      | none =>
          simp only [hs, bind, Option.bind, hsince] at hsome
          cases hsome
      | some since =>
          simp only [hs, bind, Option.bind, hsince] at hsome
          cases hsome
          exact ⟨s, since, hs, hsince⟩

/-- A session that a sweep does not choose is not touched by it. -/
theorem sweepOffline_spares {kind : ConnectionKind} {keep : Nat} {id : SessionId}
    (hid : id ∉ t.excess kind keep) :
    (t.sweepOffline kind keep).2.session? id = t.session? id ∧
      ∀ key, t.find? key = some id → (t.sweepOffline kind keep).2.find? key = some id := by
  constructor
  · show ((t.excess kind keep).foldl dispose t).session? id = _
    rw [session?_disposeAll, if_neg hid]
  · intro key hfind
    exact find?_filter t (fun id => !(t.excess kind keep).contains id) hfind (by simpa using hid)

section Finding

variable {t}
variable {key : SessionKey} {id : SessionId} {s : Session}

theorem mem_of_find? (hfind : t.find? key = some id) : (key, id) ∈ t.live := by
  obtain ⟨entry, hentry, rfl⟩ := Option.map_eq_some_iff.1 hfind
  have hkey : entry.1 = key := by simpa using List.find?_some hentry
  exact hkey ▸ List.mem_of_find?_eq_some hentry

/-- As long as no key has two entries, every entry is found. -/
theorem find?_of_mem (hnodup : (t.live.map Prod.fst).Nodup) (hmem : (key, id) ∈ t.live) :
    t.find? key = some id := by
  have hsome : (t.live.find? fun e => e.1 == key).isSome := by
    rw [List.find?_isSome]
    exact ⟨(key, id), hmem, by simp⟩
  obtain ⟨entry, hentry⟩ := Option.isSome_iff_exists.1 hsome
  have hkey : entry.1 = key := by simpa using List.find?_some hentry
  have hsame : entry = (key, id) :=
    List.inj_on_of_nodup_map hnodup (List.mem_of_find?_eq_some hentry) hmem hkey
  rw [find?, hentry, hsame, Option.map_some]

theorem usable?_eq_some (husable : t.usable? key = some (id, s)) :
    t.find? key = some id ∧ t.session? id = some s ∧ s.disposed = false := by
  cases hfind : t.find? key with
  | none => simp [usable?, hfind] at husable
  | some found =>
      cases hsession : t.session? found with
      | none => simp [usable?, hfind, hsession] at husable
      | some there =>
          cases hdisposed : there.disposed with
          | true => simp [usable?, hfind, hsession, hdisposed] at husable
          | false =>
              obtain ⟨rfl, rfl⟩ : found = id ∧ there = s := by
                simpa [usable?, hfind, hsession, hdisposed] using husable
              exact ⟨rfl, hsession, hdisposed⟩

/-- If a key is free for a new session, what is found by it has been torn down. -/
theorem disposed_of_usable?_eq_none (husable : t.usable? key = none) (hfind : t.find? key = some id)
    (hsession : t.session? id = some s) : s.disposed = true := by
  cases hdisposed : s.disposed with
  | true => rfl
  | false => simp [usable?, hfind, hsession, hdisposed] at husable

end Finding

section Seating

variable (key : SessionKey) (socket : SocketId)

theorem seat_again :
    t.seat key true socket =
      match t.usable? key with
      | some (id, s) => .ok (.resumed id, t.setSession id (s.attached socket))
      | none => .error (.sessionNotFound key.token) := by
  cases husable : t.usable? key with
  | none => simp only [seat, husable]
  | some found =>
      obtain ⟨_, _, hlive⟩ := usable?_eq_some husable
      simp only [seat, husable, Session.reconnect_of_live hlive]
      rfl

theorem seat_anew :
    t.seat key false socket =
      if t.usable? key = none ∧ key ∉ t.reserved then
        .ok (.reserved, { t with reserved := key :: t.reserved })
      else .error .tokenInUse := by
  cases husable : t.usable? key with
  | none => by_cases hkey : key ∈ t.reserved <;> simp [seat, husable, hkey]
  | some found => simp [seat, husable]

end Seating

theorem session?_register (s : Session) (id : SessionId) :
    (t.register s).2.session? id =
      if id = t.sessions.length then some s else t.session? id := by
  show (t.sessions ++ [s])[id]? = _
  by_cases hid : id = t.sessions.length
  · rw [if_pos hid, hid, List.getElem?_concat_length]
  · rw [if_neg hid, session?]
    rcases Nat.lt_or_gt_of_ne hid with hlt | hgt
    · exact List.getElem?_append_left hlt
    · rw [List.getElem?_eq_none (by simp; omega), List.getElem?_eq_none (by omega)]

theorem session?_lt {id : SessionId} {s : Session} (hid : t.session? id = some s) :
    id < t.sessions.length :=
  (List.getElem?_eq_some_iff.1 hid).1

/-- The session registered is found by its key. -/
theorem find?_register (s : Session) : (t.register s).2.find? s.key = some t.sessions.length := by
  show (((s.key, t.sessions.length) :: t.live.filter (·.1 ≠ s.key)).find?
    fun e => e.1 == s.key).map (·.2) = _
  simp

theorem remove_eq (id : SessionId) :
    (t.remove id).2 = { t with live := t.live.filter (·.2 ≠ id) } := by
  rw [remove]
  split
  · rfl
  · next hnone =>
      have hsame : t.live.filter (·.2 ≠ id) = t.live := by
        rw [List.filter_eq_self]
        intro entry hentry
        simp only [List.any_eq_true, not_exists, not_and] at hnone
        simpa using hnone entry hentry
      rw [hsame]

/-- Taking a session out does not touch what is found for any other. -/
theorem find?_remove {key : SessionKey} {id other : SessionId} (hother : other ≠ id)
    (hfind : t.find? key = some other) : (t.remove id).2.find? key = some other := by
  rw [remove_eq]
  exact find?_filter t (fun other => decide (other ≠ id)) hfind (by simpa using hother)

/-- Every session is there still, and nothing about it has been taken back. -/
def Goes (later : SessionTable) : Prop :=
  ∀ id, Option.Rel Session.Follows (later.session? id) (t.session? id)

variable {t}

theorem Goes.refl : t.Goes t := by
  intro id
  cases t.session? id with
  | none => exact Option.Rel.none
  | some s => exact Option.Rel.some (Session.Follows.refl s)

theorem Goes.of_later {later : SessionTable} (hgoes : t.Goes later) {id : SessionId} {s : Session}
    (hs : later.session? id = some s) : ∃ old, t.session? id = some old ∧ s.Follows old := by
  have hrel := hgoes id
  rw [hs] at hrel
  cases hold : t.session? id with
  | none => rw [hold] at hrel; cases hrel
  | some old =>
      rw [hold] at hrel
      cases hrel with
      | some hfollows => exact ⟨old, rfl, hfollows⟩

theorem Goes.of_earlier {later : SessionTable} (hgoes : t.Goes later) {id : SessionId}
    {old : Session} (hold : t.session? id = some old) :
    ∃ s, later.session? id = some s ∧ s.Follows old := by
  have hrel := hgoes id
  rw [hold] at hrel
  cases hs : later.session? id with
  | none => rw [hs] at hrel; cases hrel
  | some s =>
      rw [hs] at hrel
      cases hrel with
      | some hfollows => exact ⟨s, rfl, hfollows⟩

theorem setSession_goes {id : SessionId} {old s : Session} (hid : t.session? id = some old)
    (hfollows : s.Follows old) : t.Goes (t.setSession id s) := by
  intro other
  rw [session?_setSession t hid]
  split
  · next heq =>
      rw [heq, hid]
      exact Option.Rel.some hfollows
  · exact Goes.refl other

theorem disposeAll_goes (ids : List SessionId) : t.Goes (ids.foldl dispose t) := by
  intro id
  rw [session?_disposeAll]
  cases t.session? id with
  | none => split <;> exact Option.Rel.none
  | some s =>
      split
      · exact Option.Rel.some s.dispose_follows
      · exact Option.Rel.some (Session.Follows.refl s)

end SessionTable
end Workbench

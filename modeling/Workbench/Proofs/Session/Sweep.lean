import Workbench.Proofs.Session.Attachment
import Workbench.Proofs.Session.Table

/-!
Sweeps of offline sessions.  A session counts the sockets that have been attached and not been adopted, and
as long as there is one it does not count as offline.  So no sweep chooses a session that a client is
coming back to.
-/

namespace Workbench

namespace Life.Sound

variable {l : Life}

/-- What has been attached and not been adopted waits, unless the session is closed. -/
theorem filter_accepted (hsound : l.Sound) (hopen : l.session.phase ≠ .closed) :
    (l.accepted.filter fun socket => socket ∉ adoptions l.log) = l.session.unanswered := by
  have haccepted := hsound.accepted_eq
  rw [hsound.refusals_nil hopen, List.append_nil] at haccepted
  have hnodup := hsound.owned_nodup.of_cons
  rw [haccepted, List.nodup_append] at hnodup
  have hadopted : ((adoptions l.log).filter fun socket => socket ∉ adoptions l.log) = [] := by
    rw [List.filter_eq_nil_iff]
    intro socket hsocket
    simpa using hsocket
  have hwaits : (l.session.unanswered.filter fun socket => socket ∉ adoptions l.log) =
      l.session.unanswered := by
    rw [List.filter_eq_self]
    intro socket hsocket
    simpa using fun hadopted => hnodup.2.2 socket hadopted socket hsocket rfl
  rw [haccepted, List.filter_append, hadopted, hwaits, List.nil_append]

end Life.Sound

namespace Session

theorem Sound.open_of_live {s : Session} (hsound : s.Sound) (hlive : s.disposed = false) :
    s.phase ≠ .closed := by
  intro hclosed
  have hover := hsound.disposed_eq
  rw [isOver, hclosed, hlive] at hover
  cases hover

/-- The count goes down by one with every adoption. -/
theorem Sound.adopt_pending {s : Session} (hsound : s.Sound) {socket : SocketId}
    (hphase : s.phase = .adopting socket true) (now : Instant) :
    (s.adopt now).2.pendingAttaches + 1 = s.pendingAttaches := by
  have hlive : s.disposed = false := by rw [hsound.disposed_eq, isOver, hphase]
  have hpending := hsound.pending_eq hlive
  rw [unanswered, hphase, List.length_cons] at hpending
  simp only [Session.adopt, hphase, ↓reduceIte]
  omega

end Session

namespace SessionTable

/-- A session that does not count as offline is not swept. -/
theorem not_mem_excess (t : SessionTable) {id : SessionId} {s : Session}
    (hid : t.session? id = some s) (honline : s.offlineSince = none) (kind : ConnectionKind)
    (keep : Nat) : id ∉ t.excess kind keep := by
  intro hexcess
  obtain ⟨other, since, hother, hsince⟩ := offline_of_mem_excess t hexcess
  rw [hid] at hother
  cases hother
  rw [honline] at hsince
  cases hsince

end SessionTable

namespace Life

/-- In whatever order sockets are attached, taken, adopted and lost, also while their clients are told: a
session that has not been torn down counts exactly the sockets that were attached and not adopted, and
counting one down never meets zero.  While there is one the session does not count as offline, and a sweep
of whatever table it is in neither chooses nor touches it. -/
theorem pendingAttaches_exact (token : String) (kind : ConnectionKind) (grace : Nat)
    (first : SocketId) (events : List Event)
    (hlive : ((start token kind grace first).after events).session.disposed = false) :
    let l := (start token kind grace first).after events
    l.session.pendingAttaches =
      (l.accepted.filter fun socket => socket ∉ adoptions l.log).length ∧
    (∀ socket, l.session.phase = .adopting socket true → ∀ now,
      (l.session.adopt now).2.pendingAttaches + 1 = l.session.pendingAttaches) ∧
    (0 < l.session.pendingAttaches → l.session.offlineSince = none ∧
      ∀ (t : SessionTable) (id : SessionId), t.session? id = some l.session →
        ∀ swept keep, id ∉ t.excess swept keep ∧
          (t.sweepOffline swept keep).2.session? id = some l.session ∧
          ∀ key, t.find? key = some id →
            (t.sweepOffline swept keep).2.find? key = some id) := by
  intro l
  have hsound : l.Sound := (start_sound token kind grace first).after events
  refine ⟨?_, fun socket hphase => hsound.session.adopt_pending hphase, fun hpending => ?_⟩
  · rw [hsound.filter_accepted (hsound.session.open_of_live hlive)]
    exact hsound.session.pending_eq hlive
  · have honline := hsound.session.offline_pending hpending
    refine ⟨honline, fun t id hid swept keep => ?_⟩
    have hspared := t.not_mem_excess hid honline swept keep
    obtain ⟨hsame, hfound⟩ := t.sweepOffline_spares hspared
    exact ⟨hspared, hsame.trans hid, hfound⟩

/-- Two sockets are attached to a session whose first has been adopted, which then takes one of them and
learns late that the first is lost: both still count. -/
theorem pendingAttaches_two_under_way :
    let l := (start "t" .management 1000 1).after
      [.task (.adopt 5), .reconnect 2, .reconnect 3, .task (.lose 6), .task .takeNext]
    l.session.pendingAttaches = (l.accepted.filter fun socket => socket ∉ adoptions l.log).length ∧
      l.session.pendingAttaches = 2 ∧ l.session.offlineSince = none := by
  have hexact := pendingAttaches_exact "t" .management 1000 1
    [.task (.adopt 5), .reconnect 2, .reconnect 3, .task (.lose 6), .task .takeNext] rfl
  exact ⟨hexact.1, rfl, (hexact.2.2 (by decide)).1⟩

end Life
end Workbench

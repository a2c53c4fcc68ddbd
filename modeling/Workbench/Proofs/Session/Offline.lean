import Mathlib.Data.List.Nodup
import Workbench.Proofs.Session.Roster

/-!
Which offline sessions a sweep takes: those that have been offline for longest, as many as there are too many, and
nothing else is touched.
-/

namespace Workbench

namespace SessionTable

/-- Sessions are found by their own keys, each by one. -/
structure Proper (t : SessionTable) : Prop where
  keys_nodup : (t.live.map Prod.fst).Nodup
  live_key : ∀ entry ∈ t.live, ∃ s, t.session? entry.2 = some s ∧ s.key = entry.1

/-- Since when a session is offline. -/
def since? (t : SessionTable) (id : SessionId) : Option Instant := (t.session? id).bind Session.offlineSince

/-- A session of this kind is found, and it has been offline since then. -/
def OfflineSince (t : SessionTable) (kind : ConnectionKind) (id : SessionId) (since : Instant) : Prop :=
  t.since? id = some since ∧ ∃ key, (key, id) ∈ t.live ∧ key.kind = kind

variable {t : SessionTable} {kind : ConnectionKind} {keep : Nat} {id : SessionId} {since : Instant}

theorem offline_eq (t : SessionTable) (kind : ConnectionKind) :
    t.offline kind = (t.ofKind kind).filterMap fun id => (t.since? id).map (·, id) := by
  unfold offline since?
  congr 1
  funext id
  cases t.session? id with
  | none => rfl
  | some s => cases hsince : s.offlineSince <;> simp [hsince, bind, Option.bind]

theorem mem_ofKind : id ∈ t.ofKind kind ↔ ∃ key, (key, id) ∈ t.live ∧ key.kind = kind := by
  simp [ofKind]

theorem mem_offline : (since, id) ∈ t.offline kind ↔ t.OfflineSince kind id since := by
  rw [offline_eq, OfflineSince, ← mem_ofKind, List.mem_filterMap]
  constructor
  · rintro ⟨other, hkind, hsince⟩
    obtain ⟨when, hwhen, hsame⟩ := Option.map_eq_some_iff.1 hsince
    obtain ⟨rfl, rfl⟩ := Prod.mk.inj hsame
    exact ⟨hwhen, hkind⟩
  · rintro ⟨hsince, hkind⟩
    exact ⟨id, hkind, by rw [hsince, Option.map_some]⟩

section Proper

theorem Proper.eq_of_id (hproper : t.Proper) {a b : SessionKey × SessionId} (ha : a ∈ t.live) (hb : b ∈ t.live)
    (hid : a.2 = b.2) : a = b := by
  obtain ⟨s, hs, hkey⟩ := hproper.live_key a ha
  obtain ⟨s', hs', hkey'⟩ := hproper.live_key b hb
  rw [hid] at hs
  cases hs.symm.trans hs'
  exact Prod.ext (hkey.symm.trans hkey') hid

theorem Proper.ids_nodup (hproper : t.Proper) : (t.live.map Prod.snd).Nodup := by
  have hlive : t.live.Nodup := hproper.keys_nodup.of_map
  exact hlive.map_on fun a ha b hb => hproper.eq_of_id ha hb

theorem ids_offline_sublist (t : SessionTable) (kind : ConnectionKind) :
    ((t.offline kind).map Prod.snd).Sublist (t.live.map Prod.snd) := by
  have hids : (t.offline kind).map Prod.snd = (t.ofKind kind).filter fun id => (t.since? id).isSome := by
    rw [offline_eq, List.map_filterMap, ← List.filterMap_eq_filter]
    congr 1
    funext id
    cases hsince : t.since? id <;> simp [Option.guard, hsince]
  rw [hids]
  apply List.filter_sublist.trans
  exact List.filter_sublist.map Prod.snd

/-- No session counts twice. -/
theorem Proper.offline_nodup (hproper : t.Proper) (kind : ConnectionKind) :
    ((t.offline kind).map Prod.snd).Nodup :=
  (ids_offline_sublist t kind).nodup hproper.ids_nodup

end Proper

section Choice

/-- The offline sessions, those that have been offline for longest first. -/
def eldest (t : SessionTable) (kind : ConnectionKind) : List (Instant × SessionId) :=
  (t.offline kind).mergeSort fun a b => a.1 ≤ b.1

theorem eldest_perm (t : SessionTable) (kind : ConnectionKind) : (t.eldest kind).Perm (t.offline kind) :=
  List.mergeSort_perm _ _

theorem eldest_sorted (t : SessionTable) (kind : ConnectionKind) :
    (t.eldest kind).Pairwise fun a b => a.1 ≤ b.1 := by
  have hsorted : (t.eldest kind).Pairwise fun a b => decide (a.1 ≤ b.1) :=
    List.pairwise_mergeSort (fun a b c => by simpa using Nat.le_trans)
      (fun a b => by simpa using Nat.le_total a.1 b.1) (t.offline kind)
  exact hsorted.imp of_decide_eq_true

theorem excess_eq (t : SessionTable) (kind : ConnectionKind) (keep : Nat) :
    t.excess kind keep = ((t.eldest kind).take ((t.offline kind).length - keep)).map Prod.snd := by
  rw [← (eldest_perm t kind).length_eq]
  rfl

/-- As many are chosen as there are too many. -/
theorem length_excess (t : SessionTable) (kind : ConnectionKind) (keep : Nat) :
    (t.excess kind keep).length = (t.offline kind).length - keep := by
  rw [excess_eq, List.length_map, List.length_take, (eldest_perm t kind).length_eq]
  omega

/-- Whoever is chosen is offline, and has been for at least as long as anyone who is not. -/
theorem offline_of_excess (hid : id ∈ t.excess kind keep) :
    ∃ since, t.OfflineSince kind id since ∧
      ∀ other when, t.OfflineSince kind other when → other ∉ t.excess kind keep → since ≤ when := by
  rw [excess_eq] at hid ⊢
  obtain ⟨entry, hentry, rfl⟩ := List.mem_map.1 hid
  have hoffline : entry ∈ t.offline kind := (eldest_perm t kind).mem_iff.1 (List.mem_of_mem_take hentry)
  refine ⟨entry.1, mem_offline.1 hoffline, ?_⟩
  intro other when hother hstays
  have hthere : (when, other) ∈ t.eldest kind := (eldest_perm t kind).mem_iff.2 (mem_offline.2 hother)
  have hsorted := eldest_sorted t kind
  rw [← List.take_append_drop ((t.offline kind).length - keep) (t.eldest kind)] at hthere hsorted
  rcases List.mem_append.1 hthere with hchosen | hlater
  · exact absurd (List.mem_map_of_mem hchosen) hstays
  · exact (List.pairwise_append.1 hsorted).2.2 entry hentry (when, other) hlater

theorem Proper.excess_nodup (hproper : t.Proper) (kind : ConnectionKind) (keep : Nat) :
    (t.excess kind keep).Nodup := by
  have hids : ((t.eldest kind).map Prod.snd).Nodup :=
    ((eldest_perm t kind).map Prod.snd).nodup_iff.2 (hproper.offline_nodup kind)
  rw [excess_eq]
  exact ((List.take_sublist _ _).map Prod.snd).nodup hids

/-- None of the first that come are left. -/
theorem filter_eldest (t : SessionTable) (kind : ConnectionKind) (keep : Nat) :
    ((t.eldest kind).filter fun e => e.2 ∉ t.excess kind keep) =
      ((t.eldest kind).drop ((t.offline kind).length - keep)).filter fun e => e.2 ∉ t.excess kind keep := by
  have hfirst : ((t.eldest kind).take ((t.offline kind).length - keep)).filter
      (fun e => e.2 ∉ t.excess kind keep) = [] := by
    rw [excess_eq, List.filter_eq_nil_iff]
    intro entry hentry
    have hchosen : entry.2 ∈ ((t.eldest kind).take ((t.offline kind).length - keep)).map Prod.snd :=
      List.mem_map_of_mem hentry
    simp only [hchosen, not_true_eq_false, decide_false, Bool.false_eq_true, not_false_eq_true]
  have hsplit := List.take_append_drop ((t.offline kind).length - keep) (t.eldest kind)
  have hfiltered := congrArg (List.filter fun e => e.2 ∉ t.excess kind keep) hsplit
  rwa [List.filter_append, hfirst, List.nil_append, eq_comm] at hfiltered

end Choice

section Swept

theorem since?_sweepOffline (hid : id ∉ t.excess kind keep) :
    (t.sweepOffline kind keep).2.since? id = t.since? id := by
  rw [since?, since?, (t.sweepOffline_spares hid).1]

/-- Whoever is offline after a sweep was so before and has not been chosen. -/
theorem offline_sweepOffline (t : SessionTable) (kind : ConnectionKind) (keep : Nat) :
    (t.sweepOffline kind keep).2.offline kind =
      (t.offline kind).filter fun e => e.2 ∉ t.excess kind keep := by
  have hkind : (t.sweepOffline kind keep).2.ofKind kind =
      (t.ofKind kind).filter fun id => id ∉ t.excess kind keep := by
    simp [ofKind, sweepOffline, List.filter_map, List.filter_filter, Function.comp_def, Bool.and_comm]
  rw [offline_eq, offline_eq, hkind, List.filter_filterMap, List.filterMap_filter]
  apply List.filterMap_congr
  intro id _
  by_cases hid : id ∈ t.excess kind keep
  · cases t.since? id <;> simp [hid, Option.filter]
  · rw [since?_sweepOffline hid]
    cases t.since? id <;> simp [hid, Option.filter]

theorem length_offline_sweepOffline (t : SessionTable) (kind : ConnectionKind) (keep : Nat) :
    ((t.sweepOffline kind keep).2.offline kind).length =
      (((t.eldest kind).drop ((t.offline kind).length - keep)).filter
        fun e => e.2 ∉ t.excess kind keep).length := by
  rw [offline_sweepOffline, ← filter_eldest]
  exact ((eldest_perm t kind).filter _).length_eq.symm

/-- However the table is, no more stay offline than are kept. -/
theorem length_offline_sweepOffline_le (t : SessionTable) (kind : ConnectionKind) (keep : Nat) :
    ((t.sweepOffline kind keep).2.offline kind).length ≤ keep := by
  have hfilter := List.length_filter_le (fun e => decide (e.2 ∉ t.excess kind keep))
    ((t.eldest kind).drop ((t.offline kind).length - keep))
  rw [List.length_drop, (eldest_perm t kind).length_eq] at hfilter
  rw [length_offline_sweepOffline]
  omega

/-- As many stay as are kept, or all there are. -/
theorem Proper.length_offline_sweepOffline_eq (hproper : t.Proper) (kind : ConnectionKind) (keep : Nat) :
    ((t.sweepOffline kind keep).2.offline kind).length = min (t.offline kind).length keep := by
  have hids : ((t.eldest kind).map Prod.snd).Nodup :=
    ((eldest_perm t kind).map Prod.snd).nodup_iff.2 (hproper.offline_nodup kind)
  have hall : ((t.eldest kind).drop ((t.offline kind).length - keep)).filter
      (fun e => e.2 ∉ t.excess kind keep) = (t.eldest kind).drop ((t.offline kind).length - keep) := by
    rw [List.filter_eq_self]
    intro entry hentry
    rw [← List.take_append_drop ((t.offline kind).length - keep) (t.eldest kind), List.map_append,
      List.nodup_append] at hids
    rw [excess_eq, decide_eq_true_iff]
    intro hchosen
    exact hids.2.2 _ hchosen _ (List.mem_map_of_mem hentry) rfl
  rw [length_offline_sweepOffline, hall, List.length_drop, (eldest_perm t kind).length_eq]
  omega

/-- Whoever goes is found, and by its own kind. -/
theorem live_of_excess (hid : id ∈ t.excess kind keep) : ∃ key, (key, id) ∈ t.live ∧ key.kind = kind := by
  obtain ⟨since, ⟨-, hkind⟩, -⟩ := offline_of_excess hid
  exact hkind

/-- As many are taken out as are chosen. -/
theorem Proper.length_live_sweepOffline (hproper : t.Proper) (kind : ConnectionKind) (keep : Nat) :
    (t.sweepOffline kind keep).2.live.length + (t.excess kind keep).length = t.live.length := by
  have hchosen : ((t.live.filter fun e => e.2 ∈ t.excess kind keep).map Prod.snd).Perm
      (t.excess kind keep) := by
    apply (List.perm_ext_iff_of_nodup _ (hproper.excess_nodup kind keep)).2
    · intro id
      constructor
      · intro hid
        obtain ⟨entry, hentry, rfl⟩ := List.mem_map.1 hid
        exact of_decide_eq_true (List.mem_filter.1 hentry).2
      · intro hid
        obtain ⟨key, hlive, -⟩ := live_of_excess hid
        exact List.mem_map.2 ⟨(key, id), List.mem_filter.2 ⟨hlive, decide_eq_true hid⟩, rfl⟩
    · exact (List.filter_sublist.map Prod.snd).nodup hproper.ids_nodup
  have hrest : (t.sweepOffline kind keep).2.live =
      t.live.filter fun e => !decide (e.2 ∈ t.excess kind keep) := by
    simp [sweepOffline]
  have hlength := hchosen.length_eq
  rw [List.length_map] at hlength
  rw [hrest, ← hlength, Nat.add_comm]
  exact (List.length_eq_length_filter_add _).symm

/-- Keys of those that go are free, and no others. -/
theorem Proper.find?_sweepOffline (hproper : t.Proper) (kind : ConnectionKind) (keep : Nat) (key : SessionKey) :
    (t.sweepOffline kind keep).2.find? key = (t.find? key).filter fun id => id ∉ t.excess kind keep := by
  have hback : ∀ id, (t.sweepOffline kind keep).2.find? key = some id →
      t.find? key = some id ∧ id ∉ t.excess kind keep := by
    intro id hid
    obtain ⟨hlive, hstays⟩ := List.mem_filter.1 (mem_of_find? hid)
    exact ⟨find?_of_mem hproper.keys_nodup hlive, by simpa using hstays⟩
  apply Option.ext
  intro id
  rw [Option.filter_eq_some_iff, decide_eq_true_iff]
  constructor
  · exact hback id
  · exact fun ⟨hfind, hstays⟩ => (t.sweepOffline_spares hstays).2 key hfind

end Swept

/-- What becomes of a table when these sessions of a kind go, so that only so many offline ones stay. -/
structure Swept (t : SessionTable) (kind : ConnectionKind) (keep : Nat) (gone : List SessionId)
    (later : SessionTable) : Prop where
  nodup : gone.Nodup
  length_eq : gone.length = (t.offline kind).length - keep
  /-- They are offline, and nobody who stays has been so for longer. -/
  longest : ∀ id ∈ gone, ∃ since, t.OfflineSince kind id since ∧
    ∀ other when, t.OfflineSince kind other when → other ∉ gone → since ≤ when
  live_eq : later.live = t.live.filter fun e => e.2 ∉ gone
  live_length : later.live.length + gone.length = t.live.length
  find?_eq : ∀ key, later.find? key = (t.find? key).filter fun id => id ∉ gone
  /-- They are to shut down, and nothing else about them changes. -/
  told : ∀ id ∈ gone, ∃ s, t.session? id = some s ∧ later.session? id = some { s with stopping := true }
  spared : ∀ id, id ∉ gone → later.session? id = t.session? id
  /-- Nobody goes who is online or of another kind. -/
  others : ∀ entry ∈ t.live, entry.1.kind ≠ kind ∨ t.since? entry.2 = none →
    entry ∈ later.live ∧ later.session? entry.2 = t.session? entry.2
  reserved_eq : later.reserved = t.reserved
  staying : (later.offline kind).length = min (t.offline kind).length keep

theorem Proper.not_mem_excess_of_other (hproper : t.Proper) {entry : SessionKey × SessionId} (hentry : entry ∈ t.live)
    (hother : entry.1.kind ≠ kind ∨ t.since? entry.2 = none) : entry.2 ∉ t.excess kind keep := by
  intro hid
  obtain ⟨since, ⟨hsince, key, hlive, hkind⟩, -⟩ := offline_of_excess hid
  have hsame : (key, entry.2) = entry := hproper.eq_of_id hlive hentry rfl
  rcases hother with hother | honline
  · exact hother (hsame ▸ hkind)
  · cases honline.symm.trans hsince

theorem Proper.swept (hproper : t.Proper) (kind : ConnectionKind) (keep : Nat) :
    t.Swept kind keep (t.excess kind keep) (t.sweepOffline kind keep).2 where
  nodup := hproper.excess_nodup kind keep
  length_eq := length_excess t kind keep
  longest := fun _ => offline_of_excess
  live_eq := by simp [sweepOffline]
  live_length := hproper.length_live_sweepOffline kind keep
  find?_eq := hproper.find?_sweepOffline kind keep
  told := by
    intro id hid
    obtain ⟨s, _, hs, _⟩ := offline_of_mem_excess t hid
    refine ⟨s, hs, ?_⟩
    show ((t.excess kind keep).foldl dispose t).session? id = _
    rw [session?_disposeAll, if_pos hid, hs, Option.map_some]
    rfl
  spared := fun _ hid => (t.sweepOffline_spares hid).1
  others := by
    intro entry hentry hother
    have hstays : entry.2 ∉ t.excess kind keep := hproper.not_mem_excess_of_other hentry hother
    exact ⟨List.mem_filter.2 ⟨hentry, by simpa using hstays⟩, (t.sweepOffline_spares hstays).1⟩
  reserved_eq := reserved_disposeAll t (t.excess kind keep)
  staying := hproper.length_offline_sweepOffline_eq kind keep

end SessionTable

theorem Roster.Sound.proper {w : Roster} (hsound : w.Sound) : w.table.Proper :=
  ⟨hsound.keys_nodup, hsound.live_key⟩

end Workbench

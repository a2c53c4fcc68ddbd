import Mathlib.Data.List.Nodup
import Workbench.Emitter
import Workbench.Proofs.Lists

/-!
An event source in use.  Handles on it come and go, listeners attach, take what they have been sent and are
dropped, and values are fired, also by those who hold no handle.  A listener is sent just the values that are
fired while it is attached; the turns between no listener and some come alternately, and none comes after
the source is disposed of.
-/

namespace Workbench.Emitter

variable {α : Type}

/-- What can happen to an event source.  Whoever subscribes, fires or disposes holds a handle; who fires weakly
holds none and finds the source as long as a handle or a listener is left. -/
inductive Event (α : Type) where
  | subscribed
  | cloned
  | released
  | fired (value : α)
  | firedWeakly (value : α)
  | taken (id : Nat)
  | dropped (id : Nat)
  | disposed

namespace Event

/-- What is fired. -/
def value? : Event α → Option α
  | fired v | firedWeakly v => some v
  | _ => none

def isDisposed : Event α → Bool
  | disposed => true
  | _ => false

def isDropped : Event α → Bool
  | dropped _ => true
  | _ => false

end Event

/-- What is fired until the source is disposed of. -/
def firedUntilDisposed (events : List (Event α)) : List α :=
  (events.takeWhile fun e => !e.isDisposed).filterMap Event.value?

theorem firedUntilDisposed_cons (e : Event α) (events : List (Event α)) :
    firedUntilDisposed (e :: events) =
      e.value?.toList ++ if e.isDisposed then [] else firedUntilDisposed events := by
  cases e <;> rfl

/-- An event source with the handles on it, the turns that have been taken, oldest first, and what every
listener has taken. -/
structure Broadcast (α : Type) where
  source : Emitter α := {}
  handles : Nat := 1
  turns : List Turn := []
  taken : List (Nat × α) := []

namespace Broadcast

/-- Somebody keeps the source. -/
def Alive (b : Broadcast α) : Prop := 0 < b.handles ∨ b.source.listeners ≠ []

instance (b : Broadcast α) : Decidable b.Alive :=
  inferInstanceAs (Decidable (0 < b.handles ∨ b.source.listeners ≠ []))

def step (b : Broadcast α) : Event α → Broadcast α
  | .subscribed =>
    let (_, turn, source) := b.source.subscribe
    { b with source, turns := b.turns ++ turn.toList }
  | .cloned => { b with handles := b.handles + 1 }
  | .released => { b with handles := b.handles - 1 }
  | .fired v => { b with source := b.source.fire v }
  | .firedWeakly v => if b.Alive then { b with source := b.source.fire v } else b
  | .taken id =>
    match b.source.drain id with
    | (some (values, _), source) => { b with source, taken := b.taken ++ values.toList.map (id, ·) }
    | (none, source) => { b with source }
  | .dropped id =>
    let (turn, source) := b.source.drop id
    { b with source, turns := b.turns ++ turn.toList }
  | .disposed => { b with source := b.source.dispose }

def run (b : Broadcast α) (events : List (Event α)) : Broadcast α := events.foldl step b

theorem run_append (b : Broadcast α) (before later : List (Event α)) :
    b.run (before ++ later) = (b.run before).run later :=
  List.foldl_append

/-- What a listener has taken. -/
def takenBy (b : Broadcast α) (id : Nat) : List α := (b.taken.filter (·.1 == id)).map (·.2)

end Broadcast

/-- A listener that has not been dropped. -/
def listener? (e : Emitter α) (id : Nat) : Option (Listener α) := e.listeners.find? (·.id == id)

namespace Broadcast

/-- What a listener has been sent, taken or not. -/
def heard (b : Broadcast α) (id : Nat) : List α :=
  b.takenBy id ++ ((b.source.listener? id).map (·.queue.toList)).getD []

end Broadcast

section Operations

variable (e : Emitter α)

theorem find?_map_of_id {f : Listener α → Listener α} (hid : ∀ l, (f l).id = l.id) (id : Nat) :
    (e.listeners.map f).find? (·.id == id) = (e.listener? id).map f := by
  have hsame : (fun l : Listener α => l.id == id) ∘ f = fun l => l.id == id := by
    funext l
    simp only [Function.comp, hid]
  rw [List.find?_map, hsame, listener?]

theorem id_of_listener? {e : Emitter α} {id : Nat} {l : Listener α} (hl : e.listener? id = some l) :
    l.id = id := by
  simpa using List.find?_some hl

theorem listener?_fire (v : α) (id : Nat) :
    (e.fire v).listener? id =
      (e.listener? id).map fun l => if id ∈ e.attached then { l with queue := l.queue.push v } else l := by
  have hmap := find?_map_of_id e
    (f := fun l => if l.id ∈ e.attached then { l with queue := l.queue.push v } else l) (fun l => by split <;> rfl) id
  refine hmap.trans ?_
  cases hl : e.listener? id with
  | none => rfl
  | some l => simp only [Option.map_some, id_of_listener? hl]

theorem reaches_eq (id : Nat) : e.reaches id = (e.listener? id).isSome := by
  rw [reaches, listener?, List.isSome_find?]

theorem listener?_drop (other id : Nat) :
    (e.drop other).2.listener? id = if id = other then none else e.listener? id := by
  simp only [listener?, drop, find?_filter_key Listener.id]

/-- What a listener is given when it takes: all that waits for it, and whether more can come. -/
theorem drain_eq (id : Nat) :
    e.drain id =
      ((e.listener? id).map fun l => (l.queue, !e.attached.contains id),
        { e with listeners := e.listeners.map fun l => if l.id = id then { l with queue := #[] } else l }) := by
  rw [drain, listener?]
  cases hfind : e.listeners.find? (·.id == id) with
  | some l => rfl
  | none =>
      have hsame : e.listeners.map (fun l => if l.id = id then { l with queue := #[] } else l) = e.listeners := by
        refine (List.map_congr_left fun l hl => if_neg ?_).trans (List.map_id' _)
        simpa using List.find?_eq_none.1 hfind l hl
      simp only [hsame, Option.map_none]

theorem listener?_drain (other id : Nat) :
    (e.drain other).2.listener? id =
      (e.listener? id).map fun l => if id = other then { l with queue := #[] } else l := by
  rw [drain_eq]
  have hmap := find?_map_of_id e
    (f := fun l => if l.id = other then { l with queue := #[] } else l) (fun l => by split <;> rfl) id
  refine hmap.trans ?_
  cases hl : e.listener? id with
  | none => rfl
  | some l => simp only [Option.map_some, id_of_listener? hl]

theorem listener?_subscribe_of_some {id : Nat} {l : Listener α} (hl : e.listener? id = some l) :
    e.subscribe.2.2.listener? id = some l := by
  simp only [listener?, subscribe, List.find?_append]
  rw [← listener?, hl, Option.some_or]

theorem listener?_subscribe_of_ne {id : Nat} (hne : id ≠ e.nextId) :
    e.subscribe.2.2.listener? id = e.listener? id := by
  have hnot : (e.nextId == id) = false := by simpa using hne.symm
  simp [listener?, subscribe, List.find?_append, hnot]

theorem attached_drain (id : Nat) : (e.drain id).2.attached = e.attached := by rw [drain_eq]

/-- As long as whoever is attached is there, nobody is turned away when a value is fired. -/
theorem attached_fire {e : Emitter α} (hpresent : ∀ id ∈ e.attached, e.reaches id = true) (v : α) :
    (e.fire v).attached = e.attached :=
  List.filter_eq_self.2 hpresent

end Operations

namespace Broadcast

variable {b : Broadcast α} {id : Nat}

theorem heard_of_listener {l : Listener α} (hl : b.source.listener? id = some l) :
    b.heard id = b.takenBy id ++ l.queue.toList := by
  simp [heard, hl]

theorem source_step_taken (b : Broadcast α) (other : Nat) :
    (b.step (.taken other)).source = (b.source.drain other).2 := by
  simp only [step, drain_eq]
  cases b.source.listener? other <;> rfl

theorem takenBy_step_taken (b : Broadcast α) (other id : Nat) :
    (b.step (.taken other)).takenBy id =
      b.takenBy id ++ if id = other then ((b.source.listener? other).map (·.queue.toList)).getD [] else [] := by
  simp only [step, drain_eq]
  cases b.source.listener? other with
  | none => simp [takenBy]
  | some l =>
      by_cases hid : id = other
      · subst hid
        simp [takenBy, List.filter_map, Function.comp_def]
      · have hother : (other == id) = false := by simpa using Ne.symm hid
        simp [takenBy, List.filter_map, Function.comp_def, hid, hother]

/-- A weak fire that finds the source fires. -/
theorem step_firedWeakly_cases (b : Broadcast α) (v : α) :
    b.step (.firedWeakly v) = b.step (.fired v) ∨ ¬ b.Alive ∧ b.step (.firedWeakly v) = b := by
  by_cases halive : b.Alive
  · exact .inl (if_pos halive)
  · exact .inr ⟨halive, if_neg halive⟩

theorem firedWeakly_of_listener {l : Listener α} (hl : b.source.listener? id = some l) (v : α) :
    b.step (.firedWeakly v) = b.step (.fired v) :=
  if_pos (.inr (List.ne_nil_of_mem (List.mem_of_find?_eq_some hl)))

theorem nextId_le_step (b : Broadcast α) (e : Event α) : b.source.nextId ≤ (b.step e).source.nextId := by
  cases e with
  | subscribed => exact Nat.le_succ _
  | taken other => simp only [source_step_taken, drain_eq, Nat.le_refl]
  | firedWeakly v =>
      obtain heq | ⟨-, heq⟩ := b.step_firedWeakly_cases v
      · exact Nat.le_of_eq (congrArg (·.source.nextId) heq).symm
      · exact Nat.le_of_eq (congrArg (·.source.nextId) heq).symm
  | cloned | released | fired _ | dropped _ | disposed => exact Nat.le_refl _

theorem nextId_le_run (b : Broadcast α) (events : List (Event α)) :
    b.source.nextId ≤ (b.run events).source.nextId := by
  induction events generalizing b with
  | nil => exact Nat.le_refl _
  | cons e events ih => exact Nat.le_trans (b.nextId_le_step e) (ih (b.step e))

/-- While a listener is there it is sent what is fired, as long as it is attached; nothing but the end of the source
detaches it. -/
theorem heard_step {l : Listener α} (hl : b.source.listener? id = some l) (hid : id < b.source.nextId) {e : Event α}
    (he : e ≠ .dropped id) :
    ∃ l', (b.step e).source.listener? id = some l' ∧
      (id ∈ (b.step e).source.attached ↔ id ∈ b.source.attached ∧ e.isDisposed = false) ∧
      (b.step e).heard id = b.heard id ++ if id ∈ b.source.attached then e.value?.toList else [] := by
  have hsame : ∀ {b' : Broadcast α}, b'.taken = b.taken → b'.source.listener? id = some l →
      b'.heard id = b.heard id ++ if id ∈ b.source.attached then [] else [] := by
    intro b' htaken hl'
    rw [heard_of_listener hl', heard_of_listener hl, takenBy, htaken]
    simp [takenBy]
  have hfire : ∀ v, ∃ l', (b.step (.fired v)).source.listener? id = some l' ∧
      (id ∈ (b.step (.fired v)).source.attached ↔ id ∈ b.source.attached ∧ false = false) ∧
      (b.step (.fired v)).heard id = b.heard id ++ if id ∈ b.source.attached then [v] else [] := by
    intro v
    have hl' : (b.step (.fired v)).source.listener? id =
        some (if id ∈ b.source.attached then { l with queue := l.queue.push v } else l) := by
      simp only [step, listener?_fire, hl, Option.map_some]
    refine ⟨_, hl', ?_, ?_⟩
    · -- the value reaches whoever is there, so that it is kept
      simp [step, fire, List.mem_filter, reaches_eq, hl]
    · rw [heard_of_listener hl', heard_of_listener hl]
      split <;> simp [step, takenBy]
  cases e with
  | subscribed =>
      have hl' := listener?_subscribe_of_some b.source hl
      refine ⟨l, hl', ?_, hsame rfl hl'⟩
      have hne : id ≠ b.source.nextId := Nat.ne_of_lt hid
      cases hdisposed : b.source.disposed <;> simp [step, subscribe, Event.isDisposed, hne, hdisposed]
  | cloned | released => exact ⟨l, hl, (and_iff_left rfl).symm, hsame rfl hl⟩
  | fired v => exact hfire v
  | firedWeakly v =>
      rw [firedWeakly_of_listener hl]
      exact hfire v
  | taken other =>
      have hl' : (b.step (.taken other)).source.listener? id =
          some (if id = other then { l with queue := #[] } else l) := by
        rw [source_step_taken, listener?_drain, hl, Option.map_some]
      refine ⟨_, hl', ?_, ?_⟩
      · rw [source_step_taken, attached_drain]
        exact (and_iff_left rfl).symm
      · rw [heard_of_listener hl', heard_of_listener hl, takenBy_step_taken]
        by_cases hid : id = other
        · simp [← hid, hl, Event.value?]
        · simp [hid, Event.value?]
  | dropped other =>
      have hne : id ≠ other := fun heq => he (by rw [heq])
      have hl' : (b.step (.dropped other)).source.listener? id = some l := by
        simp only [step, listener?_drop, hne, if_false, hl]
      exact ⟨l, hl', by simp [step, drop, Event.isDisposed, hne], hsame rfl hl'⟩
  | disposed =>
      refine ⟨l, hl, by simp [step, dispose, Event.isDisposed], ?_⟩
      rw [heard_of_listener (b := b.step .disposed) hl, heard_of_listener hl]
      simp [step, takenBy, Event.value?]

theorem heard_run {l : Listener α} (hl : b.source.listener? id = some l) (hid : id < b.source.nextId)
    {events : List (Event α)} (hevents : ∀ e ∈ events, e ≠ .dropped id) :
    ∃ l', (b.run events).source.listener? id = some l' ∧
      (id ∈ (b.run events).source.attached ↔
        id ∈ b.source.attached ∧ events.any Event.isDisposed = false) ∧
      (b.run events).heard id = b.heard id ++ if id ∈ b.source.attached then firedUntilDisposed events else [] := by
  induction events generalizing b l with
  | nil => exact ⟨l, hl, by simp [run], by simp [run, firedUntilDisposed]⟩
  | cons e events ih =>
      obtain ⟨next, hnext, hattached, hheard⟩ := heard_step hl hid (hevents e (List.mem_cons_self ..))
      obtain ⟨last, hlast, hattached', hheard'⟩ :=
        ih hnext (Nat.lt_of_lt_of_le hid (b.nextId_le_step e)) fun e he => hevents e (List.mem_cons_of_mem _ he)
      refine ⟨last, hlast, ?_, hheard'.trans ?_⟩
      · rw [List.any_cons, Bool.or_eq_false_iff, ← and_assoc, ← hattached]
        exact hattached'
      · rw [hheard, firedUntilDisposed_cons, List.append_assoc, if_congr hattached rfl rfl]
        by_cases hthere : id ∈ b.source.attached <;> cases e.isDisposed <;> simp [hthere]

/-- Whoever has been dropped takes nothing more. -/
theorem gone_step (hgone : b.source.listener? id = none) (hid : id < b.source.nextId) (e : Event α) :
    (b.step e).source.listener? id = none ∧ (b.step e).takenBy id = b.takenBy id := by
  have hfire : ∀ v, (b.step (.fired v)).source.listener? id = none := fun v => by
    simp [step, listener?_fire, hgone]
  cases e with
  | subscribed => exact ⟨(listener?_subscribe_of_ne b.source (Nat.ne_of_lt hid)).trans hgone, rfl⟩
  | cloned | released => exact ⟨hgone, rfl⟩
  | fired v => exact ⟨hfire v, rfl⟩
  | firedWeakly v =>
      obtain heq | ⟨-, heq⟩ := b.step_firedWeakly_cases v <;> rw [heq]
      · exact ⟨hfire v, rfl⟩
      · exact ⟨hgone, rfl⟩
  | taken other =>
      refine ⟨?_, ?_⟩
      · simp only [source_step_taken, listener?_drain, hgone, Option.map_none]
      · rw [takenBy_step_taken]
        by_cases heq : id = other
        · simp [← heq, hgone]
        · simp [heq]
  | dropped other => exact ⟨by simp [step, listener?_drop, hgone], rfl⟩
  | disposed => exact ⟨hgone, rfl⟩

theorem gone_run (hgone : b.source.listener? id = none) (hid : id < b.source.nextId)
    (events : List (Event α)) :
    (b.run events).source.listener? id = none ∧ (b.run events).takenBy id = b.takenBy id := by
  induction events generalizing b with
  | nil => exact ⟨hgone, rfl⟩
  | cons e events ih =>
      obtain ⟨hgone', htaken⟩ := gone_step hgone hid e
      obtain ⟨hlast, htaken'⟩ := ih hgone' (Nat.lt_of_lt_of_le hid (b.nextId_le_step e))
      exact ⟨hlast, htaken'.trans htaken⟩

/-- Listeners have numbers of their own, and whoever is attached is there. -/
structure Numbered (b : Broadcast α) : Prop where
  increasing : b.source.listeners.Pairwise fun l m => l.id < m.id
  below : ∀ l ∈ b.source.listeners, l.id < b.source.nextId
  takenBelow : ∀ entry ∈ b.taken, entry.1 < b.source.nextId
  ascending : b.source.attached.Pairwise (· < ·)
  present : ∀ id ∈ b.source.attached, b.source.reaches id = true

section Numbered

theorem Numbered.attachedBelow (hnumbered : b.Numbered) : ∀ id ∈ b.source.attached, id < b.source.nextId := by
  intro id hid
  obtain ⟨l, hl⟩ := Option.isSome_iff_exists.1 (reaches_eq b.source id ▸ hnumbered.present id hid)
  exact id_of_listener? hl ▸ hnumbered.below l (List.mem_of_find?_eq_some hl)

/-- Once nobody keeps the source there is nobody to be sent anything. -/
theorem Numbered.fire_of_not_alive (hnumbered : b.Numbered) (hdead : ¬ b.Alive) (v : α) :
    b.source.fire v = b.source := by
  have hnone : b.source.listeners = [] := by
    by_contra hsome
    exact hdead (.inr hsome)
  rw [fire, List.filter_eq_self.2 hnumbered.present, hnone, List.map_nil, ← hnone]

theorem Numbered.step_firedWeakly (hnumbered : b.Numbered) (v : α) :
    b.step (.firedWeakly v) = b.step (.fired v) := by
  obtain heq | ⟨hdead, heq⟩ := b.step_firedWeakly_cases v
  · exact heq
  · rw [heq, step, hnumbered.fire_of_not_alive hdead]

theorem reaches_map {f : Listener α → Listener α} (hid : ∀ l, (f l).id = l.id) {e e' : Emitter α}
    (hlisteners : e'.listeners = e.listeners.map f) (id : Nat) : e'.reaches id = e.reaches id := by
  rw [reaches_eq, reaches_eq, listener?, hlisteners, find?_map_of_id e hid, Option.isSome_map]

theorem Numbered.same (hnumbered : b.Numbered) {f : Listener α → Listener α} (hid : ∀ l, (f l).id = l.id)
    {b' : Broadcast α} (hlisteners : b'.source.listeners = b.source.listeners.map f)
    (hnext : b'.source.nextId = b.source.nextId) (htaken : ∀ entry ∈ b'.taken, entry.1 < b.source.nextId)
    (hattached : b'.source.attached.Sublist b.source.attached) : b'.Numbered where
  increasing := by
    rw [hlisteners, List.pairwise_map]
    simpa only [hid] using hnumbered.increasing
  below := by
    intro l hl
    rw [hlisteners] at hl
    obtain ⟨old, hold, rfl⟩ := List.mem_map.1 hl
    rw [hid, hnext]
    exact hnumbered.below old hold
  takenBelow := by rwa [hnext]
  ascending := hnumbered.ascending.sublist hattached
  present id hmem := (reaches_map hid hlisteners id).trans (hnumbered.present id (hattached.subset hmem))

theorem Numbered.subscribed (hnumbered : b.Numbered) : (b.step .subscribed).Numbered where
  increasing := pairwise_concat_iff.2 ⟨hnumbered.increasing, hnumbered.below⟩
  below l hl := by
    rcases List.mem_append.1 hl with hl | hl
    · exact Nat.lt_succ_of_lt (hnumbered.below l hl)
    · rw [List.mem_singleton.1 hl]
      exact Nat.lt_succ_self _
  takenBelow entry hentry := Nat.lt_succ_of_lt (hnumbered.takenBelow entry hentry)
  ascending := by
    simp only [step, subscribe]
    split
    · rw [List.append_nil]
      exact hnumbered.ascending
    · exact pairwise_concat_iff.2 ⟨hnumbered.ascending, hnumbered.attachedBelow⟩
  present id hid := by
    simp only [step, subscribe, reaches, List.any_append, Bool.or_eq_true] at hid ⊢
    rcases List.mem_append.1 hid with hold | hnew
    · exact .inl (hnumbered.present id hold)
    · right
      split at hnew
      · cases hnew
      · simp [List.mem_singleton.1 hnew]

theorem Numbered.dropped (hnumbered : b.Numbered) (other : Nat) : (b.step (.dropped other)).Numbered where
  increasing := hnumbered.increasing.sublist List.filter_sublist
  below l hl := hnumbered.below l (List.filter_sublist.subset hl)
  takenBelow := hnumbered.takenBelow
  ascending := hnumbered.ascending.sublist List.filter_sublist
  present id hid := by
    obtain ⟨hold, hne⟩ := List.mem_filter.1 hid
    have hother : id ≠ other := by simpa using hne
    rw [reaches_eq]
    show ((b.source.drop other).2.listener? id).isSome = true
    rw [listener?_drop, if_neg hother, ← reaches_eq]
    exact hnumbered.present id hold

theorem Numbered.step (hnumbered : b.Numbered) (e : Event α) : (b.step e).Numbered := by
  have hfire : ∀ v, (b.step (.fired v)).Numbered := fun v =>
    hnumbered.same (f := fun l => if l.id ∈ b.source.attached then { l with queue := l.queue.push v } else l)
      (fun l => by split <;> rfl) rfl rfl hnumbered.takenBelow List.filter_sublist
  cases e with
  | subscribed => exact hnumbered.subscribed
  | cloned | released => exact { hnumbered with }
  | fired v => exact hfire v
  | firedWeakly v =>
      rw [hnumbered.step_firedWeakly]
      exact hfire v
  | taken other =>
      refine hnumbered.same (f := fun l => if l.id = other then { l with queue := #[] } else l)
        (fun l => by split <;> rfl) ?_ ?_ ?_ ?_
      · rw [source_step_taken, drain_eq]
      · rw [source_step_taken, drain_eq]
      · cases hl : b.source.listener? other with
        | none => simpa [Broadcast.step, drain_eq, hl] using hnumbered.takenBelow
        | some l =>
            have hother : other < b.source.nextId :=
              id_of_listener? hl ▸ hnumbered.below l (List.mem_of_find?_eq_some hl)
            intro entry hentry
            simp only [Broadcast.step, drain_eq, hl, Option.map_some, List.mem_append, List.mem_map] at hentry
            rcases hentry with hentry | ⟨v, -, rfl⟩
            · exact hnumbered.takenBelow entry hentry
            · exact hother
      · rw [source_step_taken, attached_drain]
  | dropped other => exact hnumbered.dropped other
  | disposed =>
      exact hnumbered.same (f := id) (fun _ => rfl) (List.map_id _).symm rfl hnumbered.takenBelow (List.nil_sublist _)

end Numbered

/-- What holds of an event source in use at any time: one that has been disposed of has no listener; turns
alternate, and the next is the first one exactly if nobody listens. -/
structure Sound (b : Broadcast α) : Prop extends Numbered b where
  deserted : b.source.disposed = true → b.source.listenerCount = 0
  alternate : ∀ i turn, b.turns[i]? = some turn → turn = if i % 2 = 0 then .first else .last
  next : b.source.disposed = false → (b.source.listenerCount = 0 ↔ b.turns.length % 2 = 0)

/-- How the listeners and the turns change. -/
inductive Change (b : Broadcast α) (e : Event α) (b' : Broadcast α) : Prop
  | steady (disposed : b'.source.disposed = b.source.disposed)
      (count : b'.source.listenerCount = b.source.listenerCount) (turns : b'.turns = b.turns)
  | comes (present : b.source.disposed = false) (disposed : b'.source.disposed = false)
      (count : b'.source.listenerCount = b.source.listenerCount + 1)
      (turns : b'.turns = b.turns ++ if b.source.listenerCount = 0 then [.first] else [])
  | goes (drop : e.isDropped = true) (disposed : b'.source.disposed = b.source.disposed)
      (count : b.source.listenerCount = b'.source.listenerCount + 1)
      (turns : b'.turns = b.turns ++ if b'.source.listenerCount = 0 then [.last] else [])
  | ends (drop : e.isDropped = false) (disposed : b'.source.disposed = true)
      (count : b'.source.listenerCount = 0) (turns : b'.turns = b.turns)

theorem change_dropped (hascending : b.source.attached.Pairwise (· < ·)) (id : Nat) :
    Change b (.dropped id) (b.step (.dropped id)) := by
  have hturns : (b.step (.dropped id)).turns = b.turns ++
      if (b.source.attached.filter (· != id)).length != b.source.attached.length &&
        (b.source.attached.filter (· != id)).isEmpty then [.last] else [] :=
    congrArg (b.turns ++ ·) (apply_ite Option.toList _ (some Turn.last) none)
  by_cases hmem : id ∈ b.source.attached
  · obtain ⟨before, after, heq⟩ := List.append_of_mem hmem
    have hothers : ∀ other ∈ before ++ after, other ≠ id :=
      @key_ne_of_increasing Nat before after id (fun other => other) (heq ▸ hascending)
    have hrest : b.source.attached.filter (· != id) = before ++ after := by
      rw [heq]
      exact filter_others (by simp) (by simpa using hothers)
    have hcount : (b.step (.dropped id)).source.listenerCount = before.length + after.length :=
      (congrArg List.length hrest).trans List.length_append
    have hlength : b.source.attached.length = before.length + after.length + 1 := by
      rw [heq, List.length_append, List.length_cons, Nat.add_assoc]
    refine .goes rfl rfl (by rw [hcount, listenerCount, hlength]) ?_
    rw [hturns, hrest, hlength, hcount]
    cases before <;> cases after <;> simp
  · have hsame : b.source.attached.filter (· != id) = b.source.attached := by
      rw [List.filter_eq_self]
      intro other hother
      simpa using fun heq : other = id => hmem (heq ▸ hother)
    refine .steady rfl (congrArg List.length hsame) ?_
    rw [hturns, hsame]
    simp

theorem Numbered.change (hnumbered : b.Numbered) (e : Event α) : Change b e (b.step e) := by
  have hfire : ∀ (e : Event α) (v : α), Change b e (b.step (.fired v)) := fun e v =>
    .steady rfl (congrArg List.length (attached_fire hnumbered.present v)) rfl
  cases e with
  | subscribed =>
      have hturns : (b.step .subscribed).turns = b.turns ++
          if !b.source.disposed && b.source.attached.isEmpty then [.first] else [] :=
        congrArg (b.turns ++ ·) (apply_ite Option.toList _ (some Turn.first) none)
      have hcount : (b.step .subscribed).source.listenerCount =
          b.source.listenerCount + (if b.source.disposed then [] else [b.source.nextId]).length :=
        List.length_append
      cases hdisposed : b.source.disposed with
      | true =>
          rw [hdisposed] at hturns hcount
          exact .steady rfl hcount (hturns.trans (List.append_nil _))
      | false =>
          rw [hdisposed] at hturns hcount
          refine .comes hdisposed hdisposed hcount ?_
          rw [hturns, listenerCount]
          cases b.source.attached <;> rfl
  | cloned | released => exact .steady rfl rfl rfl
  | fired v => exact hfire _ v
  | firedWeakly v =>
      rw [hnumbered.step_firedWeakly]
      exact hfire _ v
  | taken other =>
      refine .steady ?_ ?_ ?_
      · rw [source_step_taken, drain_eq]
      · rw [source_step_taken, listenerCount, attached_drain, listenerCount]
      · simp only [Broadcast.step, drain_eq]
        cases b.source.listener? other <;> rfl
  | dropped id => exact change_dropped hnumbered.ascending id
  | disposed => exact .ends rfl rfl rfl rfl

theorem start_sound : Sound ({} : Broadcast α) where
  increasing := List.Pairwise.nil
  below := by simp
  takenBelow := by simp
  ascending := List.Pairwise.nil
  present := by simp
  deserted := by simp
  alternate := by simp
  next := by simp [listenerCount]

/-- The turn that comes next is of the other kind than the last. -/
theorem alternate_concat {turns : List Turn} {next : Turn}
    (halternate : ∀ i turn, turns[i]? = some turn → turn = if i % 2 = 0 then .first else .last)
    (hnext : next = if turns.length % 2 = 0 then .first else .last) :
    ∀ i turn, (turns ++ [next])[i]? = some turn → turn = if i % 2 = 0 then .first else .last := by
  intro i turn hturn
  rcases Nat.lt_or_ge i turns.length with hlt | hge
  · rw [List.getElem?_append_left hlt] at hturn
    exact halternate i turn hturn
  · rw [List.getElem?_append_right hge, List.getElem?_singleton] at hturn
    split at hturn
    · next hlast =>
      obtain rfl : i = turns.length := by omega
      rw [← Option.some.inj hturn, hnext]
    · cases hturn

theorem Sound.step (hsound : b.Sound) (e : Event α) : (b.step e).Sound := by
  have hnumbered := hsound.toNumbered.step e
  cases hsound.toNumbered.change e with
  | steady disposed count turns =>
      refine ⟨hnumbered, ?_, ?_, ?_⟩
      · rw [disposed, count]
        exact hsound.deserted
      · rw [turns]
        exact hsound.alternate
      · rw [disposed, count, turns]
        exact hsound.next
  | comes present disposed count turns =>
      have hnext := hsound.next present
      refine ⟨hnumbered, fun hgone => (by rw [disposed] at hgone; cases hgone), ?_, fun _ => ?_⟩
      · rw [turns]
        split
        · next hzero =>
          exact alternate_concat hsound.alternate (if_pos (hnext.1 hzero)).symm
        · rw [List.append_nil]
          exact hsound.alternate
      · rw [turns, count]
        split
        · next hzero =>
          have heven := hnext.1 hzero
          rw [List.length_append, List.length_singleton]
          omega
        · next hsome =>
          rw [List.append_nil]
          omega
  | goes drop disposed count turns =>
      have hodd : b.source.disposed = false → b.turns.length % 2 ≠ 0 := fun hopen heven => by
        have hzero := (hsound.next hopen).2 heven
        omega
      have hopen : b.source.disposed = false := by
        by_contra hgone
        have hzero := hsound.deserted (by simpa using hgone)
        omega
      refine ⟨hnumbered, fun hgone => ?_, ?_, fun _ => ?_⟩
      · rw [disposed, hopen] at hgone
        cases hgone
      · rw [turns]
        split
        · exact alternate_concat hsound.alternate (if_neg (hodd hopen)).symm
        · rw [List.append_nil]
          exact hsound.alternate
      · have hlength := hodd hopen
        rw [turns]
        split
        · rw [List.length_append, List.length_singleton]
          omega
        · rw [List.append_nil]
          omega
  | ends drop disposed count turns =>
      refine ⟨hnumbered, fun _ => count, ?_, fun hopen => ?_⟩
      · rw [turns]
        exact hsound.alternate
      · rw [disposed] at hopen
        cases hopen

theorem Sound.run (hsound : b.Sound) (events : List (Event α)) : (b.run events).Sound := by
  induction events generalizing b with
  | nil => exact hsound
  | cons e events ih => exact ih (hsound.step e)

/-- The turn there is to be when the number of listeners goes from one to another: the first one when there is
one more than none, the last one when the only one is dropped. -/
def turnBetween (e : Event α) (before after : Nat) : List Turn :=
  if before = 0 ∧ after = 1 then [.first]
  else if e.isDropped = true ∧ before = 1 ∧ after = 0 then [.last]
  else []

theorem Sound.turns_step (hsound : b.Sound) (e : Event α) :
    (b.step e).turns =
      b.turns ++ turnBetween e b.source.listenerCount (b.step e).source.listenerCount := by
  cases hsound.toNumbered.change e with
  | steady disposed count turns =>
      have hnone : turnBetween e b.source.listenerCount (b.step e).source.listenerCount = [] := by
        rw [turnBetween, count, if_neg (by omega), if_neg (by omega)]
      rw [turns, hnone, List.append_nil]
  | comes present disposed count turns =>
      rw [turns, turnBetween, count]
      split
      · next hzero => rw [if_pos ⟨hzero, by omega⟩]
      · next hsome => rw [if_neg (by omega), if_neg (by omega)]
  | goes drop disposed count turns =>
      rw [turns, turnBetween, count]
      split
      · next hzero => rw [if_neg (by omega), if_pos ⟨drop, by omega, hzero⟩]
      · next hsome => rw [if_neg (by omega), if_neg (by omega)]
  | ends drop disposed count turns =>
      rw [turns, turnBetween, if_neg (by omega), if_neg (by simp [drop]), List.append_nil]

theorem disposed_step (b : Broadcast α) (e : Event α) :
    (b.step e).source.disposed = (b.source.disposed || e.isDisposed) := by
  cases e with
  | taken other =>
      rw [source_step_taken, drain_eq]
      exact (Bool.or_false _).symm
  | firedWeakly v =>
      obtain heq | ⟨-, heq⟩ := b.step_firedWeakly_cases v <;> rw [heq]
      · exact (Bool.or_false _).symm
      · exact (Bool.or_false _).symm
  | disposed => exact (Bool.or_true _).symm
  | subscribed | cloned | released | fired _ | dropped _ => exact (Bool.or_false _).symm

theorem disposed_run (b : Broadcast α) (events : List (Event α)) :
    (b.run events).source.disposed = (b.source.disposed || events.any Event.isDisposed) := by
  induction events generalizing b with
  | nil => exact (Bool.or_false _).symm
  | cons e events ih =>
      refine (ih (b.step e)).trans ?_
      rw [disposed_step, List.any_cons, Bool.or_assoc]

/-- No turn is taken once the source has been disposed of. -/
theorem Sound.turns_run_of_disposed (hsound : b.Sound) (hdisposed : b.source.disposed = true)
    (events : List (Event α)) : (b.run events).turns = b.turns := by
  induction events generalizing b with
  | nil => rfl
  | cons e events ih =>
      have hstill : (b.step e).source.disposed = true := by rw [disposed_step, hdisposed, Bool.true_or]
      refine (ih (hsound.step e) hstill).trans ?_
      have hbefore := hsound.deserted hdisposed
      have hafter := (hsound.step e).deserted hstill
      rw [hsound.turns_step, hbefore, hafter, turnBetween, if_neg (by omega), if_neg (by omega),
        List.append_nil]

/-- A new listener has a number that nobody has had. -/
theorem Sound.subscribed (hsound : b.Sound) :
    (b.step .subscribed).source.listener? b.source.nextId = some { id := b.source.nextId } ∧
      (b.source.nextId ∈ (b.step .subscribed).source.attached ↔ b.source.disposed = false) ∧
      (b.step .subscribed).heard b.source.nextId = [] := by
  have hnobody : b.source.listeners.find? (·.id == b.source.nextId) = none := by
    rw [List.find?_eq_none]
    intro l hl
    simpa using Nat.ne_of_lt (hsound.below l hl)
  have hlistener : (b.step .subscribed).source.listener? b.source.nextId = some { id := b.source.nextId } := by
    simp [Broadcast.step, subscribe, listener?, List.find?_append, hnobody]
  have hnew : b.source.nextId ∉ b.source.attached := fun hmem =>
    Nat.lt_irrefl _ (hsound.attachedBelow _ hmem)
  have htaken : b.taken.filter (·.1 == b.source.nextId) = [] := by
    rw [List.filter_eq_nil_iff]
    intro entry hentry
    simpa using Nat.ne_of_lt (hsound.takenBelow entry hentry)
  refine ⟨hlistener, ?_, ?_⟩
  · cases hdisposed : b.source.disposed <;> simp [Broadcast.step, subscribe, hdisposed, hnew]
  · rw [heard_of_listener hlistener, takenBy]
    simp [Broadcast.step, htaken]

end Broadcast

open Broadcast in
/-- Along any run: what a listener has taken, with what it is handed when it takes, is just what has been fired from
when it attached until the source was disposed of, in order and once, whoever fires; its stream ends with the source,
and at once if the source has been disposed of before.  After it is dropped it takes nothing more.  A value that is
fired turns nobody away.  The first turn is taken when there is one listener after none, the last one when the only
listener is dropped, so that they alternate and begin with the first; none is taken after the source is disposed of.
Who fires weakly reaches every listener, and does nothing once neither a handle nor a listener is left. -/
theorem listeners_hear_while_attached (before after : List (Event α)) :
    let b := Broadcast.run {} before
    let id := b.source.nextId
    let later := b.run (.subscribed :: after)
    ((∀ e ∈ after, e ≠ .dropped id) → ∃ rest,
      (later.source.drain id).1 = some (rest, b.source.disposed || after.any Event.isDisposed) ∧
        later.takenBy id ++ rest.toList = if b.source.disposed then [] else firedUntilDisposed after) ∧
    (∀ during rest, after = during ++ .dropped id :: rest →
      (later.source.drain id).1 = none ∧
        later.takenBy id = (b.run (.subscribed :: during)).takenBy id) ∧
    (∀ v, (b.source.fire v).attached = b.source.attached) ∧
    (∀ e, (b.step e).turns =
      b.turns ++ turnBetween e b.source.listenerCount (b.step e).source.listenerCount) ∧
    (∀ i turn, b.turns[i]? = some turn → turn = if i % 2 = 0 then .first else .last) ∧
    b.source.disposed = before.any Event.isDisposed ∧
    (b.source.disposed = true → (b.run after).turns = b.turns) ∧
    ∀ v, b.step (.firedWeakly v) = { b with source := b.source.fire v } ∧
      (¬ b.Alive → b.step (.firedWeakly v) = b) := by
  intro b id later
  have hsound : b.Sound := start_sound.run before
  have hid : id < (b.step .subscribed).source.nextId := Nat.lt_succ_self _
  refine ⟨fun hafter => ?_, ?_, attached_fire hsound.present, hsound.turns_step, hsound.alternate, ?_, ?_, ?_⟩
  · obtain ⟨hlistener, hattached, hnothing⟩ := hsound.subscribed
    obtain ⟨l, hl, hlast, hheard⟩ := heard_run hlistener hid hafter
    have hdrained : (later.source.drain id).1 = some (l.queue, !later.source.attached.contains id) := by
      rw [drain_eq]
      exact congrArg (Option.map _) hl
    have hends : later.source.attached.contains id = !(b.source.disposed || after.any Event.isDisposed) := by
      rw [Bool.eq_iff_iff, List.contains_iff_mem, Bool.not_eq_true', Bool.or_eq_false_iff, ← hattached]
      exact hlast
    refine ⟨l.queue, by rw [hdrained, hends, Bool.not_not], ?_⟩
    have hall : later.heard id = later.takenBy id ++ l.queue.toList := heard_of_listener hl
    rw [← hall]
    refine hheard.trans ?_
    rw [hnothing, List.nil_append, if_congr hattached rfl rfl]
    cases b.source.disposed <;> rfl
  · rintro during rest rfl
    have hid' : id < (b.run (.subscribed :: during)).source.nextId :=
      Nat.lt_of_lt_of_le hid (nextId_le_run (b.step .subscribed) during)
    have hgone : ((b.run (.subscribed :: during)).step (.dropped id)).source.listener? id = none :=
      (listener?_drop _ id id).trans (if_pos rfl)
    have hlater : later = ((b.run (.subscribed :: during)).step (.dropped id)).run rest :=
      run_append b (.subscribed :: during) (.dropped id :: rest)
    obtain ⟨hnobody, htaken⟩ := gone_run hgone hid' rest
    refine ⟨?_, hlater ▸ htaken⟩
    rw [hlater, drain_eq, hnobody, Option.map_none]
  · exact (disposed_run {} before).trans (Bool.false_or _)
  · exact fun hdisposed => hsound.turns_run_of_disposed hdisposed after
  · exact fun v => ⟨hsound.step_firedWeakly v, fun hdead => if_neg hdead⟩

/-- A second listener takes one value and has another waiting when the source is disposed of; the first has been dropped
meanwhile, and the handle is gone. -/
theorem listeners_hear_while_attached_second :
    (∃ rest, ((Broadcast.run {} [.subscribed, .fired 5, .subscribed, .fired 6, .taken 1, .dropped 0, .released,
        .firedWeakly 7, .disposed, .fired 8]).source.drain 1).1 = some (rest, true) ∧
      (Broadcast.run {} [.subscribed, .fired 5, .subscribed, .fired 6, .taken 1, .dropped 0, .released,
        .firedWeakly 7, .disposed, .fired 8]).takenBy 1 ++ rest.toList = [6, 7]) ∧
    ((Broadcast.run {} [.subscribed, .fired 5, .dropped 0, .fired 6]).source.drain 0).1 = none ∧
    (Broadcast.run {} [.subscribed, .fired 5, .dropped 0, .fired 6]).turns = [.first, .last] := by
  obtain ⟨hheard, -⟩ := listeners_hear_while_attached [.subscribed, .fired 5]
    [.fired 6, .taken 1, .dropped 0, .released, .firedWeakly 7, .disposed, .fired 8]
  obtain ⟨-, hgone, -⟩ := listeners_hear_while_attached [] [.fired 5, .dropped 0, .fired 6]
  have hid : (Broadcast.run {} [.subscribed, .fired 5] : Broadcast Nat).source.nextId = 1 := rfl
  exact ⟨hheard (by simp [hid]), (hgone [.fired 5] [.fired 6] rfl).1, by decide⟩

end Workbench.Emitter

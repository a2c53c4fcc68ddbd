import Workbench.Proofs.Channel.Noted
import Workbench.Proofs.Runs

/-!
How requests are brought to an end.  A task that has not finished is aborted through its row of the table, by the
client or at the end of the session, and its stream is dropped then.  A number that is taken while a task runs
under it means the later task from then on, and the earlier one is out of reach until it finishes by itself.
There is no other way out of reach.
-/

namespace Workbench.Multiplexer

variable {σ τ : Type}

section Table

variable {x y : Multiplexer τ}

/-- The rows that a table has that is complete. -/
def rows (x : Multiplexer τ) : List (UInt32 × Nat) := x.tasks.map RequestTask.row

/-- Every row means a task that runs, and no number has two rows. -/
structure Tabled (x : Multiplexer τ) : Prop extends Numbered x where
  ids : (x.active.map Prod.fst).Nodup
  means : x.active ⊆ x.rows

/-- Every task that runs has a row. -/
def Covered (x : Multiplexer τ) : Prop := x.rows ⊆ x.active

/-- What a request, or the progress of a task, does to the tasks and to their rows, and the number that it takes
for a new task. -/
inductive Shift (x y : Multiplexer τ) : Option UInt32 → Prop
  | keeps (rows : y.rows = x.rows) (active : y.active = x.active) : Shift x y none
  | begins (id : UInt32) (rows : y.rows = x.rows ++ [(id, x.nextSerial)])
      (active : y.active = x.active.filter (·.1 != id) ++ [(id, x.nextSerial)]) : Shift x y (some id)
  | finishes (t : RequestTask τ) (ran : t ∈ x.tasks) (rows : y.rows = x.rows.filter (·.2 != t.serial))
      (active : y.active = x.active.filter (·.1 != t.id)) : Shift x y none
  | disposes (id : UInt32) (rows : y.rows = x.rows.filter fun row => row.1 != id || !x.active.contains row)
      (active : y.active = x.active.filter (·.1 != id)) : Shift x y none

theorem Shift.of_responses {responses responses' : Array ChannelResponse} {taken : Option UInt32}
    (h : Shift { x with responses } y taken) : Shift x { y with responses := responses' } taken := by
  cases h with
  | keeps rows active => exact .keeps rows active
  | begins id rows active => exact .begins id rows active
  | finishes t ran rows active => exact .finishes t ran rows active
  | disposes id rows active => exact .disposes id rows active

theorem spawn_shift (x : Multiplexer τ) (id : UInt32) (work : Work τ) : Shift x (x.spawn id work) (some id) :=
  .begins id List.map_append rfl

theorem markWaiting_shift (x : Multiplexer τ) (serial : Nat) : Shift x (x.markWaiting serial) none := by
  refine .keeps ?_ rfl
  simp only [rows, markWaiting, List.map_map]
  refine List.map_congr_left fun t _ => ?_
  simp only [Function.comp, RequestTask.row]
  split <;> rfl

theorem finish_shift (x : Multiplexer τ) (serial : Nat) : Shift x (x.finish serial) none := by
  cases htask : x.task? serial with
  | none =>
      simp only [finish, htask]
      exact .keeps rfl rfl
  | some t =>
      obtain ⟨ht, rfl⟩ := mem_tasks_of_task? htask
      simp only [finish, htask]
      refine .finishes t ht ?_ rfl
      simp only [rows, List.filter_map]
      rfl

theorem finishCall_shift (x : Multiplexer τ) (serial : Nat) (outcome : Outcome Json) :
    Shift x (x.finishCall serial outcome) none := by
  cases htask : x.task? serial with
  | none =>
      simp only [finishCall, htask]
      exact .keeps rfl rfl
  | some t =>
      simp only [finishCall, htask]
      exact (finish_shift x serial).of_responses

/-- A row with the number of a task means the task. -/
theorem Tabled.mem_serials (htabled : x.Tabled) {rows : List (UInt32 × Nat)} (hrows : rows ⊆ x.active)
    {t : RequestTask τ} (ht : t ∈ x.tasks) : (rows.map Prod.snd).contains t.serial = rows.contains t.row := by
  rw [Bool.eq_iff_iff, List.contains_iff_mem, List.contains_iff_mem, List.mem_map]
  constructor
  · rintro ⟨row, hrow, hserial⟩
    obtain ⟨u, hu, rfl⟩ := List.mem_map.1 (htabled.means (hrows hrow))
    rwa [← htabled.eq_of_serial ht hu hserial]
  · exact fun hrow => ⟨t.row, hrow, rfl⟩

/-- To abort what some rows mean is to take away the tasks that they mean. -/
theorem Tabled.abort_tasks (htabled : x.Tabled) {rows : List (UInt32 × Nat)} (hrows : rows ⊆ x.active) :
    (x.abort (rows.map Prod.snd)).2.tasks = x.tasks.filter fun t => !rows.contains t.row := by
  refine List.filter_congr fun t ht => ?_
  rw [htabled.mem_serials hrows ht]

theorem Tabled.disposeRequest_tasks (htabled : x.Tabled) (id : UInt32) :
    (x.disposeRequest id).2.tasks = x.tasks.filter fun t => t.id != id || !x.active.contains t.row := by
  have habort := htabled.abort_tasks (List.filter_subset_self (p := fun e => e.1 == id) (l := x.active))
  refine habort.trans (List.filter_congr fun t _ => ?_)
  rw [← Bool.not_inj_iff, Bool.eq_iff_iff]
  simp [List.mem_filter, RequestTask.row, and_comm]

theorem Tabled.dispose_tasks (htabled : x.Tabled) :
    x.dispose.2.tasks = x.tasks.filter fun t => !x.active.contains t.row :=
  htabled.abort_tasks (List.Subset.refl _)

theorem Tabled.disposeRequest_shift (htabled : x.Tabled) (id : UInt32) :
    Shift x (x.disposeRequest id).2 none := by
  refine .disposes id ?_ rfl
  rw [rows, htabled.disposeRequest_tasks, rows, List.filter_map]
  rfl

theorem Tabled.shift (htabled : x.Tabled) {taken : Option UInt32} (hshift : Shift x y taken)
    (hnumbered : y.Numbered) : y.Tabled := by
  have hkept : ∀ id, ((x.active.filter (·.1 != id)).map Prod.fst).Nodup := fun id =>
    htabled.ids.sublist (List.filter_sublist.map _)
  refine ⟨hnumbered, ?_, ?_⟩
  · cases hshift with
    | keeps rows active =>
        rw [active]
        exact htabled.ids
    | begins id rows active =>
        rw [active, List.map_append]
        refine (hkept id).append (List.nodup_singleton _) (List.disjoint_singleton.2 fun hold => ?_)
        obtain ⟨row, hrow, heq⟩ := List.mem_map.1 hold
        simp [heq] at hrow
    | finishes t ran rows active =>
        rw [active]
        exact hkept t.id
    | disposes id rows active =>
        rw [active]
        exact hkept id
  · cases hshift with
    | keeps rows active =>
        rw [rows, active]
        exact htabled.means
    | begins id rows active =>
        rw [rows, active]
        intro row hrow
        rcases List.mem_append.1 hrow with hold | hnew
        · exact List.mem_append_left _ (htabled.means (List.mem_filter.1 hold).1)
        · exact List.mem_append_right _ hnew
    | finishes t ran rows active =>
        rw [rows, active]
        intro row hrow
        obtain ⟨hrow, hid⟩ := List.mem_filter.1 hrow
        obtain ⟨u, hu, rfl⟩ := List.mem_map.1 (htabled.means hrow)
        refine List.mem_filter.2 ⟨List.mem_map_of_mem hu, ?_⟩
        rw [bne_iff_ne]
        intro hserial
        rw [htabled.eq_of_serial ran hu hserial] at hid
        simp [RequestTask.row] at hid
    | disposes id rows active =>
        rw [rows, active]
        intro row hrow
        obtain ⟨hrow, hid⟩ := List.mem_filter.1 hrow
        exact List.mem_filter.2 ⟨htabled.means hrow, by rw [hid, Bool.true_or]⟩

/-- Of tasks that are all within reach, just those get out of reach whose number is taken. -/
theorem Tabled.covered_iff (htabled : x.Tabled) (hcovered : x.Covered) {taken : Option UInt32}
    (hshift : Shift x y taken) : y.Covered ↔ ∀ id ∈ taken, ∀ t ∈ x.tasks, t.id ≠ id := by
  cases hshift with
  | keeps rows active =>
      rw [Covered, rows, active]
      exact ⟨fun _ _ hnone => (by cases hnone), fun _ => hcovered⟩
  | begins id rows active =>
      rw [Covered, rows, active]
      constructor
      · intro hreach taken htaken t ht heq
        obtain rfl := Option.mem_some_iff.1 htaken
        have hold := List.mem_map_of_mem (f := RequestTask.row) ht
        rcases List.mem_append.1 (hreach (List.mem_append_left _ hold)) with hrow | hrow
        · simp [heq, RequestTask.row] at hrow
        · have hserial : t.serial = x.nextSerial := congrArg Prod.snd (List.mem_singleton.1 hrow)
          exact absurd hserial (Nat.ne_of_lt (htabled.below t ht))
      · intro hfree row hrow
        rcases List.mem_append.1 hrow with hold | hnew
        · obtain ⟨t, ht, rfl⟩ := List.mem_map.1 hold
          have hne : t.id ≠ id := hfree id rfl t ht
          exact List.mem_append_left _ (List.mem_filter.2 ⟨hcovered hold, by simpa [RequestTask.row] using hne⟩)
        · exact List.mem_append_right _ hnew
  | finishes t ran rows active =>
      refine iff_of_true ?_ fun _ hnone => (by cases hnone)
      rw [Covered, rows, active]
      intro row hrow
      obtain ⟨hrow, hserial⟩ := List.mem_filter.1 hrow
      refine List.mem_filter.2 ⟨hcovered hrow, ?_⟩
      rw [bne_iff_ne]
      intro hid
      have hsame : row = t.row :=
        List.inj_on_of_nodup_map htabled.ids (hcovered hrow) (hcovered (List.mem_map_of_mem ran)) hid
      simp [hsame, RequestTask.row] at hserial
  | disposes id rows active =>
      refine iff_of_true ?_ fun _ hnone => (by cases hnone)
      rw [Covered, rows, active]
      intro row hrow
      obtain ⟨hrow, hrest⟩ := List.mem_filter.1 hrow
      have hactive := hcovered hrow
      refine List.mem_filter.2 ⟨hactive, ?_⟩
      simpa [hactive] using hrest

/-- What is out of reach stays there. -/
theorem Tabled.out_of_reach (htabled : x.Tabled) {taken : Option UInt32} (hshift : Shift x y taken)
    {t : RequestTask τ} (ht : t ∈ x.tasks) (hout : t.row ∉ x.active) : t.row ∉ y.active := by
  cases hshift with
  | keeps rows active =>
      rwa [active]
  | begins id rows active =>
      rw [active, List.mem_append, not_or]
      refine ⟨fun hold => hout (List.mem_filter.1 hold).1, fun hnew => ?_⟩
      have hserial : t.serial = x.nextSerial := congrArg Prod.snd (List.mem_singleton.1 hnew)
      exact absurd hserial (Nat.ne_of_lt (htabled.below t ht))
  | finishes u ran rows active | disposes id rows active =>
      rw [active]
      exact fun hold => hout (List.mem_filter.1 hold).1

theorem Tabled.dispose_of_covered (htabled : x.Tabled) (hcovered : x.Covered) : x.dispose.2.tasks = [] := by
  rw [htabled.dispose_tasks, List.filter_eq_nil_iff]
  intro t ht
  simpa using hcovered (List.mem_map_of_mem ht)

theorem Tabled.disposeRequest_of_covered (htabled : x.Tabled) (hcovered : x.Covered) (id : UInt32) :
    (x.disposeRequest id).2.tasks = x.tasks.filter (·.id != id) := by
  rw [htabled.disposeRequest_tasks]
  refine List.filter_congr fun t ht => ?_
  have hrow : x.active.contains t.row = true := List.contains_iff_mem.2 (hcovered (List.mem_map_of_mem ht))
  rw [hrow, Bool.not_true, Bool.or_false]

end Table

namespace Service

variable (registry : Registry (StateM σ) τ) (streams : Streams (StateM σ) τ) (ctx : ChannelContext)

/-- The number under which a task begins.  A subscription that is refused has no task. -/
def takes? (s : Service σ τ) : Event σ → Option UInt32
  | .asked (.call id _ _ _) => some id
  | .asked (.listen id channel event args) =>
    (subscription registry ctx channel event args s.host).1.toOption.map fun _ => id
  | _ => none

/-- No task begins under a number under which one runs. -/
def Separate (s : Service σ τ) (events : List (Event σ)) : Prop :=
  Throughout (step registry streams ctx)
    (fun s e => ∀ id ∈ s.takes? registry ctx e, ∀ t ∈ s.requests.tasks, t.id ≠ id) s events

instance decidableUnused (s : Service σ τ) : (taken : Option UInt32) →
    Decidable (∀ id ∈ taken, ∀ t ∈ s.requests.tasks, t.id ≠ id)
  | none => .isTrue (by simp)
  | some id => decidable_of_iff (∀ t ∈ s.requests.tasks, t.id ≠ id) (by simp)

instance (s : Service σ τ) (events : List (Event σ)) : Decidable (s.Separate registry streams ctx events) :=
  @decidableThroughout _ _ _ _ (fun s e => decidableUnused s (s.takes? registry ctx e)) s events

theorem turn_shift (s : Service σ τ) (serial : Nat) :
    Shift s.requests (s.perform (turn registry streams ctx serial)).requests none := by
  cases htask : s.requests.task? serial with
  | none =>
      rw [perform_turn_none registry streams ctx htask]
      exact .keeps rfl rfl
  | some t =>
      obtain ⟨number, id, work⟩ := t
      cases work with
      | call channel command args =>
          rw [perform_turn_call registry streams ctx htask]
          rcases reply registry ctx channel command args s.host with ⟨_ | outcome, host⟩
          · exact markWaiting_shift s.requests number
          · exact finishCall_shift s.requests number outcome
      | waiting =>
          rw [perform_turn_waiting registry streams ctx htask]
          exact .keeps rfl rfl
      | stream stream =>
          rw [perform_turn_stream registry streams ctx htask]
          rcases streams.take stream s.host with ⟨⟨values, _ | _⟩, host⟩
          all_goals
            obtain ⟨responses, hforward⟩ := forward_eq s.requests number values
            simp only [hforward]
          · exact .keeps rfl rfl
          · exact (finish_shift { s.requests with responses } number).of_responses

theorem step_shift {s : Service σ τ} (htabled : s.requests.Tabled) (e : Event σ) :
    Shift s.requests (s.step registry streams ctx e).requests (s.takes? registry ctx e) := by
  cases e with
  | asked request =>
      cases request with
      | call id channel command args => exact spawn_shift s.requests id _
      | listen id channel event args =>
          simp only [step, perform, handle_listen, takes?]
          rcases subscription registry ctx channel event args s.host with ⟨fault | stream, host⟩
          · exact .keeps rfl rfl
          · exact spawn_shift s.requests id _
      | dispose id => exact htabled.disposeRequest_shift id
  | turn serial => exact turn_shift registry streams ctx s serial
  | settled serial outcome =>
      simp only [step, takes?]
      split
      · exact finishCall_shift s.requests serial outcome
      · exact .keeps rfl rfl
  | outside change | collected => exact .keeps rfl rfl

variable {s : Service σ τ}

theorem tabled_step (htabled : s.requests.Tabled) (e : Event σ) :
    (s.step registry streams ctx e).requests.Tabled :=
  htabled.shift (step_shift registry streams ctx htabled e)
    (numbered_step registry streams ctx htabled.toNumbered e)

theorem tabled_run (htabled : s.requests.Tabled) (events : List (Event σ)) :
    (s.run registry streams ctx events).requests.Tabled := by
  induction events generalizing s with
  | nil => exact htabled
  | cons e events ih => exact ih (tabled_step registry streams ctx htabled e)

/-- All tasks are within reach all the time just if no number is taken under which a task runs. -/
theorem covered_iff_separate (htabled : s.requests.Tabled) (hcovered : s.requests.Covered)
    (events : List (Event σ)) :
    (∀ before, before <+: events → (s.run registry streams ctx before).requests.Covered) ↔
      s.Separate registry streams ctx events := by
  have hstep : ∀ (s : Service σ τ) (e : Event σ), s.requests.Tabled → s.requests.Covered →
      ((s.step registry streams ctx e).requests.Covered ↔
        ∀ id ∈ s.takes? registry ctx e, ∀ t ∈ s.requests.tasks, t.id ≠ id) :=
    fun s e htabled hcovered => htabled.covered_iff hcovered (step_shift registry streams ctx htabled e)
  exact forall_prefix_iff_throughout (step registry streams ctx)
    (fun _ e htabled => tabled_step registry streams ctx htabled e) hstep htabled hcovered events

end Service

section Main

variable (registry : Registry (StateM σ) τ) (streams : Streams (StateM σ) τ) (ctx : ChannelContext)

/-- Along any run, with notes of the streams that channels give and of those that are dropped: a stream that has been
given has been dropped or is passed on by a task that runs, also after the session ends.  The end of the session,
and the client with one number, abort just the tasks that have a row.  All tasks have one all the time just if no
number is taken under which a task runs; a task without one does not get one any more.  If no number was taken so, no
task is left at the end, every stream has been dropped, and the client aborts every task under a number. -/
theorem disposal_aborts_within_reach (host : σ) (events : List (Event σ)) :
    let s := Service.run registry streams ctx { host } events
    let noted := Service.run (Noted.registry registry) (Noted.streams streams) ctx { host := { host } }
      (events.map Noted.event)
    let last := noted.ended (Noted.streams streams)
    noted = s.noted noted.host.opened noted.host.dropped ∧
    last = (s.ended streams).noted noted.host.opened last.host.dropped ∧
    noted.host.opened.Perm (noted.host.dropped ++ s.requests.held) ∧
    last.host.opened.Perm (last.host.dropped ++ last.requests.held) ∧
    last.requests.active = [] ∧
    last.requests.tasks = s.requests.tasks.filter (fun t => !s.requests.active.contains t.row) ∧
    (∀ id, (s.step registry streams ctx (.asked (.dispose id))).requests.tasks =
      s.requests.tasks.filter fun t => t.id != id || !s.requests.active.contains t.row) ∧
    (∀ t ∈ s.requests.tasks, t.row ∉ s.requests.active →
      ∀ e, t.row ∉ (s.step registry streams ctx e).requests.active) ∧
    ((∀ before, before <+: events → (Service.run registry streams ctx { host } before).requests.Covered) ↔
      Service.Separate registry streams ctx { host } events) ∧
    (Service.Separate registry streams ctx { host } events →
      last.requests.tasks = [] ∧ last.host.opened.Perm last.host.dropped ∧
        ∀ id, (s.step registry streams ctx (.asked (.dispose id))).requests.tasks =
          s.requests.tasks.filter (·.id != id)) := by
  intro s noted last
  have hempty : ({} : Multiplexer τ).Tabled :=
    ⟨⟨List.Pairwise.nil, by simp⟩, List.nodup_nil, List.Subset.refl _⟩
  have htabled : s.requests.Tabled := Service.tabled_run registry streams ctx hempty events
  have hseparate := Service.covered_iff_separate registry streams ctx (s := ⟨host, {}, []⟩) hempty
    (List.Subset.refl _) events
  have hnothing : ([] : List τ).Perm ([] ++ held {}) := List.Perm.refl _
  obtain ⟨opened, dropped, hnoted, hstreams⟩ :=
    Service.noted_run registry streams ctx ⟨host, {}, []⟩ hempty.toNumbered hnothing events
  obtain ⟨dropped', hended, hstreams'⟩ := Service.noted_ended streams s hstreams
  have hnoted : noted = s.noted opened dropped := hnoted
  have hlast : last = (s.ended streams).noted opened dropped' := (congrArg (Service.ended _) hnoted).trans hended
  have htasks : last.requests.tasks = s.requests.dispose.2.tasks := by
    rw [hlast]
    rfl
  have hdropped : last.host.opened.Perm (last.host.dropped ++ last.requests.held) := by
    rw [hlast]
    exact hstreams'
  refine ⟨?_, ?_, ?_, hdropped, ?_, htasks.trans htabled.dispose_tasks, htabled.disposeRequest_tasks, ?_,
    hseparate, fun hfree => ?_⟩
  · rw [hnoted]
    rfl
  · rw [hlast, hnoted]
    rfl
  · rw [hnoted]
    exact hstreams
  · rw [hlast]
    rfl
  · exact fun t ht hout e => htabled.out_of_reach (Service.step_shift registry streams ctx htabled e) ht hout
  · have hcovered : s.requests.Covered := hseparate.2 hfree events (List.prefix_refl events)
    have hnone := htasks.trans (htabled.dispose_of_covered hcovered)
    refine ⟨hnone, ?_, htabled.disposeRequest_of_covered hcovered⟩
    simpa [held, hnone] using hdropped

end Main

/-- Somebody listens, and calls without getting an answer, under numbers that are not in use. -/
def inUse : List (Event Echo) := [
  .asked (.listen 9 "echo" "tick" .null),
  .asked (.call 1 "echo" "echo" .null),
  .turn 1,
  .asked (.call 1 "echo" "never" .null),
  .turn 2]

theorem disposal_aborts_within_reach_inUse :
    let s := Service.run rehearsalHall Echo.streams rehearsalContext { host := {} } inUse
    Service.Separate rehearsalHall Echo.streams rehearsalContext { host := {} } inUse ∧
      s.requests.tasks.map RequestTask.row = [(9, 0), (1, 2)] ∧
      (s.ended Echo.streams).requests.tasks = [] := by
  have hseparate : Service.Separate rehearsalHall Echo.streams rehearsalContext { host := {} } inUse := by
    decide +kernel
  obtain ⟨-, hlast, -, -, -, -, -, -, -, hended⟩ :=
    disposal_aborts_within_reach rehearsalHall Echo.streams rehearsalContext {} inUse
  refine ⟨hseparate, by decide +kernel, ?_⟩
  rw [← (hended hseparate).1, hlast]
  rfl

/-- Somebody listens twice under one number. -/
def twice : List (Event Echo) := [.asked (.listen 9 "echo" "tick" .null), .asked (.listen 9 "echo" "tick" .null)]

/-- The first of two subscriptions under one number goes on after the client has disposed of the number, and after
the session has ended: its stream is still attached. -/
theorem disposal_leaves_earlier :
    let s := Service.run rehearsalHall Echo.streams rehearsalContext { host := {} } twice
    let disposed := s.step rehearsalHall Echo.streams rehearsalContext (.asked (.dispose 9))
    let last := s.ended Echo.streams
    disposed.requests.tasks.map RequestTask.row = [(9, 0)] ∧
      last.requests.tasks.map RequestTask.row = [(9, 0)] ∧ last.requests.active = [] ∧
      s.host.ticks.listenerCount = 2 ∧ last.host.ticks.listenerCount = 1 := by
  decide +kernel

end Workbench.Multiplexer

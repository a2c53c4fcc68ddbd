import Workbench.Proofs.Channel.Requests

/-!
A service with notes of the streams that its channels give and of those that are dropped.  With notes it does what
it does without.  Every stream that has been given has been dropped once or is passed on by a task that runs,
whatever numbers the requests have.
-/

namespace Workbench.Multiplexer

variable {σ τ : Type}

/-- What the channels work on, with the streams that they have given and those that have been dropped, oldest
first. -/
structure Noted (σ τ : Type) where
  host : σ
  opened : List τ := []
  dropped : List τ := []

namespace Noted

/-- Runs a computation on what the channels work on. -/
def onHost {α : Type} (act : StateM σ α) : StateM (Noted σ τ) α :=
  onPart Noted.host (fun host n => { n with host }) act

/-- A channel whose streams are noted when they are given. -/
def channel (c : Channel (StateM σ) τ) : Channel (StateM (Noted σ τ)) τ where
  call ctx command args := onHost (c.call ctx command args)
  listen ctx event args := fun n =>
    let (made, host) := c.listen ctx event args n.host
    (made, { n with host, opened := n.opened ++ made.toOption.toList })

def registry (registry : Registry (StateM σ) τ) : Registry (StateM (Noted σ τ)) τ :=
  registry.map fun e => (e.1, channel e.2)

/-- Streams that are noted when they are dropped. -/
def streams (streams : Streams (StateM σ) τ) : Streams (StateM (Noted σ τ)) τ where
  take stream := onHost (streams.take stream)
  drop stream := fun n =>
    ((), { n with host := (streams.drop stream n.host).2, dropped := n.dropped ++ [stream] })

def event : Event σ → Event (Noted σ τ)
  | .asked r => .asked r
  | .turn serial => .turn serial
  | .settled serial outcome => .settled serial outcome
  | .outside change => .outside fun n => { n with host := change n.host }
  | .collected => .collected

section Operations

variable (r : Registry (StateM σ) τ) (ctx : ChannelContext) (n : Noted σ τ)

theorem find_registry (name : String) : (registry r).find name = (r.find name).map channel := by
  simp only [Registry.find, registry, List.find?_map, Function.comp_def]
  cases List.find? (fun e => e.1 == name) r <;> rfl

theorem reply_registry (name command : String) (args : Json) :
    reply (registry r) ctx name command args n =
      ((reply r ctx name command args n.host).1,
        { n with host := (reply r ctx name command args n.host).2 }) := by
  simp only [reply, find_registry]
  cases r.find name <;> rfl

theorem subscription_registry (name event : String) (args : Json) :
    subscription (registry r) ctx name event args n =
      ((subscription r ctx name event args n.host).1,
        { n with
          host := (subscription r ctx name event args n.host).2
          opened := n.opened ++ (subscription r ctx name event args n.host).1.toOption.toList }) := by
  simp only [subscription, find_registry]
  cases r.find name with
  | ok c => rfl
  | error e =>
      refine congrArg (Prod.mk (Except.error e)) ?_
      rw [Noted.mk.injEq]
      exact ⟨rfl, (List.append_nil _).symm, rfl⟩

theorem forM_drop (s : Streams (StateM σ) τ) (gone : List τ) (n : Noted σ τ) :
    gone.forM (streams s).drop n =
      ((), { n with host := (gone.forM s.drop n.host).2, dropped := n.dropped ++ gone }) := by
  induction gone generalizing n with
  | nil =>
      rw [List.append_nil]
      rfl
  | cons stream gone ih =>
      have hfirst : (stream :: gone).forM (streams s).drop n =
          gone.forM (streams s).drop ((streams s).drop stream n).2 := rfl
      rw [hfirst, ih]
      simp only [streams, List.append_assoc, List.singleton_append]
      rfl

end Operations
end Noted

/-- The streams that tasks pass on. -/
def held (x : Multiplexer τ) : List τ := x.tasks.filterMap (·.work.stream?)

theorem Numbered.eq_of_serial {x : Multiplexer τ} (hnumbered : x.Numbered) {t u : RequestTask τ}
    (ht : t ∈ x.tasks) (hu : u ∈ x.tasks) (hserial : u.serial = t.serial) : u = t := by
  have hfound := hnumbered.task? hu
  rw [hserial, hnumbered.task? ht] at hfound
  exact (Option.some.inj hfound).symm

theorem mem_tasks_of_task? {x : Multiplexer τ} {serial : Nat} {t : RequestTask τ}
    (htask : x.task? serial = some t) : t ∈ x.tasks ∧ t.serial = serial :=
  ⟨List.mem_of_find?_eq_some htask, by simpa using List.find?_some htask⟩

/-- Events are no matter of tasks and their rows. -/
theorem forward_eq (x : Multiplexer τ) (serial : Nat) (values : List Json) :
    ∃ responses, x.forward serial values = { x with responses } := by
  cases htask : x.task? serial with
  | none => exact ⟨x.responses, by simp only [forward, htask]⟩
  | some t => exact ⟨_, forward_of_task? htask values⟩

section Held

variable {x : Multiplexer τ}

theorem held_spawn (x : Multiplexer τ) (id : UInt32) (work : Work τ) :
    (x.spawn id work).held = x.held ++ work.stream?.toList := by
  simp only [held, spawn, List.filterMap_append]
  cases hwork : work.stream? <;> simp [hwork]

/-- What is aborted and what is left have the streams together. -/
theorem held_abort (x : Multiplexer τ) (serials : List Nat) :
    x.held.Perm ((x.abort serials).1 ++ (x.abort serials).2.held) := by
  have hgone : (x.abort serials).1 =
      (x.tasks.filter fun t => serials.contains t.serial).filterMap (·.work.stream?) := by
    refine congrArg (List.filterMap · _) (funext fun t => ?_)
    cases t.work <;> rfl
  rw [hgone, held, held, abort, ← List.filterMap_append]
  exact ((List.filter_append_perm _ x.tasks).symm).filterMap _

/-- A task that ends takes its stream with it. -/
theorem held_finish (hnumbered : x.Numbered) {serial : Nat} {t : RequestTask τ}
    (htask : x.task? serial = some t) :
    x.held.Perm (t.work.stream?.toList ++ (x.finish serial).held) := by
  obtain ⟨ht, rfl⟩ := mem_tasks_of_task? htask
  obtain ⟨before, after, heq⟩ := List.append_of_mem ht
  have hothers : ∀ u ∈ before ++ after, u.serial ≠ t.serial :=
    key_ne_of_increasing (heq ▸ hnumbered.increasing)
  have hrest : (x.finish t.serial).held = (before ++ after).filterMap (·.work.stream?) := by
    simp only [finish, htask, held, heq]
    rw [filter_others (by simp) (by simpa using hothers)]
  rw [hrest, held, heq]
  refine (List.perm_middle.filterMap _).trans ?_
  rw [List.filterMap_cons]
  cases t.work.stream? <;> exact List.Perm.refl _

theorem held_markWaiting (hnumbered : x.Numbered) {serial : Nat} {t : RequestTask τ}
    (htask : x.task? serial = some t) (hwork : t.work.stream? = none) :
    (x.markWaiting serial).held = x.held := by
  obtain ⟨ht, rfl⟩ := mem_tasks_of_task? htask
  simp only [held, markWaiting, List.filterMap_map]
  refine List.filterMap_congr fun u hu => ?_
  simp only [Function.comp]
  split
  · next hserial =>
    rw [hnumbered.eq_of_serial ht hu hserial, hwork]
    rfl
  · rfl

theorem held_finishCall (hnumbered : x.Numbered) {serial : Nat} {t : RequestTask τ}
    (htask : x.task? serial = some t) (hwork : t.work.stream? = none) (outcome : Outcome Json) :
    x.held.Perm (x.finishCall serial outcome).held := by
  have hfinish := held_finish hnumbered htask
  rw [hwork] at hfinish
  simp only [finishCall, htask]
  exact hfinish

end Held

namespace Service

/-- The service with notes. -/
def noted (s : Service σ τ) (opened dropped : List τ) : Service (Noted σ τ) τ :=
  ⟨⟨s.host, opened, dropped⟩, s.requests, s.taken⟩

variable (registry : Registry (StateM σ) τ) (streams : Streams (StateM σ) τ) (ctx : ChannelContext)

theorem noted_turn (s : Service σ τ) (hnumbered : s.requests.Numbered) {opened dropped : List τ}
    (hstreams : opened.Perm (dropped ++ s.requests.held)) (serial : Nat) :
    ∃ dropped',
      (s.noted opened dropped).perform (turn (Noted.registry registry) (Noted.streams streams) ctx serial) =
        (s.perform (turn registry streams ctx serial)).noted opened dropped' ∧
      opened.Perm (dropped' ++ (s.perform (turn registry streams ctx serial)).requests.held) := by
  cases htask : s.requests.task? serial with
  | none =>
      rw [perform_turn_none registry streams ctx htask, perform_turn_none _ _ _ (by exact htask)]
      exact ⟨dropped, rfl, hstreams⟩
  | some t =>
      obtain ⟨number, id, work⟩ := t
      obtain rfl : number = serial := (mem_tasks_of_task? htask).2
      cases work with
      | call channel command args =>
          rw [perform_turn_call registry streams ctx htask, perform_turn_call _ _ _ (by exact htask),
            Noted.reply_registry]
          simp only [noted]
          rcases reply registry ctx channel command args s.host with ⟨_ | outcome, host⟩
          · refine ⟨dropped, rfl, ?_⟩
            rwa [held_markWaiting hnumbered htask rfl]
          · exact ⟨dropped, rfl, hstreams.trans ((held_finishCall hnumbered htask rfl outcome).append_left _)⟩
      | waiting =>
          rw [perform_turn_waiting registry streams ctx htask, perform_turn_waiting _ _ _ (by exact htask)]
          exact ⟨dropped, rfl, hstreams⟩
      | stream stream =>
          rw [perform_turn_stream registry streams ctx htask, perform_turn_stream _ _ _ (by exact htask)]
          have htake : (Noted.streams streams).take stream (s.noted opened dropped).host =
              ((streams.take stream s.host).1, ⟨(streams.take stream s.host).2, opened, dropped⟩) := rfl
          rw [htake]
          rcases streams.take stream s.host with ⟨⟨values, _ | _⟩, host⟩
          all_goals obtain ⟨responses, hforward⟩ := forward_eq s.requests number values
          · refine ⟨dropped, rfl, ?_⟩
            simp only [hforward]
            exact hstreams
          · refine ⟨dropped ++ [stream], rfl, ?_⟩
            have hends : s.requests.held.Perm ([stream] ++ (finish { s.requests with responses } number).held) :=
              held_finish (x := { s.requests with responses }) ⟨hnumbered.increasing, hnumbered.below⟩ htask
            rw [List.append_assoc]
            simp only [hforward]
            exact hstreams.trans (hends.append_left _)

/-- With notes a service does what it does without, and the streams that have been given are those that have been
dropped and those that tasks pass on. -/
theorem noted_step (s : Service σ τ) (hnumbered : s.requests.Numbered) {opened dropped : List τ}
    (hstreams : opened.Perm (dropped ++ s.requests.held)) (e : Event σ) :
    ∃ opened' dropped',
      (s.noted opened dropped).step (Noted.registry registry) (Noted.streams streams) ctx (Noted.event e) =
        (s.step registry streams ctx e).noted opened' dropped' ∧
      opened'.Perm (dropped' ++ (s.step registry streams ctx e).requests.held) := by
  cases e with
  | asked request =>
      cases request with
      | call id channel command args =>
          refine ⟨opened, dropped, rfl, ?_⟩
          have hheld := held_spawn s.requests id (.call channel command args)
          exact hstreams.trans (List.Perm.of_eq (congrArg (dropped ++ ·) (hheld.trans (List.append_nil _)).symm))
      | listen id channel event args =>
          simp only [step, perform, Noted.event, noted, handle_listen, Noted.subscription_registry]
          rcases subscription registry ctx channel event args s.host with ⟨fault | stream, host⟩
          · refine ⟨opened, dropped, ?_, hstreams⟩
            simp [Except.toOption]
          · refine ⟨opened ++ [stream], dropped, rfl, ?_⟩
            rw [held_spawn, ← List.append_assoc]
            exact hstreams.append_right _
      | dispose id =>
          simp only [step, Noted.event, perform_dispose, noted, Noted.forM_drop]
          refine ⟨opened, dropped ++ (s.requests.disposeRequest id).1, rfl, ?_⟩
          rw [List.append_assoc]
          exact hstreams.trans ((held_abort { s.requests with active := _ } _).append_left _)
  | turn serial =>
      obtain ⟨dropped', hturn, hstreams'⟩ := noted_turn registry streams ctx s hnumbered hstreams serial
      exact ⟨opened, dropped', hturn, hstreams'⟩
  | settled serial outcome =>
      refine ⟨opened, dropped, ?_, ?_⟩
      · simp only [step, Noted.event, noted]
        split <;> rfl
      · simp only [step]
        split
        · next htask =>
          obtain rfl := (mem_tasks_of_task? htask).2
          exact hstreams.trans ((held_finishCall hnumbered htask rfl outcome).append_left _)
        · exact hstreams
  | outside change => exact ⟨opened, dropped, rfl, hstreams⟩
  | collected => exact ⟨opened, dropped, rfl, hstreams⟩

theorem noted_run (s : Service σ τ) (hnumbered : s.requests.Numbered) {opened dropped : List τ}
    (hstreams : opened.Perm (dropped ++ s.requests.held)) (events : List (Event σ)) :
    ∃ opened' dropped',
      (s.noted opened dropped).run (Noted.registry registry) (Noted.streams streams) ctx
          (events.map Noted.event) =
        (s.run registry streams ctx events).noted opened' dropped' ∧
      opened'.Perm (dropped' ++ (s.run registry streams ctx events).requests.held) := by
  induction events generalizing s opened dropped with
  | nil => exact ⟨opened, dropped, rfl, hstreams⟩
  | cons e events ih =>
      obtain ⟨opened', dropped', hstep, hstreams'⟩ := noted_step registry streams ctx s hnumbered hstreams e
      obtain ⟨opened'', dropped'', hrun, hstreams''⟩ :=
        ih (s.step registry streams ctx e) (numbered_step registry streams ctx hnumbered e) hstreams'
      refine ⟨opened'', dropped'', ?_, hstreams''⟩
      rw [List.map_cons, run, List.foldl_cons, hstep]
      exact hrun

/-- The session ends. -/
def ended (s : Service σ τ) : Service σ τ := s.perform (disposeAll streams)

theorem noted_ended (s : Service σ τ) {opened dropped : List τ}
    (hstreams : opened.Perm (dropped ++ s.requests.held)) :
    ∃ dropped',
      (s.noted opened dropped).ended (Noted.streams streams) = (s.ended streams).noted opened dropped' ∧
      opened.Perm (dropped' ++ (s.ended streams).requests.held) := by
  refine ⟨dropped ++ s.requests.dispose.1, ?_, ?_⟩
  · simp only [ended, perform, disposeAll, bind, StateT.bind, noted, Noted.forM_drop]
    rfl
  · rw [List.append_assoc]
    exact hstreams.trans ((held_abort { s.requests with active := [] } _).append_left _)

end Service

end Workbench.Multiplexer

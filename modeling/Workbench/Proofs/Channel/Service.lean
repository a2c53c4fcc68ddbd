import Mathlib.Data.List.Nodup
import Mathlib.Data.List.Pairwise
import Workbench.Channel.Multiplexer
import Workbench.Proofs.Lists

/-!
The requests of a session in use.  Clients ask, tasks take their turns in any order, calls that were waited
for get outcomes, and what the channels work on changes by itself.  Tasks are told apart by their numbers
whatever numbers their requests have, and a round in which every task runs is some turns of the tasks.
-/

namespace Workbench.Multiplexer

/-- What can happen to the requests of a session. -/
inductive Event (σ : Type) where
  | asked (r : ChannelRequest)
  /-- A task runs until it has to wait. -/
  | turn (serial : Nat)
  /-- A call that is waited for comes to an end. -/
  | settled (serial : Nat) (outcome : Outcome Json)
  /-- Something else changes what the channels work on. -/
  | outside (change : σ → σ)
  /-- The responses given so far are taken. -/
  | collected

/-- The requests of a session, what the channels work on, and the responses taken so far. -/
structure Service (σ τ : Type) where
  host : σ
  requests : Multiplexer τ := {}
  taken : List ChannelResponse := []

/-- A task runs until it has to wait; one that is gone does nothing. -/
def turn {m : Type → Type} [Monad m] {τ : Type} (registry : Registry m τ) (streams : Streams m τ)
    (ctx : ChannelContext) (serial : Nat) : StateT (Multiplexer τ) m Unit := fun x =>
  match x.task? serial with
  | none => return ((), x)
  | some t => (do makeCall registry ctx t; pumpStream streams t : StateT (Multiplexer τ) m Unit).run x

variable {σ τ : Type}

namespace Service

/-- Runs what works on the requests and on what the channels work on. -/
def perform (s : Service σ τ) (act : StateT (Multiplexer τ) (StateM σ) Unit) : Service σ τ :=
  let ((_, requests), host) := act s.requests s.host
  { s with host, requests }

/-- Everything said so far, oldest first. -/
def said (s : Service σ τ) : List ChannelResponse := s.taken ++ s.requests.responses.toList

variable (registry : Registry (StateM σ) τ) (streams : Streams (StateM σ) τ) (ctx : ChannelContext)

def step (s : Service σ τ) : Event σ → Service σ τ
  | .asked r => s.perform (handle registry streams ctx r)
  | .turn serial => s.perform (turn registry streams ctx serial)
  | .settled serial outcome =>
    match s.requests.task? serial with
    | some ⟨_, _, .waiting⟩ => { s with requests := s.requests.finishCall serial outcome }
    | _ => s
  | .outside change => { s with host := change s.host }
  | .collected =>
    let (responses, requests) := s.requests.takeResponses
    { s with requests, taken := s.taken ++ responses }

def run (s : Service σ τ) (events : List (Event σ)) : Service σ τ :=
  events.foldl (step registry streams ctx) s

theorem run_append (s : Service σ τ) (before later : List (Event σ)) :
    s.run registry streams ctx (before ++ later) =
      (s.run registry streams ctx before).run registry streams ctx later :=
  List.foldl_append

end Service

section Operations

variable {x y : Multiplexer τ}

theorem forward_of_task? {serial : Nat} {t : RequestTask τ} (htask : x.task? serial = some t)
    (values : List Json) :
    x.forward serial values =
      { x with responses := x.responses ++ (values.map (ChannelResponse.event t.id)).toArray } := by
  have hfold : ∀ (values : List Json) (x : Multiplexer τ),
      values.foldl (fun x v => x.respond (.event t.id v)) x =
        { x with responses := x.responses ++ (values.map (ChannelResponse.event t.id)).toArray } := by
    intro values
    induction values with
    | nil => intro x; simp
    | cons v values ih => intro x; rw [List.foldl_cons, ih]; simp [respond]
  simp only [forward, htask, hfold]

/-- Tasks have different numbers, in the order in which they began. -/
structure Numbered (x : Multiplexer τ) : Prop where
  increasing : x.tasks.Pairwise fun t u => t.serial < u.serial
  below : ∀ t ∈ x.tasks, t.serial < x.nextSerial

theorem Numbered.sublist (hnumbered : x.Numbered)
    (htasks : (y.tasks.map (·.serial)).Sublist (x.tasks.map (·.serial)))
    (hnext : y.nextSerial = x.nextSerial) : y.Numbered where
  increasing := List.pairwise_map.1 ((List.pairwise_map.2 hnumbered.increasing).sublist htasks)
  below := by
    intro t ht
    obtain ⟨u, hu, heq⟩ := List.mem_map.1 (htasks.subset (List.mem_map_of_mem ht))
    rw [hnext, ← heq]
    exact hnumbered.below u hu

theorem Numbered.spawn (hnumbered : x.Numbered) (id : UInt32) (work : Work τ) :
    (x.spawn id work).Numbered where
  increasing := pairwise_concat_iff.2 ⟨hnumbered.increasing, hnumbered.below⟩
  below := by
    intro t ht
    rcases List.mem_append.1 ht with ht | ht
    · exact Nat.lt_succ_of_lt (hnumbered.below t ht)
    · rw [List.mem_singleton.1 ht]
      exact Nat.lt_succ_self _

theorem Numbered.task? (hnumbered : x.Numbered) {t : RequestTask τ} (ht : t ∈ x.tasks) :
    x.task? t.serial = some t := by
  obtain ⟨before, after, heq⟩ := List.append_of_mem ht
  have hbefore : ∀ u ∈ before, (u.serial == t.serial) = false := by
    intro u hu
    have hne := key_ne_of_increasing (heq ▸ hnumbered.increasing) u (List.mem_append_left _ hu)
    simpa using hne
  rw [Multiplexer.task?, heq, List.find?_append, List.find?_eq_none.2 (by simpa using hbefore)]
  simp

/-- Nothing but one task changes, and it changes or goes. -/
structure Works (serial : Nat) (x y : Multiplexer τ) : Prop where
  nextSerial : y.nextSerial = x.nextSerial
  serials : (y.tasks.map (·.serial)).Sublist (x.tasks.map (·.serial))
  others : ∀ other, other ≠ serial → y.task? other = x.task? other

theorem Works.refl (serial : Nat) (x : Multiplexer τ) : Works serial x x :=
  ⟨rfl, List.Sublist.refl _, fun _ _ => rfl⟩

theorem Works.trans {serial : Nat} {z : Multiplexer τ} (hxy : Works serial x y) (hyz : Works serial y z) :
    Works serial x z where
  nextSerial := hyz.nextSerial.trans hxy.nextSerial
  serials := hyz.serials.trans hxy.serials
  others other hne := (hyz.others other hne).trans (hxy.others other hne)

theorem Works.numbered {serial : Nat} (hworks : Works serial x y) (hnumbered : x.Numbered) : y.Numbered :=
  hnumbered.sublist hworks.serials hworks.nextSerial

/-- Responses are no matter of tasks. -/
theorem Works.responses {serial : Nat} (hworks : Works serial x y) (responses : Array ChannelResponse) :
    Works serial x { y with responses } :=
  ⟨hworks.nextSerial, hworks.serials, hworks.others⟩

theorem finish_works (x : Multiplexer τ) (serial : Nat) : Works serial x (x.finish serial) := by
  cases htask : x.task? serial with
  | none => simpa only [finish, htask] using Works.refl serial x
  | some t =>
      simp only [finish, htask]
      refine ⟨rfl, List.filter_sublist.map _, fun other hne => ?_⟩
      simp only [task?, find?_filter_key RequestTask.serial, if_neg hne]

theorem finishCall_works (x : Multiplexer τ) (serial : Nat) (outcome : Outcome Json) :
    Works serial x (x.finishCall serial outcome) := by
  cases htask : x.task? serial with
  | none => simpa only [finishCall, htask] using Works.refl serial x
  | some t =>
      simp only [finishCall, htask]
      exact (finish_works x serial).responses _

theorem forward_works (x : Multiplexer τ) (serial : Nat) (values : List Json) :
    Works serial x (x.forward serial values) := by
  cases htask : x.task? serial with
  | none => simpa only [forward, htask] using Works.refl serial x
  | some t =>
      rw [forward_of_task? htask]
      exact (Works.refl serial x).responses _

theorem markWaiting_works (x : Multiplexer τ) (serial : Nat) : Works serial x (x.markWaiting serial) where
  nextSerial := rfl
  serials := by
    have hserials : (x.markWaiting serial).tasks.map (·.serial) = x.tasks.map (·.serial) := by
      simp only [markWaiting, List.map_map]
      refine List.map_congr_left fun t _ => ?_
      simp only [Function.comp]
      split <;> rfl
    rw [hserials]
  others other hne := by
    simp only [task?, markWaiting]
    induction x.tasks with
    | nil => rfl
    | cons t tasks ih =>
        by_cases ht : t.serial = serial
        · have hother : (t.serial == other) = false := by simpa [ht] using hne.symm
          simp only [List.map_cons, ht, ↓reduceIte, List.find?_cons]
          rw [ht] at hother
          simpa [hother, ht] using ih
        · simp only [List.map_cons, ht, ↓reduceIte, List.find?_cons]
          split
          · rfl
          · exact ih

end Operations

section Tasks

variable (registry : Registry (StateM σ) τ) (streams : Streams (StateM σ) τ) (ctx : ChannelContext)

/-- What a call comes to when it is made, unless it has to wait. -/
def reply (channel command : String) (args : Json) : StateM σ (Option (Outcome Json)) :=
  match registry.find channel with
  | .ok c => c.call ctx command args
  | .error e => pure (some (.error e))

/-- The stream of a subscription, or why there is none. -/
def subscription (channel event : String) (args : Json) : StateM σ (Outcome τ) :=
  match registry.find channel with
  | .ok c => c.listen ctx event args
  | .error e => pure (.error e)

theorem makeCall_call (serial : Nat) (id : UInt32) (channel command : String) (args : Json)
    (x : Multiplexer τ) (host : σ) :
    makeCall registry ctx ⟨serial, id, .call channel command args⟩ x host =
      match reply registry ctx channel command args host with
      | (some outcome, host) => (((), x.finishCall serial outcome), host)
      | (none, host) => (((), x.markWaiting serial), host) := by
  cases hfind : registry.find channel with
  | error e =>
      simp only [makeCall, reply, hfind]
      rfl
  | ok c =>
      rcases hcall : c.call ctx command args host with ⟨outcome, host'⟩
      simp only [makeCall, reply, hfind, bind, StateT.bind, hcall]
      cases outcome with
      | none => rfl
      | some outcome => rfl

theorem pumpStream_stream (serial : Nat) (id : UInt32) (stream : τ) (x : Multiplexer τ) (host : σ) :
    pumpStream streams ⟨serial, id, .stream stream⟩ x host =
      match streams.take stream host with
      | ((values, true), host) =>
        (((), (x.forward serial values).finish serial), (streams.drop stream host).2)
      | ((values, false), host) => (((), x.forward serial values), host) := by
  rcases htake : streams.take stream host with ⟨⟨values, ended⟩, host'⟩
  simp only [pumpStream, bind, StateT.bind, htake]
  cases ended with
  | true => rfl
  | false => rfl

theorem handle_listen (id : UInt32) (channel event : String) (args : Json) (x : Multiplexer τ) (host : σ) :
    handle registry streams ctx (.listen id channel event args) x host =
      match subscription registry ctx channel event args host with
      | (.ok s, host) => (((), x.spawn id (.stream s)), host)
      | (.error e, host) => (((), x.respond (.err id e.report)), host) := by
  cases hfind : registry.find channel with
  | error e =>
      simp only [handle, subscription, hfind]
      rfl
  | ok c =>
      rcases hlisten : c.listen ctx event args host with ⟨made, host'⟩
      simp only [handle, subscription, hfind, bind, StateT.bind, hlisten]
      cases made with
      | ok stream => rfl
      | error e => rfl

theorem makeCall_works (t : RequestTask τ) (x : Multiplexer τ) (host : σ) :
    Works t.serial x (makeCall registry ctx t x host).1.2 := by
  obtain ⟨serial, id, work⟩ := t
  cases work with
  | call channel command args =>
      rw [makeCall_call]
      rcases reply registry ctx channel command args host with ⟨_ | outcome, host'⟩
      · exact markWaiting_works x serial
      · exact finishCall_works x serial outcome
  | waiting | stream _ => exact Works.refl serial x

theorem pumpStream_works (t : RequestTask τ) (x : Multiplexer τ) (host : σ) :
    Works t.serial x (pumpStream streams t x host).1.2 := by
  obtain ⟨serial, id, work⟩ := t
  cases work with
  | stream stream =>
      rw [pumpStream_stream]
      rcases streams.take stream host with ⟨⟨values, _ | _⟩, host'⟩
      · exact forward_works x serial values
      · exact (forward_works x serial values).trans (finish_works _ serial)
  | call _ _ _ | waiting => exact Works.refl serial x

end Tasks

namespace Service

variable (registry : Registry (StateM σ) τ) (streams : Streams (StateM σ) τ) (ctx : ChannelContext)

theorem perform_turn {s : Service σ τ} {t : RequestTask τ} {serial : Nat}
    (htask : s.requests.task? serial = some t) :
    s.perform (turn registry streams ctx serial) =
      (s.perform (makeCall registry ctx t)).perform (pumpStream streams t) := by
  simp only [perform, turn, htask]
  rfl

theorem perform_turn_none {s : Service σ τ} {serial : Nat} (htask : s.requests.task? serial = none) :
    s.perform (turn registry streams ctx serial) = s := by
  simp only [perform, turn, htask]
  rfl

theorem perform_turn_call {s : Service σ τ} {serial number : Nat} {id : UInt32} {channel command : String}
    {args : Json} (htask : s.requests.task? serial = some ⟨number, id, .call channel command args⟩) :
    s.perform (turn registry streams ctx serial) =
      match reply registry ctx channel command args s.host with
      | (some outcome, host) => { s with host, requests := s.requests.finishCall number outcome }
      | (none, host) => { s with host, requests := s.requests.markWaiting number } := by
  have hpump : ∀ s : Service σ τ,
      s.perform (pumpStream streams ⟨number, id, .call channel command args⟩) = s := fun _ => rfl
  rw [perform_turn registry streams ctx htask, hpump]
  simp only [perform, makeCall_call]
  rcases reply registry ctx channel command args s.host with ⟨_ | outcome, host⟩
  · rfl
  · rfl

theorem perform_turn_waiting {s : Service σ τ} {serial number : Nat} {id : UInt32}
    (htask : s.requests.task? serial = some ⟨number, id, .waiting⟩) :
    s.perform (turn registry streams ctx serial) = s := by
  rw [perform_turn registry streams ctx htask]
  rfl

theorem perform_turn_stream {s : Service σ τ} {serial number : Nat} {id : UInt32} {stream : τ}
    (htask : s.requests.task? serial = some ⟨number, id, .stream stream⟩) :
    s.perform (turn registry streams ctx serial) =
      match streams.take stream s.host with
      | ((values, true), host) =>
        { s with
          host := (streams.drop stream host).2
          requests := (s.requests.forward number values).finish number }
      | ((values, false), host) => { s with host, requests := s.requests.forward number values } := by
  have hcall : ∀ s : Service σ τ,
      s.perform (makeCall registry ctx ⟨number, id, .stream stream⟩) = s := fun _ => rfl
  rw [perform_turn registry streams ctx htask, hcall]
  simp only [perform, pumpStream_stream]
  rcases streams.take stream s.host with ⟨⟨values, _ | _⟩, host⟩
  · rfl
  · rfl

theorem perform_dispose (s : Service σ τ) (id : UInt32) :
    s.perform (handle registry streams ctx (.dispose id)) =
      { s with
        host := ((s.requests.disposeRequest id).1.forM streams.drop s.host).2
        requests := (s.requests.disposeRequest id).2 } :=
  rfl

theorem turn_works (s : Service σ τ) (serial : Nat) :
    Works serial s.requests (s.perform (turn registry streams ctx serial)).requests := by
  cases htask : s.requests.task? serial with
  | none =>
      rw [perform_turn_none registry streams ctx htask]
      exact Works.refl _ _
  | some t =>
      have hserial : t.serial = serial := by simpa using List.find?_some htask
      rw [perform_turn registry streams ctx htask, ← hserial]
      exact (makeCall_works registry ctx t s.requests s.host).trans (pumpStream_works streams t _ _)

/-- Whatever happens, and whatever numbers the requests have, tasks have numbers of their own. -/
theorem numbered_step {s : Service σ τ} (hnumbered : s.requests.Numbered) (e : Event σ) :
    (s.step registry streams ctx e).requests.Numbered := by
  cases e with
  | asked r =>
      cases r with
      | call id channel command args => exact hnumbered.spawn id _
      | listen id channel event args =>
          simp only [step, perform, handle_listen]
          rcases subscription registry ctx channel event args s.host with ⟨fault | stream, host⟩
          · exact ⟨hnumbered.increasing, hnumbered.below⟩
          · exact hnumbered.spawn id _
      | dispose id =>
          exact hnumbered.sublist (List.filter_sublist.map _) rfl
  | turn serial => exact (turn_works registry streams ctx s serial).numbered hnumbered
  | settled serial outcome =>
      simp only [step]
      split
      · exact (finishCall_works _ _ _).numbered hnumbered
      · exact hnumbered
  | outside change | collected => exact ⟨hnumbered.increasing, hnumbered.below⟩

theorem numbered_run {s : Service σ τ} (hnumbered : s.requests.Numbered) (events : List (Event σ)) :
    (s.run registry streams ctx events).requests.Numbered := by
  induction events generalizing s with
  | nil => exact hnumbered
  | cons e events ih => exact ih (numbered_step registry streams ctx hnumbered e)

/-- What is done for a task is its turn, or nothing. -/
def PartOfTurn (part : RequestTask τ → StateT (Multiplexer τ) (StateM σ) Unit) : Prop :=
  ∀ t, (∀ s : Service σ τ, s.perform (part t) = s) ∨
    ∀ s : Service σ τ, s.requests.task? t.serial = some t →
      s.perform (part t) = s.perform (turn registry streams ctx t.serial)

theorem makeCall_partOfTurn : PartOfTurn registry streams ctx (makeCall registry ctx) := by
  rintro ⟨serial, id, work⟩
  cases work with
  | call channel command args =>
      refine .inr fun s htask => ?_
      rw [perform_turn registry streams ctx htask]
      rfl
  | waiting | stream _ => exact .inl fun s => rfl

theorem pumpStream_partOfTurn : PartOfTurn registry streams ctx (pumpStream streams) := by
  rintro ⟨serial, id, work⟩
  cases work with
  | stream stream =>
      refine .inr fun s htask => ?_
      rw [perform_turn registry streams ctx htask]
      rfl
  | call _ _ _ | waiting => exact .inl fun s => rfl

/-- Parts of the turns of some tasks are turns of some of them, since none changes the tasks behind it. -/
theorem exists_turns {part : RequestTask τ → StateT (Multiplexer τ) (StateM σ) Unit}
    (hpart : PartOfTurn registry streams ctx part)
    (hworks : ∀ t x host, Works t.serial x (part t x host).1.2) {tasks : List (RequestTask τ)}
    (hdistinct : tasks.Pairwise fun t u => t.serial < u.serial) {s : Service σ τ}
    (hthere : ∀ t ∈ tasks, s.requests.task? t.serial = some t) :
    ∃ serials : List Nat, s.perform (tasks.forM part) = s.run registry streams ctx (serials.map .turn) := by
  induction tasks generalizing s with
  | nil => exact ⟨[], rfl⟩
  | cons t tasks ih =>
      obtain ⟨hfirst, hrest⟩ := List.pairwise_cons.1 hdistinct
      have hlater : ∀ u ∈ tasks, (s.perform (part t)).requests.task? u.serial = some u := by
        intro u hu
        rw [← hthere u (List.mem_cons_of_mem _ hu)]
        exact (hworks t s.requests s.host).others u.serial (Nat.ne_of_gt (hfirst u hu))
      obtain ⟨serials, hserials⟩ := ih hrest hlater
      have hsplit : s.perform ((t :: tasks).forM part) = (s.perform (part t)).perform (tasks.forM part) := rfl
      rcases hpart t with hidle | hturn
      · exact ⟨serials, by rw [hsplit, hserials, hidle]⟩
      · refine ⟨t.serial :: serials, ?_⟩
        rw [hsplit, hserials, hturn s (hthere t (List.mem_cons_self ..))]
        rfl

/-- A round, in which every task runs until it has to wait, is some turns. -/
theorem settle_eq_turns {s : Service σ τ} (hnumbered : s.requests.Numbered) :
    ∃ serials : List Nat,
      s.perform (settle registry streams ctx) = s.run registry streams ctx (serials.map .turn) := by
  obtain ⟨first, hfirst⟩ := exists_turns registry streams ctx (makeCall_partOfTurn registry streams ctx)
    (makeCall_works registry ctx) hnumbered.increasing fun t ht => hnumbered.task? ht
  have hbetween := numbered_run registry streams ctx hnumbered (first.map .turn)
  obtain ⟨second, hsecond⟩ := exists_turns registry streams ctx (pumpStream_partOfTurn registry streams ctx)
    (pumpStream_works streams) hbetween.increasing fun t ht => hbetween.task? ht
  refine ⟨first ++ second, ?_⟩
  rw [List.map_append, run_append, ← hsecond, ← hfirst]
  rfl

end Service

end Workbench.Multiplexer

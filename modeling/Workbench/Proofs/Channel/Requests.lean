import Workbench.Channel.Echo
import Workbench.Proofs.Channel.Ledger

/-!
Requests do not get into each other's way.  The table of a multiplexer knows its tasks by the numbers that
the client chose, and whatever ends takes its number out of the table.  As long as the client takes no number
that is in use, every request fares as it would alone, in whatever order tasks take their turns: the client
is told what the ledger says of its requests, and the table has the requests under way.
-/

namespace Workbench

/-- The row of the table that means a task. -/
def RequestTask.row {τ : Type} (t : RequestTask τ) : UInt32 × Nat := (t.id, t.serial)

namespace Multiplexer

variable {σ τ : Type}

/-- A task with those before it and those after it, in a table that has a row for every task. -/
structure Among (x : Multiplexer τ) (before : List (RequestTask τ)) (t : RequestTask τ)
    (after : List (RequestTask τ)) : Prop where
  tasks : x.tasks = before ++ t :: after
  active : x.active = x.tasks.map RequestTask.row
  serials : ∀ u ∈ before ++ after, u.serial ≠ t.serial
  ids : ∀ u ∈ before ++ after, u.id ≠ t.id

theorem filter_only {before after : List (RequestTask τ)} {t : RequestTask τ} {p : RequestTask τ → Bool}
    (hself : p t = true) (hothers : ∀ u ∈ before ++ after, p u = false) :
    (before ++ t :: after).filter p = [t] := by
  have hnone : (before ++ after).filter p = [] := by
    rw [List.filter_eq_nil_iff]
    exact fun u hu => by simp [hothers u hu]
  rw [List.filter_append, List.append_eq_nil_iff] at hnone
  rw [List.filter_append, List.filter_cons_of_pos hself, hnone.1, hnone.2]
  rfl

namespace Among

variable {x : Multiplexer τ} {before after : List (RequestTask τ)} {t : RequestTask τ}

theorem task? (h : x.Among before t after) : x.task? t.serial = some t := by
  have hbefore : ∀ u ∈ before, (u.serial == t.serial) = false := by
    intro u hu
    simpa using h.serials u (List.mem_append_left _ hu)
  rw [Multiplexer.task?, h.tasks, List.find?_append, List.find?_eq_none.2 (by simpa using hbefore)]
  simp

theorem responses (h : x.Among before t after) (responses : Array ChannelResponse) :
    Among { x with responses } before t after :=
  ⟨h.tasks, h.active, h.serials, h.ids⟩

theorem filter_tasks (h : x.Among before t after) :
    x.tasks.filter (·.serial != t.serial) = before ++ after := by
  rw [h.tasks]
  exact filter_others (by simp) (by simpa using h.serials)

theorem filter_active (h : x.Among before t after) :
    x.active.filter (·.1 != t.id) = (before ++ after).map RequestTask.row := by
  rw [h.active, List.filter_map, h.tasks]
  congr 1
  exact filter_others (by simp [RequestTask.row]) (by simpa [RequestTask.row] using h.ids)

theorem finish (h : x.Among before t after) :
    x.finish t.serial =
      { x with tasks := before ++ after, active := (before ++ after).map RequestTask.row } := by
  simp only [Multiplexer.finish, h.task?, h.filter_tasks, h.filter_active]

theorem finishCall (h : x.Among before t after) (outcome : Outcome Json) :
    x.finishCall t.serial outcome =
      { x with
        tasks := before ++ after
        active := (before ++ after).map RequestTask.row
        responses := x.responses ++ #[answer t.id outcome] } := by
  simp only [Multiplexer.finishCall, h.task?, h.finish, respond, Array.push_eq_append]

theorem markWaiting (h : x.Among before t after) :
    x.markWaiting t.serial = { x with tasks := before ++ { t with work := .waiting } :: after } := by
  have hsame : ∀ us ⊆ before ++ after,
      us.map (fun u => if u.serial = t.serial then { u with work := .waiting } else u) = us := by
    intro us hus
    exact (List.map_congr_left fun u hu => if_neg (h.serials u (hus hu))).trans (List.map_id' us)
  simp only [Multiplexer.markWaiting, h.tasks, List.map_append, List.map_cons, ↓reduceIte,
    hsame before (List.subset_append_left ..), hsame after (List.subset_append_right ..)]

theorem disposeRequest (h : x.Among before t after) :
    x.disposeRequest t.id =
      (t.work.stream?.toList,
        { x with tasks := before ++ after, active := (before ++ after).map RequestTask.row }) := by
  have hmeant : (x.active.filter fun e => e.1 == t.id).map (fun e => e.2) = [t.serial] := by
    rw [h.active, h.tasks, List.filter_map,
      filter_only (by simp [RequestTask.row]) (by simpa [RequestTask.row] using h.ids)]
    rfl
  have hgone : x.tasks.filter (fun u => [t.serial].contains u.serial) = [t] := by
    rw [h.tasks]
    exact filter_only (by simp) (by simpa using h.serials)
  have hrest : x.tasks.filter (fun u => !([t.serial].contains u.serial)) = before ++ after := by
    rw [h.tasks]
    exact filter_others (by simp) (by simpa using h.serials)
  simp only [Multiplexer.disposeRequest, abort, hmeant, h.filter_active, hgone, hrest]
  cases hwork : t.work with
  | stream s => simp [hwork, Work.stream?]
  | call _ _ _ | waiting => simp [hwork, Work.stream?]

end Among

/-- A number that no task has is disposed of without effect. -/
theorem disposeRequest_of_absent {x : Multiplexer τ} (hactive : x.active = x.tasks.map RequestTask.row)
    {id : UInt32} (hid : ∀ t ∈ x.tasks, t.id ≠ id) : x.disposeRequest id = ([], x) := by
  have hnone : x.active.filter (fun e => e.1 == id) = [] := by
    rw [hactive, List.filter_map, List.map_eq_nil_iff, List.filter_eq_nil_iff]
    simpa [RequestTask.row] using hid
  have hall : x.active.filter (·.1 != id) = x.active := by
    rw [List.filter_eq_self]
    intro e he
    simpa [bne] using List.filter_eq_nil_iff.1 hnone e he
  simp [disposeRequest, abort, hnone, hall]

/-- Every task is for a request under way. -/
theorem Entry.exists_of_mem_tasks {es : List (Entry τ)} {t : RequestTask τ} (ht : t ∈ es.filterMap task?) :
    ∃ e ∈ es, e.underWay = true ∧ t.serial = e.serial ∧ t.id = e.id := by
  obtain ⟨e, he, htask⟩ := List.mem_filterMap.1 ht
  obtain ⟨work, hwork, rfl⟩ := Option.map_eq_some_iff.1 htask
  exact ⟨e, he, by simp [underWay, hwork], rfl, rfl⟩

/-- The requests in use are where the ledger has them, and the client has been told what it says. -/
structure Agrees (s : Service σ τ) (l : Ledger σ τ) : Prop where
  host : s.host = l.host
  next : s.requests.nextSerial = l.next
  tasks : s.requests.tasks = l.tasks
  active : s.requests.active = s.requests.tasks.map RequestTask.row
  said : ∀ id, s.said.filter (·.id == id) = l.replies id

namespace Agrees

variable {s : Service σ τ} {l : Ledger σ τ}

theorem mem_tasks (h : Agrees s l) {t : RequestTask τ} (ht : t ∈ s.requests.tasks) :
    ∃ e ∈ l.entries, e.underWay = true ∧ t.serial = e.serial ∧ t.id = e.id := by
  rw [h.tasks, Ledger.tasks] at ht
  exact Entry.exists_of_mem_tasks ht

theorem among (h : Agrees s l) {before after : List (Entry τ)} {e : Entry τ} (hsite : l.Site before e after)
    {work : Work τ} (hwork : e.errand.work? = some work) :
    s.requests.Among (before.filterMap Entry.task?) ⟨e.serial, e.id, work⟩ (after.filterMap Entry.task?) := by
  have htask : e.task? = some ⟨e.serial, e.id, work⟩ := by rw [Entry.task?, hwork, Option.map_some]
  have hothers : ∀ u ∈ before.filterMap Entry.task? ++ after.filterMap Entry.task?,
      ∃ o ∈ before ++ after, o.underWay = true ∧ u.serial = o.serial ∧ u.id = o.id := by
    intro u hu
    rw [← List.filterMap_append] at hu
    exact Entry.exists_of_mem_tasks hu
  refine ⟨?_, h.active, fun u hu => ?_, fun u hu => ?_⟩
  · rw [h.tasks, Ledger.tasks, hsite.entries, List.filterMap_append, List.filterMap_cons_some htask]
  · obtain ⟨o, ho, hunder, hserial, -⟩ := hothers u hu
    exact hserial ▸ hsite.serials o ho hunder
  · obtain ⟨o, ho, hunder, -, hid⟩ := hothers u hu
    exact hid ▸ hsite.ids o ho hunder

/-- A request under way comes to something, and the client is told some more. -/
theorem set (h : Agrees s l) {before after : List (Entry τ)} {e : Entry τ} (hsite : l.Site before e after)
    {errand : Errand τ} {new : List ChannelResponse} {x : Multiplexer τ} {host : σ}
    (hnew : errand.replies e.id = e.errand.replies e.id ++ new)
    (htasks : x.tasks = before.filterMap Entry.task? ++ (Entry.task? { e with errand }).toList ++
      after.filterMap Entry.task?)
    (hactive : x.active = x.tasks.map RequestTask.row) (hnext : x.nextSerial = s.requests.nextSerial)
    (hresponses : x.responses = s.requests.responses ++ new.toArray) :
    Agrees ⟨host, x, s.taken⟩ ⟨host, l.next, before ++ { e with errand } :: after⟩ where
  host := rfl
  next := hnext.trans h.next
  tasks := by
    rw [htasks, Ledger.tasks, List.filterMap_append, List.filterMap_cons, List.append_assoc]
    cases Entry.task? { e with errand } <;> rfl
  active := hactive
  said id := by
    rw [hsite.replies_set hnew, ← h.said, ← List.filter_append]
    simp [Service.said, hresponses]

theorem ends (h : Agrees s l) {before after : List (Entry τ)} {e : Entry τ} (hsite : l.Site before e after)
    {errand : Errand τ} {new : List ChannelResponse} (host : σ) (hdone : errand.work? = none)
    (hnew : errand.replies e.id = e.errand.replies e.id ++ new) :
    Agrees
      { s with
        host
        requests :=
          { s.requests with
            tasks := before.filterMap Entry.task? ++ after.filterMap Entry.task?
            active := (before.filterMap Entry.task? ++ after.filterMap Entry.task?).map RequestTask.row
            responses := s.requests.responses ++ new.toArray } }
      ⟨host, l.next, before ++ { e with errand } :: after⟩ :=
  h.set hsite hnew (by simp [Entry.task?, hdone]) rfl rfl rfl

theorem continues (h : Agrees s l) {before after : List (Entry τ)} {e : Entry τ}
    (hsite : l.Site before e after) {errand : Errand τ} {new : List ChannelResponse} {work work' : Work τ} (host : σ)
    (hwork : e.errand.work? = some work) (hwork' : errand.work? = some work')
    (hnew : errand.replies e.id = e.errand.replies e.id ++ new) :
    Agrees
      { s with
        host
        requests :=
          { s.requests with
            tasks := before.filterMap Entry.task? ++ ⟨e.serial, e.id, work'⟩ :: after.filterMap Entry.task?
            responses := s.requests.responses ++ new.toArray } }
      ⟨host, l.next, before ++ { e with errand } :: after⟩ := by
  have hamong := h.among hsite hwork
  refine h.set hsite hnew (by simp [Entry.task?, hwork']) ?_ rfl rfl
  simp [hamong.active, hamong.tasks, RequestTask.row]

/-- What happens without effect on a request. -/
theorem still (h : Agrees s l) {before after : List (Entry τ)} {e : Entry τ} (hsite : l.Site before e after) :
    Agrees s { l with host := s.host, entries := before ++ e :: after } := by
  rw [← hsite.entries, h.host]
  exact h

/-- A request begins, or is refused at once. -/
theorem opens (h : Agrees s l) {entry : Entry τ} {x : Multiplexer τ} {host : σ} {next : Nat}
    (htasks : x.tasks = s.requests.tasks ++ entry.task?.toList)
    (hactive : x.active = x.tasks.map RequestTask.row) (hnext : x.nextSerial = next)
    (hresponses : x.responses = s.requests.responses ++ entry.replies.toArray) :
    Agrees ⟨host, x, s.taken⟩ ⟨host, next, l.entries ++ [entry]⟩ where
  host := rfl
  next := hnext
  tasks := by
    rw [htasks, h.tasks, Ledger.tasks, Ledger.tasks, List.filterMap_append]
    cases htask : entry.task? <;> simp [htask]
  active := hactive
  said id := by
    have hentry : ([entry].filter (·.id == id)).flatMap Entry.replies =
        entry.replies.filter (·.id == id) := by
      have hid : ∀ r ∈ entry.replies, r.id = entry.id := fun r hr => Errand.id_of_mem_replies hr
      rw [Errand.filter_responses hid]
      by_cases heq : entry.id = id <;> simp [heq]
    rw [Ledger.replies, List.filter_append, List.flatMap_append, hentry, ← Ledger.replies, ← h.said,
      ← List.filter_append]
    simp [Service.said, hresponses]

/-- A task with a number is there if a request under way has the number. -/
theorem task?_eq_none (h : Agrees s l) {serial : Nat}
    (hnone : ∀ e ∈ l.entries, e.underWay = true → (e.serial == serial) = false) :
    s.requests.task? serial = none := by
  rw [Multiplexer.task?, List.find?_eq_none]
  intro t ht
  obtain ⟨e, he, hunder, hserial, -⟩ := h.mem_tasks ht
  simpa [hserial] using hnone e he hunder

variable (registry : Registry (StateM σ) τ) (streams : Streams (StateM σ) τ) (ctx : ChannelContext)

theorem turn (h : Agrees s l) (hsound : l.Sound) (serial : Nat) :
    Agrees (s.step registry streams ctx (.turn serial)) (l.step registry streams ctx (.turn serial)) := by
  simp only [Service.step, Ledger.step]
  rcases hsound.advance_eq (·.serial == serial) (Errand.turn registry streams ctx) with
    ⟨hnone, heq⟩ | ⟨before, ⟨_, id, errand⟩, after, hsite, hwhich, heq⟩
  · rw [heq, Service.perform_turn_none registry streams ctx (h.task?_eq_none hnone)]
    exact h
  · obtain rfl := beq_iff_eq.1 hwhich
    have hunder := hsite.underWay
    rw [heq, ← h.host]
    rcases errand with ⟨channel, command, args, _ | _ | _ | _⟩ |
      ⟨channel, event, args, _ | ⟨stream, sent⟩ | _ | _⟩
    case call.noted =>
      have hamong := h.among hsite rfl
      rw [Service.perform_turn_call registry streams ctx hamong.task?]
      simp only [Errand.turn]
      rcases reply registry ctx channel command args s.host with ⟨_ | outcome, host⟩
      · have hnew : (Errand.call channel command args .waiting : Errand τ).replies id = [] ++ [] := rfl
        simpa only [hamong.markWaiting, Array.append_empty] using h.continues hsite host rfl rfl hnew
      · simp only [hamong.finishCall]
        exact h.ends hsite host rfl (Errand.replies_answered id channel command args outcome)
    case call.waiting =>
      rw [Service.perform_turn_waiting registry streams ctx (h.among hsite rfl).task?]
      exact h.still hsite
    case listen.passing =>
      have hamong := h.among hsite rfl
      rw [Service.perform_turn_stream registry streams ctx hamong.task?]
      simp only [Errand.turn]
      rcases streams.take stream s.host with ⟨⟨values, _ | _⟩, host⟩
      · have hnew : (Errand.listen channel event args (.passing stream (sent ++ values))).replies id =
            sent.map (.event id) ++ values.map (.event id) := List.map_append
        have hagrees := h.continues hsite host rfl rfl hnew
        simpa only [forward_of_task? hamong.task?, ← hamong.tasks] using hagrees
      · have hnew : (Errand.listen channel event args (.ended (sent ++ values)) : Errand τ).replies id =
            sent.map (.event id) ++ values.map (.event id) := List.map_append
        simp only [forward_of_task? hamong.task?, (hamong.responses _).finish]
        exact h.ends hsite (streams.drop stream host).2 rfl hnew
    -- the other stages are not under way
    all_goals cases hunder

theorem settled (h : Agrees s l) (hsound : l.Sound) (serial : Nat) (outcome : Outcome Json) :
    Agrees (s.step registry streams ctx (.settled serial outcome))
      (l.step registry streams ctx (.settled serial outcome)) := by
  simp only [Service.step, Ledger.step]
  rcases hsound.advance_eq (·.serial == serial) (Errand.settle outcome) with
    ⟨hnone, heq⟩ | ⟨before, ⟨_, id, errand⟩, after, hsite, hwhich, heq⟩
  · rw [heq, h.task?_eq_none hnone]
    exact h
  · obtain rfl := beq_iff_eq.1 hwhich
    have hunder := hsite.underWay
    rw [heq, ← h.host]
    rcases errand with ⟨channel, command, args, _ | _ | _ | _⟩ |
      ⟨channel, event, args, _ | ⟨stream, sent⟩ | _ | _⟩
    case call.noted | listen.passing =>
      rw [(h.among hsite rfl).task?]
      exact h.still hsite
    case call.waiting =>
      have hamong := h.among hsite rfl
      rw [hamong.task?]
      simp only [hamong.finishCall]
      exact h.ends hsite s.host rfl (Errand.replies_answered id channel command args outcome)
    -- the other stages are not under way
    all_goals cases hunder

theorem dispose (h : Agrees s l) (hsound : l.Sound) (id : UInt32) :
    Agrees (s.step registry streams ctx (.asked (.dispose id)))
      (l.step registry streams ctx (.asked (.dispose id))) := by
  simp only [Service.step, Ledger.step, Service.perform_dispose]
  rcases hsound.advance_eq (·.id == id) (Errand.dispose streams) with
    ⟨hnone, heq⟩ | ⟨before, e, after, hsite, hwhich, heq⟩
  · have habsent : ∀ t ∈ s.requests.tasks, t.id ≠ id := by
      intro t ht
      obtain ⟨e, he, hunder, -, hid⟩ := h.mem_tasks ht
      simpa [hid] using hnone e he hunder
    rw [heq, disposeRequest_of_absent h.active habsent]
    exact h
  · obtain rfl := beq_iff_eq.1 hwhich
    obtain ⟨work, hwork⟩ := Option.isSome_iff_exists.1 hsite.underWay
    have hnew := (Errand.replies_dispose streams e.errand l.host e.id).trans (List.append_nil _).symm
    have hdone := Errand.work?_dispose streams e.errand l.host
    have hends := h.ends hsite (e.errand.dispose streams l.host).2 hdone hnew
    rw [heq, (h.among hsite hwork).disposeRequest, h.host, ← Errand.host_dispose streams hwork]
    simpa only [Array.append_empty] using hends

/-- A request that takes a number that is not in use gets a row at the end of the table. -/
theorem active_spawn (h : Agrees s l) {id : UInt32} (hdone : l.Done id) (work : Work τ) :
    (s.requests.spawn id work).active = (s.requests.spawn id work).tasks.map RequestTask.row := by
  have hall : s.requests.active.filter (·.1 != id) = s.requests.active := by
    rw [h.active, List.filter_eq_self]
    intro row hrow
    obtain ⟨t, ht, rfl⟩ := List.mem_map.1 hrow
    obtain ⟨e, he, hunder, -, hid⟩ := h.mem_tasks ht
    have hne : e.id ≠ id := fun heq => by simp [hdone e he heq] at hunder
    simpa [RequestTask.row, hid] using hne
  simp only [spawn, hall]
  rw [h.active, List.map_append]
  rfl

theorem begins (h : Agrees s l) {id : UInt32} (hdone : l.Done id) (errand : Errand τ) (host : σ)
    {work : Work τ} (hwork : errand.work? = some work) (hquiet : errand.replies id = []) :
    Agrees ⟨host, s.requests.spawn id work, s.taken⟩
      ⟨host, l.next + 1, l.entries ++ [⟨l.next, id, errand⟩]⟩ := by
  refine h.opens ?_ (h.active_spawn hdone work) (congrArg (· + 1) h.next) ?_
  · simp [spawn, Entry.task?, hwork, h.next]
  · simp [spawn, Entry.replies, hquiet]

theorem asked (h : Agrees s l) (hsound : l.Sound) {r : ChannelRequest} (hapart : ∀ id ∈ r.opens?, l.Done id) :
    Agrees (s.step registry streams ctx (.asked r)) (l.step registry streams ctx (.asked r)) := by
  cases r with
  | call id channel command args =>
      simp only [Ledger.step, ← h.host]
      exact h.begins (hapart id rfl) (.call channel command args .noted) s.host rfl rfl
  | listen id channel event args =>
      simp only [Service.step, Service.perform, Ledger.step, handle_listen, h.host]
      rcases subscription registry ctx channel event args l.host with ⟨fault | stream, host⟩
      · exact h.opens (List.append_nil _).symm h.active h.next Array.push_eq_append
      · exact h.begins (hapart id rfl) (.listen channel event args (.passing stream [])) host rfl rfl
  | dispose id => exact h.dispose registry streams ctx hsound id

theorem step (h : Agrees s l) (hsound : l.Sound) {e : Event σ} (hapart : ∀ id ∈ e.opens?, l.Done id) :
    Agrees (s.step registry streams ctx e) (l.step registry streams ctx e) := by
  cases e with
  | asked r => exact h.asked registry streams ctx hsound hapart
  | turn serial => exact h.turn registry streams ctx hsound serial
  | settled serial outcome => exact h.settled registry streams ctx hsound serial outcome
  | outside change => exact ⟨congrArg change h.host, h.next, h.tasks, h.active, h.said⟩
  | collected =>
      refine ⟨h.host, h.next, h.tasks, h.active, fun id => ?_⟩
      rw [Ledger.step, ← h.said]
      simp [Service.said, Service.step, takeResponses]

theorem run (h : Agrees s l) (hsound : l.Sound) {events : List (Event σ)}
    (hapart : l.Apart registry streams ctx events) :
    Agrees (s.run registry streams ctx events) (l.run registry streams ctx events) := by
  induction events generalizing s l with
  | nil => exact h
  | cons e events ih =>
      have hthen := hsound.step registry streams ctx hapart.1
      exact ih (h.step registry streams ctx hsound hapart.1) hthen hapart.2

end Agrees

theorem map_id_tasks (es : List (Entry τ)) :
    (es.filterMap Entry.task?).map (·.id) = (es.filter Entry.underWay).map Entry.id := by
  induction es with
  | nil => rfl
  | cons e es ih =>
      cases hwork : e.errand.work? with
      | none => simpa [Entry.task?, Entry.underWay, hwork] using ih
      | some work => simpa [Entry.task?, Entry.underWay, hwork] using ih

section Main

variable (registry : Registry (StateM σ) τ) (streams : Streams (StateM σ) τ) (ctx : ChannelContext)

/-- As long as no number is taken that is in use, the client is told under each number what becomes of its
requests, one request after the other: the outcome of each call, what the stream of each subscription sends,
or why there is none.  After a request is disposed of, nothing more is said under its number until the
number is taken again.  The table has the numbers of the requests under way.  When every task is run until it has to
wait, that is some of these turns. -/
theorem requests_served_apart (host : σ) (events : List (Event σ))
    (hapart : Ledger.Apart registry streams ctx { host } events) :
    let s := Service.run registry streams ctx { host } events
    let l := Ledger.run registry streams ctx { host } events
    s.host = l.host ∧
    (∀ id, s.said.filter (·.id == id) = l.replies id) ∧
    (∀ before id later, events = before ++ .asked (.dispose id) :: later →
      (∀ e ∈ later, e.opens? ≠ some id) →
        s.said.filter (·.id == id) =
          (Service.run registry streams ctx { host } before).said.filter (·.id == id)) ∧
    s.requests.active.map Prod.fst = (l.entries.filter Entry.underWay).map Entry.id ∧
    (s.requests.active.map Prod.fst).Nodup ∧
    (∀ entry ∈ l.entries, entry.errand.Told registry) ∧
    ∃ serials : List Nat,
      s.perform (settle registry streams ctx) = s.run registry streams ctx (serials.map .turn) := by
  intro s l
  have hstart : Agrees ({ host } : Service σ τ) { host } := ⟨rfl, rfl, rfl, rfl, fun _ => rfl⟩
  have hempty := Ledger.sound_empty (τ := τ) host
  have hagrees : Agrees s l := hstart.run registry streams ctx hempty hapart
  have hsound : l.Sound := hempty.run registry streams ctx hapart
  have hactive : s.requests.active.map Prod.fst = (l.entries.filter Entry.underWay).map Entry.id := by
    rw [hagrees.active, hagrees.tasks, List.map_map, ← map_id_tasks]
    rfl
  have hnothing : ({} : Multiplexer τ).Numbered := ⟨List.Pairwise.nil, nofun⟩
  have hnumbered : s.requests.Numbered :=
    Service.numbered_run registry streams ctx (s := { host }) hnothing events
  refine ⟨hagrees.host, hagrees.said, ?_, hactive, ?_, ?_, Service.settle_eq_turns registry streams ctx hnumbered⟩
  · intro before id later heq hopens
    have hbefore : Ledger.Apart registry streams ctx { host } before :=
      ((Ledger.apart_append registry streams ctx).1 (heq ▸ hapart)).1
    have hthen := hempty.run registry streams ctx hbefore
    calc
      s.said.filter (·.id == id) = l.replies id := hagrees.said id
      _ = (Ledger.run registry streams ctx { host } before).replies id := by
        simp only [l, heq, Ledger.run_append]
        exact hthen.replies_run_dispose registry streams ctx hopens
      _ = _ := ((hstart.run registry streams ctx hempty hbefore).said id).symm
  · rw [hactive, List.Nodup, List.pairwise_map, List.pairwise_filter]
    exact hsound.apart.imp fun hne ha _ => (hne ha).symm
  · exact Ledger.told_run registry streams ctx (by simp) events

end Main

/-- A client listens, takes a call back, takes both numbers again and asks for a channel that is not there. -/
def rehearsal : List (Event Echo) := [
  .asked (.listen 9 "echo" "tick" .null),
  .outside fun e => { e with ticks := e.ticks.fire (.str "first") },
  .turn 0,
  .asked (.call 1 "echo" "never" .null),
  .turn 1,
  .asked (.dispose 1),
  .asked (.call 1 "echo" "echo" (.bool true)),
  .turn 2,
  .collected,
  .outside fun e => { e with ticks := e.ticks.fire (.str "second") },
  .asked (.dispose 9),
  .turn 0,
  .asked (.call 9 "nowhere" "echo" .null),
  .turn 3]

/-- The channel that is asked. -/
def rehearsalHall : Registry (StateM Echo) EchoStream := [("echo", Echo.channel fun _ => .timeout)]

def rehearsalContext : ChannelContext := ⟨"host:1", ⟨"host:1", ⟨"/app", "/content", "/user"⟩⟩, "t"⟩

theorem requests_served_apart_rehearsal :
    let s := Service.run rehearsalHall Echo.streams rehearsalContext { host := {} } rehearsal
    Ledger.Apart rehearsalHall Echo.streams rehearsalContext { host := {} } rehearsal ∧
      s.said.filter (·.id == 9) =
        [.event 9 (.str "first"), .err 9 ⟨"UnknownChannel", "unknown channel: nowhere"⟩] ∧
      s.said.filter (·.id == 1) = [.ok 1 (.bool true)] ∧ s.requests.active.map Prod.fst = [] := by
  have hapart : Ledger.Apart rehearsalHall Echo.streams rehearsalContext { host := {} } rehearsal := by
    decide +kernel
  obtain ⟨-, hsaid, -, hactive, -⟩ :=
    requests_served_apart rehearsalHall Echo.streams rehearsalContext {} rehearsal hapart
  refine ⟨hapart, (hsaid 9).trans ?_, (hsaid 1).trans ?_, hactive.trans ?_⟩
  · decide +kernel
  · decide +kernel
  · decide +kernel

end Multiplexer
end Workbench

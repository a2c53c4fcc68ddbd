import Workbench.Proofs.Channel.Service

/-!
What becomes of every request, looked at apart from all others.  A ledger has an entry for each call and each
subscription there has been.  Entries are told apart by the numbers of their tasks; the number that the
client chose only says which entry the client disposes of and what responses are about.  An entry follows
what its channel does: a call has one outcome, a subscription has the values that its stream has sent.
-/

namespace Workbench

/-- The request that a response is about. -/
def ChannelResponse.id : ChannelResponse → UInt32
  | ok id _ | err id _ | event id _ => id

/-- A request that takes a number. -/
def ChannelRequest.opens? : ChannelRequest → Option UInt32
  | call id _ _ _ | listen id _ _ _ => some id
  | dispose _ => none

/-- The stream that a task passes on. -/
def Work.stream? {τ : Type} : Work τ → Option τ
  | stream s => some s
  | _ => none

theorem Registry.find_of_not_mem {m : Type → Type} {τ : Type} {registry : Registry m τ} {name : String}
    (hname : ∀ c, (name, c) ∉ registry) : registry.find name = .error (.unknownChannel name) := by
  have hnone : List.find? (fun e => e.1 == name) registry = none := by
    rw [List.find?_eq_none]
    rintro ⟨other, c⟩ hmem heq
    exact hname c (beq_iff_eq.1 heq ▸ hmem)
  rw [find, hnone]

namespace Multiplexer

variable {σ τ : Type}

def Event.opens? : Event σ → Option UInt32
  | asked r => r.opens?
  | _ => none

/-- What a call has come to. -/
inductive CallStage where
  /-- It has not been made yet. -/
  | noted
  | waiting
  | answered (outcome : Outcome Json)
  /-- The client disposed of it before it was answered. -/
  | forgone

/-- What a subscription has come to, and the values that its stream has sent. -/
inductive ListenStage (τ : Type) where
  | refused (fault : Fault)
  | passing (stream : τ) (sent : List Json)
  | ended (sent : List Json)
  /-- The client disposed of it before the stream ended. -/
  | forgone (sent : List Json)

/-- A request that takes a number, and what it has come to. -/
inductive Errand (τ : Type) where
  | call (channel command : String) (args : Json) (stage : CallStage)
  | listen (channel event : String) (args : Json) (stage : ListenStage τ)

namespace Errand

/-- What the client has been told under the number of the request. -/
def replies (id : UInt32) : Errand τ → List ChannelResponse
  | call _ _ _ .noted | call _ _ _ .waiting | call _ _ _ .forgone => []
  | call _ _ _ (.answered (.ok v)) => [.ok id v]
  | call _ _ _ (.answered (.error f)) => [.err id ⟨f.code, f.message⟩]
  | listen _ _ _ (.refused f) => [.err id ⟨f.code, f.message⟩]
  | listen _ _ _ (.passing _ sent) | listen _ _ _ (.ended sent) | listen _ _ _ (.forgone sent) =>
    sent.map (.event id)

theorem replies_answered (id : UInt32) (channel command : String) (args : Json) (outcome : Outcome Json) :
    (call channel command args (.answered outcome) : Errand τ).replies id = [answer id outcome] := by
  cases outcome <;> rfl

/-- What is left to do. -/
def work? : Errand τ → Option (Work τ)
  | call channel command args .noted => some (.call channel command args)
  | call _ _ _ .waiting => some .waiting
  | listen _ _ _ (.passing stream _) => some (.stream stream)
  | _ => none

theorem id_of_mem_replies {id : UInt32} {a : Errand τ} {r : ChannelResponse} (hr : r ∈ a.replies id) :
    r.id = id := by
  rcases a with ⟨channel, command, args, _ | _ | (f | v) | _⟩ | ⟨channel, event, args, f | _ | _ | _⟩
  all_goals simp only [replies, List.not_mem_nil, List.mem_singleton, List.mem_map] at hr
  · rw [hr]; rfl
  · rw [hr]; rfl
  · rw [hr]; rfl
  all_goals
    obtain ⟨v, -, rfl⟩ := hr
    rfl

/-- Of responses about one request, those under a number are all or none. -/
theorem filter_responses {rs : List ChannelResponse} {id : UInt32} (hid : ∀ r ∈ rs, r.id = id)
    (other : UInt32) : rs.filter (·.id == other) = if id = other then rs else [] := by
  split
  · next heq =>
    rw [List.filter_eq_self]
    exact fun r hr => by simp [hid r hr, heq]
  · next hne =>
    rw [List.filter_eq_nil_iff]
    exact fun r hr => by simp [hid r hr, hne]

variable (registry : Registry (StateM σ) τ) (streams : Streams (StateM σ) τ) (ctx : ChannelContext)

/-- The channel is called, or the stream is asked for what it has sent. -/
def turn : Errand τ → StateM σ (Errand τ)
  | call channel command args .noted => fun host =>
    match reply registry ctx channel command args host with
    | (some outcome, host) => (call channel command args (.answered outcome), host)
    | (none, host) => (call channel command args .waiting, host)
  | listen channel event args (.passing stream sent) => fun host =>
    match streams.take stream host with
    | ((values, true), host) =>
      (listen channel event args (.ended (sent ++ values)), (streams.drop stream host).2)
    | ((values, false), host) => (listen channel event args (.passing stream (sent ++ values)), host)
  | other => pure other

/-- A call that was waited for has an outcome. -/
def settle (outcome : Outcome Json) : Errand τ → StateM σ (Errand τ)
  | call channel command args .waiting => pure (call channel command args (.answered outcome))
  | other => pure other

/-- The client does not want to hear more. -/
def dispose : Errand τ → StateM σ (Errand τ)
  | call channel command args .noted | call channel command args .waiting =>
    pure (call channel command args .forgone)
  | listen channel event args (.passing stream sent) => fun host =>
    (listen channel event args (.forgone sent), (streams.drop stream host).2)
  | other => pure other

/-- If there is no such channel, the client is told so and nothing else. -/
def Told : Errand τ → Prop
  | call channel _ _ stage => (∀ c, (channel, c) ∉ registry) →
      stage = .noted ∨ stage = .answered (.error (.unknownChannel channel)) ∨ stage = .forgone
  | listen channel _ _ stage => (∀ c, (channel, c) ∉ registry) →
      stage = .refused (.unknownChannel channel)

variable {registry} {a : Errand τ}

theorem Told.turn (htold : a.Told registry) (host : σ) :
    (turn registry streams ctx a host).1.Told registry := by
  rcases a with ⟨channel, command, args, _ | _ | _ | _⟩ | ⟨channel, event, args, _ | _ | _ | _⟩
  case call.noted =>
    simp only [Errand.turn]
    rcases hreply : reply registry ctx channel command args host with ⟨_ | outcome, host'⟩
    all_goals
      intro hunknown
      rw [reply, Registry.find_of_not_mem hunknown] at hreply
      cases hreply
    exact .inr (.inl rfl)
  case listen.passing stream sent =>
    simp only [Errand.turn]
    split
    · exact fun hunknown => by cases htold hunknown
    · exact fun hunknown => by cases htold hunknown
  all_goals exact htold

theorem Told.settle (htold : a.Told registry) (outcome : Outcome Json) (host : σ) :
    (settle outcome a host).1.Told registry := by
  rcases a with ⟨channel, command, args, _ | _ | _ | _⟩ | _
  case call.waiting => exact fun hunknown => by rcases htold hunknown with h | h | h <;> cases h
  all_goals exact htold

theorem Told.dispose (htold : a.Told registry) (host : σ) : (dispose streams a host).1.Told registry := by
  rcases a with ⟨channel, command, args, _ | _ | _ | _⟩ | ⟨channel, event, args, _ | _ | _ | _⟩
  case call.noted | call.waiting => exact fun _ => .inr (.inr rfl)
  case listen.passing stream sent => exact fun hunknown => by cases htold hunknown
  all_goals exact htold

theorem work?_dispose (a : Errand τ) (host : σ) : (dispose streams a host).1.work? = none := by
  rcases a with ⟨channel, command, args, _ | _ | _ | _⟩ | ⟨channel, event, args, _ | _ | _ | _⟩ <;> rfl

theorem replies_dispose (a : Errand τ) (host : σ) (id : UInt32) :
    (dispose streams a host).1.replies id = a.replies id := by
  rcases a with ⟨channel, command, args, _ | _ | _ | _⟩ | ⟨channel, event, args, _ | _ | _ | _⟩ <;> rfl

/-- Nothing but the stream of a request is given up with it. -/
theorem host_dispose {work : Work τ} (hwork : a.work? = some work) (host : σ) :
    (dispose streams a host).2 = (work.stream?.toList.forM streams.drop host).2 := by
  rcases a with ⟨channel, command, args, _ | _ | _ | _⟩ | ⟨channel, event, args, _ | _ | _ | _⟩
  all_goals cases hwork
  all_goals rfl

end Errand

/-- A request with the number of its task and the number that the client chose.  A subscription that fails
has no task; it has the number that the next task will have. -/
structure Entry (τ : Type) where
  serial : Nat
  id : UInt32
  errand : Errand τ

namespace Entry

def underWay (e : Entry τ) : Bool := e.errand.work?.isSome

/-- The task of a request. -/
def task? (e : Entry τ) : Option (RequestTask τ) := e.errand.work?.map fun work => ⟨e.serial, e.id, work⟩

def replies (e : Entry τ) : List ChannelResponse := e.errand.replies e.id

/-- The request under way that a task is for has come to something. -/
def amend (serial : Nat) (errand : Errand τ) (e : Entry τ) : Entry τ :=
  if e.underWay && e.serial == serial then { e with errand } else e

variable {serial : Nat} {errand : Errand τ} {e : Entry τ}

@[simp] theorem serial_amend : (e.amend serial errand).serial = e.serial := by
  simp only [amend]
  split <;> rfl

@[simp] theorem id_amend : (e.amend serial errand).id = e.id := by
  simp only [amend]
  split <;> rfl

theorem underWay_of_amend (h : (e.amend serial errand).underWay = true) : e.underWay = true := by
  simp only [amend] at h
  split at h
  · next hcond => exact (Bool.and_eq_true_iff.1 hcond).1
  · exact h

theorem amend_of_done (h : e.underWay = false) : e.amend serial errand = e := by
  simp [amend, h]

theorem amend_of_other (h : e.underWay = true → e.serial ≠ serial) : e.amend serial errand = e := by
  refine if_neg fun hcond => ?_
  rw [Bool.and_eq_true, beq_iff_eq] at hcond
  exact h hcond.1 hcond.2

theorem map_amend_eq_self {es : List (Entry τ)} (hsame : ∀ e ∈ es, e.amend serial errand = e) :
    es.map (amend serial errand) = es :=
  (List.map_congr_left hsame).trans (List.map_id' es)

end Entry

/-- All requests there have been, oldest first, and what the channels work on. -/
structure Ledger (σ τ : Type) where
  host : σ
  next : Nat := 0
  entries : List (Entry τ) := []

namespace Ledger

/-- What the client has been told under a number. -/
def replies (l : Ledger σ τ) (id : UInt32) : List ChannelResponse :=
  (l.entries.filter (·.id == id)).flatMap Entry.replies

/-- The tasks that there should be. -/
def tasks (l : Ledger σ τ) : List (RequestTask τ) := l.entries.filterMap Entry.task?

/-- Nothing is under way under a number. -/
def Done (l : Ledger σ τ) (id : UInt32) : Prop := ∀ e ∈ l.entries, e.id = id → e.underWay = false

instance (l : Ledger σ τ) (id : UInt32) : Decidable (l.Done id) :=
  inferInstanceAs (Decidable (∀ e ∈ l.entries, e.id = id → e.underWay = false))

/-- Something happens to a request under way, if there is such a request. -/
def advance (l : Ledger σ τ) (which : Entry τ → Bool) (act : Errand τ → StateM σ (Errand τ)) : Ledger σ τ :=
  match l.entries.find? fun e => e.underWay && which e with
  | none => l
  | some e =>
    let (errand, host) := act e.errand l.host
    { l with
      host
      entries := l.entries.map (Entry.amend e.serial errand) }

section Steps

variable (registry : Registry (StateM σ) τ) (streams : Streams (StateM σ) τ) (ctx : ChannelContext)

def step (l : Ledger σ τ) : Event σ → Ledger σ τ
  | .asked (.call id channel command args) =>
    { l with
      next := l.next + 1
      entries := l.entries ++ [⟨l.next, id, .call channel command args .noted⟩] }
  | .asked (.listen id channel event args) =>
    match subscription registry ctx channel event args l.host with
    | (.ok stream, host) =>
      { host
        next := l.next + 1
        entries := l.entries ++ [⟨l.next, id, .listen channel event args (.passing stream [])⟩] }
    | (.error fault, host) =>
      { l with
        host
        entries := l.entries ++ [⟨l.next, id, .listen channel event args (.refused fault)⟩] }
  | .asked (.dispose id) => l.advance (·.id == id) (Errand.dispose streams)
  | .turn serial => l.advance (·.serial == serial) (Errand.turn registry streams ctx)
  | .settled serial outcome => l.advance (·.serial == serial) (Errand.settle outcome)
  | .outside change => { l with host := change l.host }
  | .collected => l

def run (l : Ledger σ τ) (events : List (Event σ)) : Ledger σ τ := events.foldl (step registry streams ctx) l

/-- No number is taken for a request while another request with that number is under way. -/
def Apart : Ledger σ τ → List (Event σ) → Prop
  | _, [] => True
  | l, e :: events =>
    (∀ id ∈ e.opens?, l.Done id) ∧ Apart (l.step registry streams ctx e) events

instance decidableOpens (l : Ledger σ τ) : (opens? : Option UInt32) → Decidable (∀ id ∈ opens?, l.Done id)
  | none => .isTrue (by simp)
  | some id => decidable_of_iff (l.Done id) (by simp)

instance decidableApart : (l : Ledger σ τ) → (events : List (Event σ)) →
    Decidable (Apart registry streams ctx l events)
  | _, [] => inferInstanceAs (Decidable True)
  | l, e :: events =>
    @instDecidableAnd _ _ (decidableOpens l e.opens?) (decidableApart (l.step registry streams ctx e) events)

theorem run_append (l : Ledger σ τ) (before later : List (Event σ)) :
    l.run registry streams ctx (before ++ later) =
      (l.run registry streams ctx before).run registry streams ctx later :=
  List.foldl_append

theorem apart_append {l : Ledger σ τ} {before later : List (Event σ)} :
    Apart registry streams ctx l (before ++ later) ↔
      Apart registry streams ctx l before ∧
        Apart registry streams ctx (l.run registry streams ctx before) later := by
  induction before generalizing l with
  | nil => simp [Apart, run]
  | cons e before ih => simp only [List.cons_append, Apart, ih, and_assoc, run, List.foldl_cons]

end Steps

variable {l : Ledger σ τ}

theorem advance_of_find? {which : Entry τ → Bool} {e : Entry τ}
    (hfind : (l.entries.find? fun e => e.underWay && which e) = some e)
    (act : Errand τ → StateM σ (Errand τ)) :
    l.advance which act =
      { l with
        host := (act e.errand l.host).2
        entries := l.entries.map (Entry.amend e.serial (act e.errand l.host).1) } := by
  rw [advance, hfind]
  rfl

/-- Requests under way have tasks of their own, and no later request has the number of one under way. -/
structure Sound (l : Ledger σ τ) : Prop where
  increasing : l.entries.Pairwise fun a b => a.underWay = true → b.underWay = true → a.serial < b.serial
  below : ∀ e ∈ l.entries, e.underWay = true → e.serial < l.next
  apart : l.entries.Pairwise fun a b => a.underWay = true → b.id ≠ a.id

theorem Sound.opens (hsound : l.Sound) {entry : Entry τ} {host : σ} {next : Nat}
    (hfresh : l.Done entry.id) (hserial : l.next ≤ entry.serial)
    (hnext : l.next ≤ next) (hbelow : entry.underWay = true → entry.serial < next) :
    Sound ⟨host, next, l.entries ++ [entry]⟩ where
  increasing := by
    refine pairwise_concat_iff.2 ⟨hsound.increasing, fun o ho hunder _ => ?_⟩
    exact Nat.lt_of_lt_of_le (hsound.below o ho hunder) hserial
  below := by
    intro o ho hunder
    rcases List.mem_append.1 ho with ho | ho
    · exact Nat.lt_of_lt_of_le (hsound.below o ho hunder) hnext
    · rw [List.mem_singleton.1 ho] at hunder ⊢
      exact hbelow hunder
  apart := by
    refine pairwise_concat_iff.2 ⟨hsound.apart, fun o ho hunder heq => ?_⟩
    rw [hfresh o ho heq.symm] at hunder
    cases hunder

theorem Sound.advance (hsound : l.Sound) (which : Entry τ → Bool) (act : Errand τ → StateM σ (Errand τ)) :
    (l.advance which act).Sound := by
  cases hfind : l.entries.find? fun e => e.underWay && which e with
  | none => rwa [Ledger.advance, hfind]
  | some e =>
      rw [advance_of_find? hfind]
      refine ⟨?_, ?_, ?_⟩
      · refine List.pairwise_map.2 (hsound.increasing.imp fun hlt ha hb => ?_)
        rw [Entry.serial_amend, Entry.serial_amend]
        exact hlt (Entry.underWay_of_amend ha) (Entry.underWay_of_amend hb)
      · intro o ho hunder
        obtain ⟨old, hold, rfl⟩ := List.mem_map.1 ho
        rw [Entry.serial_amend]
        exact hsound.below old hold (Entry.underWay_of_amend hunder)
      · refine List.pairwise_map.2 (hsound.apart.imp fun hne ha => ?_)
        rw [Entry.id_amend, Entry.id_amend]
        exact hne (Entry.underWay_of_amend ha)

/-- A request under way, with those before it and those after it. -/
structure Site (l : Ledger σ τ) (before : List (Entry τ)) (e : Entry τ) (after : List (Entry τ)) : Prop where
  entries : l.entries = before ++ e :: after
  underWay : e.underWay = true
  serials : ∀ o ∈ before ++ after, o.underWay = true → o.serial ≠ e.serial
  ids : ∀ o ∈ before ++ after, o.underWay = true → o.id ≠ e.id
  later : ∀ o ∈ after, o.id ≠ e.id

theorem Sound.site (hsound : l.Sound) {before after : List (Entry τ)} {e : Entry τ}
    (hentries : l.entries = before ++ e :: after) (hunder : e.underWay = true) : l.Site before e after := by
  obtain ⟨-, hcons, hbefore⟩ := List.pairwise_append.1 (hentries ▸ hsound.increasing)
  obtain ⟨-, hapart, hearlier⟩ := List.pairwise_append.1 (hentries ▸ hsound.apart)
  have hafter := (List.pairwise_cons.1 hcons).1
  have hlater : ∀ o ∈ after, o.id ≠ e.id := fun o ho => (List.pairwise_cons.1 hapart).1 o ho hunder
  refine ⟨hentries, hunder, fun o ho hout => ?_, fun o ho hout => ?_, hlater⟩
  · rcases List.mem_append.1 ho with ho | ho
    · exact Nat.ne_of_lt (hbefore o ho e (List.mem_cons_self ..) hout hunder)
    · exact Nat.ne_of_gt (hafter o ho hunder hout)
  · rcases List.mem_append.1 ho with ho | ho
    · exact (hearlier o ho e (List.mem_cons_self ..) hout).symm
    · exact hlater o ho

/-- What happens to a request under way happens in its place. -/
theorem Sound.advance_eq (hsound : l.Sound) (which : Entry τ → Bool)
    (act : Errand τ → StateM σ (Errand τ)) :
    ((∀ e ∈ l.entries, e.underWay = true → which e = false) ∧ l.advance which act = l) ∨
      ∃ before e after, l.Site before e after ∧ which e = true ∧
        l.advance which act =
          { l with
            host := (act e.errand l.host).2
            entries := before ++ { e with errand := (act e.errand l.host).1 } :: after } := by
  cases hfind : l.entries.find? fun e => e.underWay && which e with
  | none =>
      refine .inl ⟨fun e he hunder => ?_, by rw [Ledger.advance, hfind]⟩
      simpa [hunder] using List.find?_eq_none.1 hfind e he
  | some e =>
      obtain ⟨hcond, before, after, hentries, -⟩ := List.find?_eq_some_iff_append.1 hfind
      obtain ⟨hunder, hwhich⟩ := Bool.and_eq_true_iff.1 hcond
      have hsite := hsound.site hentries hunder
      refine .inr ⟨before, e, after, hsite, hwhich, ?_⟩
      have hothers : ∀ os ⊆ before ++ after, ∀ errand, os.map (Entry.amend e.serial errand) = os :=
        fun os hos errand => Entry.map_amend_eq_self fun o ho =>
          Entry.amend_of_other (hsite.serials o (hos ho))
      have hself : ∀ errand, e.amend e.serial errand = { e with errand } := by
        intro errand
        simp [Entry.amend, hunder]
      rw [advance_of_find? hfind, hentries, List.map_append, List.map_cons, hself,
        hothers before (List.subset_append_left ..), hothers after (List.subset_append_right ..)]

/-- What is said for a request under way is said last under its number. -/
theorem Site.replies_set {before after : List (Entry τ)} {e : Entry τ} (hsite : l.Site before e after)
    {errand : Errand τ} {new : List ChannelResponse}
    (hnew : errand.replies e.id = e.errand.replies e.id ++ new) (host : σ) (next : Nat) (id : UInt32) :
    replies ⟨host, next, before ++ { e with errand } :: after⟩ id =
      l.replies id ++ new.filter (·.id == id) := by
  have hid : ∀ r ∈ new, r.id = e.id := fun r hr =>
    Errand.id_of_mem_replies (hnew ▸ List.mem_append_right _ hr)
  rw [Errand.filter_responses hid]
  by_cases heq : e.id = id
  · -- no later request has the number
    have hafter : after.filter (·.id == id) = [] := by
      rw [List.filter_eq_nil_iff]
      intro o ho
      simpa [← heq] using hsite.later o ho
    simpa [replies, hsite.entries, hafter, heq, Entry.replies] using heq ▸ hnew
  · simp [replies, hsite.entries, heq]

section Runs

variable (registry : Registry (StateM σ) τ) (streams : Streams (StateM σ) τ) (ctx : ChannelContext)

theorem Sound.step (hsound : l.Sound) {e : Event σ}
    (hapart : ∀ id ∈ e.opens?, l.Done id) : (l.step registry streams ctx e).Sound := by
  cases e with
  | asked r =>
      cases r with
      | call id channel command args =>
          exact hsound.opens (hapart id rfl) (Nat.le_refl _) (Nat.le_succ _) fun _ => Nat.lt_succ_self _
      | listen id channel event args =>
          simp only [Ledger.step]
          rcases subscription registry ctx channel event args l.host with ⟨fault | stream, host⟩
          · exact hsound.opens (hapart id rfl) (Nat.le_refl _) (Nat.le_refl _) fun h => by cases h
          · exact hsound.opens (hapart id rfl) (Nat.le_refl _) (Nat.le_succ _) fun _ => Nat.lt_succ_self _
      | dispose id => exact hsound.advance (·.id == id) (Errand.dispose streams)
  | turn serial => exact hsound.advance (·.serial == serial) (Errand.turn registry streams ctx)
  | settled serial outcome => exact hsound.advance (·.serial == serial) (Errand.settle outcome)
  | outside change => exact ⟨hsound.increasing, hsound.below, hsound.apart⟩
  | collected => exact hsound

theorem Sound.run (hsound : l.Sound) {events : List (Event σ)}
    (hapart : Apart registry streams ctx l events) : (l.run registry streams ctx events).Sound := by
  induction events generalizing l with
  | nil => exact hsound
  | cons e events ih => exact ih (hsound.step registry streams ctx hapart.1) hapart.2

theorem sound_empty (host : σ) : Sound (τ := τ) { host } where
  increasing := List.Pairwise.nil
  below := by simp
  apart := List.Pairwise.nil

/-- What happens to other requests leaves the requests with a number as they are. -/
theorem Done.filter_advance {id : UInt32} (hdone : l.Done id) (which : Entry τ → Bool)
    (act : Errand τ → StateM σ (Errand τ)) :
    (l.advance which act).entries.filter (·.id == id) = l.entries.filter (·.id == id) := by
  cases hfind : l.entries.find? fun e => e.underWay && which e with
  | none => rw [advance, hfind]
  | some e =>
      rw [advance_of_find? hfind]
      have hsame : (fun o : Entry τ => o.id == id) ∘ Entry.amend e.serial (act e.errand l.host).1 =
          fun o => o.id == id := by
        funext o
        rw [Function.comp_apply, Entry.id_amend]
      rw [List.filter_map, hsame]
      refine Entry.map_amend_eq_self fun o ho => ?_
      obtain ⟨hmem, hid⟩ := List.mem_filter.1 ho
      exact Entry.amend_of_done (hdone o hmem (beq_iff_eq.1 hid))

theorem Done.filter_step {id : UInt32} (hdone : l.Done id) {e : Event σ} (hopens : e.opens? ≠ some id) :
    (l.step registry streams ctx e).entries.filter (·.id == id) = l.entries.filter (·.id == id) := by
  have hother : ∀ {other : UInt32} {serial : Nat} {errand : Errand τ}, some other ≠ some id →
      (l.entries ++ [(⟨serial, other, errand⟩ : Entry τ)]).filter (·.id == id) =
        l.entries.filter (·.id == id) := by
    intro other serial errand hne
    have hne' : other ≠ id := fun h => hne (congrArg some h)
    simp [hne']
  cases e with
  | asked r =>
      cases r with
      | call other channel command args => exact hother hopens
      | listen other channel event args =>
          simp only [step]
          rcases subscription registry ctx channel event args l.host with ⟨fault | stream, host⟩
          · exact hother hopens
          · exact hother hopens
      | dispose other => exact hdone.filter_advance (·.id == other) (Errand.dispose streams)
  | turn serial => exact hdone.filter_advance (·.serial == serial) (Errand.turn registry streams ctx)
  | settled serial outcome => exact hdone.filter_advance (·.serial == serial) (Errand.settle outcome)
  | outside change | collected => rfl

theorem Done.replies_run {id : UInt32} (hdone : l.Done id) {events : List (Event σ)}
    (hopens : ∀ e ∈ events, e.opens? ≠ some id) :
    (l.run registry streams ctx events).replies id = l.replies id := by
  induction events generalizing l with
  | nil => rfl
  | cons e events ih =>
      have hsame := hdone.filter_step registry streams ctx (hopens e (List.mem_cons_self ..))
      have hstill : (l.step registry streams ctx e).Done id := by
        intro o ho hid
        have hmem : o ∈ l.entries.filter (·.id == id) := hsame ▸ List.mem_filter.2 ⟨ho, by simpa using hid⟩
        exact hdone o (List.mem_filter.1 hmem).1 hid
      have hrest := ih hstill fun e he => hopens e (List.mem_cons_of_mem _ he)
      calc
        (l.run registry streams ctx (e :: events)).replies id = (l.step registry streams ctx e).replies id :=
          hrest
        _ = l.replies id := by rw [replies, hsame, ← replies]

theorem Sound.done_dispose (hsound : l.Sound) (id : UInt32) :
    (l.step registry streams ctx (.asked (.dispose id))).Done id := by
  simp only [Ledger.step]
  rcases hsound.advance_eq (·.id == id) (Errand.dispose streams) with
    ⟨hnone, heq⟩ | ⟨before, e, after, hsite, hwhich, heq⟩
  · rw [heq]
    intro o ho hid
    by_contra hunder
    simpa [hid] using hnone o ho (by simpa using hunder)
  · have hothers : ∀ o ∈ before ++ after, o.id = id → o.underWay = false := by
      intro o ho hid
      by_contra hunder
      exact hsite.ids o ho (by simpa using hunder) (hid.trans (beq_iff_eq.1 hwhich).symm)
    rw [heq]
    intro o ho hid
    rcases List.mem_append.1 ho with ho | ho
    · exact hothers o (List.mem_append_left _ ho) hid
    · rcases List.mem_cons.1 ho with rfl | ho
      · simp [Entry.underWay, Errand.work?_dispose]
      · exact hothers o (List.mem_append_right _ ho) hid

theorem Sound.replies_dispose (hsound : l.Sound) (id other : UInt32) :
    (l.step registry streams ctx (.asked (.dispose id))).replies other = l.replies other := by
  simp only [Ledger.step]
  rcases hsound.advance_eq (·.id == id) (Errand.dispose streams) with
    ⟨-, heq⟩ | ⟨before, e, after, hsite, -, heq⟩
  · rw [heq]
  · have hnew := (Errand.replies_dispose streams e.errand l.host e.id).trans (List.append_nil _).symm
    rw [heq, hsite.replies_set hnew]
    simp

/-- After a request is disposed of, nothing more is said under its number until the number is taken again. -/
theorem Sound.replies_run_dispose (hsound : l.Sound) {id : UInt32} {later : List (Event σ)}
    (hopens : ∀ e ∈ later, e.opens? ≠ some id) :
    (l.run registry streams ctx (.asked (.dispose id) :: later)).replies id = l.replies id :=
  ((hsound.done_dispose registry streams ctx id).replies_run registry streams ctx hopens).trans
    (hsound.replies_dispose registry streams ctx id id)

theorem forall_advance {P : Errand τ → Prop} (hall : ∀ e ∈ l.entries, P e.errand) (which : Entry τ → Bool)
    {act : Errand τ → StateM σ (Errand τ)} (hact : ∀ a host, P a → P (act a host).1) :
    ∀ e ∈ (l.advance which act).entries, P e.errand := by
  cases hfind : l.entries.find? fun e => e.underWay && which e with
  | none => rwa [advance, hfind]
  | some e =>
      rw [advance_of_find? hfind]
      intro o ho
      obtain ⟨old, hold, rfl⟩ := List.mem_map.1 ho
      simp only [Entry.amend]
      split
      · exact hact _ _ (hall e (List.mem_of_find?_eq_some hfind))
      · exact hall old hold

/-- All that is ever said of a channel that is not there is that it is not there. -/
theorem told_step (htold : ∀ e ∈ l.entries, e.errand.Told registry) (e : Event σ) :
    ∀ entry ∈ (l.step registry streams ctx e).entries, entry.errand.Told registry := by
  have hopened : ∀ {entry : Entry τ}, entry.errand.Told registry →
      ∀ o ∈ l.entries ++ [entry], o.errand.Told registry := by
    intro entry hentry o ho
    rcases List.mem_append.1 ho with ho | ho
    · exact htold o ho
    · exact List.mem_singleton.1 ho ▸ hentry
  cases e with
  | asked r =>
      cases r with
      | call id channel command args => exact hopened fun _ => .inl rfl
      | listen id channel event args =>
          simp only [step]
          rcases hmade : subscription registry ctx channel event args l.host with ⟨fault | stream, host⟩
          all_goals
            refine hopened fun hunknown => ?_
            rw [subscription, Registry.find_of_not_mem hunknown] at hmade
            cases hmade
          rfl
      | dispose id => exact forall_advance htold (·.id == id) fun _ host h => h.dispose streams host
  | turn serial => exact forall_advance htold (·.serial == serial) fun _ host h => h.turn streams ctx host
  | settled serial outcome =>
      exact forall_advance htold (·.serial == serial) fun _ host h => h.settle outcome host
  | outside change | collected => exact htold

theorem told_run (htold : ∀ e ∈ l.entries, e.errand.Told registry) (events : List (Event σ)) :
    ∀ entry ∈ (l.run registry streams ctx events).entries, entry.errand.Told registry := by
  induction events generalizing l with
  | nil => exact htold
  | cons e events ih => exact ih (told_step registry streams ctx htold e)

end Runs

end Ledger

end Multiplexer
end Workbench

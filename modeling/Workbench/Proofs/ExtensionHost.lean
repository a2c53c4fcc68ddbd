import Workbench.ExtensionHost
import Workbench.Proofs.File.Reading

/-!
What waits for the input of a process that hosts extensions.  The session takes payloads, and a writer puts the
octets of the first that waits into the process, now more of them and now fewer, until the payload is written or
cannot be.  However the two take turns and wherever a write fails, as long as payloads are taken just those are
counted that are not done with; and what comes to the process is the beginning of what was delivered.
-/

namespace Workbench.ExtensionHost

/-- What can happen, in any order. -/
inductive Event where
  /-- The session delivers a payload of the client. -/
  | take (payload : Payload)
  /-- The writer gets so many octets across. -/
  | put (count : Nat)
  | finishWrite
  | failWrite
  | abandon
  /-- The process reads, says something or ends. -/
  | live (process : Process)
  | shut

def step (h : ExtensionHost) : Event → ExtensionHost
  | .take payload => h.take payload
  | .put count => h.put count
  | .finishWrite => h.finishWrite
  | .failWrite => h.failWrite
  | .abandon => h.abandon
  | .live process => { h with process }
  | .shut => h.shut

/-- A process starts with nothing queued. -/
theorem fresh_of_spawn {disk : Disk} {env : Vars} {dir language : String} {config : ExtensionHostConfig} {args : Json}
    {h : ExtensionHost} (hspawn : spawn disk env dir config language args = .ok h) : h = { process := h.process } := by
  have hstarted : ∀ started : Except Errno Process,
      (started.map fun process => ({ process } : ExtensionHost)).mapError Errno.toFault = .ok h →
        h = { process := h.process } := by
    intro started hok
    cases started with
    | error e => cases hok
    | ok process =>
        cases hok
        rfl
  unfold spawn at hspawn
  split at hspawn
  · cases hspawn
  · exact hstarted _ hspawn

section Turns

variable (h : ExtensionHost) (disk : Disk)

/-- What the writer does when it has its turn are some of these steps. -/
theorem exists_steps_write : ∃ events : List Event, h.write = events.foldl step h := by
  unfold write
  split
  · exact ⟨[.abandon], rfl⟩
  · split
    · exact ⟨[.failWrite, .abandon], rfl⟩
    · exact ⟨[.put (pipeRoom - h.process.input.length), .finishWrite], rfl⟩

theorem exists_steps_settle (fuel : Nat) : ∃ events : List Event, h.settle disk fuel = events.foldl step h := by
  induction fuel generalizing h with
  | zero => exact ⟨[.live (h.run disk).process], rfl⟩
  | succ fuel ih =>
      obtain ⟨writes, hwrites⟩ := exists_steps_write (h.run disk)
      have hturn : (h.run disk).write = (.live (h.run disk).process :: writes).foldl step h := hwrites
      obtain ⟨more, hmore⟩ := ih (h.run disk).write
      simp only [settle]
      split
      · refine ⟨.live (h.run disk).process :: writes ++ [.live ((h.run disk).write.run disk).process], ?_⟩
        rw [List.foldl_append, ← hturn]
        rfl
      · exact ⟨.live (h.run disk).process :: writes ++ more, by rw [List.foldl_append, ← hturn, hmore]⟩

/-- So is everything up to the moment when what the process has said is taken. -/
theorem exists_steps_takeOutput : ∃ events : List Event, (h.takeOutput disk).2.2 = events.foldl step h := by
  obtain ⟨events, hevents⟩ := exists_steps_settle h disk maxTurns
  refine ⟨events ++ [.live (h.settle disk maxTurns).process.takeOutput.2], ?_⟩
  rw [List.foldl_append, ← hevents]
  rfl

end Turns

/-- The octets of payloads, one payload after the other. -/
def octets (payloads : List ByteArray) : Bytes := payloads.flatMap Blob.toBytes

theorem octets_append (front back : List ByteArray) : octets (front ++ back) = octets front ++ octets back :=
  List.flatMap_append

theorem octets_singleton (data : ByteArray) : octets [data] = Blob.toBytes data := List.flatMap_singleton ..

theorem length_octets_cons (first : ByteArray) (rest : List ByteArray) :
    (octets (first :: rest)).length = first.size + (octets rest).length := by
  rw [octets, List.flatMap_cons, List.length_append]
  rfl

theorem octets_mono {front back : List ByteArray} (h : front <+: back) : octets front <+: octets back := by
  obtain ⟨more, rfl⟩ := h
  rw [octets_append]
  exact List.prefix_append ..

/-- What the session and the writer have done, as each of them knows it: how much the host counts and what stands in
its queue is not looked at. -/
structure Ledger where
  /-- The data that the session has delivered. -/
  delivered : List ByteArray := []
  /-- Payloads that have come to the writer and whose writing has ended, well or not. -/
  done : List ByteArray := []
  /-- Payloads that have come to the writer and whose writing has not ended. -/
  pending : List ByteArray := []
  /-- How many octets of the first of those are across. -/
  across : Nat := 0
  /-- The session still takes payloads. -/
  taking : Bool := true
  /-- A payload could not be written. -/
  failed : Bool := false
  /-- The writer has left. -/
  left : Bool := false

namespace Ledger

/-- Payloads that have come to the writer. -/
def handed (l : Ledger) : List ByteArray := l.done ++ l.pending

/-- Octets of payloads whose writing has not ended. -/
def backlog (l : Ledger) : Nat := (octets l.pending).length

/-- What has come across since the last payload was written. -/
def begun (l : Ledger) : Bytes := (octets (l.pending.take 1)).take l.across

/-- The session has delivered too much at a time. -/
def Overflows (l : Ledger) (data : ByteArray) : Prop := l.taking = true ∧ maxQueued < l.backlog + data.size

/-- Data is delivered.  It comes to the writer unless it is too much, or nobody is there to take it. -/
def deliver (l : Ledger) (data : ByteArray) : Ledger :=
  let l := { l with delivered := l.delivered ++ [data] }
  if !l.taking then l
  else if maxQueued < l.backlog + data.size ∨ l.left then { l with taking := false }
  else { l with pending := l.pending ++ [data] }

/-- The writing of the first payload has ended. -/
def endWrite (l : Ledger) (failed : Bool) : Ledger :=
  match l.pending with
  | first :: rest => { l with done := l.done ++ [first], pending := rest, across := 0, failed }
  | [] => l

def step (l : Ledger) : Event → Ledger
  | .take (.data data) => l.deliver data
  | .take _ => l
  | .put count =>
    match l.pending with
    | first :: _ => if l.failed then l else { l with across := min first.size (l.across + count) }
    | [] => l
  | .finishWrite =>
    -- a payload is written once all of it is across
    if l.failed || l.pending.head?.map ByteArray.size ≠ some l.across then l else l.endWrite false
  | .failWrite => if l.failed then l else l.endWrite true
  | .abandon => if l.failed || l.pending.isEmpty && !l.taking then { l with left := true } else l
  | .live _ => l
  | .shut => { l with taking := false }

end Ledger

/-- A host with the ledger of what has been done, and what has come to the process. -/
structure Record where
  host : ExtensionHost
  ledger : Ledger := {}
  /-- Octets that have come to the process. -/
  reached : Bytes := []

namespace Record

def step (r : Record) (e : Event) : Record :=
  let host := r.host.step e
  { host
    ledger := r.ledger.step e
    reached := r.reached ++ match e with
      | .put _ => host.process.input.drop r.host.process.input.length
      | _ => [] }

theorem host_foldl (r : Record) (events : List Event) :
    (events.foldl Record.step r).host = events.foldl ExtensionHost.step r.host := by
  induction events generalizing r with
  | nil => rfl
  | cons e events ih => exact ih (r.step e)

end Record

namespace Ledger

/-- What a ledger keeps up by itself. -/
structure Sound (l : Ledger) : Prop where
  /-- As long as payloads are taken, all of them come to the writer. -/
  taken : l.taking = true → l.handed = l.delivered
  kept : l.handed <+: l.delivered
  bounded : l.taking = true → l.backlog ≤ maxQueued
  across_le : l.across ≤ (octets (l.pending.take 1)).length
  across_of_failed : l.failed = true → l.across = 0
  /-- The writer leaves after a failure, or when nothing is left and nothing will come. -/
  of_left : l.left = true → l.failed = true ∨ l.pending = [] ∧ l.taking = false

variable {l : Ledger}

/-- Everything that delivering data can do to a ledger. -/
theorem deliver_cases (l : Ledger) (data : ByteArray) :
    (l.taking = false ∧ l.deliver data = { l with delivered := l.delivered ++ [data] }) ∨
    (l.taking = true ∧ (maxQueued < l.backlog + data.size ∨ l.left = true) ∧
      l.deliver data = { l with delivered := l.delivered ++ [data], taking := false }) ∨
    (l.taking = true ∧ l.backlog + data.size ≤ maxQueued ∧ l.left = false ∧
      l.deliver data = { l with
        delivered := l.delivered ++ [data]
        pending := l.pending ++ [data] }) := by
  cases htaking : l.taking with
  | false => exact Or.inl ⟨rfl, by simp [deliver, htaking]⟩
  | true =>
      refine Or.inr ?_
      by_cases hmuch : maxQueued < l.backlog + data.size ∨ l.left = true
      · refine Or.inl ⟨rfl, hmuch, ?_⟩
        simp only [deliver, htaking, Bool.not_true, Bool.false_eq_true, if_false]
        exact if_pos hmuch
      · obtain ⟨hroom, hthere⟩ := not_or.1 hmuch
        refine Or.inr ⟨rfl, Nat.not_lt.1 hroom, Bool.eq_false_iff.2 hthere, ?_⟩
        simp only [deliver, htaking, Bool.not_true, Bool.false_eq_true, if_false]
        exact if_neg hmuch

theorem endWrite_of_pending {first : ByteArray} {rest : List ByteArray} (hpending : l.pending = first :: rest)
    (failed : Bool) :
    l.endWrite failed = { l with done := l.done ++ [first], pending := rest, across := 0, failed } := by
  simp [endWrite, hpending]

/-- Whatever ends the writing of a payload, the payloads that have come to the writer are the same ones. -/
theorem handed_endWrite (l : Ledger) (failed : Bool) : (l.endWrite failed).handed = l.handed := by
  unfold endWrite
  split
  · next first rest hpending => simp [handed, hpending]
  · rfl

theorem taking_endWrite (l : Ledger) (failed : Bool) : (l.endWrite failed).taking = l.taking := by
  unfold endWrite
  split <;> rfl

/-- A session that takes nothing takes nothing again, and nothing more comes to the writer. -/
theorem step_of_refusing (hrefusing : l.taking = false) (e : Event) :
    (l.step e).taking = false ∧ (l.step e).handed = l.handed := by
  have hsame : l.taking = false ∧ l.handed = l.handed := ⟨hrefusing, rfl⟩
  cases e with
  | take payload =>
      cases payload with
      | data data => simp [step, deliver, hrefusing, handed]
      | request _ | response _ => exact hsame
  | put count =>
      simp only [step]
      split
      · split <;> exact hsame
      · exact hsame
  | finishWrite | failWrite =>
      simp only [step]
      split
      · exact hsame
      · exact ⟨(l.taking_endWrite _).trans hrefusing, l.handed_endWrite _⟩
  | abandon =>
      simp only [step]
      split <;> exact hsame
  | live _ => exact hsame
  | shut => exact ⟨rfl, rfl⟩

namespace Sound

theorem start : Sound {} where
  taken _ := rfl
  kept := List.prefix_rfl
  bounded _ := Nat.zero_le _
  across_le := Nat.le_refl 0
  across_of_failed := nofun
  of_left := nofun

theorem across_of_nil (h : l.Sound) (hpending : l.pending = []) : l.across = 0 := by
  have hacross := h.across_le
  rw [hpending] at hacross
  exact Nat.le_zero.1 hacross

theorem deliver (h : l.Sound) (data : ByteArray) : (l.deliver data).Sound := by
  have hkept : l.handed <+: l.delivered ++ [data] := h.kept.trans (List.prefix_append ..)
  obtain ⟨htaking, heq⟩ | ⟨-, -, heq⟩ | ⟨htaking, hroom, hthere, heq⟩ := l.deliver_cases data <;> rw [heq]
  · exact { h with
      taken := fun hon => by simp [htaking] at hon
      kept := hkept }
  · exact { h with
      taken := nofun
      kept := hkept
      bounded := nofun
      of_left := fun hleft => (h.of_left hleft).imp_right fun hover => ⟨hover.1, rfl⟩ }
  · have hall : l.done ++ (l.pending ++ [data]) = l.delivered ++ [data] := by
      rw [← List.append_assoc, ← h.taken htaking]
      rfl
    exact
      { taken := fun _ => hall
        kept := hall ▸ List.prefix_rfl
        bounded := fun _ => by
          change (octets (l.pending ++ [data])).length ≤ maxQueued
          rw [octets_append, octets_singleton, List.length_append]
          exact hroom
        across_le := by
          cases hpending : l.pending with
          | nil => exact Nat.le_trans (Nat.le_of_eq (h.across_of_nil hpending)) (Nat.zero_le _)
          | cons first rest => simpa [hpending] using h.across_le
        across_of_failed := h.across_of_failed
        of_left := fun hleft => by simp [hthere] at hleft }

theorem endWrite (h : l.Sound) (failed : Bool) (hfailed : l.failed = false) : (l.endWrite failed).Sound := by
  cases hpending : l.pending with
  | nil => simpa [Ledger.endWrite, hpending] using h
  | cons first rest =>
      have hhanded := l.handed_endWrite failed
      have hbacklog : l.backlog = first.size + (octets rest).length := by
        rw [backlog, hpending, length_octets_cons]
      rw [endWrite_of_pending hpending] at hhanded ⊢
      exact
        { taken := fun htaking => hhanded.trans (h.taken htaking)
          kept := hhanded.symm ▸ h.kept
          bounded := fun htaking =>
            Nat.le_trans (Nat.le_add_left _ first.size) (hbacklog ▸ h.bounded htaking)
          across_le := Nat.zero_le _
          across_of_failed := fun _ => rfl
          of_left := fun hleft => by
            obtain hwas | ⟨hnil, -⟩ := h.of_left hleft
            · simp [hfailed] at hwas
            · simp [hpending] at hnil }

theorem step (h : l.Sound) (e : Event) : (l.step e).Sound := by
  cases e with
  | take payload =>
      cases payload with
      | data data => exact h.deliver data
      | request _ | response _ => exact h
  | put count =>
      simp only [Ledger.step]
      split
      · next first rest hpending =>
        split
        · exact h
        · next hfailed =>
          exact { h with
            across_le := by
              rw [hpending, List.take_succ_cons, List.take_zero, length_octets_cons]
              exact Nat.le_trans (Nat.min_le_left ..) (Nat.le_add_right ..)
            across_of_failed := fun hwhole => absurd hwhole hfailed }
      · exact h
  | finishWrite =>
      simp only [Ledger.step]
      split
      · exact h
      · next hcan => exact h.endWrite false (by simp_all)
  | failWrite =>
      simp only [Ledger.step]
      split
      · exact h
      · next hfailed => exact h.endWrite true (Bool.eq_false_iff.2 hfailed)
  | abandon =>
      simp only [Ledger.step]
      split
      · next hleft => exact { h with of_left := fun _ => by simpa using hleft }
      · exact h
  | live _ => exact h
  | shut =>
      exact { h with
        taken := nofun
        bounded := nofun
        of_left := fun hleft => (h.of_left hleft).imp_right fun hover => ⟨hover.1, rfl⟩ }

end Sound
end Ledger

/-- A host is where its ledger says.  What it counts is right as long as payloads are taken, and never too little. -/
structure Follows (h : ExtensionHost) (l : Ledger) : Prop where
  accepting : h.accepting = l.taking
  failed : h.failed = l.failed
  abandoned : h.abandoned = l.left
  written : h.written = l.across
  waiting : h.waiting = if l.left then [] else l.pending
  counted : l.taking = true → h.queued = l.backlog
  covered : l.backlog ≤ h.queued

namespace Follows

variable {h : ExtensionHost} {l : Ledger}

theorem start (process : Process) : Follows { process } {} :=
  ⟨rfl, rfl, rfl, rfl, rfl, fun _ => rfl, Nat.le_refl 0⟩

/-- As long as no write has failed, the writer has before it what the ledger says is not done with. -/
theorem waiting_eq (hf : h.Follows l) (hl : l.Sound) (hfailed : l.failed = false) : h.waiting = l.pending := by
  rw [hf.waiting]
  split
  · next hleft =>
    obtain hwas | ⟨hnil, -⟩ := hl.of_left hleft
    · simp [hfailed] at hwas
    · exact hnil.symm
  · rfl

theorem deliver (hf : h.Follows l) (data : ByteArray) : (h.deliver data).Follows (l.deliver data) := by
  cases htaking : l.taking with
  | false =>
      have hstays : h.deliver data = h := by simp [ExtensionHost.deliver, hf.accepting, htaking]
      have hledger : l.deliver data = { l with delivered := l.delivered ++ [data] } := by
        simp [Ledger.deliver, htaking]
      rw [hstays, hledger]
      exact { hf with }
  | true =>
      have hcounted := hf.counted htaking
      have hmore : h.queued + data.size = l.backlog + data.size := congrArg (· + data.size) hcounted
      obtain ⟨hnot, -⟩ | ⟨-, hmuch, heq⟩ | ⟨-, hroom, hthere, heq⟩ := l.deliver_cases data
      · simp [htaking] at hnot
      · have hrefuses : ∃ process, h.deliver data =
            { h with process, queued := h.queued + data.size, accepting := false } := by
          by_cases hover : maxQueued < h.queued + data.size
          · exact ⟨h.process.kill, by
              simp [ExtensionHost.deliver, hf.accepting, htaking, hover, closeInput, kill]⟩
          · have hleft : h.abandoned = true := hf.abandoned.trans (hmuch.resolve_left (hmore ▸ hover))
            exact ⟨h.process, by
              simp [ExtensionHost.deliver, hf.accepting, htaking, hover, hleft, closeInput]⟩
        obtain ⟨process, hhost⟩ := hrefuses
        rw [hhost, heq]
        exact { hf with
          accepting := rfl
          counted := nofun
          covered := Nat.le_add_right_of_le hf.covered }
      · have hadded : (octets (l.pending ++ [data])).length = l.backlog + data.size := by
          rw [octets_append, octets_singleton, List.length_append]
          rfl
        have hqueues : h.deliver data =
            { h with queued := h.queued + data.size, waiting := h.waiting ++ [data] } := by
          simp [ExtensionHost.deliver, hf.accepting, htaking, hf.abandoned, hthere, hmore, Nat.not_lt.2 hroom]
        rw [hqueues, heq]
        exact { hf with
          waiting := by simp [hf.waiting, hthere]
          counted := fun _ => hmore.trans hadded.symm
          covered := Nat.le_of_eq (hadded.trans hmore.symm) }

/-- The writer gets octets across where the ledger says so, and as many. -/
theorem put_cases (hf : h.Follows l) (hl : l.Sound) (count : Nat) :
    (h.put count = h ∧ l.step (.put count) = l) ∨
    ∃ first rest upTo, l.pending = first :: rest ∧ l.failed = false ∧ upTo = min first.size (l.across + count) ∧
      l.step (.put count) = { l with across := upTo } ∧
      h.put count = { h with
        process := h.process.feed (Blob.toBytes (first.extract l.across upTo))
        written := upTo } := by
  cases hfailed : l.failed with
  | true =>
      refine Or.inl ⟨?_, ?_⟩
      · unfold ExtensionHost.put
        split <;> simp [hf.failed, hfailed]
      · simp only [Ledger.step, hfailed, if_true]
        split <;> rfl
  | false =>
      have hwaiting := hf.waiting_eq hl hfailed
      cases hpending : l.pending with
      | nil =>
          rw [hpending] at hwaiting
          exact Or.inl ⟨by simp [ExtensionHost.put, hwaiting], by simp [Ledger.step, hpending]⟩
      | cons first rest =>
          rw [hpending] at hwaiting
          refine Or.inr ⟨first, rest, _, rfl, rfl, rfl, ?_, ?_⟩
          · simp [Ledger.step, hpending, hfailed]
          · simp [ExtensionHost.put, hwaiting, hf.failed, hfailed, hf.written]

theorem put (hf : h.Follows l) (hl : l.Sound) (count : Nat) : (h.put count).Follows (l.step (.put count)) := by
  obtain ⟨hhost, hledger⟩ | ⟨_, _, _, -, -, -, hledger, hhost⟩ := hf.put_cases hl count <;> rw [hhost, hledger]
  · exact hf
  · exact { hf with written := rfl }

/-- The writing of the first payload ends on both sides. -/
theorem release (hf : h.Follows l) (hl : l.Sound) (hfailed : l.failed = false) {first : ByteArray}
    {rest : List ByteArray} (hpending : l.pending = first :: rest) (failed : Bool) :
    Follows { h.release with failed } (l.endWrite failed) := by
  have hwaiting := hf.waiting_eq hl hfailed
  have hthere : l.left = false := by
    cases hleft : l.left with
    | false => rfl
    | true =>
        obtain hwas | ⟨hnil, -⟩ := hl.of_left hleft
        · simp [hfailed] at hwas
        · simp [hpending] at hnil
  have hbacklog : l.backlog = first.size + (octets rest).length := by
    rw [Ledger.backlog, hpending, length_octets_cons]
  rw [Ledger.endWrite_of_pending hpending, ExtensionHost.release, hwaiting, hpending]
  exact
    { accepting := hf.accepting
      failed := rfl
      abandoned := hf.abandoned
      written := rfl
      waiting := by simp [hthere]
      counted := fun htaking => Nat.sub_eq_of_eq_add' ((hf.counted htaking).trans hbacklog)
      covered := Nat.le_sub_of_add_le' (hbacklog ▸ hf.covered) }

theorem finishWrite (hf : h.Follows l) (hl : l.Sound) : h.finishWrite.Follows (l.step .finishWrite) := by
  cases hfailed : l.failed with
  | true => simpa [ExtensionHost.finishWrite, Ledger.step, hf.failed, hfailed] using hf
  | false =>
      have hwaiting := hf.waiting_eq hl hfailed
      simp only [ExtensionHost.finishWrite, Ledger.step, hf.failed, hfailed, hwaiting, hf.written, Bool.false_or]
      split
      · exact hf
      · next hcan =>
        obtain ⟨first, rest, hpending⟩ : ∃ first rest, l.pending = first :: rest := by
          cases hpending : l.pending with
          | nil => simp [hpending] at hcan
          | cons first rest => exact ⟨first, rest, rfl⟩
        have hgood : { h.release with failed := false } = h.release := by
          simp [ExtensionHost.release, hwaiting, hpending, hf.failed, hfailed]
        exact hgood ▸ hf.release hl hfailed hpending false

theorem failWrite (hf : h.Follows l) (hl : l.Sound) : h.failWrite.Follows (l.step .failWrite) := by
  cases hfailed : l.failed with
  | true => simpa [ExtensionHost.failWrite, Ledger.step, hf.failed, hfailed] using hf
  | false =>
      have hwaiting := hf.waiting_eq hl hfailed
      cases hpending : l.pending with
      | nil =>
          simpa [ExtensionHost.failWrite, Ledger.step, Ledger.endWrite, hf.failed, hfailed, hwaiting, hpending]
            using hf
      | cons first rest =>
          have hhost : h.failWrite = { h.release with failed := true } := by
            simp [ExtensionHost.failWrite, hf.failed, hfailed, hwaiting, hpending]
          have hledger : l.step .failWrite = l.endWrite true := by simp [Ledger.step, hfailed]
          rw [hhost, hledger]
          exact hf.release hl hfailed hpending true

theorem abandon (hf : h.Follows l) (hl : l.Sound) : h.abandon.Follows (l.step .abandon) := by
  have hsame : (h.failed || h.waiting.isEmpty && !h.accepting) =
      (l.failed || l.pending.isEmpty && !l.taking) := by
    rw [hf.failed, hf.accepting]
    cases hfailed : l.failed with
    | true => rfl
    | false => rw [hf.waiting_eq hl hfailed]
  simp only [ExtensionHost.abandon, Ledger.step, hsame]
  split
  · next hleaves =>
    have hnone : l.across = 0 := by
      obtain hfailed | ⟨hnil, -⟩ : l.failed = true ∨ l.pending = [] ∧ l.taking = false := by simpa using hleaves
      · exact hl.across_of_failed hfailed
      · exact hl.across_of_nil hnil
    exact { hf with
      abandoned := rfl
      written := hnone.symm
      waiting := rfl }
  · exact hf

theorem step (hf : h.Follows l) (hl : l.Sound) : (e : Event) → (h.step e).Follows (l.step e)
  | .take (.data data) => hf.deliver data
  | .take (.request _) | .take (.response _) => hf
  | .put count => hf.put hl count
  | .finishWrite => hf.finishWrite hl
  | .failWrite => hf.failWrite hl
  | .abandon => hf.abandon hl
  | .live _ => { hf with }
  | .shut => { hf with accepting := rfl, counted := nofun }

end Follows

/-- Octets have reached the process as the ledger says: before a failure those of everything that is done with, and of
what has been written since. -/
structure Ledger.Got (l : Ledger) (reached : Bytes) : Prop where
  reached_eq : l.failed = false → reached = octets l.done ++ l.begun
  reached_begins : reached <+: octets l.handed

namespace Ledger.Got

variable {l : Ledger} {reached : Bytes}

theorem deliver (hg : l.Got reached) (hl : l.Sound) (data : ByteArray) : (l.deliver data).Got reached := by
  obtain ⟨-, heq⟩ | ⟨-, -, heq⟩ | ⟨-, -, -, heq⟩ := l.deliver_cases data <;> rw [heq]
  · exact { hg with }
  · exact { hg with }
  · refine ⟨fun hfailed => (hg.reached_eq hfailed).trans ?_, hg.reached_begins.trans (octets_mono ⟨[data], ?_⟩)⟩
    · cases hpending : l.pending with
      | nil => simp [begun, hpending, hl.across_of_nil hpending]
      | cons first rest => simp [begun, hpending]
    · simp [handed]

/-- The next octets of the first payload come across. -/
theorem put (hg : l.Got reached) {first : ByteArray} {rest : List ByteArray} {upTo : Nat}
    (hpending : l.pending = first :: rest) (hfailed : l.failed = false) (hup : l.across ≤ upTo) :
    { l with across := upTo }.Got (reached ++ Blob.toBytes (first.extract l.across upTo)) := by
  have hbegun : l.begun = (Blob.toBytes first).take l.across := by
    rw [begun, hpending, List.take_succ_cons, List.take_zero, octets_singleton]
  have hreached : reached ++ Blob.toBytes (first.extract l.across upTo) =
      octets l.done ++ (Blob.toBytes first).take upTo := by
    rw [hg.reached_eq hfailed, hbegun, Blob.toBytes_extract, List.append_assoc, ← List.take_add,
      Nat.add_sub_cancel' hup]
  rw [hreached]
  refine ⟨fun _ => by simp [begun, hpending, octets_singleton], ?_⟩
  rw [handed, hpending, octets_append]
  refine (List.prefix_append_right_inj _).2 ((List.take_prefix ..).trans ?_)
  rw [← octets_singleton]
  exact octets_mono (List.prefix_append [first] rest)

theorem endWrite (hg : l.Got reached) (failed : Bool)
    (hwritten : failed = false → l.failed = false ∧ ∀ first ∈ l.pending.head?, l.across = first.size) :
    (l.endWrite failed).Got reached := by
  cases hpending : l.pending with
  | nil => simpa [Ledger.endWrite, hpending] using hg
  | cons first rest =>
      have hbegins := hg.reached_begins
      rw [← l.handed_endWrite failed] at hbegins
      refine ⟨fun hstill => ?_, hbegins⟩
      rw [endWrite_of_pending hpending] at hstill ⊢
      obtain ⟨hfailed, hall⟩ := hwritten hstill
      have hwhole : l.begun = octets [first] := by
        rw [begun, hpending, hall first (by simp [hpending])]
        exact List.take_of_length_le (Nat.le_of_eq (length_octets_cons first []))
      rw [hg.reached_eq hfailed, hwhole, begun, List.take_zero, List.append_nil, octets_append]

/-- Whatever happens but that octets come across, the process has got what it had. -/
theorem step (hg : l.Got reached) (hl : l.Sound) (e : Event) (hput : ∀ count, e ≠ .put count) :
    (l.step e).Got reached := by
  cases e with
  | take payload =>
      cases payload with
      | data data => exact hg.deliver hl data
      | request _ | response _ => exact hg
  | put count => exact absurd rfl (hput count)
  | finishWrite =>
      simp only [Ledger.step]
      split
      · exact hg
      · next hcan =>
        simp only [Bool.or_eq_true, decide_eq_true_eq, not_or, Decidable.not_not, Bool.not_eq_true] at hcan
        refine hg.endWrite false fun _ => ⟨hcan.1, fun first hfirst => ?_⟩
        simpa [Option.mem_def.1 hfirst, eq_comm] using hcan.2
  | failWrite =>
      simp only [Ledger.step]
      split
      · exact hg
      · exact hg.endWrite true nofun
  | abandon =>
      simp only [Ledger.step]
      split
      · exact { hg with }
      · exact hg
  | live _ => exact hg
  | shut => exact { hg with }

end Ledger.Got

/-- What a run keeps up. -/
structure Record.Sound (r : Record) : Prop where
  ledger : r.ledger.Sound
  host : r.host.Follows r.ledger
  got : r.ledger.Got r.reached

namespace Record.Sound

variable {r : Record}

theorem start (process : Process) : Sound { host := { process } } :=
  ⟨.start, .start process, fun _ => rfl, List.prefix_rfl⟩

theorem got_put (h : r.Sound) (count : Nat) :
    (r.ledger.step (.put count)).Got
      (r.reached ++ (r.host.put count).process.input.drop r.host.process.input.length) := by
  obtain ⟨hhost, hledger⟩ | ⟨first, rest, upTo, hpending, hfailed, hupTo, hledger, hhost⟩ :=
    h.host.put_cases h.ledger count
  · rw [hhost, hledger, List.drop_length, List.append_nil]
    exact h.got
  · have hacross := h.ledger.across_le
    rw [hpending, List.take_succ_cons, List.take_zero, length_octets_cons] at hacross
    have hup : r.ledger.across ≤ upTo := hupTo ▸ Nat.le_min.2 ⟨hacross, Nat.le_add_right ..⟩
    have hinput : (r.host.put count).process.input.drop r.host.process.input.length =
        Blob.toBytes (first.extract r.ledger.across upTo) := by
      simp [hhost, Process.feed]
    rw [hinput, hledger]
    exact h.got.put hpending hfailed hup

theorem step (h : r.Sound) (e : Event) : (r.step e).Sound := by
  refine ⟨h.ledger.step e, h.host.step h.ledger e, ?_⟩
  cases e with
  | put count => exact h.got_put count
  | take _ | finishWrite | failWrite | abandon | live _ | shut =>
      simp only [Record.step, List.append_nil]
      exact h.got.step h.ledger _ nofun

theorem run (h : r.Sound) (events : List Event) : (events.foldl Record.step r).Sound := by
  induction events generalizing r with
  | nil => exact h
  | cons e events ih => exact ih (h.step e)

end Record.Sound

section Refusing

variable {h : ExtensionHost}

theorem release_le (h : ExtensionHost) : h.release.waiting <:+ h.waiting ∧ h.release.queued ≤ h.queued := by
  unfold release
  split
  · next first rest hwaiting => exact ⟨hwaiting ▸ List.suffix_cons first rest, Nat.sub_le ..⟩
  · exact ⟨List.suffix_rfl, Nat.le_refl _⟩

/-- A host that takes no payloads only gets rid of what waits. -/
theorem step_of_refusing (hrefusing : h.accepting = false) (e : Event) :
    (h.step e).waiting <:+ h.waiting ∧ (h.step e).queued ≤ h.queued := by
  have hsame : h.waiting <:+ h.waiting ∧ h.queued ≤ h.queued := ⟨List.suffix_rfl, Nat.le_refl _⟩
  cases e with
  | take payload =>
      cases payload with
      | data data => simp [step, take, deliver, hrefusing]
      | request _ | response _ => exact hsame
  | put count =>
      simp only [step, put]
      split
      · split <;> exact hsame
      · exact hsame
  | finishWrite =>
      simp only [step, finishWrite]
      split
      · exact hsame
      · exact h.release_le
  | failWrite =>
      simp only [step, failWrite]
      split
      · exact hsame
      · exact h.release_le
  | abandon =>
      simp only [step, abandon]
      split
      · exact ⟨List.nil_suffix, Nat.le_refl _⟩
      · exact hsame
  | live _ | shut => exact hsame

/-- Once no more payloads are taken, none comes to the writer, and what waits and what is counted only become less. -/
theorem Record.Sound.run_of_refusing {r : Record} (hr : r.Sound) (hrefusing : r.ledger.taking = false)
    (events : List Event) :
    let later := events.foldl Record.step r
    later.ledger.handed = r.ledger.handed ∧ later.host.waiting <:+ r.host.waiting ∧
      later.host.queued ≤ r.host.queued := by
  induction events generalizing r with
  | nil => exact ⟨rfl, List.suffix_rfl, Nat.le_refl _⟩
  | cons e events ih =>
      obtain ⟨hwaiting, hqueued⟩ := step_of_refusing (hr.host.accepting.trans hrefusing) e
      obtain ⟨hstill, hhanded⟩ := Ledger.step_of_refusing hrefusing e
      obtain ⟨hhandeds, hwaitings, hqueueds⟩ := ih (hr.step e) hstill
      exact ⟨hhandeds.trans hhanded, hwaitings.trans hwaiting, Nat.le_trans hqueueds hqueued⟩

end Refusing

/-- What holds at any time of the queue for a process. -/
structure Record.Accounted (r : Record) : Prop where
  accepting : r.host.accepting = r.ledger.taking
  /-- As long as payloads are taken they come to the writer. -/
  taken : r.ledger.taking = true → r.ledger.handed = r.ledger.delivered
  /-- Unless the writer has left it has before it what its work has not ended with. -/
  waiting : r.ledger.left = false → r.host.waiting = r.ledger.pending
  /-- So long the octets of those are counted. -/
  counted : r.ledger.taking = true → r.host.queued = r.ledger.backlog
  bounded : r.ledger.taking = true → r.host.queued ≤ maxQueued
  /-- A payload is never more than what is counted when it is taken from that. -/
  covered : ∀ first ∈ r.host.waiting.head?, first.size ≤ r.host.queued
  in_order : r.reached <+: octets r.ledger.delivered
  /-- Before a failure nothing is missing of the payloads that have been written. -/
  whole : r.ledger.failed = false → r.reached = octets r.ledger.done ++ r.ledger.begun
  /-- A payload that is delivered stops the process just when it is too much with what waits. -/
  stopped_iff : ∀ data, r.host.process.status = none →
    ((r.host.take (.data data)).process.status ≠ none ↔ r.ledger.Overflows data)
  /-- Then nothing comes to the writer any more, and nothing is queued or counted any more. -/
  closed : ∀ data, r.ledger.Overflows data → ∀ events : List Event,
    let stopped := r.step (.take (.data data))
    let later := events.foldl step stopped
    later.ledger.handed = r.ledger.handed ∧ later.host.waiting <:+ r.host.waiting ∧
      later.host.queued ≤ stopped.host.queued

namespace Record.Sound

variable {r : Record}

theorem covered_head (h : r.Sound) (first : ByteArray) (hfirst : first ∈ r.host.waiting.head?) :
    first.size ≤ r.host.queued := by
  have hwaiting := h.host.waiting
  split at hwaiting
  · simp [hwaiting] at hfirst
  · rw [hwaiting] at hfirst
    obtain ⟨rest, hpending⟩ := List.head?_eq_some_iff.1 hfirst
    have hcovered := h.host.covered
    rw [Ledger.backlog, hpending, length_octets_cons] at hcovered
    exact Nat.le_of_add_right_le hcovered

theorem stopped_iff (h : r.Sound) (data : ByteArray) (hstatus : r.host.process.status = none) :
    (r.host.take (.data data)).process.status ≠ none ↔ r.ledger.Overflows data := by
  cases htaking : r.ledger.taking with
  | false => simp [take, deliver, h.host.accepting, htaking, hstatus, Ledger.Overflows]
  | true =>
      have hcounted := h.host.counted htaking
      by_cases hmuch : maxQueued < r.ledger.backlog + data.size
      · simp [take, deliver, h.host.accepting, htaking, hcounted, hmuch, Ledger.Overflows, closeInput, kill,
          Process.kill, hstatus]
      · have hlives : (r.host.take (.data data)).process = r.host.process := by
          simp only [take, deliver, h.host.accepting, htaking, hcounted, Bool.not_true, Bool.false_eq_true,
            if_false, if_neg hmuch]
          split <;> rfl
        simp [hlives, hstatus, Ledger.Overflows, hmuch]

theorem closed (h : r.Sound) {data : ByteArray} (hover : r.ledger.Overflows data) (events : List Event) :
    let stopped := r.step (.take (.data data))
    let later := events.foldl Record.step stopped
    later.ledger.handed = r.ledger.handed ∧ later.host.waiting <:+ r.host.waiting ∧
      later.host.queued ≤ stopped.host.queued := by
  obtain ⟨htaking, hmuch⟩ := hover
  have hledger : (r.step (.take (.data data))).ledger =
      { r.ledger with delivered := r.ledger.delivered ++ [data], taking := false } := by
    obtain ⟨hnot, -⟩ | ⟨-, -, heq⟩ | ⟨-, hroom, -⟩ := r.ledger.deliver_cases data
    · simp [htaking] at hnot
    · exact heq
    · exact absurd hmuch (Nat.not_lt.2 hroom)
  have hwaiting : (r.step (.take (.data data))).host.waiting = r.host.waiting := by
    simp [Record.step, ExtensionHost.step, take, deliver, h.host.accepting, htaking, h.host.counted htaking,
      hmuch, closeInput, kill]
  obtain ⟨hhanded, hless, hqueued⟩ :=
    (h.step (.take (.data data))).run_of_refusing (by rw [hledger]) events
  refine ⟨hhanded.trans ?_, hwaiting ▸ hless, hqueued⟩
  rw [hledger]
  rfl

theorem accounted (h : r.Sound) : r.Accounted where
  accepting := h.host.accepting
  taken := h.ledger.taken
  waiting hthere := by simpa [hthere] using h.host.waiting
  counted := h.host.counted
  bounded htaking := h.host.counted htaking ▸ h.ledger.bounded htaking
  covered := h.covered_head
  in_order := h.got.reached_begins.trans (octets_mono h.ledger.kept)
  whole := h.got.reached_eq
  stopped_iff := h.stopped_iff
  closed _ := h.closed

end Record.Sound

/-- A host starts with nothing queued.  Whatever the session and the writer do in turns after that, and wherever a
write fails, the queue is accounted for; and running the host until what its process has said can be taken does no
more than some of these steps. -/
theorem queue_accounted :
    (∀ disk env dir config language args h,
      spawn disk env dir config language args = .ok h → h = { process := h.process }) ∧
    ∀ process (events : List Event),
      let r := events.foldl Record.step { host := { process } }
      r.Accounted ∧
      ∀ disk, ∃ more : List Event, (r.host.takeOutput disk).2.2 = (more.foldl Record.step r).host := by
  refine ⟨fun _ _ _ _ _ _ _ => fresh_of_spawn, fun process events => ?_⟩
  refine ⟨((Record.Sound.start process).run events).accounted, fun disk => ?_⟩
  obtain ⟨more, hmore⟩ := exists_steps_takeOutput (events.foldl Record.step { host := { process } }).host disk
  exact ⟨more, hmore.trans (Record.host_foldl _ more).symm⟩

/-- Two payloads are delivered, and the first comes across in two stretches. -/
def cutWrites : List Event :=
  [.take (.data ⟨#[97, 98]⟩), .take (.data ⟨#[99]⟩), .put 1, .put 5, .finishWrite]

/-- One octet is left waiting then, and a payload of the greatest size that may wait is one octet too much. -/
theorem queue_accounted_cutWrites :
    let r := cutWrites.foldl Record.step { host := { process := ⟨.exit 0, "/", [], false, #[], true, none⟩ } }
    r.ledger.done = [⟨#[97, 98]⟩] ∧ r.ledger.pending = [⟨#[99]⟩] ∧ r.host.queued = 1 ∧ r.reached = [97, 98] ∧
      (r.host.take (.data ⟨Array.replicate maxQueued 0⟩)).process.status ≠ none := by
  obtain ⟨haccounted, -⟩ := queue_accounted.2 ⟨.exit 0, "/", [], false, #[], true, none⟩ cutWrites
  refine ⟨by decide, by decide, (haccounted.counted (by decide)).trans (by decide),
    (haccounted.whole (by decide)).trans (by decide),
    (haccounted.stopped_iff _ (by decide)).2 ⟨by decide, ?_⟩⟩
  have hone : (cutWrites.foldl Record.step
      { host := { process := ⟨.exit 0, "/", [], false, #[], true, none⟩ } }).ledger.backlog = 1 := by decide
  rw [hone, ByteArray.size, Array.size_replicate]
  exact Nat.lt_add_of_pos_left Nat.zero_lt_one

/-- What a write that fails has got across stays, and the next payload does not follow it. -/
example : ([.take (.data ⟨#[97, 98]⟩), .take (.data ⟨#[99]⟩), .put 1, .failWrite, .put 1].foldl Record.step
    { host := { process := ⟨.exit 0, "/", [], false, #[], true, none⟩ } }).reached = [97] := by decide

end Workbench.ExtensionHost

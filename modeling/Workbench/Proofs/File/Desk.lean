import Mathlib.Data.List.Nodup
import Workbench.Channel.File
import Workbench.Proofs.Lists

/-!
What the operations of a file desk do to its watch sessions and to who listens for their changes.
-/

namespace Workbench.FileDesk

variable (d : FileDesk)

/-- A stream gets the changes of a session. -/
def Listens (feed : Nat) (name : String) : Prop := (feed, FileFeed.changes name) ∈ d.subjects

/-- A session has a watch under a request number. -/
def Holds (name : String) (request : UInt64) (watch : Nat) : Prop :=
  ∃ s, d.session? name = some s ∧ (request, watch) ∈ s.watches

theorem session?_closeSession (name other : String) :
    (d.closeSession name).2.session? other = if other = name then none else d.session? other := by
  simp only [session?, closeSession, find?_filter_key Prod.fst]
  split <;> rfl

theorem session?_attach (addressing : Addressing) (name other : String) :
    (d.attach addressing name).2.2.session? other =
      if other = name then some ⟨d.feeds.next, addressing, []⟩ else d.session? other := by
  split
  · next heq =>
      subst heq
      simp [session?, attach, Feeds.start]
  · next hne =>
      have hhead : (name == other) = false := beq_false_of_ne (Ne.symm hne)
      simp only [session?, attach, List.find?_cons, hhead, find?_filter_key Prod.fst, if_neg hne]

/-- Giving a session new watches does not touch the others. -/
theorem session?_setSession (s : WatchSession) (name other : String) :
    session? { d with sessions := d.sessions.map fun e => if e.1 = name then (name, s) else e } other =
      if other = name then (d.session? name).map fun _ => s else d.session? other := by
  have hkey : ((fun e : String × WatchSession => e.1 == other) ∘
      fun e => if e.1 = name then (name, s) else e) = fun e => e.1 == other := by
    funext e
    by_cases he : e.1 = name
    · simp [he]
    · simp [he]
  simp only [session?, List.find?_map, hkey]
  cases hfound : d.sessions.find? fun e => e.1 == other with
  | none =>
      split
      · next heq =>
          rw [heq] at hfound
          rw [hfound]
          rfl
      · rfl
  | some entry =>
      have hentry : entry.1 = other := by simpa using List.find?_some hfound
      split
      · next heq =>
          rw [heq] at hfound hentry
          simp [hfound, hentry]
      · next hne => simp [hentry, hne]

theorem session?_register (name : String) (request : UInt64) (watch : Nat) (other : String) :
    (d.register name request watch).2.2.session? other =
      if other = name then (d.session? name).map fun s =>
        { s with watches := s.watches.filter (·.1 != request) ++ [(request, watch)] }
      else d.session? other := by
  unfold register
  cases hsession : d.session? name with
  | none =>
      by_cases heq : other = name
      · simp [heq, hsession]
      · simp [heq]
  | some s =>
      rw [session?_setSession, hsession]
      rfl

theorem session?_unregister (name : String) (request : UInt64) (other : String) :
    (d.unregister name request).2.session? other =
      if other = name then (d.session? name).map fun s =>
        { s with watches := s.watches.filter (·.1 != request) }
      else d.session? other := by
  unfold unregister
  cases hsession : d.session? name with
  | none =>
      by_cases heq : other = name
      · simp [heq, hsession]
      · simp [heq]
  | some s =>
      rw [session?_setSession, hsession]
      rfl

theorem mem_of_subject? {d : FileDesk} {feed : Nat} {subject : FileFeed}
    (hsubject : d.subject? feed = some subject) : (feed, subject) ∈ d.subjects := by
  obtain ⟨entry, hfound, rfl⟩ := Option.map_eq_some_iff.1 hsubject
  have hfeed : entry.1 = feed := by simpa using List.find?_some hfound
  rw [← hfeed]
  exact List.mem_of_find?_eq_some hfound

/-- Every stream has a number of its own, below the next. -/
structure Numbered (d : FileDesk) : Prop where
  nodup : (d.subjects.map (·.1)).Nodup
  lt_next : ∀ entry ∈ d.subjects, entry.1 < d.feeds.next

theorem Numbered.cons {d d' : FileDesk} (hnumbered : d.Numbered) {subject : FileFeed}
    (hsubjects : d'.subjects = (d.feeds.next, subject) :: d.subjects)
    (hnext : d'.feeds.next = d.feeds.next + 1) : d'.Numbered := by
  constructor
  · rw [hsubjects, List.map_cons, List.nodup_cons]
    refine ⟨?_, hnumbered.nodup⟩
    intro hmem
    obtain ⟨entry, hentry, heq⟩ := List.mem_map.1 hmem
    exact Nat.lt_irrefl _ (heq ▸ hnumbered.lt_next entry hentry)
  · intro entry hentry
    rw [hsubjects, List.mem_cons] at hentry
    rw [hnext]
    rcases hentry with rfl | hold
    · exact Nat.lt_succ_self _
    · exact Nat.lt_succ_of_lt (hnumbered.lt_next entry hold)

theorem Numbered.sublist {d d' : FileDesk} (hnumbered : d.Numbered)
    (hsubjects : d'.subjects.Sublist d.subjects) (hnext : d'.feeds.next = d.feeds.next) :
    d'.Numbered := by
  constructor
  · exact (hsubjects.map _).nodup hnumbered.nodup
  · intro entry hentry
    rw [hnext]
    exact hnumbered.lt_next entry (hsubjects.subset hentry)

/-- What a stream is about is what it has been opened for. -/
theorem Numbered.subject?_eq {d : FileDesk} (hnumbered : d.Numbered) {feed : Nat} {subject : FileFeed}
    (hmem : (feed, subject) ∈ d.subjects) : d.subject? feed = some subject := by
  rw [subject?, Option.map_eq_some_iff]
  cases hfound : d.subjects.find? fun e => e.1 == feed with
  | none => exact absurd (beq_self_eq_true feed) (List.find?_eq_none.1 hfound _ hmem)
  | some entry =>
      have hfeed : entry.1 = feed := by simpa using List.find?_some hfound
      have heq : entry = (feed, subject) :=
        List.inj_on_of_nodup_map hnumbered.nodup (List.mem_of_find?_eq_some hfound) hmem hfeed
      exact ⟨entry, rfl, by rw [heq]⟩

theorem register_ok {name : String} {s : WatchSession} (request : UInt64) (watch : Nat)
    (hsession : d.session? name = some s) : (d.register name request watch).1 = .ok () := by
  rw [register, hsession]

theorem register_subjects (name : String) (request : UInt64) (watch : Nat) :
    (d.register name request watch).2.2.subjects = d.subjects ∧
      (d.register name request watch).2.2.feeds = d.feeds := by
  unfold register
  split
  · exact ⟨rfl, rfl⟩
  · exact ⟨rfl, rfl⟩

theorem unregister_subjects (name : String) (request : UInt64) :
    (d.unregister name request).2.subjects = d.subjects ∧
      (d.unregister name request).2.feeds = d.feeds := by
  unfold unregister
  split
  · exact ⟨rfl, rfl⟩
  · exact ⟨rfl, rfl⟩

section Operations

variable {σ : Type} (p : FileProvider (StateM σ)) (host : σ)

/-- A request to watch fails and changes nothing, or gives the session a watch. -/
theorem perform_watch (name : String) (request : UInt64) (addressed : Resource) (options : WatchOptions) :
    (∃ e, (perform p (.watch name request addressed options) d host).1 = (.error e, d)) ∨
      ∃ s watch sink, d.session? name = some s ∧
        (perform p (.watch name request addressed options) d host).1 =
          (.ok .null, (register { d with sinks := (watch, sink) :: d.sinks } name request watch).2.2) := by
  simp only [perform]
  cases hsession : d.session? name with
  | none => exact .inl ⟨_, rfl⟩
  | some s =>
      simp only [bind, StateT.bind, pure]
      cases hwatch : p.watch (s.addressing.resolve addressed).fsPath options host with
      | mk answer host =>
          cases answer with
          | error e => exact .inl ⟨e, rfl⟩
          | ok watch =>
              refine .inr ⟨s, watch, ⟨s.feed, s.addressing, addressed⟩, rfl, ?_⟩
              have hgiven := register_ok { d with
                sinks := (watch, ⟨s.feed, s.addressing, addressed⟩) :: d.sinks } request watch hsession
              exact Prod.ext (congrArg (Except.map fun _ => Json.null) hgiven) rfl

/-- Only requests to watch and not to watch change the desk. -/
theorem perform_desk (request : FileRequest) :
    (perform p request d host).1.2 = d ∨
      (∃ name n addressed options watch sink, request = .watch name n addressed options ∧
        (perform p request d host).1.2 =
          (register { d with sinks := (watch, sink) :: d.sinks } name n watch).2.2) ∨
      ∃ name n, request = .unwatch name n ∧
        (perform p request d host).1.2 = (d.unregister name n).2 := by
  cases request with
  | watch name n addressed options =>
      rcases perform_watch d p host name n addressed options with ⟨e, heq⟩ | ⟨s, watch, sink, -, heq⟩
      · exact .inl (by rw [heq])
      · exact .inr (.inl ⟨name, n, addressed, options, watch, sink, rfl, by rw [heq]⟩)
  | unwatch name n => exact .inr (.inr ⟨name, n, rfl, rfl⟩)
  | _ => exact .inl rfl

/-- A watch that is answered well is held. -/
theorem holds_of_perform_watch {name : String} {request : UInt64} {addressed : Resource}
    {options : WatchOptions} {v : Json}
    (hanswer : (perform p (.watch name request addressed options) d host).1.1 = .ok v) :
    ∃ watch, (perform p (.watch name request addressed options) d host).1.2.Holds name request watch := by
  rcases perform_watch d p host name request addressed options with
    ⟨e, heq⟩ | ⟨s, watch, sink, hsession, heq⟩
  · rw [heq] at hanswer
    cases hanswer
  · have hsame : session? { d with sinks := (watch, sink) :: d.sinks } name = some s := hsession
    rw [heq]
    refine ⟨watch, { s with watches := s.watches.filter (·.1 != request) ++ [(request, watch)] }, ?_, ?_⟩
    · rw [session?_register, if_pos rfl, hsame]
      rfl
    · simp

/-- A call does what the request in it does, and nothing if there is none. -/
theorem call_desk (ctx : ChannelContext) (command : String) (args : Json) :
    (call p ctx command args d host).1.2 =
      match FileRequest.ofCall ctx.addressing command args with
      | .ok request => (perform p request d host).1.2
      | .error _ => d := by
  cases hrequest : FileRequest.ofCall ctx.addressing command args with
  | error e =>
      rw [call, dispatch, hrequest]
      rfl
  | ok request =>
      cases hperform : perform p request d host with
      | mk result host =>
          obtain ⟨answer, rest⟩ := result
          simp only [call, dispatch, hrequest, bind, StateT.bind, hperform]
          cases answer with
          | ok v => rfl
          | error e => rfl

theorem next_followRead (run : StreamRun) : (d.followRead run).2.feeds.next = d.feeds.next + 1 := by
  have hpush : ∀ (events : List StreamEvent) (feeds : Feeds Json) (feed : Nat),
      (events.foldl (fun feeds e => feeds.push feed (streamPayload e)) feeds).next = feeds.next := by
    intro events
    induction events with
    | nil => exact fun _ _ => rfl
    | cons e events ih => exact fun feeds feed => ih _ feed
  simp only [followRead]
  split
  · exact hpush _ _ _
  · exact hpush _ _ _

/-- The session whose changes are listened to. -/
def changesOf? (event : String) (args : Json) : Option String :=
  if event = "fileChange" then (FileRequest.sessionAt.read Shape.text args).toOption else none

theorem listen_desk (ctx : ChannelContext) (event : String) (args : Json) :
    (∃ name, changesOf? event args = some name ∧
      (listen p ctx event args d host).1.2 = (d.attach ctx.addressing name).2.2) ∨
    (changesOf? event args = none ∧ ((listen p ctx event args d host).1.2 = d ∨
      ∃ run, (listen p ctx event args d host).1.2 = (d.followRead run).2)) := by
  unfold listen
  split
  · cases hname : FileRequest.sessionAt.read Shape.text args with
    | error e => exact .inr ⟨by rw [changesOf?, hname]; rfl, .inl rfl⟩
    | ok name => exact .inl ⟨name, by rw [changesOf?, hname]; rfl, rfl⟩
  · refine .inr ⟨rfl, ?_⟩
    cases hpath : FileRequest.localPath ctx.addressing FileRequest.resourceAt args with
    | error e => exact .inl rfl
    | ok path =>
        cases hoptions : (FileRequest.optionsAt 1).readOr StreamOptions.shape {} args with
        | error e => exact .inl rfl
        | ok options => exact .inr ⟨_, rfl⟩
  · next hother _ => exact .inr ⟨if_neg hother, .inl rfl⟩

/-- The desk without a stream. -/
def forget (feed : Nat) : FileDesk :=
  { d with feeds := d.feeds.drop feed, subjects := d.subjects.filter (·.1 != feed) }

/-- Only the session that a dropped stream gets the changes of is closed. -/
theorem drop_desk (feed : Nat) :
    (∃ name, d.subject? feed = some (.changes name) ∧
      (drop p feed d host).1.2 = ((d.forget feed).closeSession name).2) ∨
    ((∀ name, d.subject? feed ≠ some (.changes name)) ∧
      (drop p feed d host).1.2 = d.forget feed) := by
  unfold drop
  dsimp only
  cases hsubject : d.subject? feed with
  | none => exact .inr ⟨by simp, rfl⟩
  | some subject =>
      cases subject with
      | changes name => exact .inl ⟨name, rfl, rfl⟩
      | reading run =>
          refine .inr ⟨by simp, ?_⟩
          simp only [bind]
          split
          · rfl
          · rfl

end Operations

end Workbench.FileDesk

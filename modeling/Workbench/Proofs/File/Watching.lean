import Workbench.File.Rehearsal
import Workbench.Proofs.File.Desk

/-!
Watch sessions while streams come and go.  A session is to be open exactly while somebody listens for its
changes, and to keep its watches as long.  A desk opens a session anew for each listener and closes it with
any of them, so it does so as long as no name is listened to twice at a time, and not beyond that.
-/

namespace Workbench.FileDesk

/-- What a client asks of the file channel. -/
inductive Act where
  | listen (ctx : ChannelContext) (event : String) (args : Json)
  | detach (feed : Nat)
  | call (ctx : ChannelContext) (command : String) (args : Json)

namespace Act

/-- The session whose changes are listened to from now on. -/
def opens? : Act → Option String
  | listen _ event args => changesOf? event args
  | _ => none

/-- The request of a call. -/
def request? : Act → Option FileRequest
  | call ctx command args => (FileRequest.ofCall ctx.addressing command args).toOption
  | _ => none

/-- A watch is taken back, or asked for again under the same number. -/
def Replaces (a : Act) (name : String) (request : UInt64) : Prop :=
  a.request? = some (.unwatch name request) ∨
    ∃ addressed options, a.request? = some (.watch name request addressed options)

end Act

/-- What an act does to the desk. -/
inductive Move (d : FileDesk) : Act → FileDesk → Prop
  | opens {ctx : ChannelContext} {event : String} {args : Json} {name : String}
      (hname : changesOf? event args = some name) :
      Move d (.listen ctx event args) (d.attach ctx.addressing name).2.2
  | reads {ctx : ChannelContext} {event : String} {args : Json}
      (hname : changesOf? event args = none) (run : StreamRun) :
      Move d (.listen ctx event args) (d.followRead run).2
  | refuses {ctx : ChannelContext} {event : String} {args : Json}
      (hname : changesOf? event args = none) : Move d (.listen ctx event args) d
  | closes {feed : Nat} {name : String} (hsubject : d.subject? feed = some (.changes name)) :
      Move d (.detach feed) ((d.forget feed).closeSession name).2
  | forgets {feed : Nat} (hsubject : ∀ name, d.subject? feed ≠ some (.changes name)) :
      Move d (.detach feed) (d.forget feed)
  | watches {ctx : ChannelContext} {command : String} {args : Json} {name : String} {request : UInt64}
      {addressed : Resource} {options : WatchOptions}
      (hrequest : FileRequest.ofCall ctx.addressing command args =
        .ok (.watch name request addressed options)) (watch : Nat) (sink : ChangeSink) :
      Move d (.call ctx command args)
        (register { d with sinks := (watch, sink) :: d.sinks } name request watch).2.2
  | unwatches {ctx : ChannelContext} {command : String} {args : Json} {name : String} {request : UInt64}
      (hrequest : FileRequest.ofCall ctx.addressing command args = .ok (.unwatch name request)) :
      Move d (.call ctx command args) (d.unregister name request).2
  | answers {ctx : ChannelContext} {command : String} {args : Json} : Move d (.call ctx command args) d

section Steps

variable {σ : Type} (p : FileProvider (StateM σ))

/-- The desk and whoever keeps the files, after an act. -/
def step (x : FileDesk × σ) : Act → FileDesk × σ
  | .listen ctx event args => ((channel p).listen ctx event args x).2
  | .detach feed => ((streams p).drop feed x).2
  | .call ctx command args => ((channel p).call ctx command args x).2

theorem step_move (x : FileDesk × σ) (a : Act) : Move x.1 a (step p x a).1 := by
  obtain ⟨d, host⟩ := x
  cases a with
  | listen ctx event args =>
      change Move d _ (listen p ctx event args d host).1.2
      rcases listen_desk d p host ctx event args with ⟨name, hname, heq⟩ | ⟨hname, heq | ⟨run, heq⟩⟩
      · exact heq ▸ .opens hname
      · exact heq.symm ▸ .refuses hname
      · exact heq ▸ .reads hname run
  | detach feed =>
      change Move d _ (drop p feed d host).1.2
      rcases drop_desk d p host feed with ⟨name, hsubject, heq⟩ | ⟨hsubject, heq⟩
      · exact heq ▸ .closes hsubject
      · exact heq ▸ .forgets hsubject
  | call ctx command args =>
      change Move d _ (call p ctx command args d host).1.2
      rw [call_desk]
      split
      · next request hrequest =>
          rcases perform_desk d p host request with
            heq | ⟨name, n, addressed, options, watch, sink, rfl, heq⟩ | ⟨name, n, rfl, heq⟩
          · exact heq.symm ▸ .answers
          · exact heq ▸ .watches hrequest watch sink
          · exact heq ▸ .unwatches hrequest
      · exact .answers

end Steps

variable {d d' : FileDesk} {a : Act}

theorem Move.numbered (hmove : Move d a d') (hnumbered : d.Numbered) : d'.Numbered := by
  cases hmove with
  | opens hname => exact hnumbered.cons rfl rfl
  | reads hname run => exact hnumbered.cons rfl (next_followRead d run)
  | closes | forgets => exact hnumbered.sublist List.filter_sublist rfl
  | watches hrequest watch sink =>
      obtain ⟨hsubjects, hfeeds⟩ := register_subjects { d with sinks := (watch, sink) :: d.sinks } _ _ watch
      exact hnumbered.sublist (by rw [hsubjects]) (by rw [hfeeds])
  | unwatches hrequest =>
      obtain ⟨hsubjects, hfeeds⟩ := unregister_subjects d _ _
      exact hnumbered.sublist (by rw [hsubjects]) (by rw [hfeeds])
  | refuses | answers => exact hnumbered

/-- What can be seen of an act: a listener comes with a session of its own, a listener goes and the session of
the name with it, or listeners and sessions stay and only what the act is about leaves a session. -/
inductive Effect (d : FileDesk) (a : Act) (d' : FileDesk) : Prop
  | opened (name : String) (feed : Nat) (addressing : Addressing) (opens : a.opens? = some name)
      (session : ∀ other, d'.session? other =
        if other = name then some ⟨feed, addressing, []⟩ else d.session? other)
      (listens : ∀ f other, d'.Listens f other ↔ f = feed ∧ other = name ∨ d.Listens f other)
  | closed (name : String) (feed : Nat) (detaches : a = .detach feed) (listened : d.Listens feed name)
      (session : ∀ other, d'.session? other = if other = name then none else d.session? other)
      (listens : ∀ f other, d'.Listens f other ↔ d.Listens f other ∧ f ≠ feed)
  | steady (opens : a.opens? = none)
      (detaches : ∀ feed name, a = .detach feed → ¬ d.Listens feed name)
      (feeds : ∀ name, (d'.session? name).map (·.feed) = (d.session? name).map (·.feed))
      (listens : ∀ f other, d'.Listens f other ↔ d.Listens f other)
      (held : ∀ name request watch, d.Holds name request watch →
        d'.Holds name request watch ∨ a.Replaces name request)

theorem listens_forget {d : FileDesk} {feed f : Nat} {name : String} :
    (d.forget feed).Listens f name ↔ d.Listens f name ∧ f ≠ feed := by
  simp [Listens, forget, List.mem_filter]

/-- A session whose watches change in one request number stays open for its listener. -/
theorem Effect.ofWatches {name : String} {request : UInt64}
    (f : List (UInt64 × Nat) → List (UInt64 × Nat)) (hopens : a.opens? = none)
    (hdetaches : ∀ feed, a ≠ .detach feed) (hreplaces : a.Replaces name request)
    (hsubjects : d'.subjects = d.subjects)
    (hsession : ∀ other, d'.session? other =
      if other = name then (d.session? name).map fun s => { s with watches := f s.watches }
      else d.session? other)
    (hkeeps : ∀ watches, ∀ entry ∈ watches, entry.1 ≠ request → entry ∈ f watches) :
    Effect d a d' := by
  refine .steady hopens (fun feed _ hdetach => absurd hdetach (hdetaches feed)) ?_ ?_ ?_
  · intro other
    rw [hsession]
    split
    · next heq => rw [heq, Option.map_map]; rfl
    · rfl
  · intro feed other
    rw [Listens, Listens, hsubjects]
  · rintro other n watch ⟨s, hs, hmem⟩
    by_cases hother : other = name
    · by_cases hn : n = request
      · exact .inr (hother ▸ hn ▸ hreplaces)
      · refine .inl ⟨{ s with watches := f s.watches }, ?_, hkeeps _ _ hmem hn⟩
        rw [hsession, if_pos hother, ← hother, hs, Option.map_some]
    · exact .inl ⟨s, by rw [hsession, if_neg hother, hs], hmem⟩

theorem Effect.ofSame (hopens : a.opens? = none)
    (hdetaches : ∀ feed name, a = .detach feed → ¬ d.Listens feed name)
    (hsessions : d'.sessions = d.sessions)
    (hlistens : ∀ f other, d'.Listens f other ↔ d.Listens f other) : Effect d a d' := by
  have hsession : ∀ name, d'.session? name = d.session? name := fun name => by
    rw [session?, session?, hsessions]
  refine .steady hopens hdetaches (fun name => by rw [hsession]) hlistens ?_
  rintro name request watch ⟨s, hs, hmem⟩
  exact .inl ⟨s, by rw [hsession, hs], hmem⟩

theorem Move.effect (hmove : Move d a d') (hnumbered : d.Numbered) : Effect d a d' := by
  cases hmove with
  | @opens ctx event args name hname =>
      refine .opened name d.feeds.next ctx.addressing hname (session?_attach d ctx.addressing name) ?_
      intro f other
      simp [Listens, attach, Feeds.start]
  | reads hname run =>
      refine .ofSame hname (fun _ _ h => by cases h) rfl ?_
      intro f other
      simp [Listens, followRead]
  | refuses hname => exact .ofSame hname (fun _ _ h => by cases h) rfl fun _ _ => Iff.rfl
  | @closes feed name hsubject =>
      exact .closed name feed rfl (mem_of_subject? hsubject) (session?_closeSession (d.forget feed) name)
        fun f other => listens_forget
  | @forgets feed hsubject =>
      have hnone : ∀ name, ¬ d.Listens feed name := fun name hlistens =>
        hsubject name (hnumbered.subject?_eq hlistens)
      refine .ofSame rfl ?_ rfl ?_
      · intro other name hdetach
        cases hdetach
        exact hnone name
      · intro f other
        rw [listens_forget]
        exact and_iff_left_of_imp fun hlistens heq => hnone other (heq ▸ hlistens)
  | @watches ctx command args name request addressed options hrequest watch sink =>
      have hreplaces : (Act.call ctx command args).Replaces name request :=
        .inr ⟨addressed, options, congrArg Except.toOption hrequest⟩
      refine .ofWatches (fun watches => watches.filter (·.1 != request) ++ [(request, watch)]) rfl
        (fun feed h => by cases h) hreplaces (register_subjects _ _ _ _).1
        (session?_register _ name request watch) ?_
      intro watches entry hentry hne
      simp [hentry, hne]
  | @unwatches ctx command args name request hrequest =>
      have hreplaces : (Act.call ctx command args).Replaces name request :=
        .inl (congrArg Except.toOption hrequest)
      refine .ofWatches (fun watches => watches.filter (·.1 != request)) rfl
        (fun feed h => by cases h) hreplaces (unregister_subjects _ _ _).1
        (session?_unregister _ name request) ?_
      intro watches entry hentry hne
      simp [hentry, hne]
  | answers => exact .ofSame rfl (fun _ _ h => by cases h) rfl fun _ _ => Iff.rfl

/-- What holds of a desk in use at any time: streams have numbers of their own, and the stream of an open
session still listens. -/
structure Sound (d : FileDesk) : Prop extends Numbered d where
  tended : ∀ name s, d.session? name = some s → d.Listens s.feed name

theorem start_sound : Sound {} where
  nodup := List.nodup_nil
  lt_next := fun _ hentry => by cases hentry
  tended := fun _ _ hsession => by cases hsession

theorem Sound.name_eq (hsound : d.Sound) {feed : Nat} {name other : String}
    (hname : d.Listens feed name) (hother : d.Listens feed other) : other = name := by
  have heq := (hsound.subject?_eq hother).symm.trans (hsound.subject?_eq hname)
  cases heq
  rfl

theorem Sound.move (hsound : d.Sound) (hmove : Move d a d') : d'.Sound := by
  refine ⟨hmove.numbered hsound.toNumbered, ?_⟩
  intro other s hs
  cases hmove.effect hsound.toNumbered with
  | opened name feed addressing opens session listens =>
      rw [listens]
      rw [session] at hs
      split at hs
      · next heq =>
          cases hs
          exact .inl ⟨rfl, heq⟩
      · exact .inr (hsound.tended other s hs)
  | closed name feed detaches listened session listens =>
      rw [session] at hs
      split at hs
      · cases hs
      · next hne =>
          have hold := hsound.tended other s hs
          refine (listens _ _).2 ⟨hold, fun heq => hne ?_⟩
          exact hsound.name_eq listened (heq ▸ hold)
  | steady opens detaches feeds listens held =>
      obtain ⟨old, hold, hfeed⟩ := Option.map_eq_some_iff.1 ((feeds other).symm.trans (congrArg _ hs))
      have hfeed : old.feed = s.feed := hfeed
      rw [listens, ← hfeed]
      exact hsound.tended other old hold

/-- A session is open exactly while a stream listens for its changes. -/
def Attended (d : FileDesk) : Prop := ∀ name, (d.session? name).isSome ↔ ∃ feed, d.Listens feed name

/-- The act as it is to be: sessions are open while they are listened to, and watches stay unless they are
taken back, asked for again, or lose the last listener. -/
structure Follows (d : FileDesk) (a : Act) (d' : FileDesk) : Prop where
  attended : d'.Attended
  held : ∀ name request watch, d.Holds name request watch →
    d'.Holds name request watch ∨ a.Replaces name request ∨
      ((∃ feed, a = .detach feed ∧ d.Listens feed name) ∧ ∀ feed, ¬ d'.Listens feed name)

/-- Nobody begins to listen where something is watched already, and nobody stops to while others listen. -/
structure Harmless (d : FileDesk) (a : Act) : Prop where
  opens : ∀ name, a.opens? = some name → ∀ request watch, ¬ d.Holds name request watch
  detaches : ∀ feed name, a = .detach feed → d.Listens feed name →
    ∀ other, d.Listens other name → other = feed

theorem Act.eq_listen {name : String} (hopens : a.opens? = some name) :
    ∃ ctx event args, a = .listen ctx event args := by
  cases a with
  | listen ctx event args => exact ⟨ctx, event, args, rfl⟩
  | detach | call => cases hopens

theorem Follows.harmless (hfollows : Follows d a d') (hsound : d.Sound) (heffect : Effect d a d') :
    Harmless d a := by
  cases heffect with
  | opened name feed addressing opens session listens =>
      obtain ⟨ctx, event, args, rfl⟩ := Act.eq_listen opens
      refine ⟨?_, fun _ _ hdetach => by cases hdetach⟩
      intro other hother request watch hholds
      rw [opens, Option.some_inj] at hother
      subst hother
      -- the new session has no watch, and the act is neither of those that may cost one
      rcases hfollows.held name request watch hholds with hnew | hreplaces | ⟨⟨_, hdetach, _⟩, _⟩
      · obtain ⟨s, hs, hmem⟩ := hnew
        rw [session, if_pos rfl, Option.some_inj] at hs
        subst hs
        cases hmem
      · rcases hreplaces with hrequest | ⟨_, _, hrequest⟩
        · cases hrequest
        · cases hrequest
      · cases hdetach
  | closed name feed detaches listened session listens =>
      -- whoever else listens finds the session closed
      subst detaches
      refine ⟨fun _ hopens => (by cases hopens), ?_⟩
      intro f other hdetach hlistens g hg
      cases hdetach
      have hname := hsound.name_eq listened hlistens
      subst hname
      by_cases heq : g = feed
      · exact heq
      · have hopen := (hfollows.attended other).2 ⟨g, (listens g other).2 ⟨hg, heq⟩⟩
        rw [session, if_pos rfl] at hopen
        cases hopen
  | steady opens detaches feeds listens held =>
      constructor
      · intro name hname
        rw [opens] at hname
        cases hname
      · intro feed name hdetach hlistens
        exact absurd hlistens (detaches feed name hdetach)

theorem Harmless.follows (hharmless : Harmless d a) (hsound : d.Sound) (hattended : d.Attended)
    (heffect : Effect d a d') : Follows d a d' := by
  cases heffect with
  | opened name feed addressing opens session listens =>
      constructor
      · intro other
        rw [session]
        split
        · next heq => exact iff_of_true rfl ⟨feed, (listens _ _).2 (.inl ⟨rfl, heq⟩)⟩
        · next hne => simp [hattended other, listens, hne]
      · rintro other request watch ⟨s, hs, hmem⟩
        by_cases heq : other = name
        · exact absurd ⟨s, heq ▸ hs, hmem⟩ (hharmless.opens name opens request watch)
        · exact .inl ⟨s, by rw [session, if_neg heq, hs], hmem⟩
  | closed name feed detaches listened session listens =>
      have halone : ∀ f, ¬ d'.Listens f name := fun f hf =>
        ((listens f name).1 hf).2 (hharmless.detaches feed name detaches listened f ((listens f name).1 hf).1)
      constructor
      · intro other
        rw [session]
        split
        · next heq =>
            subst heq
            exact iff_of_false (by simp) fun ⟨f, hf⟩ => halone f hf
        · next hne =>
            rw [hattended other]
            constructor
            · rintro ⟨f, hf⟩
              refine ⟨f, (listens _ _).2 ⟨hf, fun heq => hne ?_⟩⟩
              exact hsound.name_eq listened (heq ▸ hf)
            · rintro ⟨f, hf⟩
              exact ⟨f, ((listens _ _).1 hf).1⟩
      · rintro other request watch ⟨s, hs, hmem⟩
        by_cases heq : other = name
        · exact .inr (.inr ⟨⟨feed, detaches, heq ▸ listened⟩, heq ▸ halone⟩)
        · exact .inl ⟨s, by rw [session, if_neg heq, hs], hmem⟩
  | steady opens detaches feeds listens held =>
      constructor
      · intro name
        have hopen : (d'.session? name).isSome = (d.session? name).isSome := by
          have hsome := congrArg Option.isSome (feeds name)
          rwa [Option.isSome_map, Option.isSome_map] at hsome
        simp only [hopen, hattended name, listens]
      · intro name request watch hholds
        rcases held name request watch hholds with hkept | hreplaces
        · exact .inl hkept
        · exact .inr (.inl hreplaces)

section Runs

variable {σ : Type} (p : FileProvider (StateM σ))

/-- Every act of a run does as a rule says, in the state in which it comes. -/
def Along (rule : FileDesk → Act → FileDesk → Prop) : FileDesk × σ → List Act → Prop
  | _, [] => True
  | x, a :: acts => rule x.1 a (step p x a).1 ∧ Along rule (step p x a) acts

def after (x : FileDesk × σ) (acts : List Act) : FileDesk × σ := acts.foldl (step p) x

theorem Sound.after {x : FileDesk × σ} (hsound : x.1.Sound) (acts : List Act) :
    (after p x acts).1.Sound := by
  induction acts generalizing x with
  | nil => exact hsound
  | cons a acts ih => exact ih (hsound.move (step_move p x a))

theorem along_follows_iff {x : FileDesk × σ} (hsound : x.1.Sound) (hattended : x.1.Attended)
    (acts : List Act) :
    Along p Follows x acts ↔ Along p (fun d a _ => Harmless d a) x acts := by
  induction acts generalizing x with
  | nil => exact Iff.rfl
  | cons a acts ih =>
      have hmove := step_move p x a
      have heffect := hmove.effect hsound.toNumbered
      constructor
      · rintro ⟨hfollows, hrest⟩
        exact ⟨hfollows.harmless hsound heffect, (ih (hsound.move hmove) hfollows.attended).1 hrest⟩
      · rintro ⟨hharmless, hrest⟩
        have hfollows := hharmless.follows hsound hattended heffect
        exact ⟨hfollows, (ih (hsound.move hmove) hfollows.attended).2 hrest⟩

theorem start_attended : Attended {} := fun name =>
  iff_of_false (by simp [session?]) fun ⟨_, hlistens⟩ => by cases hlistens

/-- Whoever keeps the files: in every state that acts lead to, an open session has a listener and a watch that
is answered well is held.  Sessions and watches last just as long as somebody listens along a run in which
nobody begins to listen where something is watched already and nobody stops to while others listen, and
along no other. -/
theorem watches_last_iff (host : σ) (acts : List Act) :
    let x := after p ({}, host) acts
    (∀ name s, x.1.session? name = some s → x.1.Listens s.feed name) ∧
      (∀ name request addressed options v,
        (perform p (.watch name request addressed options) x.1 x.2).1.1 = .ok v →
        ∃ watch, (perform p (.watch name request addressed options) x.1 x.2).1.2.Holds name request watch) ∧
      (Along p Follows ({}, host) acts ↔ Along p (fun d a _ => Harmless d a) ({}, host) acts) := by
  intro x
  refine ⟨(Sound.after p start_sound acts).tended, ?_, ?_⟩
  · intro name request addressed options v hanswer
    exact holds_of_perform_watch x.1 p x.2 hanswer
  · exact along_follows_iff p start_sound start_attended acts

end Runs

/-- A client that listens for the changes of a session, watches a file in it, listens once more and takes
the second stream back. -/
def twoListeners : List Act :=
  let ctx : ChannelContext := ⟨"host:1", ⟨"host:1", ⟨"/app", "/content", "/user"⟩⟩, "token"⟩
  let file := Json.ofPairs [("authority", .str "host:1"), ("path", .str "/w/x.txt"),
    ("scheme", .str "vscode-remote")]
  [.listen ctx "fileChange" (.arr [.str "s"]), .call ctx "watch" (.arr [.str "s", Json.nat 1, file]),
    .listen ctx "fileChange" (.arr [.str "s"]), .detach 1]

/-- The desk after the first of these acts, over a script that lets everything succeed. -/
def rehearsed (count : Nat) : FileDesk :=
  (after (FileRehearsal.provider fun _ => ByteArray.empty) ({}, {}) (twoListeners.take count)).1

/-- The second listener costs the watch, and when it goes the first listens to a session that is closed. -/
theorem second_listener_costs_watches :
    (rehearsed 2).watchCount "s" = some 1 ∧ (rehearsed 3).watchCount "s" = some 0 ∧
      (rehearsed 4).watchCount "s" = none ∧ (rehearsed 4).Listens 0 "s" ∧
      ¬ Along (FileRehearsal.provider fun _ => ByteArray.empty) Follows ({}, {}) twoListeners := by
  have hclosed : (rehearsed 4).watchCount "s" = none := by decide +kernel
  have hlistens : (0, FileFeed.changes "s") ∈ (rehearsed 4).subjects := by decide +kernel
  refine ⟨by decide +kernel, by decide +kernel, hclosed, hlistens, ?_⟩
  intro halong
  obtain ⟨_, _, _, hfollows, _⟩ := halong
  have hopen : ((rehearsed 4).session? "s").isSome := (hfollows.attended "s").2 ⟨0, hlistens⟩
  have hsome := congrArg Option.isSome hclosed
  rw [watchCount, Option.isSome_map, hopen] at hsome
  cases hsome

end Workbench.FileDesk

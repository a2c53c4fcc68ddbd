import Mathlib.Data.List.Nodup
import Workbench.Proofs.Runs
import Workbench.Proofs.Terminal.Changes

/-!
Terminals on this machine in use.  A start finds its terminal and has a child made; other requests are carried out
until the child is there.  As long as a child is only given to a terminal that its number still leads to and that has
none, every child that runs is the one that its number leads to.  Otherwise a child is lost: nothing reaches it any
more, and its end takes its number out of the table, whatever child the number leads to by then.
-/

namespace Workbench.LocalTerminals

section Changes

variable {t u : LocalTerminals}

theorem vacant_iff {place : Nat} {id : UInt32} :
    t.Vacant place id ↔ ∃ x, t.terminal? id = some (place, x) ∧ x.child = none := by
  rw [Vacant, Option.map_eq_some_iff]
  constructor
  · rintro ⟨⟨place', x⟩, hfound, heq⟩
    obtain ⟨rfl, hchild⟩ := Prod.mk.inj heq
    exact ⟨x, hfound, hchild⟩
  · rintro ⟨x, hfound, hchild⟩
    exact ⟨(place, x), hfound, by rw [hchild]⟩

theorem Alike.stored (h : Alike t u) (id : UInt32) : u.stored id = t.stored id := by
  rw [LocalTerminals.stored, h.terminal?, LocalTerminals.stored]

/-- From a host that reaches its children, just what is orderly leads to such a host. -/
theorem Sound.reached_iff (hsound : t.Sound) (hreached : t.Reached) {orderly : Prop}
    (hchange : Change t u orderly) : u.Reached ↔ orderly := by
  rw [reached_iff_stored] at hreached ⊢
  cases hchange with
  | same alike =>
      refine iff_of_true (fun c id hmark => ?_) trivial
      rw [alike.marks] at hmark
      rw [alike.stored]
      exact hreached c id hmark
  | registers request =>
      constructor
      · intro hstill
        by_contra hsome
        obtain ⟨c, hstored⟩ := Option.ne_none_iff_exists'.1 hsome
        have hlost := hstill c t.nextId (hsound.mark_of_stored hstored)
        rw [stored_create t hsound.placed, if_pos rfl] at hlost
        cases hlost
      · intro hnobody c id hmark
        have hstored : t.stored id = some c := hreached c id hmark
        have hne : id ≠ t.nextId := by
          rintro rfl
          rw [hnobody] at hstored
          cases hstored
        rw [stored_create t hsound.placed, if_neg hne]
        exact hstored
  | starts place x tty found =>
      rw [vacant_iff]
      constructor
      · intro hstill
        have hnew : (t.launched place x (.ok tty)).2.stored x.id = some t.marks.length :=
          hstill _ _ (mark_launched_iff.2 (.inr ⟨rfl, rfl, rfl⟩))
        -- no child can have been running under the number, for it would still have to be stored there
        have hnobody : ∀ c : ChildId, t.marks[c]? ≠ some (x.id, false) := by
          intro c hmark
          have hold := hstill c x.id (mark_launched_iff.2 (.inl hmark))
          rw [hnew] at hold
          exact Nat.ne_of_gt (List.getElem?_eq_some_iff.1 hmark).1 (Option.some.inj hold)
        rw [stored_launched] at hnew
        obtain ⟨⟨place', y⟩, hfound, hchild⟩ := Option.bind_eq_some_iff.1 hnew
        have hnone : y.child = none := by
          by_contra hsome
          obtain ⟨c, hc⟩ := Option.ne_none_iff_exists'.1 hsome
          exact hnobody c ((hsound.leads x.id place' y hfound).2 c hc)
        have hplace : place' = place := by
          by_contra hne
          simp only [hne, if_false, hnone] at hchild
          cases hchild
        exact ⟨y, hplace ▸ hfound, hnone⟩
      · rintro ⟨y, hfound, hchild⟩ c id hmark
        rw [stored_launched]
        rcases mark_launched_iff.1 hmark with hmark | ⟨rfl, rfl, -⟩
        · obtain ⟨⟨place', z⟩, hz, hc⟩ := Option.bind_eq_some_iff.1 (hreached c id hmark)
          have hplace : place' ≠ place := by
            rintro rfl
            have hsame := (t.mem_terminals_of_terminal? hz).symm.trans (t.mem_terminals_of_terminal? hfound)
            have hc : z.child = some c := hc
            rw [Option.some.inj hsame, hchild] at hc
            cases hc
          simpa [hz, hplace] using hc
        · simp [hfound]
  | unlists id childless =>
      refine iff_of_true (fun c other hmark => ?_) trivial
      have hstored : t.stored other = some c := hreached c other hmark
      have hne : other ≠ id := by
        rintro rfl
        rw [childless] at hstored
        cases hstored
      rw [stored_unlist, if_neg hne]
      exact hstored
  | ends alike c id status running =>
      refine iff_of_true (fun c' other hmark => ?_) trivial
      have hrunning := alike.marks ▸ running
      rcases (mark_tellEnd_iff hrunning status).1 hmark with ⟨-, -, htold⟩ | ⟨hc, hmark⟩
      · cases htold
      · have hstored := hreached c' other (alike.marks ▸ hmark)
        have hne : other ≠ id := by
          rintro rfl
          rw [hreached c other running] at hstored
          exact hc (Option.some.inj hstored).symm
        rw [stored, terminal?_tellEnd hrunning, if_neg hne, alike.terminal?]
        exact hstored

/-- A terminal keeps its place and its number. -/
theorem Change.id_kept {orderly : Prop} (hchange : Change t u orderly) {place : Nat} {id : UInt32}
    (hid : t.terminals[place]?.map (·.id) = some id) : u.terminals[place]?.map (·.id) = some id := by
  cases hchange with
  | same alike => rwa [alike.terminals]
  | registers request =>
      obtain ⟨x, hx, rfl⟩ := Option.map_eq_some_iff.1 hid
      have hlt := (List.getElem?_eq_some_iff.1 hx).1
      have hsame : (t.create request).2.terminals[place]? = t.terminals[place]? := List.getElem?_append_left hlt
      rw [hsame, hx, Option.map_some]
  | starts place' x tty found =>
      obtain ⟨y, hy, rfl⟩ := Option.map_eq_some_iff.1 hid
      rw [terminals_launched, List.getElem?_modify, hy, Option.map_eq_map, Option.map_some, Option.map_some]
      split <;> rfl
  | unlists other childless => exact hid
  | ends alike c other status running =>
      obtain ⟨-, hterminals, -⟩ := tellEnd_of_mark (alike.marks ▸ running) status
      rwa [hterminals, alike.terminals]

/-- Every child is the child of a terminal with its number. -/
def Owned (t : LocalTerminals) : Prop :=
  ∀ (c : ChildId) (id : UInt32) (told : Bool), t.marks[c]? = some (id, told) →
    ∃ (place : Nat) (x : LocalTerminal), t.terminals[place]? = some x ∧ x.child = some c ∧ x.id = id

theorem Owned.change (howned : t.Owned) {orderly : Prop} (hchange : Change t u orderly) (horderly : orderly) :
    u.Owned := by
  intro c id told hmark
  cases hchange with
  | same alike =>
      rw [alike.terminals]
      rw [alike.marks] at hmark
      exact howned c id told hmark
  | registers request =>
      obtain ⟨place, x, hx, hchild, hid⟩ := howned c id told hmark
      have hlt := (List.getElem?_eq_some_iff.1 hx).1
      exact ⟨place, x, (List.getElem?_append_left hlt).trans hx, hchild, hid⟩
  | starts place x tty found =>
      obtain ⟨y, hfound, hnone⟩ := vacant_iff.1 horderly
      have hy := t.mem_terminals_of_terminal? hfound
      rw [terminals_launched]
      rcases mark_launched_iff.1 hmark with hmark | ⟨hc, hid, -⟩
      · obtain ⟨place', z, hz, hchild, hid⟩ := howned c id told hmark
        have hne : place ≠ place' := by
          rintro rfl
          rw [hy] at hz
          rw [← Option.some.inj hz, hnone] at hchild
          cases hchild
        refine ⟨place', z, ?_, hchild, hid⟩
        rw [List.getElem?_modify_ne _ _ hne, hz]
      · have hlength : t.marks.length = t.children.length := List.length_map ..
        rw [hy] at found
        refine ⟨place, { y with child := some t.children.length }, ?_, by rw [hc, hlength],
          (Option.some.inj found).trans hid⟩
        rw [List.getElem?_modify_eq, hy]
        rfl
  | unlists other childless => exact howned c id told hmark
  | ends alike c' other status running =>
      have hrunning := alike.marks ▸ running
      obtain ⟨-, hterminals, -⟩ := tellEnd_of_mark hrunning status
      rw [hterminals, alike.terminals]
      rcases (mark_tellEnd_iff hrunning status).1 hmark with ⟨rfl, rfl, -⟩ | ⟨-, hmark⟩
      · exact howned c other false running
      · exact howned c id told (alike.marks ▸ hmark)

/-- The only listener is sent what is fired, and stays attached. -/
theorem fire_sole {e : Emitter Json} {queue : Array Json} (hlisteners : e.listeners = [{ id := 0, queue }])
    (hattached : e.attached = [0]) (value : Json) :
    (e.fire value).listeners = [{ id := 0, queue := queue.push value }] ∧ (e.fire value).attached = [0] := by
  simp [Emitter.fire, Emitter.reaches, hlisteners, hattached]

/-- The end of a child as it is told: under which number, and with which status. -/
structure Ending where
  child : ChildId
  id : UInt32
  status : Nat

/-- What has been told is the ends of the children that have ended, each once. -/
structure Told (t : LocalTerminals) (ends : List Ending) : Prop where
  heard : t.exits.listeners =
    [{ id := 0, queue := (ends.map fun e => processEvent e.id (Json.nat e.status)).toArray }]
  attached : t.exits.attached = [0]
  once : (ends.map Ending.child).Nodup
  told : ∀ (c : ChildId) (id : UInt32), t.marks[c]? = some (id, true) ↔ ∃ status, ⟨c, id, status⟩ ∈ ends

theorem Told.change {ends : List Ending} (h : t.Told ends) {orderly : Prop} (hchange : Change t u orderly) :
    ∃ ends', u.Told ends' := by
  cases hchange with
  | same alike =>
      refine ⟨ends, ?_, ?_, h.once, fun c id => ?_⟩
      · rw [alike.exits]
        exact h.heard
      · rw [alike.exits]
        exact h.attached
      · rw [alike.marks]
        exact h.told c id
  | registers request | unlists id childless => exact ⟨ends, h.heard, h.attached, h.once, h.told⟩
  | starts place x tty found =>
      refine ⟨ends, h.heard, h.attached, h.once, fun c id => ?_⟩
      rw [mark_launched_iff, ← h.told]
      simp
  | ends alike c id status running =>
      have hrunning := alike.marks ▸ running
      obtain ⟨-, -, -, -, hexits⟩ := tellEnd_of_mark hrunning status
      have hnew : ∀ id' status', ⟨c, id', status'⟩ ∉ ends := by
        intro id' status' hmem
        have hmark := (h.told c id').2 ⟨status', hmem⟩
        rw [running] at hmark
        cases hmark
      obtain ⟨hheard, hattached⟩ := fire_sole h.heard h.attached (processEvent id (Json.nat status))
      refine ⟨ends ++ [⟨c, id, status⟩], ?_, ?_, ?_, fun c' other => ?_⟩
      · rw [hexits, alike.exits, hheard]
        simp
      · rw [hexits, alike.exits, hattached]
      · rw [List.map_append]
        refine h.once.append (List.nodup_singleton _) (List.disjoint_singleton.2 fun hold => ?_)
        obtain ⟨⟨c', id', status'⟩, hmem, rfl⟩ := List.mem_map.1 hold
        exact hnew id' status' hmem
      · rw [mark_tellEnd_iff hrunning, alike.marks, h.told]
        by_cases hc : c' = c
        · subst hc
          simp [hnew, eq_comm]
        · simp [hc]

/-- Numbers are different as long as they do not begin again. -/
theorem place_eq_of_number {place place' : Nat} (hlt : place < UInt32.size) (hlt' : place' < UInt32.size)
    (hnumbers : UInt32.ofNat (place + 1) = UInt32.ofNat (place' + 1)) : place = place' := by
  have hrests : (place + 1) % UInt32.size = (place' + 1) % UInt32.size := by
    simpa only [UInt32.toNat_ofNat'] using congrArg UInt32.toNat hnumbers
  simp only [UInt32.size] at hlt hlt' hrests
  omega

/-- As long as every number has been given out once, no two children have one number. -/
theorem Sound.child_unique (hsound : t.Sound) (howned : t.Owned) (hfew : t.terminals.length ≤ UInt32.size)
    {c c' : ChildId} {id : UInt32} {told told' : Bool} (hmark : t.marks[c]? = some (id, told))
    (hmark' : t.marks[c']? = some (id, told')) : c = c' := by
  obtain ⟨place, x, hx, hchild, hid⟩ := howned c id told hmark
  obtain ⟨place', y, hy, hchild', hid'⟩ := howned c' id told' hmark'
  have hlt := Nat.lt_of_lt_of_le (List.getElem?_eq_some_iff.1 hx).1 hfew
  have hlt' := Nat.lt_of_lt_of_le (List.getElem?_eq_some_iff.1 hy).1 hfew
  have hnumbers : UInt32.ofNat (place + 1) = UInt32.ofNat (place' + 1) := by
    rw [← hsound.ids place x hx, ← hsound.ids place' y hy, hid, hid']
  obtain rfl := place_eq_of_number hlt hlt' hnumbers
  rw [hx] at hy
  rw [Option.some.inj hy] at hchild
  exact Option.some.inj (hchild.symm.trans hchild')

/-- Before all numbers have been given out, the next one leads to nothing. -/
theorem Sound.stored_nextId (hsound : t.Sound) (hfew : t.terminals.length < UInt32.size) :
    t.stored t.nextId = none := by
  cases hstored : t.stored t.nextId with
  | none => rfl
  | some c =>
      obtain ⟨⟨place, x⟩, hfound, -⟩ := Option.bind_eq_some_iff.1 hstored
      have hx := t.mem_terminals_of_terminal? hfound
      have hlt := (List.getElem?_eq_some_iff.1 hx).1
      have hnumbers : UInt32.ofNat (place + 1) = UInt32.ofNat (t.terminals.length + 1) := by
        rw [← hsound.ids place x hx, (hsound.leads _ place x hfound).1, hsound.next]
      have hplace := place_eq_of_number (Nat.lt_trans hlt hfew) hfew hnumbers
      exact absurd hplace (Nat.ne_of_lt hlt)

end Changes

/-- What can happen to a host of terminals. -/
inductive Event where
  | created (request : ProcessRequest)
  /-- A start finds its terminal and has a child made. -/
  | asked (id : UInt32)
  /-- The child of a start is there, or could not be made. -/
  | launched (start : Nat) (made : Except String Tty)
  | shutDown (id : UInt32) (disk : Disk)
  /-- Something is typed, or the size changes. -/
  | typed (id : UInt32) (f : Tty → Tty)
  /-- A child runs on. -/
  | ran (child : ChildId) (disk : Disk)

/-- A host with the starts under way, each with the terminal it has found and its place. -/
structure Hosting where
  host : LocalTerminals
  starts : List (Nat × LocalTerminal) := []

/-- A host where somebody has listened for ends from the beginning. -/
def attended : LocalTerminals := { exits := ({} : Emitter Json).subscribe.2.2 }

namespace Hosting

def step (s : Hosting) : Event → Hosting
  | .created request => { s with host := (s.host.create request).2 }
  | .asked id => { s with starts := s.starts ++ (s.host.terminal? id).toList }
  | .launched start made =>
    match s.starts[start]? with
    | some (place, x) => ⟨(s.host.launched place x made).2, s.starts.eraseIdx start⟩
    | none => s
  | .shutDown id disk => { s with host := (s.host.shutdown disk id).2 }
  | .typed id f => { s with host := (s.host.onChild id f).2 }
  | .ran child disk => { s with host := s.host.turn disk child }

def run (s : Hosting) (events : List Event) : Hosting := events.foldl step s

/-- What is known of every host in use: whoever starts a terminal has found one. -/
structure Sound (s : Hosting) : Prop where
  host : s.host.Sound
  starts : ∀ found ∈ s.starts, s.host.terminals[found.1]?.map (·.id) = some found.2.id

/-- No number is given out that leads to a child, and a child is only given to a terminal that its number still
leads to and that has none. -/
def Admits (s : Hosting) : Event → Prop
  | .created _ => s.host.stored s.host.nextId = none
  | .launched start (.ok _) => ∀ found ∈ s.starts[start]?, s.host.Vacant found.1 found.2.id
  | _ => True

instance (s : Hosting) : (e : Event) → Decidable (s.Admits e)
  | .created _ => inferInstanceAs (Decidable (s.host.stored s.host.nextId = none))
  | .launched start (.ok _) =>
    inferInstanceAs (Decidable (∀ found ∈ s.starts[start]?, s.host.Vacant found.1 found.2.id))
  | .launched _ (.error _) | .asked _ | .shutDown _ _ | .typed _ _ | .ran _ _ => inferInstanceAs (Decidable True)

def Orderly (s : Hosting) (events : List Event) : Prop := Throughout step Admits s events

instance (s : Hosting) (events : List Event) : Decidable (s.Orderly events) := decidableThroughout step Admits s events

variable {s : Hosting}

theorem Sound.change (hsound : s.Sound) (e : Event) : Change s.host (s.step e).host (s.Admits e) := by
  cases e with
  | created request => exact .registers request
  | asked id => exact .same (.refl _)
  | launched start made =>
      cases hstart : s.starts[start]? with
      | none =>
          have hidle : s.step (.launched start made) = s := by simp only [step, hstart]
          rw [hidle]
          cases made with
          | error reason => exact .same (.refl _)
          | ok tty =>
              have hadmits : s.Admits (.launched start (.ok tty)) = True := by simp [Admits, hstart]
              rw [hadmits]
              exact .same (.refl _)
      | some found =>
          obtain ⟨place, x⟩ := found
          have hstep : (s.step (.launched start made)).host = (s.host.launched place x made).2 := by
            simp only [step, hstart]
          rw [hstep]
          cases made with
          | error reason => exact .same (.refl _)
          | ok tty =>
              have hadmits : s.Admits (.launched start (.ok tty)) = s.host.Vacant place x.id := by
                simp [Admits, hstart]
              rw [hadmits]
              exact .starts place x tty (hsound.starts (place, x) (List.mem_of_getElem? hstart))
  | shutDown id disk => exact hsound.host.shutdown_change disk id
  | typed id f => exact onChild_change s.host id f
  | ran child disk => exact turn_change disk s.host child

theorem Sound.step (hsound : s.Sound) (e : Event) : (s.step e).Sound := by
  have hchange := hsound.change e
  refine ⟨hsound.host.change hchange, fun found hfound => ?_⟩
  have hknown : found ∈ s.starts → (s.step e).host.terminals[found.1]?.map (·.id) = some found.2.id :=
    fun hold => hchange.id_kept (hsound.starts found hold)
  cases e with
  | asked id =>
      rcases List.mem_append.1 hfound with hold | hnew
      · exact hknown hold
      · have hthere : s.host.terminal? id = some found := by simpa using hnew
        have hx := s.host.mem_terminals_of_terminal? hthere
        exact congrArg (Option.map (·.id)) hx
  | launched start made =>
      apply hknown
      cases hstart : s.starts[start]? with
      | none => simpa only [Hosting.step, hstart] using hfound
      | some other =>
          simp only [Hosting.step, hstart] at hfound
          exact List.mem_of_mem_eraseIdx hfound
  | created _ | shutDown _ _ | typed _ _ | ran _ _ => exact hknown hfound

theorem attended_sound : Sound { host := attended } where
  host := ⟨by simp [Placed, attended], by simp [terminal?, attended], by simp [attended], rfl⟩
  starts := by simp

theorem Sound.run (hsound : s.Sound) (events : List Event) : (s.run events).Sound := by
  induction events generalizing s with
  | nil => exact hsound
  | cons e events ih => exact ih (hsound.step e)

/-- A start with nothing in between is made of its two events. -/
theorem run_start {id : UInt32} {place : Nat} {x : LocalTerminal} (hfound : s.host.terminal? id = some (place, x))
    (disk : Disk) (env : Vars) :
    s.run [.asked id, .launched s.starts.length (spawn disk env x.request)] =
      { s with host := (start disk env s.host id).2 } := by
  have hstart : start disk env s.host id = s.host.launched place x (spawn disk env x.request) := by
    simp only [start, s.host.find_eq_ok_iff.2 hfound]
  rw [hstart]
  simp [run, step, hfound, List.eraseIdx_append_of_length_le]

/-- All children are within reach all the time just if everything is orderly. -/
theorem Sound.reached_iff_orderly (hsound : s.Sound) (hreached : s.host.Reached) (events : List Event) :
    (∀ before, before <+: events → (s.run before).host.Reached) ↔ s.Orderly events := by
  have hstep : ∀ (s : Hosting) (e : Event), s.Sound → s.host.Reached →
      ((s.step e).host.Reached ↔ s.Admits e) :=
    fun s e hsound hreached => hsound.host.reached_iff hreached (hsound.change e)
  exact forall_prefix_iff_throughout Hosting.step (fun _ e hsound => hsound.step e) hstep hsound hreached events

theorem Sound.owned (hsound : s.Sound) (howned : s.host.Owned) {events : List Event}
    (horderly : s.Orderly events) : (s.run events).host.Owned := by
  induction events generalizing s with
  | nil => exact howned
  | cons e events ih =>
      exact ih (hsound.step e) (howned.change (hsound.change e) horderly.1) horderly.2

theorem Sound.told (hsound : s.Sound) {ends : List Ending} (htold : s.host.Told ends)
    (events : List Event) : ∃ ends, (s.run events).host.Told ends := by
  induction events generalizing s ends with
  | nil => exact ⟨ends, htold⟩
  | cons e events ih =>
      obtain ⟨ends', htold'⟩ := htold.change (hsound.change e)
      exact ih (hsound.step e) htold'

end Hosting

/-- Along any run: each end of a child is told once.  All children that have not ended are within reach all the time
just if the run is orderly, and then input, sizes and the end of a terminal reach the child that runs under its
number.  If the run is orderly and no number has been given out twice, one end at most is told under each number.
Before all numbers have been given out, the next one leads to no child.  A start that nothing comes in between of
is a start that is asked for and launched. -/
theorem children_reached_iff_orderly (events : List Event) :
    let s := Hosting.run { host := attended } events
    (∃ ends, s.host.Told ends ∧
      (Hosting.Orderly { host := attended } events → s.host.terminals.length ≤ UInt32.size →
        (ends.map Ending.id).Nodup)) ∧
    ((∀ before, before <+: events → (Hosting.run { host := attended } before).host.Reached) ↔
      Hosting.Orderly { host := attended } events) ∧
    (s.host.Reached → ∀ c child, s.host.children[c]? = some child → child.told = false →
      (∀ f, s.host.onChild child.terminal f = (.ok (), s.host.setTty c f)) ∧
        ∀ disk, shutdown disk s.host child.terminal =
          (.ok (), s.host.setTty c fun tty => (tty.run disk.isDir).kill)) ∧
    (s.host.terminals.length < UInt32.size → s.host.stored s.host.nextId = none) ∧
    ∀ id place x, s.host.terminal? id = some (place, x) → ∀ disk env,
      s.run [.asked id, .launched s.starts.length (spawn disk env x.request)] =
        { s with host := (start disk env s.host id).2 } := by
  intro s
  have hstart : Hosting.Sound { host := attended } := Hosting.attended_sound
  have hsound : s.Sound := hstart.run events
  have hreached : attended.Reached := by
    intro c child hchild
    cases hchild
  have howned : attended.Owned := by
    intro c id told hmark
    cases hmark
  have htold : attended.Told [] := ⟨rfl, rfl, List.nodup_nil, by simp [attended, marks]⟩
  obtain ⟨ends, hends⟩ := hstart.told htold events
  refine ⟨⟨ends, hends, fun horderly hfew => ?_⟩, hstart.reached_iff_orderly hreached events, ?_,
    hsound.host.stored_nextId, fun _ _ _ hfound disk env => Hosting.run_start hfound disk env⟩
  · have howned' := hstart.owned howned horderly
    refine List.pairwise_map.2 ((List.pairwise_map.1 hends.once).imp_of_mem ?_)
    rintro ⟨c, id, status⟩ ⟨c', id', status'⟩ he he' hne heq
    have hmark := (hends.told c id).2 ⟨status, he⟩
    have hmark' := (hends.told c' id').2 ⟨status', he'⟩
    have hsame : id = id' := heq
    exact hne (hsound.host.child_unique howned' hfew hmark (hsame ▸ hmark'))
  · intro hall c child hchild hrunning
    have hfound := hall c child hchild hrunning
    refine ⟨fun f => by simp only [onChild, hfound], fun disk => ?_⟩
    obtain ⟨⟨place, x⟩, hthere, -⟩ := Option.bind_eq_some_iff.1 (s.host.childOf_eq_ok_iff.1 hfound).1
    simp only [shutdown, s.host.find_eq_ok_iff.2 hthere, hfound]

/-- A terminal that asks for nothing special. -/
def plainRequest : ProcessRequest :=
  { launch := {}, cwd := "/", cols := 80, rows := 24, unicodeVersion := "", env := [], persistent := true,
    workspaceId := "", workspaceName := "" }

/-- A child that ends as soon as it runs. -/
def brief (status : Nat) : Tty := { process := { program := .exit status, dir := "/" }, rows := 24, cols := 80 }

/-- Two terminals are started at the same time; the first child could not be made and is asked for again. -/
def twoStarts : List Event := [
  .created plainRequest,
  .created plainRequest,
  .asked 1,
  .asked 2,
  .launched 1 (.ok (brief 0)),
  .launched 0 (.error "no such file"),
  .ran 0 {},
  .asked 1,
  .launched 0 (.ok (brief 3))]

theorem children_reached_iff_orderly_twoStarts :
    let s := Hosting.run { host := attended } twoStarts
    Hosting.Orderly { host := attended } twoStarts ∧ s.host.marks = [(2, true), (1, false)] ∧ s.host.Reached := by
  have horderly : Hosting.Orderly { host := attended } twoStarts := by decide +kernel
  obtain ⟨-, hreached, -, -, -⟩ := children_reached_iff_orderly twoStarts
  exact ⟨horderly, by decide +kernel, hreached.2 horderly twoStarts (List.prefix_refl twoStarts)⟩

/-- A terminal is started once more while its child runs. -/
def restarted : List Event := [
  .created plainRequest,
  .asked 1,
  .launched 0 (.ok (brief 3)),
  .asked 1,
  .launched 0 (.ok (brief 3))]

/-- After a second start the first child is out of reach, and two ends are told under one number. -/
theorem restart_loses_child :
    let s := Hosting.run { host := attended } restarted
    let last := s.run [.ran 0 {}, .ran 1 {}]
    s.host.marks = [(1, false), (1, false)] ∧ s.host.stored 1 = some 1 ∧ ¬s.host.Reached ∧
      last.host.exits.listeners.map (fun l => l.queue.toList) =
        [[processEvent 1 (Json.nat 3), processEvent 1 (Json.nat 3)]] := by
  refine ⟨by decide +kernel, by decide +kernel, fun hreached => ?_, by decide +kernel⟩
  have hfirst := (reached_iff_stored _).1 hreached 0 1 (by decide +kernel)
  revert hfirst
  decide +kernel

/-- A terminal is taken out of the table while its child is being made, and nothing reaches the child. -/
theorem shutdown_amid_start_loses_child :
    let s := Hosting.run { host := attended }
      [.created plainRequest, .asked 1, .shutDown 1 {}, .launched 0 (.ok (brief 3))]
    s.host.marks = [(1, false)] ∧ s.host.stored 1 = none ∧ ¬s.host.Reached := by
  refine ⟨by decide +kernel, by decide +kernel, fun hreached => ?_⟩
  have hchild := (reached_iff_stored _).1 hreached 0 1 (by decide +kernel)
  revert hchild
  decide +kernel

end Workbench.LocalTerminals

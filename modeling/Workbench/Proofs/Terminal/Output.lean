import Workbench.Proofs.Terminal.Children
import Workbench.Proofs.Terminal.Transcript

/-!
What a host of terminals tells of the output of its children.  Each child is read from a piece at a time until its end
is told, whatever else goes on, and what is told of it is told of these pieces and of nothing else.  So all of its
output is told as it would be read without a cut if no piece breaks a character, and settled outputs are told so
whatever the pieces are.
-/

namespace Workbench.LocalTerminals

open Terminal (takeText Transcript Unbroken Settled)

/-- The terminals of the children, and what is kept of what has been read from them. -/
def voices (t : LocalTerminals) : List (UInt32 × Bytes) := t.children.map fun c => (c.terminal, c.unread)

section Changes

variable {t u v : LocalTerminals}

/-- Nothing is read, and nothing told of what has been read. -/
structure Quiet (t u : LocalTerminals) : Prop where
  voices : u.voices = t.voices
  data : u.data = t.data

theorem Quiet.refl (t : LocalTerminals) : Quiet t t := ⟨rfl, rfl⟩

theorem voice_eq_some_iff {c : ChildId} {id : UInt32} {unread : Bytes} :
    t.voices[c]? = some (id, unread) ↔
      ∃ child, t.children[c]? = some child ∧ child.terminal = id ∧ child.unread = unread := by
  simp [voices]

theorem voices_set (t : LocalTerminals) (c : ChildId) (child : Child) :
    { t with children := t.children.set c child }.voices = t.voices.set c (child.terminal, child.unread) := by
  simp only [voices, List.map_set]

theorem quiet_setTty (t : LocalTerminals) (c : ChildId) (f : Tty → Tty) : Quiet t (t.setTty c f) := by
  refine ⟨List.ext_getElem? fun i => ?_, rfl⟩
  simp only [voices, setTty, List.getElem?_map, List.getElem?_modify]
  cases t.children[i]? with
  | none => rfl
  | some child => by_cases heq : c = i <;> simp [heq]

theorem quiet_onChild (t : LocalTerminals) (id : UInt32) (f : Tty → Tty) : Quiet t (t.onChild id f).2 := by
  rw [onChild]
  rcases t.childOf id with fault | ⟨c, child⟩
  · exact .refl t
  · exact quiet_setTty t c f

theorem quiet_shutdown (disk : Disk) (t : LocalTerminals) (id : UInt32) : Quiet t (shutdown disk t id).2 := by
  rw [shutdown]
  rcases t.find id with fault | found
  · exact .refl t
  · rcases t.childOf id with fault | ⟨c, child⟩
    · exact ⟨rfl, rfl⟩
    · exact quiet_setTty t c fun tty => (tty.run disk.isDir).kill

theorem quiet_tellEnd (t : LocalTerminals) (c : ChildId) (status : Nat) : Quiet t (t.tellEnd c status) := by
  rw [tellEnd]
  cases hchild : t.children[c]? with
  | none => exact .refl t
  | some child =>
      obtain ⟨hlt, hvoice⟩ := List.getElem?_eq_some_iff.1 (voice_eq_some_iff.2 ⟨child, hchild, rfl, rfl⟩)
      refine ⟨(voices_set t c { child with told := true }).trans ?_, rfl⟩
      rw [← hvoice]
      exact List.set_getElem_self hlt

/-- What becomes of the voices and of what is told: nothing, a child is added, or a piece is read from one and what is
complete is told. -/
inductive Voicing (t : LocalTerminals) : LocalTerminals → List (ChildId × Bytes) → Prop
  | silent {u : LocalTerminals} (quiet : Quiet t u) : Voicing t u []
  | joins {u : LocalTerminals} (id : UInt32) (voices : u.voices = t.voices ++ [(id, [])]) (data : u.data = t.data) :
      Voicing t u []
  | speaks {u : LocalTerminals} {c : ChildId} {id : UInt32} {unread piece kept : Bytes} {text : String}
      (voice : t.voices[c]? = some (id, unread)) (taken : takeText (unread ++ piece) = (text, kept))
      (voices : u.voices = t.voices.set c (id, kept))
      (data : u.data = if text.isEmpty then t.data else t.data.fire (processEvent id (.str text))) :
      Voicing t u [(c, piece)]

theorem Voicing.after_quiet {reads : List (ChildId × Bytes)} (hquiet : Quiet t u) (h : Voicing u v reads) :
    Voicing t v reads := by
  obtain ⟨hvoices, hdata⟩ := hquiet
  cases h with
  | silent quiet => exact .silent ⟨quiet.voices.trans hvoices, quiet.data.trans hdata⟩
  | joins id voices data => exact .joins id (hvoices ▸ voices) (data.trans hdata)
  | speaks voice taken voices data => exact .speaks (hvoices ▸ voice) taken (hvoices ▸ voices) (hdata ▸ data)

theorem Voicing.quiet_after {reads : List (ChildId × Bytes)} (h : Voicing t u reads) (hquiet : Quiet u v) :
    Voicing t v reads := by
  obtain ⟨hvoices, hdata⟩ := hquiet
  cases h with
  | silent quiet => exact .silent ⟨hvoices.trans quiet.voices, hdata.trans quiet.data⟩
  | joins id voices data => exact .joins id (hvoices.trans voices) (hdata.trans data)
  | speaks voice taken voices data => exact .speaks voice taken (hvoices.trans voices) (hdata.trans data)

theorem voicing_tellOutput {c : ChildId} {child : Child} (hchild : t.children[c]? = some child) (piece : Bytes) :
    Voicing t (t.tellOutput c piece) [(c, piece)] := by
  have hvoice : t.voices[c]? = some (child.terminal, child.unread) := voice_eq_some_iff.2 ⟨child, hchild, rfl, rfl⟩
  rcases htaken : takeText (child.unread ++ piece) with ⟨text, kept⟩
  refine .speaks hvoice htaken ?_ ?_
  · simp only [tellOutput, hchild, htaken]
    split <;> exact voices_set t c { child with unread := kept }
  · simp only [tellOutput, hchild, htaken]
    split <;> rfl

theorem voicing_launched (t : LocalTerminals) (place : Nat) (x : LocalTerminal) (made : Except String Tty) :
    Voicing t (t.launched place x made).2 [] := by
  cases made with
  | error reason => exact .silent (.refl t)
  | ok tty => exact .joins x.id (by simp [voices, launched, addChild, attach, fireReady]) rfl

/-- A child is there, and its end has not been told. -/
def running (t : LocalTerminals) (c : ChildId) : Bool := t.children[c]?.any fun child => !child.told

/-- What is read when a child runs on. -/
def pieceOf (disk : Disk) (t : LocalTerminals) (c : ChildId) : List (ChildId × Bytes) :=
  (t.children[c]?.filter fun child => !child.told).toList.map fun child =>
    (c, (child.tty.run disk.isDir).takeScreen.1)

theorem voicing_turn (disk : Disk) (t : LocalTerminals) (c : ChildId) :
    Voicing t (turn disk t c) (pieceOf disk t c) := by
  rw [turn, pieceOf]
  cases hchild : t.children[c]? with
  | none => exact .silent (.refl t)
  | some child =>
      dsimp only
      cases htold : child.told with
      | true =>
          simp only [Option.filter_some, htold]
          exact .silent (.refl t)
      | false =>
          simp only [Option.filter_some, htold, Bool.false_eq_true, if_false]
          have hthere : (t.setTty c fun _ => (child.tty.run disk.isDir).takeScreen.2).children[c]? =
              some { child with tty := (child.tty.run disk.isDir).takeScreen.2 } := by
            simp [setTty, hchild]
          have hsaid := (voicing_tellOutput hthere (child.tty.run disk.isDir).takeScreen.1).after_quiet
            (quiet_setTty t c _)
          split
          · exact hsaid.quiet_after (quiet_tellEnd _ _ _)
          · exact hsaid

/-- The end of a child has been told. -/
def Over (t : LocalTerminals) (c : ChildId) : Prop := ∃ id, t.marks[c]? = some (id, true)

theorem Over.not_running {c : ChildId} (h : t.Over c) : t.running c = false := by
  obtain ⟨id, hmark⟩ := h
  obtain ⟨child, hchild, -, htold⟩ := t.mark_eq_some_iff.1 hmark
  simp [running, hchild, htold]

theorem Over.change {c : ChildId} (h : t.Over c) {orderly : Prop} (hchange : Change t u orderly) : u.Over c := by
  obtain ⟨id, hmark⟩ := h
  cases hchange with
  | same alike => exact ⟨id, alike.marks ▸ hmark⟩
  | registers request | unlists other childless => exact ⟨id, hmark⟩
  | starts place x tty found => exact ⟨id, mark_launched_iff.2 (.inl hmark)⟩
  | ends alike c' other status running =>
      have hmark : _ = some (id, true) := alike.marks ▸ hmark
      have hrunning := alike.marks ▸ running
      refine ⟨id, (mark_tellEnd_iff hrunning status).2 (.inr ⟨?_, hmark⟩)⟩
      rintro rfl
      rw [hmark] at hrunning
      cases hrunning

end Changes

/-- A text that has been told of a child, under the number of its terminal. -/
structure Saying where
  child : ChildId
  id : UInt32
  text : String

/-- What has been told of a child. -/
def wordsOf (told : List Saying) (c : ChildId) : String :=
  String.join ((told.filter fun s => s.child == c).map Saying.text)

/-- The pieces that have been read from a child. -/
def piecesOf (reads : List (ChildId × Bytes)) (c : ChildId) : List Bytes :=
  (reads.filter fun r => r.1 == c).map Prod.snd

theorem wordsOf_concat (told : List Saying) (s : Saying) (c : ChildId) :
    wordsOf (told ++ [s]) c = if s.child = c then wordsOf told c ++ s.text else wordsOf told c := by
  rw [wordsOf, List.filter_append]
  split
  · next heq => simp [wordsOf, heq, String.join]
  · next hne => simp [wordsOf, hne]

/-- The transcript of what has been read from a child. -/
def transcriptOf (reads : List (ChildId × Bytes)) (c : ChildId) : Transcript := Transcript.ofPieces (piecesOf reads c)

theorem transcriptOf_concat (reads : List (ChildId × Bytes)) (c c' : ChildId) (piece : Bytes) :
    transcriptOf (reads ++ [(c, piece)]) c' =
      if c = c' then (transcriptOf reads c').next piece else transcriptOf reads c' := by
  rw [transcriptOf, piecesOf, List.filter_append]
  split
  · next heq =>
    rw [transcriptOf, ← Transcript.ofPieces_concat]
    simp [piecesOf, heq]
  · next hne => simp [transcriptOf, piecesOf, hne]

/-- Whoever has listened from the beginning has been sent what has been told, and that is what is told of the pieces
that have been read from each child. -/
structure Overheard (t : LocalTerminals) (reads : List (ChildId × Bytes)) (told : List Saying) : Prop where
  heard : t.data.listeners = [{ id := 0, queue := (told.map fun s => processEvent s.id (.str s.text)).toArray }]
  attached : t.data.attached = [0]
  named : ∀ s ∈ told, t.voices[s.child]?.map Prod.fst = some s.id
  words : ∀ c, wordsOf told c = (transcriptOf reads c).text
  kept : ∀ c id unread, t.voices[c]? = some (id, unread) → unread = (transcriptOf reads c).unread
  known : ∀ r ∈ reads, r.1 < t.voices.length

namespace Overheard

variable {t u : LocalTerminals} {reads : List (ChildId × Bytes)} {told : List Saying}

theorem silent (h : t.Overheard reads told) (hquiet : Quiet t u) : u.Overheard reads told := by
  obtain ⟨hvoices, hdata⟩ := hquiet
  exact ⟨hdata ▸ h.heard, hdata ▸ h.attached, hvoices ▸ h.named, h.words, hvoices ▸ h.kept, hvoices ▸ h.known⟩

/-- Nothing has been read from a child that has just been added. -/
theorem joins (h : t.Overheard reads told) {id : UInt32} (hvoices : u.voices = t.voices ++ [(id, [])])
    (hdata : u.data = t.data) : u.Overheard reads told := by
  have hnew : transcriptOf reads t.voices.length = {} := by
    rw [transcriptOf, piecesOf, List.filter_eq_nil_iff.2]
    · rfl
    · intro r hr
      simpa using Nat.ne_of_lt (h.known r hr)
  refine ⟨hdata ▸ h.heard, hdata ▸ h.attached, fun s hs => ?_, h.words, fun c id' unread hvoice => ?_, fun r hr => ?_⟩
  · obtain ⟨voice, hvoice, hid⟩ := Option.map_eq_some_iff.1 (h.named s hs)
    rw [hvoices, List.getElem?_append_left (List.getElem?_eq_some_iff.1 hvoice).1, hvoice, Option.map_some, hid]
  · rw [hvoices, getElem?_concat_eq_some_iff] at hvoice
    rcases hvoice with hold | ⟨rfl, heq⟩
    · exact h.kept c id' unread hold
    · rw [hnew]
      exact (Prod.mk.inj heq).2.symm
  · rw [hvoices, List.length_append]
    exact Nat.lt_add_right _ (h.known r hr)

theorem speaks (h : t.Overheard reads told) {c : ChildId} {id : UInt32} {unread piece kept : Bytes} {text : String}
    (hvoice : t.voices[c]? = some (id, unread)) (htaken : takeText (unread ++ piece) = (text, kept))
    (hvoices : u.voices = t.voices.set c (id, kept))
    (hdata : u.data = if text.isEmpty then t.data else t.data.fire (processEvent id (.str text))) :
    ∃ told', u.Overheard (reads ++ [(c, piece)]) told' := by
  obtain rfl := h.kept c id unread hvoice
  have hlt : c < t.voices.length := (List.getElem?_eq_some_iff.1 hvoice).1
  have hnames : ∀ c' : ChildId, u.voices[c']?.map Prod.fst = t.voices[c']?.map Prod.fst := by
    intro c'
    rw [hvoices, List.getElem?_set]
    by_cases heq : c = c'
    · rw [if_pos heq, if_pos hlt, ← heq, hvoice]
      rfl
    · rw [if_neg heq]
  have hnamed : ∀ s ∈ told, u.voices[s.child]?.map Prod.fst = some s.id :=
    fun s hs => (hnames s.child).trans (h.named s hs)
  have hkept : ∀ c' id' unread', u.voices[c']? = some (id', unread') →
      unread' = (transcriptOf (reads ++ [(c, piece)]) c').unread := by
    intro c' id' unread' hvoice'
    rw [transcriptOf_concat]
    rw [hvoices, List.getElem?_set] at hvoice'
    by_cases heq : c = c'
    · rw [if_pos heq, if_pos hlt] at hvoice'
      rw [if_pos heq, Transcript.unread_next, ← heq, htaken]
      exact (Prod.mk.inj (Option.some.inj hvoice')).2.symm
    · rw [if_neg heq] at hvoice' ⊢
      exact h.kept c' id' unread' hvoice'
  have hknown : ∀ r ∈ reads ++ [(c, piece)], r.1 < u.voices.length := by
    rw [hvoices, List.length_set]
    exact List.forall_mem_append.2 ⟨h.known, by simpa using hlt⟩
  have hwords : ∀ c', (if c = c' then wordsOf told c' ++ text else wordsOf told c') =
      (transcriptOf (reads ++ [(c, piece)]) c').text := by
    intro c'
    rw [transcriptOf_concat, h.words]
    split
    · next heq => rw [Transcript.text_next, ← heq, htaken]
    · rfl
  by_cases hempty : text.isEmpty
  · rw [if_pos hempty] at hdata
    refine ⟨told, hdata ▸ h.heard, hdata ▸ h.attached, hnamed, fun c' => ?_, hkept, hknown⟩
    rw [← hwords, String.isEmpty_iff.1 hempty, String.append_empty, ite_self]
  · rw [if_neg hempty] at hdata
    obtain ⟨hheard, hattached⟩ := fire_sole h.heard h.attached (processEvent id (.str text))
    refine ⟨told ++ [⟨c, id, text⟩], ?_, hdata ▸ hattached, ?_, fun c' => ?_, hkept, hknown⟩
    · rw [hdata, hheard]
      simp
    · refine List.forall_mem_append.2 ⟨hnamed, ?_⟩
      rw [List.forall_mem_singleton, hnames, hvoice]
      rfl
    · rw [wordsOf_concat, hwords]

theorem voicing {more : List (ChildId × Bytes)} (h : t.Overheard reads told) (hvoicing : Voicing t u more) :
    ∃ told', u.Overheard (reads ++ more) told' := by
  cases hvoicing with
  | silent quiet => exact ⟨told, (List.append_nil reads).symm ▸ h.silent quiet⟩
  | joins id voices data => exact ⟨told, (List.append_nil reads).symm ▸ h.joins voices data⟩
  | speaks voice taken voices data => exact h.speaks voice taken voices data

end Overheard

/-- What can happen to a host while its children are read from. -/
inductive Moment where
  /-- What happens to a host anyway. -/
  | used (e : Event)
  /-- A piece is read from a child. -/
  | read (child : ChildId) (piece : Bytes)
  /-- There is no more to be read from a child. -/
  | ended (child : ChildId) (status : Nat)

/-- A host with what has been read from its children, in order. -/
structure Reader where
  hosting : Hosting
  reads : List (ChildId × Bytes) := []

/-- A host where somebody has listened to what is told from the beginning. -/
def overheard : LocalTerminals :=
  { data := ({} : Emitter Json).subscribe.2.2, exits := ({} : Emitter Json).subscribe.2.2 }

namespace Reader

/-- What is read when something happens to a host. -/
def readBy (t : LocalTerminals) : Event → List (ChildId × Bytes)
  | .ran child disk => pieceOf disk t child
  | _ => []

def step (s : Reader) : Moment → Reader
  | .used e => ⟨s.hosting.step e, s.reads ++ readBy s.hosting.host e⟩
  | .read child piece =>
    if s.hosting.host.running child then
      ⟨{ s.hosting with host := s.hosting.host.tellOutput child piece }, s.reads ++ [(child, piece)]⟩
    else s
  | .ended child status =>
    if s.hosting.host.running child then
      { s with hosting := { s.hosting with host := s.hosting.host.tellEnd child status } }
    else s

def run (s : Reader) (moments : List Moment) : Reader := moments.foldl step s

theorem voicing_step (s : Hosting) (e : Event) : Voicing s.host (s.step e).host (readBy s.host e) := by
  cases e with
  | created request => exact .silent ⟨rfl, rfl⟩
  | asked id => exact .silent (.refl _)
  | launched start made =>
      cases hstart : s.starts[start]? with
      | none =>
          simp only [Hosting.step, hstart]
          exact .silent (.refl _)
      | some found =>
          simp only [Hosting.step, hstart]
          exact voicing_launched s.host found.1 found.2 made
  | shutDown id disk => exact .silent (quiet_shutdown disk s.host id)
  | typed id f => exact .silent (quiet_onChild s.host id f)
  | ran child disk => exact voicing_turn disk s.host child

variable {s : Reader} {told : List Saying} {c : ChildId}

/-- Only children that are running are read from. -/
theorem reads_step (s : Reader) (m : Moment) :
    ∃ more, (s.step m).reads = s.reads ++ more ∧ ∀ r ∈ more, s.hosting.host.running r.1 := by
  cases m with
  | used e =>
      refine ⟨readBy s.hosting.host e, rfl, ?_⟩
      cases e with
      | ran child disk =>
          intro r hr
          obtain ⟨found, hfound, rfl⟩ := List.mem_map.1 hr
          obtain ⟨hchild, hrunning⟩ := Option.filter_eq_some_iff.1 (Option.mem_toList.1 hfound)
          rw [running, hchild]
          exact hrunning
      | created _ | asked _ | launched _ _ | shutDown _ _ | typed _ _ => simp [readBy]
  | read child piece =>
      rw [step]
      split
      · next hrunning => exact ⟨_, rfl, by simpa using hrunning⟩
      · exact ⟨[], (List.append_nil _).symm, by simp⟩
  | ended child status =>
      refine ⟨[], ?_, by simp⟩
      rw [step, List.append_nil]
      split <;> rfl

theorem change_step (hsound : s.hosting.Sound) (m : Moment) :
    ∃ orderly, Change s.hosting.host (s.step m).hosting.host orderly := by
  cases m with
  | used e => exact ⟨_, hsound.change e⟩
  | read child piece =>
      refine ⟨True, .same ?_⟩
      rw [step]
      split
      · exact tellOutput_alike s.hosting.host child piece
      · exact .refl _
  | ended child status =>
      refine ⟨True, ?_⟩
      rw [step]
      split
      · next hrunning =>
        obtain ⟨found, hfound, htold⟩ := (Option.any_eq_true _ _).1 hrunning
        have hmark : s.hosting.host.marks[child]? = some (found.terminal, false) :=
          s.hosting.host.mark_eq_some_iff.2 ⟨found, hfound, rfl, by simpa using htold⟩
        exact .ends (.refl _) child found.terminal status hmark
      · exact .same (.refl _)

theorem sound_step (hsound : s.hosting.Sound) (m : Moment) : (s.step m).hosting.Sound := by
  obtain ⟨orderly, hchange⟩ := change_step hsound m
  have hstarts : (s.step m).hosting.starts = s.hosting.starts → (s.step m).hosting.Sound := by
    intro hsame
    refine ⟨hsound.host.change hchange, fun found hfound => ?_⟩
    rw [hsame] at hfound
    exact hchange.id_kept (hsound.starts found hfound)
  cases m with
  | used e => exact hsound.step e
  | read child piece =>
      apply hstarts
      rw [step]
      split <;> rfl
  | ended child status =>
      apply hstarts
      rw [step]
      split <;> rfl

/-- After its end has been told, nothing more is read from a child. -/
theorem piecesOf_run (hsound : s.hosting.Sound) (hover : s.hosting.host.Over c) (later : List Moment) :
    piecesOf (s.run later).reads c = piecesOf s.reads c := by
  induction later generalizing s with
  | nil => rfl
  | cons m later ih =>
      obtain ⟨orderly, hchange⟩ := change_step hsound m
      obtain ⟨more, hreads, hrunning⟩ := reads_step s m
      have hnothing : more.filter (fun r => r.1 == c) = [] := by
        rw [List.filter_eq_nil_iff]
        intro r hr hc
        have hread := hrunning r hr
        rw [beq_iff_eq.1 hc, hover.not_running] at hread
        cases hread
      have hlater : piecesOf (s.run (m :: later)).reads c = piecesOf (s.step m).reads c :=
        ih (sound_step hsound m) (hover.change hchange)
      rw [hlater, hreads, piecesOf, List.filter_append, hnothing, List.append_nil, piecesOf]

theorem overheard_step (h : s.hosting.host.Overheard s.reads told) (m : Moment) :
    ∃ told, (s.step m).hosting.host.Overheard (s.step m).reads told := by
  cases m with
  | used e => exact h.voicing (voicing_step s.hosting e)
  | read c piece =>
      rw [step]
      split
      · next hrunning =>
        obtain ⟨child, hchild⟩ := Option.isSome_iff_exists.1 (Option.isSome_of_any hrunning)
        exact h.voicing (voicing_tellOutput hchild piece)
      · exact ⟨told, h⟩
  | ended c status =>
      rw [step]
      split
      · exact ⟨told, h.silent (quiet_tellEnd s.hosting.host c status)⟩
      · exact ⟨told, h⟩

theorem sound_run (hsound : s.hosting.Sound) (moments : List Moment) : (s.run moments).hosting.Sound := by
  induction moments generalizing s with
  | nil => exact hsound
  | cons m moments ih => exact ih (sound_step hsound m)

theorem overheard_run (h : s.hosting.host.Overheard s.reads told) (moments : List Moment) :
    ∃ told, (s.run moments).hosting.host.Overheard (s.run moments).reads told := by
  induction moments generalizing s told with
  | nil => exact ⟨told, h⟩
  | cons m moments ih =>
      obtain ⟨told', htold'⟩ := overheard_step h m
      exact ih htold'

end Reader

/-- Whatever goes on: what is told is told of the pieces that have been read from each child, under the number of its
terminal, and it is all that has been read, as it would be read without a cut, if no piece breaks a character.  By the
time the end of a child is told, all has been read of it that ever is.  An output is told as it would be read without a
cut, whatever its pieces are, just if it is settled.  A text is told as it is. -/
theorem output_told_iff_settled (moments : List Moment) :
    let s := Reader.run { hosting := { host := overheard } } moments
    (∃ told : List Saying,
      s.hosting.host.data.listeners =
        [{ id := 0, queue := (told.map fun said => processEvent said.id (.str said.text)).toArray }] ∧
      (∀ said ∈ told, s.hosting.host.children[said.child]?.map (·.terminal) = some said.id) ∧
      ∀ c, wordsOf told c = (Transcript.ofPieces (piecesOf s.reads c)).text ∧
        (Unbroken (piecesOf s.reads c) → wordsOf told c = Utf8.decodeLossy (piecesOf s.reads c).flatten)) ∧
    (∀ c, s.hosting.host.Over c → ∀ later, piecesOf (s.run later).reads c = piecesOf s.reads c) ∧
    (∀ octets : Bytes,
      (∀ pieces : List Bytes, pieces.flatten = octets → (Transcript.ofPieces pieces).text = Utf8.decodeLossy octets) ↔
        Settled octets) ∧
    ∀ (text : String) (pieces : List Bytes), pieces.flatten = Bytes.ofText text →
      (Transcript.ofPieces pieces).text = text := by
  intro s
  have hstart : overheard.Overheard [] [] := ⟨rfl, rfl, by simp, fun c => rfl, by simp [overheard, voices], by simp⟩
  obtain ⟨told, htold⟩ := Reader.overheard_run (s := { hosting := { host := overheard } }) hstart moments
  have hsound : Hosting.Sound { host := overheard } :=
    ⟨Hosting.attended_sound.host.of_alike ⟨rfl, rfl, rfl, rfl, rfl⟩, by simp⟩
  refine ⟨⟨told, htold.heard, fun said hsaid => ?_, fun c => ⟨htold.words c, fun hunbroken => ?_⟩⟩,
    fun c hover later => Reader.piecesOf_run (Reader.sound_run hsound moments) hover later,
    Terminal.text_eq_iff_settled, fun text pieces hpieces => ?_⟩
  · have hnamed := htold.named said hsaid
    rw [voices, List.getElem?_map, Option.map_map] at hnamed
    exact hnamed
  · rw [htold.words c]
    exact Terminal.text_of_unbroken hunbroken
  · have htext := (Terminal.text_eq_iff_settled _).2 (Terminal.settled_ofText text) pieces hpieces
    rwa [Utf8.decodeLossy_ofText] at htext

/-- A child is started and read from until it ends. -/
def readThrough (pieces : List Bytes) : List Moment :=
  [.used (.created plainRequest), .used (.asked 1), .used (.launched 0 (.ok (brief 0)))] ++ pieces.map (.read 0) ++
    [.ended 0 0]

/-- What has been told of a host's children, and of their ends. -/
def toldOf (moments : List Moment) : List (List Json) × List (List Json) :=
  let t := (Reader.run { hosting := { host := overheard } } moments).hosting.host
  (t.data.listeners.map (·.queue.toList), t.exits.listeners.map (·.queue.toList))

/-- An output that ends within a character is told without it, and a character that is cut after something that is
ill-formed is told as three things that are ill-formed. -/
theorem cut_output_misread :
    (toldOf (readThrough [Bytes.ofText "cut" ++ [0xC3]]) =
        ([[processEvent 1 (.str "cut")]], [[processEvent 1 (Json.nat 0)]]) ∧
      Utf8.decodeLossy (Bytes.ofText "cut" ++ [0xC3]) = "cut\uFFFD") ∧
    toldOf (readThrough [[0xFF, 0xC3], [0xA9]]) =
        ([[processEvent 1 (.str "\uFFFD\uFFFD"), processEvent 1 (.str "\uFFFD")]], [[processEvent 1 (Json.nat 0)]]) ∧
      Utf8.decodeLossy [0xFF, 0xC3, 0xA9] = "\uFFFDé" := by
  decide +kernel

end Workbench.LocalTerminals

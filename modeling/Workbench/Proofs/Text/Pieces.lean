import Mathlib.Data.List.Basic
import Mathlib.Data.List.Induction
import Workbench.Proofs.Text.Utf8

/-!
Texts read in pieces.  What is read of octets is cut where they are cut.  As long as nothing in them is ill-formed they
are whole characters as these are written, and the first octets of the character in progress; an octet that does not go
on with that character is read as if there had not been any.
-/

namespace Workbench.Utf8

/-- What octets complete, from a character in progress on. -/
def outputs (state : Option Partial) : Bytes → List (Option Char)
  | [] => []
  | octet :: rest => (step state octet).out ++ outputs (step state octet).state rest

/-- The character in progress behind octets. -/
def stateAfter (state : Option Partial) (octets : Bytes) : Option Partial :=
  octets.foldl (fun state octet => (step state octet).state) state

theorem feed_eq (r : Reading) (octets : Bytes) :
    r.feed octets = ⟨r.done ++ outputs r.state octets, stateAfter r.state octets⟩ := by
  induction octets generalizing r with
  | nil => simp [Reading.feed, outputs, stateAfter]
  | cons octet rest ih =>
      have hfeed : r.feed (octet :: rest) = (r.take octet).feed rest := rfl
      have hdone : r.done ++ (step r.state octet).out ++ outputs (step r.state octet).state rest =
          r.done ++ outputs r.state (octet :: rest) := by
        rw [← Array.toList_inj]
        simp [outputs]
      rw [hfeed, ih, ← hdone]
      rfl

theorem feed_empty (octets : Bytes) :
    ({} : Reading).feed octets = ⟨(outputs none octets).toArray, stateAfter none octets⟩ := by
  rw [feed_eq]
  simp

section Cuts

variable (state : Option Partial)

theorem stateAfter_append (left right : Bytes) :
    stateAfter state (left ++ right) = stateAfter (stateAfter state left) right :=
  List.foldl_append

theorem stateAfter_concat (octets : Bytes) (octet : UInt8) :
    stateAfter state (octets ++ [octet]) = (step (stateAfter state octets) octet).state :=
  stateAfter_append state octets [octet]

theorem outputs_append (left right : Bytes) :
    outputs state (left ++ right) = outputs state left ++ outputs (stateAfter state left) right := by
  induction left generalizing state with
  | nil => rfl
  | cons octet left ih =>
      rw [List.cons_append, outputs, ih, outputs, List.append_assoc]
      rfl

@[simp] theorem outputs_single (octet : UInt8) : outputs state [octet] = (step state octet).out := by
  rw [outputs, outputs, List.append_nil]

/-- Everything in octets: the characters, and `none` for each ill-formed part, also for one that the end cuts off. -/
def units (octets : Bytes) : List (Option Char) :=
  outputs state octets ++ if (stateAfter state octets).isSome then [none] else []

theorem units_append (left right : Bytes) :
    units state (left ++ right) = outputs state left ++ units (stateAfter state left) right := by
  rw [units, units, outputs_append, stateAfter_append, List.append_assoc]

theorem units_cons (octet : UInt8) (rest : Bytes) :
    units state (octet :: rest) = (step state octet).out ++ units (step state octet).state rest := by
  have hcut := units_append state [octet] rest
  rwa [outputs_single] at hcut

theorem length_shown (out : List (Option Char)) : (shown out).length = out.length := List.length_map ..

end Cuts

theorem decodeLossy_eq (octets : Bytes) : decodeLossy octets = String.ofList (shown (units none octets)) := by
  simp only [decodeLossy, feed_empty, units]
  cases (stateAfter none octets).isSome <;> simp [shown]

/-- An octet goes on with the character in progress. -/
def Continues : Option Partial → UInt8 → Prop
  | none, _ => False
  | some p, octet => p.low ≤ octet.toNat ∧ octet.toNat ≤ p.high

theorem step_of_continues {p : Partial} {octet : UInt8} (h : Continues (some p) octet) :
    step (some p) octet =
      if p.owed ≤ 1 then ⟨[some (Char.ofNat (p.value * 64 + (octet.toNat - 0x80)))], none⟩
      else ⟨[], some ⟨p.owed - 1, p.value * 64 + (octet.toNat - 0x80), 0x80, 0xBF⟩⟩ := by
  have h : p.low ≤ octet.toNat ∧ octet.toNat ≤ p.high := h
  simp only [step, if_pos h]

/-- Any other octet closes the character in progress, and is read as if there had not been any. -/
theorem step_of_not_continues {p : Partial} {octet : UInt8} (h : ¬Continues (some p) octet) :
    step (some p) octet = ⟨none :: (step none octet).out, (step none octet).state⟩ := by
  have h : ¬(p.low ≤ octet.toNat ∧ octet.toNat ≤ p.high) := h
  simp only [step, if_neg h]

/-- Octets that do not go on with a character in progress are read as if there had not been any, once it is closed. -/
theorem read_of_not_continues {state : Option Partial} {octet : UInt8} (h : ¬Continues state octet) (rest : Bytes) :
    outputs state (octet :: rest) = (if state.isSome then [none] else []) ++ outputs none (octet :: rest) ∧
      stateAfter state (octet :: rest) = stateAfter none (octet :: rest) := by
  cases state with
  | none => exact ⟨rfl, rfl⟩
  | some p =>
      have hstep := step_of_not_continues h
      constructor
      · rw [outputs, hstep]
        rfl
      · rw [stateAfter, List.foldl_cons, hstep]
        rfl

/-- A character in progress owes octets, and only such as cannot begin a character. -/
structure Partial.Sound (p : Partial) : Prop where
  owed_pos : 0 < p.owed
  low_ge : 0x80 ≤ p.low
  high_le : p.high ≤ 0xBF

/-- An octet that continues a character, by its share of the character's number. -/
def continuing (share : Nat) : UInt8 := UInt8.ofNat (share + 0x80)

theorem toNat_continuing {share : Nat} (hshare : share < 0x40) : (continuing share).toNat = share + 0x80 := by
  rw [continuing, UInt8.toNat_ofNat']
  omega

/-- Whatever octets complete a character in progress, it is written as its first octets and those. -/
def Partial.Awaits (p : Partial) (begun : Bytes) : Prop :=
  ∀ (share : Nat) (rest : List Nat), rest.length + 1 = p.owed → share < 0x40 → Continues (some p) (continuing share) →
    (∀ later ∈ rest, later < 0x40) →
      String.utf8EncodeChar (Char.ofNat (rest.foldl (fun value later => value * 64 + later) (p.value * 64 + share))) =
        begun ++ continuing share :: rest.map continuing

theorem val_ofNat {v : Nat} (hscalar : v < 0xD800 ∨ 0xDFFF < v ∧ v < 0x110000) : (Char.ofNat v).val.toNat = v := by
  have hvalid : v.isValidChar := hscalar
  rw [Char.ofNat, dif_pos hvalid]
  rfl

/-- The first of two octets. -/
theorem awaits_two {octet : UInt8} {value low high : Nat} (hoctet : octet.toNat = value + 0xC0)
    (hleast : 2 ≤ value) (hgreatest : value < 0x20) : Partial.Awaits ⟨1, value, low, high⟩ [octet] := by
  intro n rest hcount hn _ _
  obtain rfl : rest = [] := List.eq_nil_of_length_eq_zero (by simpa using hcount)
  have hval := val_ofNat (v := value * 64 + n) (by omega)
  simp only [List.foldl_nil, String.utf8EncodeChar, hval]
  rw [if_neg (by omega), if_pos (by omega)]
  have hfirst : (value * 64 + n) / 64 % 0x20 + 0xC0 = octet.toNat := by omega
  have hsecond : (value * 64 + n) % 0x40 = n := by omega
  rw [hfirst, hsecond, UInt8.ofNat_toNat]
  rfl

/-- The first of three octets.  The least and the greatest second octet keep out what has a shorter form, and
surrogates. -/
theorem awaits_three {octet : UInt8} {value low high : Nat} (hoctet : octet.toNat = value + 0xE0)
    (hgreatest : value < 0x10) (hlow : value = 0 → 0xA0 ≤ low) (hhigh : value = 0xD → high ≤ 0x9F) :
    Partial.Awaits ⟨2, value, low, high⟩ [octet] := by
  rintro n rest hcount hn ⟨hn', hn''⟩ hrest
  rw [toNat_continuing hn] at hn' hn''
  dsimp only at hn' hn''
  obtain ⟨m, rfl⟩ := List.length_eq_one_iff.1 (Nat.succ.inj hcount)
  have hm : m < 0x40 := hrest m (List.mem_singleton_self m)
  obtain ⟨v, hv⟩ : ∃ v, v = (value * 64 + n) * 64 + m := ⟨_, rfl⟩
  have hval := val_ofNat (v := v) (by omega)
  simp only [List.foldl_cons, List.foldl_nil, ← hv, String.utf8EncodeChar, hval]
  rw [if_neg (by omega), if_neg (by omega), if_pos (by omega)]
  have hfirst : v / 4096 % 0x10 + 0xE0 = octet.toNat := by omega
  have hsecond : v / 64 % 0x40 = n := by omega
  have hthird : v % 0x40 = m := by omega
  rw [hfirst, hsecond, hthird, UInt8.ofNat_toNat]
  rfl

/-- The first of four octets. -/
theorem awaits_four {octet : UInt8} {value low high : Nat} (hoctet : octet.toNat = value + 0xF0)
    (hgreatest : value ≤ 4) (hlow : value = 0 → 0x90 ≤ low) (hhigh : value = 4 → high ≤ 0x8F) :
    Partial.Awaits ⟨3, value, low, high⟩ [octet] := by
  rintro n rest hcount hn ⟨hn', hn''⟩ hrest
  rw [toNat_continuing hn] at hn' hn''
  dsimp only at hn' hn''
  obtain ⟨m, k, rfl⟩ := List.length_eq_two.1 (Nat.succ.inj hcount)
  have hm : m < 0x40 := hrest m (by simp)
  have hk : k < 0x40 := hrest k (by simp)
  obtain ⟨v, hv⟩ : ∃ v, v = ((value * 64 + n) * 64 + m) * 64 + k := ⟨_, rfl⟩
  have hval := val_ofNat (v := v) (by omega)
  simp only [List.foldl_cons, List.foldl_nil, ← hv, String.utf8EncodeChar, hval]
  rw [if_neg (by omega), if_neg (by omega), if_neg (by omega)]
  have hfirst : v / 262144 % 0x08 + 0xF0 = octet.toNat := by omega
  have hsecond : v / 4096 % 0x40 = n := by omega
  have hthird : v / 64 % 0x40 = m := by omega
  have hfourth : v % 0x40 = k := by omega
  rw [hfirst, hsecond, hthird, hfourth, UInt8.ofNat_toNat]
  rfl

/-- An octet between two characters is one by itself, begins one, or is no part of any. -/
theorem step_none (octet : UInt8) :
    (octet.toNat < 0x80 ∧ step none octet = ⟨[some (Char.ofNat octet.toNat)], none⟩) ∨
      (∃ p : Partial, p.Sound ∧ p.Awaits [octet] ∧ step none octet = ⟨[], some p⟩) ∨
      step none octet = ⟨[none], none⟩ := by
  have hstep : step none octet = start octet.toNat := rfl
  rw [hstep, start]
  split
  · exact .inl ⟨‹_›, rfl⟩
  right
  split
  · exact .inl ⟨_, ⟨by simp, by simp, by simp⟩, awaits_two (by omega) (by omega) (by omega), rfl⟩
  split
  · exact .inl ⟨_, ⟨by simp, by simp, by simp⟩, awaits_three (by omega) (by omega) (by omega) (by omega), rfl⟩
  split
  · exact .inl ⟨_, ⟨by simp, by simp, by simp⟩, awaits_three (by omega) (by omega) (by omega) (by omega), rfl⟩
  split
  · exact .inl ⟨_, ⟨by simp, by simp, by simp⟩, awaits_three (by omega) (by omega) (by omega) (by omega), rfl⟩
  split
  · exact .inl ⟨_, ⟨by simp, by simp, by simp⟩, awaits_four (by omega) (by omega) (by omega) (by omega), rfl⟩
  split
  · exact .inl ⟨_, ⟨by simp, by simp, by simp⟩, awaits_four (by omega) (by omega) (by omega) (by omega), rfl⟩
  split
  · exact .inl ⟨_, ⟨by simp, by simp, by simp⟩, awaits_four (by omega) (by omega) (by omega) (by omega), rfl⟩
  · exact .inr rfl

/-- No character is begun by an octet that is no part of any. -/
theorem state_of_ill {octet : UInt8} (hill : none ∈ (step none octet).out) : (step none octet).state = none := by
  obtain ⟨-, hstep⟩ | ⟨p, -, -, hstep⟩ | hstep := step_none octet
  · rw [hstep]
  · rw [hstep] at hill
    cases hill
  · rw [hstep]

/-- What continues a character cannot begin one. -/
theorem Partial.Sound.step_none {p : Partial} (hsound : p.Sound) {octet : UInt8} (h : Continues (some p) octet) :
    step none octet = ⟨[none], none⟩ := by
  obtain ⟨hlow, hhigh⟩ := h
  have hlow : 0x80 ≤ octet.toNat := Nat.le_trans hsound.low_ge hlow
  have hhigh : octet.toNat ≤ 0xBF := Nat.le_trans hhigh hsound.high_le
  have hstep : step none octet = start octet.toNat := rfl
  rw [hstep, start, if_neg (by omega), if_neg (by omega), if_neg (by omega), if_neg (by omega), if_neg (by omega),
    if_neg (by omega), if_neg (by omega), if_neg (by omega)]

theorem Partial.sound_continued {p : Partial} (hmore : ¬p.owed ≤ 1) (value : Nat) :
    Partial.Sound ⟨p.owed - 1, value, 0x80, 0xBF⟩ :=
  ⟨Nat.sub_pos_of_lt (Nat.lt_of_not_le hmore), Nat.le_refl _, Nat.le_refl _⟩

theorem sound_step (state : Option Partial) (octet : UInt8) : ∀ p ∈ (step state octet).state, p.Sound := by
  have hbegins : ∀ p ∈ (step none octet).state, p.Sound := by
    obtain ⟨-, hstep⟩ | ⟨p, hsound, -, hstep⟩ | hstep := step_none octet
    · simp [hstep]
    · simpa [hstep] using hsound
    · simp [hstep]
  cases state with
  | none => exact hbegins
  | some p =>
      by_cases hcontinues : Continues (some p) octet
      · rw [step_of_continues hcontinues]
        split
        · simp
        · next hmore => simpa using Partial.sound_continued hmore _
      · rw [step_of_not_continues hcontinues]
        exact hbegins

theorem sound_stateAfter (octets : Bytes) : ∀ p ∈ stateAfter none octets, p.Sound := by
  rcases List.eq_nil_or_concat octets with rfl | ⟨before, octet, rfl⟩
  · exact fun p hp => absurd hp (Option.not_mem_none p)
  · rw [List.concat_eq_append, stateAfter_concat]
    exact sound_step _ octet

section Open

variable {p : Partial} {octet : UInt8} {begun : Bytes}

/-- The share of a character's number in an octet that continues it. -/
theorem Partial.Sound.continuing_eq (hsound : p.Sound) (h : Continues (some p) octet) :
    octet.toNat - 0x80 < 0x40 ∧ continuing (octet.toNat - 0x80) = octet := by
  obtain ⟨hlow, hhigh⟩ := h
  have hlow : 0x80 ≤ octet.toNat := Nat.le_trans hsound.low_ge hlow
  have hhigh : octet.toNat ≤ 0xBF := Nat.le_trans hhigh hsound.high_le
  refine ⟨by omega, ?_⟩
  rw [continuing, Nat.sub_add_cancel hlow, UInt8.ofNat_toNat]

/-- The last octet owed completes the character that is written so. -/
theorem Partial.Awaits.completed (h : p.Awaits begun) (hsound : p.Sound) (hlast : p.owed ≤ 1)
    (hcontinues : Continues (some p) octet) :
    String.utf8EncodeChar (Char.ofNat (p.value * 64 + (octet.toNat - 0x80))) = begun ++ [octet] := by
  obtain ⟨hshare, hoctet⟩ := hsound.continuing_eq hcontinues
  have howed : ([] : List Nat).length + 1 = p.owed := Nat.le_antisymm hsound.owed_pos hlast
  have hwritten := h (octet.toNat - 0x80) [] howed hshare (by rwa [hoctet]) (by simp)
  rwa [hoctet] at hwritten

theorem Partial.Awaits.continued (h : p.Awaits begun) (hsound : p.Sound) (hcontinues : Continues (some p) octet) :
    Partial.Awaits ⟨p.owed - 1, p.value * 64 + (octet.toNat - 0x80), 0x80, 0xBF⟩ (begun ++ [octet]) := by
  obtain ⟨hshare, hoctet⟩ := hsound.continuing_eq hcontinues
  intro share rest hcount hshare' _ hrest
  have howed : (share :: rest).length + 1 = p.owed := by
    rw [List.length_cons, hcount]
    exact Nat.sub_add_cancel hsound.owed_pos
  have hwritten := h (octet.toNat - 0x80) (share :: rest) howed hshare (by rwa [hoctet])
    (List.forall_mem_cons.2 ⟨hshare', hrest⟩)
  rw [List.foldl_cons, hoctet, List.map_cons] at hwritten
  rw [List.append_assoc]
  dsimp only
  exact hwritten

end Open

/-- The character in progress, if there is one, is the one that these octets begin. -/
def Begins (begun : Bytes) : Option Partial → Prop
  | none => begun = []
  | some p => begun ≠ [] ∧ p.Awaits begun

theorem Begins.eq_nil_iff {begun : Bytes} {state : Option Partial} (h : Begins begun state) :
    begun = [] ↔ state = none := by
  cases state with
  | none => exact iff_of_true h rfl
  | some p => exact iff_of_false h.1 (Option.some_ne_none p)

/-- Octets are whole characters as they are written, and the first octets of the character in progress. -/
structure Spelling (octets : Bytes) (chars : List Char) (begun : Bytes) : Prop where
  outputs_eq : outputs none octets = chars.map some
  octets_eq : octets = spelled chars ++ begun
  nothing_yet : outputs none begun = []
  stateAfter_begun : stateAfter none begun = stateAfter none octets
  begins : Begins begun (stateAfter none octets)

namespace Spelling

variable {octets begun : Bytes} {chars : List Char} {octet : UInt8} {state : Option Partial}

/-- The next octet completes a character. -/
theorem completed (h : Spelling octets chars begun) (hbefore : stateAfter none octets = state) {c : Char}
    (hstep : step state octet = ⟨[some c], none⟩) (hc : String.utf8EncodeChar c = begun ++ [octet]) :
    Spelling (octets ++ [octet]) (chars ++ [c]) [] := by
  subst hbefore
  have hstate : stateAfter none (octets ++ [octet]) = none := by rw [stateAfter_concat, hstep]
  refine ⟨?_, ?_, rfl, hstate.symm, ?_⟩
  · rw [outputs_append, outputs_single, hstep, h.outputs_eq, List.map_append, List.map_singleton]
  · rw [spelled_append, spelled_cons, spelled_nil, List.append_nil, List.append_nil, hc, ← List.append_assoc,
      ← h.octets_eq]
  · rw [hstate]
    rfl

/-- The next octet completes nothing. -/
theorem continued (h : Spelling octets chars begun) (hbefore : stateAfter none octets = state) {p : Partial}
    (hstep : step state octet = ⟨[], some p⟩) (hawaits : p.Awaits (begun ++ [octet])) :
    Spelling (octets ++ [octet]) chars (begun ++ [octet]) := by
  subst hbefore
  have hstate : stateAfter none (octets ++ [octet]) = some p := by rw [stateAfter_concat, hstep]
  refine ⟨?_, ?_, ?_, ?_, ?_⟩
  · rw [outputs_append, outputs_single, hstep, h.outputs_eq, List.append_nil]
  · rw [← List.append_assoc, ← h.octets_eq]
  · rw [outputs_append, outputs_single, h.nothing_yet, h.stateAfter_begun, hstep, List.append_nil]
  · rw [stateAfter_concat, h.stateAfter_begun, stateAfter_concat]
  · rw [hstate]
    exact ⟨List.append_ne_nil_of_right_ne_nil _ (List.cons_ne_nil _ _), hawaits⟩

/-- Another octet that closes no ill-formed part. -/
theorem concat (h : Spelling octets chars begun) (hwell : none ∉ (step (stateAfter none octets) octet).out) :
    ∃ chars' begun', Spelling (octets ++ [octet]) chars' begun' := by
  have hbegins := h.begins
  cases hstate : stateAfter none octets with
  | none =>
      rw [hstate] at hwell hbegins
      obtain rfl : begun = [] := hbegins
      obtain ⟨hascii, hstep⟩ | ⟨p, -, hawaits, hstep⟩ | hstep := step_none octet
      · have hval := val_ofNat (v := octet.toNat) (by omega)
        have hc : String.utf8EncodeChar (Char.ofNat octet.toNat) = [] ++ [octet] := by
          rw [String.utf8EncodeChar, hval, if_pos (by omega), UInt8.ofNat_toNat]
          rfl
        exact ⟨_, _, h.completed hstate hstep hc⟩
      · exact ⟨_, _, h.continued hstate hstep hawaits⟩
      · rw [hstep] at hwell
        exact absurd (List.mem_singleton_self _) hwell
  | some p =>
      rw [hstate] at hwell hbegins
      obtain ⟨-, hawaits⟩ := hbegins
      have hsound : p.Sound := sound_stateAfter octets p hstate
      have hcontinues : Continues (some p) octet := by
        by_contra hnot
        rw [step_of_not_continues hnot] at hwell
        exact hwell (List.mem_cons_self)
      have hstep := step_of_continues hcontinues
      by_cases hlast : p.owed ≤ 1
      · rw [if_pos hlast] at hstep
        exact ⟨_, _, h.completed hstate hstep (hawaits.completed hsound hlast hcontinues)⟩
      · rw [if_neg hlast] at hstep
        exact ⟨_, _, h.continued hstate hstep (hawaits.continued hsound hcontinues)⟩

end Spelling

/-- Octets without an ill-formed part are spelled. -/
theorem exists_spelling {octets : Bytes} (hwell : none ∉ outputs none octets) :
    ∃ chars begun, Spelling octets chars begun := by
  induction octets using List.reverseRecOn with
  | nil => exact ⟨[], [], rfl, rfl, rfl, rfl, rfl⟩
  | append_singleton octets octet ih =>
      rw [outputs_append, outputs_single, List.mem_append, not_or] at hwell
      obtain ⟨chars, begun, hspelling⟩ := ih hwell.1
      exact hspelling.concat hwell.2

section Lengths

variable {p : Partial}

theorem length_units_of_continues {octet : UInt8} {rest : Bytes} (hsound : p.Sound)
    (hcontinues : Continues (some p) octet)
    (hrest : ∀ p : Partial, p.Sound → (units (some p) rest).length ≤ (units none rest).length + 1) :
    (units (some p) (octet :: rest)).length ≤ (units none (octet :: rest)).length := by
  rw [units_cons none, hsound.step_none hcontinues, units_cons, step_of_continues hcontinues]
  split
  · exact Nat.le_refl _
  · next hmore =>
    have hlater := hrest _ (Partial.sound_continued hmore (p.value * 64 + (octet.toNat - 0x80)))
    rwa [List.nil_append, List.singleton_append, List.length_cons]

/-- A character in progress adds one to what is in octets at most. -/
theorem length_units_le (hsound : p.Sound) (octets : Bytes) :
    (units (some p) octets).length ≤ (units none octets).length + 1 := by
  induction octets generalizing p with
  | nil => exact Nat.le_refl 1
  | cons octet rest ih =>
      by_cases hcontinues : Continues (some p) octet
      · exact Nat.le_succ_of_le (length_units_of_continues hsound hcontinues fun p hsound => ih hsound)
      · have hlength : (units (some p) (octet :: rest)).length = (units none (octet :: rest)).length + 1 := by
          rw [units_cons, step_of_not_continues hcontinues, List.cons_append, List.length_cons, ← units_cons]
        exact Nat.le_of_eq hlength

/-- It adds nothing if it goes on in them. -/
theorem length_units_le_of_continues (hsound : p.Sound) {octet : UInt8} (hcontinues : Continues (some p) octet)
    (rest : Bytes) : (units (some p) (octet :: rest)).length ≤ (units none (octet :: rest)).length :=
  length_units_of_continues hsound hcontinues fun _ hsound => length_units_le hsound rest

end Lengths

end Workbench.Utf8

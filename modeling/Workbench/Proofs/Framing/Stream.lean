import Workbench.Framing
import Workbench.Proofs.Octets

/-!
A stream of framed payloads read in pieces.  `payloads` reads a whole stream at once.  A decoder that is fed
the same octets, cut anywhere and asked at any time, gives out a first part of these payloads, and all of
them once it has nothing more to give; what it has given out and what it holds is always what it was fed.
-/

namespace Workbench.Framing

/-- The payload in front of a stream and what follows it: four octets of a length within the bound, and as
many octets as they say. -/
def split? : Bytes → Option (Bytes × Bytes)
  | a :: b :: c :: d :: rest =>
      let length := ((a.toNat * 256 + b.toNat) * 256 + c.toNat) * 256 + d.toNat
      if length ≤ maxPayload ∧ length ≤ rest.length then
        some (rest.take length, rest.drop length)
      else none
  | _ => none

/-- The length in front of a stream is beyond the largest payload. -/
def Oversized (b : Bytes) : Prop :=
  prefixSize ≤ b.length ∧ maxPayload < Bytes.toNat (b.take prefixSize)

theorem split?_of_length_lt {b : Bytes} (hshort : b.length < prefixSize) : split? b = none := by
  match b with
  | [] | [_] | [_, _] | [_, _, _] => rfl
  | _ :: _ :: _ :: _ :: _ =>
      simp only [List.length_cons, prefixSize] at hshort
      omega

theorem split?_of_le_length {b : Bytes} (hlong : prefixSize ≤ b.length) :
    split? b =
      let length := Bytes.toNat (b.take prefixSize)
      let rest := b.drop prefixSize
      if length ≤ maxPayload ∧ length ≤ rest.length then
        some (rest.take length, rest.drop length)
      else none := by
  match b with
  | [] | [_] | [_, _] | [_, _, _] => simp [prefixSize] at hlong
  | a :: b :: c :: d :: rest =>
      have hlength : Bytes.toNat [a, b, c, d] =
          ((a.toNat * 256 + b.toNat) * 256 + c.toNat) * 256 + d.toNat := by
        simp [Bytes.toNat]
      simp only [split?, prefixSize, List.take_succ_cons, List.take_zero, List.drop_succ_cons,
        List.drop_zero, hlength]

/-- What a payload of the stream was framed as stands in front of it. -/
theorem split?_eq_some_iff {b payload rest : Bytes} :
    split? b = some (payload, rest) ↔
      payload.length ≤ maxPayload ∧ b = frame payload ++ rest := by
  constructor
  · intro hsplit
    have hlong : prefixSize ≤ b.length := Nat.not_lt.1 fun hshort => by
      rw [split?_of_length_lt hshort] at hsplit
      cases hsplit
    rw [split?_of_le_length hlong] at hsplit
    dsimp only at hsplit
    split at hsplit
    · rename_i hfits
      cases hsplit
      have hpayload : ((b.drop prefixSize).take (Bytes.toNat (b.take prefixSize))).length =
          Bytes.toNat (b.take prefixSize) := by
        rw [List.length_take, Nat.min_eq_left hfits.2]
      refine ⟨by rw [hpayload]; exact hfits.1, ?_⟩
      rw [frame, hpayload, Bytes.bigEndian_toNat (by simp [hlong]), List.append_assoc,
        List.take_append_drop, List.take_append_drop]
    · cases hsplit
  · rintro ⟨hfits, rfl⟩
    have hprefix : (Bytes.bigEndian prefixSize payload.length).length = prefixSize :=
      Bytes.length_bigEndian _ _
    have hcapacity : maxPayload < Bytes.capacity prefixSize := by decide
    have hlength : Bytes.toNat (Bytes.bigEndian prefixSize payload.length) = payload.length :=
      Bytes.toNat_bigEndian_of_lt (Nat.lt_of_le_of_lt hfits hcapacity)
    rw [split?_of_le_length (by simp [frame, hprefix]), frame, List.append_assoc,
      List.take_left' hprefix, List.drop_left' hprefix, hlength]
    simp [hfits]

theorem length_of_split? {b payload rest : Bytes} (hsplit : split? b = some (payload, rest)) :
    rest.length < b.length := by
  obtain ⟨-, rfl⟩ := split?_eq_some_iff.1 hsplit
  have hprefix : (Bytes.bigEndian prefixSize payload.length).length = prefixSize :=
    Bytes.length_bigEndian _ _
  rw [prefixSize] at hprefix
  simp only [frame, List.length_append, hprefix, prefixSize]
  omega

/-- The payloads of a stream, up to where no whole payload stands in front. -/
def payloads (b : Bytes) : List Bytes :=
  match _hsplit : split? b with
  | none => []
  | some (payload, rest) => payload :: payloads rest
termination_by b.length
decreasing_by exact length_of_split? _hsplit

theorem payloads_of_split? {b payload rest : Bytes} (hsplit : split? b = some (payload, rest)) :
    payloads b = payload :: payloads rest := by
  rw [payloads]
  split
  · rename_i hnone
    rw [hsplit] at hnone
    cases hnone
  · rename_i hsome
    rw [hsplit] at hsome
    cases hsome
    rfl

theorem payloads_of_none {b : Bytes} (hsplit : split? b = none) : payloads b = [] := by
  rw [payloads]
  split
  · rfl
  · rename_i hsome
    rw [hsplit] at hsome
    cases hsome

theorem length_payloads_le (b : Bytes) : (payloads b).length ≤ b.length := by
  fun_induction payloads b with
  | case1 => exact Nat.zero_le _
  | case2 b payload rest hsplit ih =>
      rw [List.length_cons]
      exact Nat.succ_le_of_lt (Nat.lt_of_le_of_lt ih (length_of_split? hsplit))

/-- Whole payloads in front of a stream are read first. -/
theorem payloads_frames {given : List Bytes} (hfits : ∀ payload ∈ given, payload.length ≤ maxPayload)
    (rest : Bytes) : payloads (given.flatMap frame ++ rest) = given ++ payloads rest := by
  induction given with
  | nil => rfl
  | cons payload given ih =>
      have hsplit : split? ((payload :: given).flatMap frame ++ rest) =
          some (payload, given.flatMap frame ++ rest) :=
        split?_eq_some_iff.2 ⟨hfits payload List.mem_cons_self, by
          rw [List.flatMap_cons, List.append_assoc]⟩
      rw [payloads_of_split? hsplit, List.cons_append,
        ih fun other hother => hfits other (List.mem_cons_of_mem payload hother)]

/-- What follows a length that is refused does not matter. -/
theorem Oversized.append {b : Bytes} (hover : Oversized b) (more : Bytes) : Oversized (b ++ more) := by
  refine ⟨Nat.le_trans hover.1 (by simp), ?_⟩
  rw [List.take_append_of_le_length hover.1]
  exact hover.2

theorem Oversized.split?_eq {b : Bytes} (hover : Oversized b) : split? b = none := by
  rw [split?_of_le_length hover.1]
  exact if_neg fun hfits => Nat.not_lt.2 hfits.1 hover.2

namespace Decoder

variable {d : Decoder}

/-- Why a length is refused. -/
def tooLarge (length : Nat) : Fault :=
  .invalidMessage s!"frame too large: {length} bytes (max {maxPayload})"

/-- The length that stands in front. -/
def announced (d : Decoder) : Nat := Bytes.toNat (d.buffer.take prefixSize)

theorem next_of_split? {payload rest : Bytes} (hsplit : split? d.buffer = some (payload, rest)) :
    d.next = (.ok (some payload), ⟨rest⟩) := by
  have hlong : ¬ d.buffer.length < prefixSize := by
    intro hshort
    rw [split?_of_length_lt hshort] at hsplit
    cases hsplit
  rw [split?_of_le_length (Nat.not_lt.1 hlong)] at hsplit
  dsimp only at hsplit
  split at hsplit
  · rename_i hfits
    cases hsplit
    simp only [next, hlong, ↓reduceIte, Nat.not_lt.2 hfits.1, Nat.not_lt.2 hfits.2]
  · cases hsplit

theorem next_of_oversized (hover : Oversized d.buffer) : d.next = (.error (tooLarge d.announced), d) := by
  simp only [next, Nat.not_lt.2 hover.1, ↓reduceIte, hover.2, tooLarge, announced]

theorem next_of_none (hsplit : split? d.buffer = none) (hfits : ¬ Oversized d.buffer) :
    d.next = (.ok none, d) := by
  by_cases hshort : d.buffer.length < prefixSize
  · simp only [next, hshort, ↓reduceIte]
  · have hlong := Nat.not_lt.1 hshort
    have hlength : ¬ maxPayload < Bytes.toNat (d.buffer.take prefixSize) := fun hover =>
      hfits ⟨hlong, hover⟩
    rw [split?_of_le_length hlong] at hsplit
    simp only [Nat.not_lt.1 hlength, true_and] at hsplit
    have hrest : (d.buffer.drop prefixSize).length < Bytes.toNat (d.buffer.take prefixSize) :=
      Nat.not_le.1 fun hwhole => by
        rw [if_pos hwhole] at hsplit
        cases hsplit
    simp only [next, hshort, ↓reduceIte, hlength, hrest]

end Decoder

/-- What happens to a decoder: octets arrive, or it is asked for a payload. -/
inductive Event where
  | feed (octets : Bytes)
  | ask
deriving DecidableEq

/-- The octets that an event brings. -/
def Event.octets : Event → Bytes
  | feed octets => octets
  | ask => []

/-- All octets that events bring. -/
def fed (events : List Event) : Bytes := events.flatMap Event.octets

/-- A decoder in use, with what it has answered so far. -/
structure Reading where
  decoder : Decoder := {}
  answers : List (Outcome (Option Bytes)) := []

namespace Reading

variable {r : Reading}

def step (r : Reading) : Event → Reading
  | .feed octets => { r with decoder := r.decoder.extend octets }
  | .ask => ⟨r.decoder.next.2, r.answers ++ [r.decoder.next.1]⟩

def after (r : Reading) (events : List Event) : Reading := events.foldl step r

/-- The payload of an answer. -/
def payload? : Outcome (Option Bytes) → Option Bytes
  | .ok payload => payload
  | .error _ => none

/-- The payloads given out, in order. -/
def given (r : Reading) : List Bytes := r.answers.filterMap payload?

/-- What has been given out and what is held is all that was fed, and no payload was too long. -/
structure Sound (r : Reading) (fed : Bytes) : Prop where
  given_append : r.given.flatMap frame ++ r.decoder.buffer = fed
  fits : ∀ payload ∈ r.given, payload.length ≤ maxPayload

/-- An answer gives out the payload in front, or nothing changes but the answers. -/
theorem step_ask (r : Reading) :
    (∃ payload rest, split? r.decoder.buffer = some (payload, rest) ∧
      (r.step .ask).given = r.given ++ [payload] ∧ (r.step .ask).decoder.buffer = rest) ∨
    (split? r.decoder.buffer = none ∧
      (r.step .ask).given = r.given ∧ (r.step .ask).decoder = r.decoder) := by
  cases hsplit : split? r.decoder.buffer with
  | some pair =>
      refine .inl ⟨pair.1, pair.2, rfl, ?_⟩
      have hnext := Decoder.next_of_split? hsplit
      simp [step, given, payload?, hnext]
  | none =>
      refine .inr ⟨rfl, ?_⟩
      by_cases hover : Oversized r.decoder.buffer
      · simp [step, given, payload?, Decoder.next_of_oversized hover]
      · simp [step, given, payload?, Decoder.next_of_none hsplit hover]

theorem Sound.step {fed : Bytes} (hsound : r.Sound fed) (e : Event) :
    (r.step e).Sound (fed ++ e.octets) := by
  cases e with
  | feed octets =>
      refine ⟨?_, hsound.fits⟩
      rw [← hsound.given_append, List.append_assoc]
      rfl
  | ask =>
      rw [Event.octets, List.append_nil]
      rcases step_ask r with ⟨payload, rest, hsplit, hgiven, hbuffer⟩ | ⟨-, hgiven, hdecoder⟩
      · obtain ⟨hfits, hframed⟩ := split?_eq_some_iff.1 hsplit
        constructor
        · rw [hgiven, hbuffer, ← hsound.given_append, hframed]
          simp
        · intro other hother
          rw [hgiven, List.mem_append, List.mem_singleton] at hother
          rcases hother with hold | rfl
          · exact hsound.fits other hold
          · exact hfits
      · exact ⟨by rw [hgiven, hdecoder]; exact hsound.given_append, by rw [hgiven]; exact hsound.fits⟩

theorem Sound.after {bytes : Bytes} (hsound : r.Sound bytes) (events : List Event) :
    (r.after events).Sound (bytes ++ fed events) := by
  induction events generalizing r bytes with
  | nil => simpa [fed, Reading.after] using hsound
  | cons e events ih =>
      have hstep := ih (hsound.step e)
      rw [List.append_assoc] at hstep
      exact hstep

theorem start_sound : ({} : Reading).Sound [] := ⟨rfl, fun _ hpayload => by cases hpayload⟩

theorem after_sound (events : List Event) : (({} : Reading).after events).Sound (fed events) :=
  start_sound.after events

/-- The payloads of the stream are those given out and those that can be read from what is held. -/
theorem Sound.payloads_eq {fed : Bytes} (hsound : r.Sound fed) :
    payloads fed = r.given ++ payloads r.decoder.buffer := by
  rw [← hsound.given_append, payloads_frames hsound.fits]

/-- Asked once for each payload held or more often, a decoder gives out all of them. -/
theorem given_asked (count : Nat) (hcount : (payloads r.decoder.buffer).length ≤ count) :
    (r.after (List.replicate count .ask)).given = r.given ++ payloads r.decoder.buffer := by
  induction count generalizing r with
  | zero =>
      rw [List.length_eq_zero_iff.1 (Nat.le_zero.1 hcount), List.append_nil]
      rfl
  | succ count ih =>
      rw [List.replicate_succ]
      change ((r.step .ask).after (List.replicate count .ask)).given = _
      rcases step_ask r with ⟨payload, rest, hsplit, hgiven, hbuffer⟩ | ⟨hsplit, hgiven, hdecoder⟩
      · rw [payloads_of_split? hsplit] at hcount ⊢
        rw [ih (by rw [hbuffer]; simpa using hcount), hgiven, hbuffer, List.append_assoc]
        rfl
      · rw [ih, hgiven, hdecoder]
        rw [hdecoder, payloads_of_none hsplit]
        exact Nat.zero_le _

/-- Once a length is refused, every question is answered so, and what is fed only piles up. -/
theorem after_oversized (hover : Oversized r.decoder.buffer) (later : List Event) :
    (r.after later).answers = r.answers ++
        List.replicate (later.count .ask) (.error (Decoder.tooLarge r.decoder.announced)) ∧
      (r.after later).decoder.buffer = r.decoder.buffer ++ fed later := by
  induction later generalizing r with
  | nil => simp [after, fed]
  | cons e later ih =>
      cases e with
      | feed octets =>
          obtain ⟨hanswers, hbuffer⟩ := ih (r := r.step (.feed octets)) (hover.append octets)
          have hannounced : (r.step (.feed octets)).decoder.announced = r.decoder.announced := by
            simp only [Decoder.announced, step, Decoder.extend]
            rw [List.take_append_of_le_length hover.1]
          rw [hannounced] at hanswers
          constructor
          · rw [List.count_cons_of_ne (by simp)]
            exact hanswers
          · exact hbuffer.trans (List.append_assoc _ _ _)
      | ask =>
          have hnext := Decoder.next_of_oversized hover
          have hsame : (r.step .ask).decoder = r.decoder := by rw [step, hnext]
          obtain ⟨hanswers, hbuffer⟩ := ih (r := r.step .ask) (by rw [hsame]; exact hover)
          rw [hsame] at hanswers hbuffer
          refine ⟨hanswers.trans ?_, hbuffer⟩
          rw [step, hnext, List.count_cons_self, List.replicate_succ, List.append_assoc]
          rfl

/-- Octets may be cut in any way and the decoder asked at any time: what it has given out is a first part of
the payloads of the whole stream, and with what it holds it is exactly what was fed.  A decoder that has
nothing to give has given out all payloads, and asking often enough brings it there.  A length that is too
large is refused from then on, whatever is fed. -/
theorem given_however_cut (events : List Event) :
    let r := ({} : Reading).after events
    r.given <+: payloads (fed events) ∧
      r.given.flatMap frame ++ r.decoder.buffer = fed events ∧
      ((∀ payload, r.decoder.next.1 ≠ .ok (some payload)) → r.given = payloads (fed events)) ∧
      (∀ count, (fed events).length ≤ count →
        (r.after (List.replicate count .ask)).given = payloads (fed events)) ∧
      (Oversized r.decoder.buffer → ∀ later,
        (r.after later).answers = r.answers ++
            List.replicate (later.count .ask) (.error (Decoder.tooLarge r.decoder.announced)) ∧
          (r.after later).decoder.buffer = r.decoder.buffer ++ fed later) := by
  intro r
  have hsound : r.Sound (fed events) := after_sound events
  have hpayloads := hsound.payloads_eq
  refine ⟨⟨_, hpayloads.symm⟩, hsound.given_append, ?_, ?_, after_oversized⟩
  · intro hdrained
    cases hsplit : split? r.decoder.buffer with
    | none => rw [hpayloads, payloads_of_none hsplit, List.append_nil]
    | some pair =>
        rw [Decoder.next_of_split? hsplit] at hdrained
        exact absurd rfl (hdrained pair.1)
  · intro count hcount
    rw [hpayloads, given_asked]
    have hheld : r.decoder.buffer.length ≤ (fed events).length := by
      rw [← hsound.given_append, List.length_append]
      omega
    exact Nat.le_trans (length_payloads_le _) (Nat.le_trans hheld hcount)

end Reading

end Workbench.Framing

import Workbench.Proofs.Runs
import Workbench.Proofs.Text.Pieces
import Workbench.Terminal.Local

/-!
What is told of octets that are read in pieces.  A character that the end of a piece cuts is kept for the next piece
if all is well-formed before it in what was kept and the piece.  Otherwise it is told as ill-formed at once, and what
is told is right just as long as it does not go on in the next piece.
-/

namespace Workbench.Terminal

open Utf8

theorem takeText_of_well {octets : Bytes} (hwell : none ∉ outputs none octets) :
    ∃ chars begun, Spelling octets chars begun ∧ takeText octets = (String.ofList chars, begun) := by
  obtain ⟨chars, begun, hspelling⟩ := exists_spelling hwell
  refine ⟨chars, begun, hspelling, ?_⟩
  simp only [takeText, feed_empty, List.toList_toArray, hspelling.outputs_eq, mapM_id_map_some]
  cases hstate : stateAfter none octets with
  | none =>
      obtain rfl : begun = [] := hspelling.begins.eq_nil_iff.2 hstate
      rfl
  | some p =>
      have hsize : (String.ofList chars).utf8ByteSize = (spelled chars).length := by
        rw [← length_spelled, String.toList_ofList]
      have hrest : octets.drop (spelled chars).length = begun := by
        rw [hspelling.octets_eq, List.drop_left]
      simp only [hsize, hrest]

theorem takeText_of_ill {octets : Bytes} (hill : none ∈ outputs none octets) :
    takeText octets = (decodeLossy octets, []) := by
  simp only [takeText, feed_empty, List.toList_toArray, mapM_id_eq_none hill]

/-- Octets that have been read, the text that has been told of them, and what is kept for the next piece. -/
structure Transcript where
  octets : Bytes := []
  text : String := ""
  unread : Bytes := []

namespace Transcript

def next (t : Transcript) (piece : Bytes) : Transcript :=
  let (text, unread) := takeText (t.unread ++ piece)
  ⟨t.octets ++ piece, t.text ++ text, unread⟩

/-- What is told of pieces. -/
def ofPieces (pieces : List Bytes) : Transcript := pieces.foldl next {}

section Next

variable (t : Transcript) (piece : Bytes)

theorem octets_next : (t.next piece).octets = t.octets ++ piece := rfl

theorem text_next : (t.next piece).text = t.text ++ (takeText (t.unread ++ piece)).1 := rfl

theorem unread_next : (t.next piece).unread = (takeText (t.unread ++ piece)).2 := rfl

theorem ofPieces_concat (pieces : List Bytes) : ofPieces (pieces ++ [piece]) = (ofPieces pieces).next piece :=
  List.foldl_concat ..

end Next

variable {t : Transcript} {piece : Bytes}

theorem octets_foldl_next (t : Transcript) (pieces : List Bytes) :
    (pieces.foldl next t).octets = t.octets ++ pieces.flatten := by
  induction pieces generalizing t with
  | nil => simp
  | cons piece pieces ih =>
      rw [List.foldl_cons, ih, List.flatten_cons, ← List.append_assoc, octets_next]

theorem octets_ofPieces (pieces : List Bytes) : (ofPieces pieces).octets = pieces.flatten :=
  octets_foldl_next {} pieces

/-- All is told that is complete, and what is kept begins the character in progress; where nothing is kept, all is
told as if nothing came after it. -/
structure Faithful (t : Transcript) : Prop where
  text_eq : t.text = String.ofList (shown (if t.unread = [] then units none t.octets else outputs none t.octets))
  kept : t.unread ≠ [] → outputs none t.unread = [] ∧ stateAfter none t.unread = stateAfter none t.octets ∧
    (stateAfter none t.octets).isSome

/-- The piece does not go on with a character that has been told as ill-formed. -/
def Admits (t : Transcript) (piece : Bytes) : Prop :=
  t.unread = [] → ∀ octet ∈ piece.head?, ¬Continues (stateAfter none t.octets) octet

theorem not_admits_iff :
    ¬t.Admits piece ↔
      t.unread = [] ∧ ∃ octet rest, piece = octet :: rest ∧ Continues (stateAfter none t.octets) octet := by
  cases piece with
  | nil => simp [Admits]
  | cons octet rest => simp [Admits]

/-- What is taken of octets is the beginning of a transcript of them. -/
theorem faithful_takeText (octets : Bytes) : Faithful ⟨octets, (takeText octets).1, (takeText octets).2⟩ := by
  by_cases hill : none ∈ outputs none octets
  · rw [takeText_of_ill hill]
    refine ⟨?_, fun hkept => absurd rfl hkept⟩
    rw [if_pos rfl, decodeLossy_eq]
  · obtain ⟨chars, begun, hspelling, htake⟩ := takeText_of_well hill
    rw [htake]
    have hchars : shown (outputs none octets) = chars := by
      rw [hspelling.outputs_eq, shown, List.map_map]
      exact List.map_id' chars
    by_cases hbegun : begun = []
    · have hstate := hspelling.begins.eq_nil_iff.1 hbegun
      refine ⟨?_, fun hkept => absurd hbegun hkept⟩
      simp only [hbegun, if_true, units, hstate, Option.isSome_none, Bool.false_eq_true, if_false, List.append_nil,
        hchars]
    · have hopen := Option.isSome_iff_ne_none.2 (mt hspelling.begins.eq_nil_iff.2 hbegun)
      refine ⟨?_, fun _ => ⟨hspelling.nothing_yet, hspelling.stateAfter_begun, hopen⟩⟩
      simp only [if_neg hbegun, hchars]

/-- What is told of the next piece is faithful if the octets that it is read with come to what it comes to after all
that has been read. -/
theorem faithful_next_of {front : List (Option Char)} (htext : t.text = String.ofList (shown front))
    (houtputs : outputs none (t.octets ++ piece) = front ++ outputs none (t.unread ++ piece))
    (hstate : stateAfter none (t.octets ++ piece) = stateAfter none (t.unread ++ piece)) : (t.next piece).Faithful := by
  have htake := faithful_takeText (t.unread ++ piece)
  have hunits : units none (t.octets ++ piece) = front ++ units none (t.unread ++ piece) := by
    rw [units, units, houtputs, hstate, List.append_assoc]
  refine ⟨?_, fun hkept => ?_⟩
  · have htaken : (takeText (t.unread ++ piece)).1 = _ := htake.text_eq
    rw [text_next, octets_next, unread_next, htext, htaken, ← String.ofList_append, hunits, houtputs]
    split <;> simp [shown]
  · rw [octets_next, hstate]
    exact htake.kept hkept

theorem Faithful.next (h : t.Faithful) (hadmits : t.Admits piece) : (t.next piece).Faithful := by
  by_cases hunread : t.unread = []
  · have htext := h.text_eq
    rw [if_pos hunread] at htext
    cases piece with
    | nil =>
        have hidle : t.next [] = t := by
          obtain ⟨octets, text, unread⟩ := t
          obtain rfl : unread = [] := hunread
          simp [Transcript.next, takeText, Reading.feed]
        rwa [hidle]
    | cons octet rest =>
        obtain ⟨houtputs, hstate⟩ := read_of_not_continues (hadmits hunread octet rfl) rest
        refine faithful_next_of htext ?_ ?_
        · rw [hunread, outputs_append, houtputs, units, List.nil_append, List.append_assoc]
        · rw [hunread, stateAfter_append, hstate, List.nil_append]
  · obtain ⟨hnothing, hstate, -⟩ := h.kept hunread
    have htext := h.text_eq
    rw [if_neg hunread] at htext
    refine faithful_next_of htext ?_ ?_
    · rw [outputs_append, outputs_append, hnothing, hstate, List.nil_append]
    · rw [stateAfter_append, stateAfter_append, hstate]

theorem Faithful.foldl_next (h : t.Faithful) {pieces : List Bytes}
    (hadmits : Throughout Transcript.next Admits t pieces) : (pieces.foldl Transcript.next t).Faithful := by
  induction pieces generalizing t with
  | nil => exact h
  | cons piece pieces ih => exact ih (h.next hadmits.1) hadmits.2

theorem Faithful.text_eq_decodeLossy (h : t.Faithful) (hunread : t.unread = []) : t.text = decodeLossy t.octets := by
  rw [h.text_eq, if_pos hunread, decodeLossy_eq]

/-- What is kept is missing in what has been told. -/
theorem Faithful.text_ne_decodeLossy (h : t.Faithful) (hunread : t.unread ≠ []) : t.text ≠ decodeLossy t.octets := by
  obtain ⟨-, -, hopen⟩ := h.kept hunread
  intro heq
  rw [h.text_eq, if_neg hunread, decodeLossy_eq, String.ofList_inj] at heq
  have hlength := congrArg List.length heq
  rw [length_shown, length_shown, units, if_pos hopen, List.length_append, List.length_singleton] at hlength
  omega

/-- A piece that goes on with a character that has been told as ill-formed is told as more than there is. -/
theorem Faithful.text_next_ne_decodeLossy (h : t.Faithful) (hadmits : ¬t.Admits piece) :
    (t.next piece).text ≠ decodeLossy (t.octets ++ piece) := by
  obtain ⟨hunread, octet, rest, rfl, hcontinues⟩ := not_admits_iff.1 hadmits
  cases hstate : stateAfter none t.octets with
  | none =>
      rw [hstate] at hcontinues
      exact hcontinues.elim
  | some p =>
      rw [hstate] at hcontinues
      have hsound : p.Sound := sound_stateAfter t.octets p hstate
      have hill : none ∈ outputs none (octet :: rest) := by
        rw [outputs, hsound.step_none hcontinues]
        exact List.mem_append_left _ (List.mem_singleton_self none)
      intro heq
      rw [text_next, hunread, List.nil_append, takeText_of_ill hill, h.text_eq, if_pos hunread, decodeLossy_eq,
        decodeLossy_eq, ← String.ofList_append, String.ofList_inj] at heq
      have hlength := congrArg List.length heq
      rw [List.length_append, length_shown, length_shown, length_shown, units_append, hstate, units, hstate] at hlength
      have hmore := length_units_le_of_continues hsound hcontinues rest
      simp only [Option.isSome_some, if_true, List.length_append, List.length_singleton] at hlength
      omega

/-- Something is kept for each character in progress as long as nothing is ill-formed, and for none that the octet
which closes the first ill-formed part begins. -/
structure Careful (t : Transcript) : Prop extends Faithful t where
  well : none ∉ outputs none t.octets → t.unread = [] → stateAfter none t.octets = none
  ill : t.unread ≠ [] → none ∈ outputs none t.octets →
    ∃ left octet, t.octets = left ++ [octet] ∧ none ∈ outputs none left

/-- As long as nothing is ill-formed, what is kept is read as all that has been read. -/
theorem Careful.read_of_well (h : t.Careful) (hwell : none ∉ outputs none t.octets) (piece : Bytes) :
    outputs none (t.unread ++ piece) = outputs (stateAfter none t.octets) piece ∧
      stateAfter none (t.unread ++ piece) = stateAfter none (t.octets ++ piece) := by
  have hread : outputs none t.unread = [] ∧ stateAfter none t.unread = stateAfter none t.octets := by
    by_cases hunread : t.unread = []
    · rw [hunread, h.well hwell hunread]
      exact ⟨rfl, rfl⟩
    · exact ⟨(h.kept hunread).1, (h.kept hunread).2.1⟩
  constructor
  · rw [outputs_append, hread.1, hread.2, List.nil_append]
  · rw [stateAfter_append, stateAfter_append, hread.2]

theorem unread_eq_nil_iff_of_well {octets : Bytes} (hwell : none ∉ outputs none octets) :
    (takeText octets).2 = [] ↔ stateAfter none octets = none := by
  obtain ⟨chars, begun, hspelling, htake⟩ := takeText_of_well hwell
  rw [htake]
  exact hspelling.begins.eq_nil_iff

/-- Nothing is kept of a piece that brings the first ill-formed part. -/
theorem Careful.unread_next_of_ill (h : t.Careful) (hwell : none ∉ outputs none t.octets)
    (hill : none ∈ outputs none (t.octets ++ piece)) : (t.next piece).unread = [] := by
  have hpiece : none ∈ outputs none (t.unread ++ piece) := by
    rw [outputs_append, List.mem_append] at hill
    rw [(h.read_of_well hwell piece).1]
    exact hill.resolve_left hwell
  rw [unread_next, takeText_of_ill hpiece]

theorem Careful.next (h : t.Careful) (hadmits : t.Admits piece) : (t.next piece).Careful where
  toFaithful := h.toFaithful.next hadmits
  well := by
    rw [octets_next, unread_next, outputs_append, List.mem_append, not_or]
    rintro ⟨hwell, hpiece⟩ hunread
    obtain ⟨houtputs, hstate⟩ := h.read_of_well hwell piece
    rw [← houtputs] at hpiece
    rw [← hstate]
    exact (unread_eq_nil_iff_of_well hpiece).1 hunread
  ill := by
    intro hunread hill
    rw [octets_next] at hill ⊢
    rcases List.eq_nil_or_concat piece with rfl | ⟨front, octet, rfl⟩
    · rw [List.append_nil] at hill ⊢
      refine h.ill (fun hnone => hunread ?_) hill
      rw [unread_next, hnone]
      rfl
    · rw [List.concat_eq_append] at hunread hill ⊢
      refine ⟨t.octets ++ front, octet, (List.append_assoc ..).symm, ?_⟩
      by_contra hwell
      rw [outputs_append, List.mem_append, not_or] at hwell
      exact hunread (h.unread_next_of_ill hwell.1 hill)

end Transcript

/-- No piece goes on with a character that has been told as ill-formed, and nothing is kept in the end. -/
def Unbroken (pieces : List Bytes) : Prop :=
  Throughout Transcript.next Transcript.Admits {} pieces ∧ (Transcript.ofPieces pieces).unread = []

theorem faithful_empty : Transcript.Faithful {} := ⟨rfl, fun hkept => absurd rfl hkept⟩

theorem careful_empty : Transcript.Careful {} where
  toFaithful := faithful_empty
  well _ _ := rfl
  ill hkept := absurd rfl hkept

theorem text_of_unbroken {pieces : List Bytes} (h : Unbroken pieces) :
    (Transcript.ofPieces pieces).text = decodeLossy pieces.flatten := by
  rw [← Transcript.octets_ofPieces]
  exact (faithful_empty.foldl_next h.1).text_eq_decodeLossy h.2

/-- Octets are told as they are read without a cut, however they are cut, just if no cut of them breaks anything. -/
theorem text_eq_iff_unbroken (octets : Bytes) :
    (∀ pieces : List Bytes, pieces.flatten = octets → (Transcript.ofPieces pieces).text = decodeLossy octets) ↔
      ∀ pieces : List Bytes, pieces.flatten = octets → Unbroken pieces := by
  constructor
  · intro htold pieces hpieces
    have hadmits : Throughout Transcript.next Transcript.Admits {} pieces := by
      by_contra hnot
      obtain ⟨before, piece, after, rfl, hbefore, hbroken⟩ := exists_not_admitted _ hnot
      obtain ⟨hunread, octet, rest, rfl, hcontinues⟩ := Transcript.not_admits_iff.1 hbroken
      -- all that is left at the break is read at once
      have hrest : ¬(Transcript.ofPieces before).Admits (octet :: rest ++ after.flatten) :=
        Transcript.not_admits_iff.2 ⟨hunread, octet, _, List.cons_append, hcontinues⟩
      have hall : (Transcript.ofPieces before).octets ++ (octet :: rest ++ after.flatten) = octets := by
        rw [Transcript.octets_ofPieces, ← hpieces, List.flatten_append, List.flatten_cons]
      have hother : (before ++ [octet :: rest ++ after.flatten]).flatten = octets := by
        rw [← hpieces]
        simp
      have htold' := htold _ hother
      rw [Transcript.ofPieces_concat, ← hall] at htold'
      exact (faithful_empty.foldl_next hbefore).text_next_ne_decodeLossy hrest htold'
    refine ⟨hadmits, ?_⟩
    by_contra hkept
    refine (faithful_empty.foldl_next hadmits).text_ne_decodeLossy hkept ?_
    rw [Transcript.octets_foldl_next]
    exact hpieces ▸ htold pieces hpieces
  · intro hall pieces hpieces
    rw [text_of_unbroken (hall pieces hpieces), hpieces]

/-- Octets in which no cut breaks anything: no character goes on after an ill-formed part, and none is in progress at
the end, unless the last octet has closed the first ill-formed part. -/
structure Settled (octets : Bytes) : Prop where
  plain : ∀ left octet right, octets = left ++ octet :: right → none ∈ outputs none left →
    ¬Continues (stateAfter none left) octet
  ended : stateAfter none octets = none ∨
    ∃ left octet, octets = left ++ [octet] ∧ none ∉ outputs none left ∧ none ∈ outputs none octets

theorem settled_of_unbroken {octets : Bytes}
    (h : ∀ pieces : List Bytes, pieces.flatten = octets → Unbroken pieces) : Settled octets := by
  -- what has been read before a cut is let go if something in it is ill-formed
  have hcut : ∀ left right, octets = left ++ right → none ∈ outputs none left →
      Transcript.Admits ⟨left, decodeLossy left, []⟩ right ∧ (takeText right).2 = [] := by
    intro left right heq hill
    obtain ⟨⟨-, hadmits, -⟩, hunread⟩ := h [left, right] (by simp [heq])
    have hfirst : Transcript.next {} left = ⟨left, decodeLossy left, []⟩ := by
      simp [Transcript.next, takeText_of_ill hill]
    rw [hfirst] at hadmits
    rw [Transcript.ofPieces, List.foldl_cons, hfirst] at hunread
    exact ⟨hadmits, hunread⟩
  have hplain : ∀ left octet right, octets = left ++ octet :: right → none ∈ outputs none left →
      ¬Continues (stateAfter none left) octet :=
    fun left octet right heq hill => (hcut left (octet :: right) heq hill).1 rfl octet rfl
  refine ⟨hplain, ?_⟩
  by_cases hwell : none ∈ outputs none octets
  · rcases List.eq_nil_or_concat octets with rfl | ⟨left, octet, heq⟩
    · exact .inl rfl
    rw [List.concat_eq_append] at heq
    by_cases hleft : none ∈ outputs none left
    · left
      have hstate : stateAfter none octets = stateAfter none [octet] := by
        rw [heq, stateAfter_append, (read_of_not_continues (hplain left octet [] heq hleft) []).2]
      have hunread := (hcut left [octet] heq hleft).2
      rw [hstate]
      by_cases hill : none ∈ outputs none [octet]
      · rw [outputs_single] at hill
        exact state_of_ill hill
      · exact (Transcript.unread_eq_nil_iff_of_well hill).1 hunread
    · exact .inr ⟨left, octet, heq, hleft, hwell⟩
  · have hunread := (h [octets] (by simp)).2
    exact .inl ((Transcript.unread_eq_nil_iff_of_well hwell).1 hunread)

/-- In settled octets, no piece goes on with a character that has been told as ill-formed. -/
theorem Settled.admits {octets : Bytes} (hsettled : Settled octets) {t : Transcript} (ht : t.Careful)
    {piece later : Bytes} (heq : t.octets ++ (piece ++ later) = octets) : t.Admits piece := by
  by_contra hnot
  obtain ⟨hunread, octet, rest, rfl, hcontinues⟩ := Transcript.not_admits_iff.1 hnot
  by_cases hill : none ∈ outputs none t.octets
  · exact hsettled.plain t.octets octet (rest ++ later) heq.symm hill hcontinues
  · rw [ht.well hill hunread] at hcontinues
    exact hcontinues

theorem Settled.unread_eq_nil {t : Transcript} (hsettled : Settled t.octets) (ht : t.Careful) : t.unread = [] := by
  by_contra hkept
  obtain ⟨-, -, hopen⟩ := ht.kept hkept
  rcases hsettled.ended with hclosed | ⟨left, octet, heq, hwell, hill⟩
  · rw [hclosed] at hopen
    cases hopen
  · obtain ⟨left', octet', heq', hill'⟩ := ht.ill hkept hill
    obtain ⟨rfl, -⟩ := List.append_inj' (heq.symm.trans heq') rfl
    exact hwell hill'

theorem Settled.run {octets : Bytes} (hsettled : Settled octets) {t : Transcript} (ht : t.Careful)
    {pieces : List Bytes} (heq : t.octets ++ pieces.flatten = octets) :
    Throughout Transcript.next Transcript.Admits t pieces ∧ (pieces.foldl Transcript.next t).unread = [] := by
  induction pieces generalizing t with
  | nil =>
      rw [List.flatten_nil, List.append_nil] at heq
      exact ⟨trivial, (heq ▸ hsettled).unread_eq_nil ht⟩
  | cons piece pieces ih =>
      have hadmits : t.Admits piece := hsettled.admits ht heq
      have hlater : (t.next piece).octets ++ pieces.flatten = octets := by
        rw [Transcript.octets_next, List.append_assoc]
        exact heq
      obtain ⟨hrest, hunread⟩ := ih (ht.next hadmits) hlater
      exact ⟨⟨hadmits, hrest⟩, hunread⟩

/-- Octets are told as they are read without a cut, however they are cut, just if they are settled. -/
theorem text_eq_iff_settled (octets : Bytes) :
    (∀ pieces : List Bytes, pieces.flatten = octets → (Transcript.ofPieces pieces).text = decodeLossy octets) ↔
      Settled octets := by
  rw [text_eq_iff_unbroken]
  exact ⟨settled_of_unbroken, fun hsettled pieces hpieces => hsettled.run careful_empty hpieces⟩

theorem settled_ofText (said : String) : Settled (Bytes.ofText said) := by
  have hread : Reading.mk (outputs none (Bytes.ofText said)).toArray (stateAfter none (Bytes.ofText said)) =
      ⟨(said.toList.map some).toArray, none⟩ := by
    rw [← feed_empty, feed_ofText]
  obtain ⟨houtputs, hstate⟩ := Reading.mk.inj hread
  have hwell : none ∉ outputs none (Bytes.ofText said) := by
    rw [List.toArray_inj houtputs]
    simp
  refine ⟨fun left octet right heq hill => ?_, .inl hstate⟩
  rw [heq, outputs_append, List.mem_append, not_or] at hwell
  exact absurd hill hwell.1

end Workbench.Terminal

import Workbench.Console.Update
import Workbench.Proofs.Console.Ring
import Workbench.Proofs.Text.Slices

/-!
The output that the panels show.  The ring cuts what was written at an octet, and what is left of a character at its
front is left out, so that the text shown is the longest end of the text written that begins with a whole character
and for which there is room.
-/

namespace Workbench.Console

open Utf8 (spelled length_spelled ofText_eq_spelled utf8EncodeChar_eq_cons)

namespace Ring

theorem dropWhile_spelled (chars : List Char) : (spelled chars).dropWhile isContinuation = spelled chars := by
  cases hchars : spelled chars with
  | nil => rfl
  | cons lead rest => exact List.dropWhile_cons_of_neg (by simp [Utf8.begins_of_spelled hchars])

/-- When octets go at the front of a text, and then what continues a character there, whole characters are left: no
others fit in the octets that had been left, and three octets at most are lost to that. -/
theorem dropWhile_drop_spelled (chars : List Char) (n : Nat) :
    ∃ kept, kept <:+ chars ∧ ((spelled chars).drop n).dropWhile isContinuation = spelled kept ∧
      ((spelled chars).drop n).length ≤ (spelled kept).length + 3 ∧
      ∀ other, other <:+ chars → (spelled other).length ≤ ((spelled chars).drop n).length → other <:+ kept := by
  induction chars generalizing n with
  | nil => exact ⟨[], List.suffix_refl [], by simp [spelled], by simp [spelled], fun other hother _ => hother⟩
  | cons c chars ih =>
      obtain ⟨lead, rest, hc, -, hrest, hshort⟩ := utf8EncodeChar_eq_cons c
      have hspelled : spelled (c :: chars) = lead :: rest ++ spelled chars := by
        rw [spelled, List.flatMap_cons, hc]
        rfl
      -- once anything is cut off, the first character is not whole
      have hothers : 0 < n → ∀ other, other <:+ c :: chars →
          (spelled other).length ≤ ((spelled (c :: chars)).drop n).length → other <:+ chars := by
        intro hn other hother hfits
        rcases List.suffix_cons_iff.1 hother with rfl | hother
        · rw [List.length_drop, hspelled, List.length_append, List.length_cons] at hfits
          omega
        · exact hother
      rcases Nat.eq_zero_or_pos n with rfl | hn
      · exact ⟨c :: chars, List.suffix_refl _, dropWhile_spelled _, Nat.le_add_right _ 3, fun other hother _ => hother⟩
      by_cases hinside : n ≤ rest.length + 1
      · have hcut : (spelled (c :: chars)).drop n = rest.drop (n - 1) ++ spelled chars := by
          obtain ⟨m, rfl⟩ : ∃ m, n = m + 1 := ⟨n - 1, by omega⟩
          rw [hspelled, List.cons_append, List.drop_succ_cons, List.drop_append_of_le_length (by omega)]
          rfl
        refine ⟨chars, List.suffix_cons c chars, ?_, ?_, hothers hn⟩
        · have hall : ∀ octet ∈ rest.drop (n - 1), isContinuation octet = true :=
            fun octet hoctet => hrest octet (List.mem_of_mem_drop hoctet)
          rw [hcut, List.dropWhile_append_of_pos hall, dropWhile_spelled]
        · rw [hcut, List.length_append, List.length_drop]
          omega
      · have hcut : (spelled (c :: chars)).drop n = (spelled chars).drop (n - (rest.length + 1)) := by
          rw [hspelled, List.drop_append, List.drop_eq_nil_of_le (by simp; omega), List.nil_append]
          rfl
        obtain ⟨kept, hkept, hleft, hlost, hlongest⟩ := ih (n - (rest.length + 1))
        rw [hcut] at hothers ⊢
        exact ⟨kept, hkept.trans (List.suffix_cons c chars), hleft, hlost,
          fun other hother hfits => hlongest other (hothers hn other hother hfits) hfits⟩

end Ring

/-- A text is the longest end of another one that is made of whole characters and fits into so many octets. -/
structure LongestEnd (limit : Nat) (said shown : String) : Prop where
  isSuffix : shown.toList <:+ said.toList
  fits : shown.utf8ByteSize ≤ limit
  longest : ∀ other : String, other.toList <:+ said.toList → other.utf8ByteSize ≤ limit → other.toList <:+ shown.toList

theorem LongestEnd.of_fits {limit : Nat} {said : String} (hfits : said.utf8ByteSize ≤ limit) :
    LongestEnd limit said said :=
  ⟨List.suffix_refl _, hfits, fun _ hother _ => hother⟩

/-- The text of a ring is as much of what was written as can be shown, and takes nearly all that the ring holds. -/
theorem Ring.Holds.text_longest {capacity : Nat} {r : Ring capacity} {said : String}
    (h : r.Holds (Bytes.ofText said)) :
    LongestEnd capacity said r.text ∧ r.length ≤ r.text.utf8ByteSize + 3 := by
  have htotal : r.total = said.utf8ByteSize := by rw [h.total_eq, Bytes.length_ofText]
  rw [Ring.text, h.toList_eq, Ring.length, htotal, List.rtake, Bytes.length_ofText, ofText_eq_spelled]
  by_cases hroom : said.utf8ByteSize ≤ capacity
  · have hall : Utf8.decodeLossy (spelled said.toList) = said := by rw [← ofText_eq_spelled, Utf8.decodeLossy_ofText]
    rw [if_neg (Nat.not_lt.2 hroom), Nat.sub_eq_zero_of_le hroom, List.drop_zero, hall]
    exact ⟨.of_fits hroom, by omega⟩
  · obtain ⟨kept, hkept, hleft, hlost, hlongest⟩ :=
      dropWhile_drop_spelled said.toList (said.utf8ByteSize - capacity)
    have hread : Utf8.decodeLossy (spelled kept) = String.ofList kept := by
      rw [spelled, ← Bytes.ofText_ofList, Utf8.decodeLossy_ofText]
    have hsize : (spelled kept).length = (String.ofList kept).utf8ByteSize := by
      rw [← length_spelled, String.toList_ofList]
    have hheld : ((spelled said.toList).drop (said.utf8ByteSize - capacity)).length = capacity := by
      rw [List.length_drop, length_spelled]
      omega
    rw [hheld] at hlost hlongest
    rw [if_pos (Nat.lt_of_not_le hroom), hleft, hread]
    refine ⟨⟨?_, ?_, ?_⟩, ?_⟩
    · rwa [String.toList_ofList]
    · have hpart : (spelled kept).length ≤ _ := hleft ▸ (List.dropWhile_sublist isContinuation).length_le
      rwa [hheld, hsize] at hpart
    · intro other hother hfits
      rw [String.toList_ofList]
      exact hlongest other.toList hother (by rwa [length_spelled])
    · omega

/-- A ring without room shows nothing, and that is all there is room for. -/
theorem Ring.text_longest_of_no_room {capacity : Nat} (hnone : capacity = 0) (r : Ring capacity) (said : String) :
    LongestEnd capacity said r.text ∧ r.length ≤ r.text.utf8ByteSize + 3 := by
  subst hnone
  have htext : r.text = "" := by
    rw [Ring.text, r.toList_zero, List.dropWhile_nil, ite_self]
    rfl
  rw [htext, Ring.length, Nat.min_zero]
  refine ⟨⟨List.nil_suffix, Nat.le_refl 0, fun other _ hfits => ?_⟩, Nat.zero_le _⟩
  have hempty : other = "" := String.utf8ByteSize_eq_zero_iff.1 (Nat.le_zero.1 hfits)
  exact hempty ▸ List.suffix_refl _

namespace GameData

/-- What has been written to the output since it was forgotten or replaced. -/
def saidAfter (said : String) : Update → String
  | .output chunk => said ++ chunk
  | .replaceOutput output => output
  | .clearServer => ""
  | .data _ | .clientResources _ | .serverResources _ | .serverMessage _ | .gameMessage _ | .active _ | .gameState _
  | .clearGame => said

/-- The shared state, with room for so many octets of output, holds what has been written. -/
def Keeps (g : GameData) (limit : Nat) (said : String) : Prop :=
  g.outputCapacity = limit ∧ (0 < g.outputCapacity → g.serverOutput.Holds (Bytes.ofText said))

variable {g : GameData} {limit : Nat} {said : String}

theorem Keeps.append (h : g.Keeps limit said) (chunk : String) :
    (g.appendOutput chunk).2.Keeps limit (said ++ chunk) := by
  refine ⟨h.1, fun hroom => ?_⟩
  rw [Bytes.ofText_append]
  exact ((h.2 hroom).write (Bytes.ofText chunk)).2

theorem Keeps.clear (h : g.Keeps limit said) : Keeps { g with serverOutput := g.serverOutput.clear } limit "" :=
  ⟨h.1, fun hroom => (h.2 hroom).clear⟩

theorem Keeps.apply (h : g.Keeps limit said) (u : Update) : (g.apply u).2.Keeps limit (saidAfter said u) := by
  cases u with
  | output chunk => exact h.append chunk
  | replaceOutput output =>
      have hreplaced := h.clear.append output
      rwa [String.empty_append] at hreplaced
  | clearServer => exact h.clear
  | data _ | clientResources _ | serverResources _ | serverMessage _ | gameMessage _ | active _ | gameState _
  | clearGame => exact h

theorem Keeps.run (h : g.Keeps limit said) (updates : List Update) :
    (updates.foldl (fun g u => (g.apply u).2) g).Keeps limit (updates.foldl saidAfter said) := by
  induction updates generalizing g said with
  | nil => exact h
  | cons u updates ih => exact ih (h.apply u)

theorem keeps_new (limit messageLimit : Nat) : (GameData.new limit messageLimit).Keeps limit "" :=
  ⟨rfl, fun hroom => Ring.Holds.empty hroom⟩

/-- Whatever becomes of the shared state, the output that it shows is the longest end of the text written since the
output was forgotten or replaced that begins with a whole character and fits.  So a character that stands for
ill-formed octets is shown only if it has been written, and at most three octets that the ring holds are not shown. -/
theorem longest_output_shown (limit messageLimit : Nat) (updates : List Update) :
    let g := updates.foldl (fun g u => (g.apply u).2) (GameData.new limit messageLimit)
    let said := updates.foldl saidAfter ""
    LongestEnd limit said g.bufferedOutput ∧
      (Utf8.replacement ∈ g.bufferedOutput.toList → Utf8.replacement ∈ said.toList) ∧
      g.serverOutput.length ≤ g.bufferedOutput.utf8ByteSize + 3 := by
  intro g said
  obtain ⟨hlimit, hholds⟩ : g.Keeps limit said := (keeps_new limit messageLimit).run updates
  have hlongest : LongestEnd limit said g.bufferedOutput ∧
      g.serverOutput.length ≤ g.bufferedOutput.utf8ByteSize + 3 := by
    rw [← hlimit]
    rcases Nat.eq_zero_or_pos g.outputCapacity with hnone | hroom
    · exact Ring.text_longest_of_no_room hnone g.serverOutput said
    · exact (hholds hroom).text_longest
  exact ⟨hlongest.1, fun hmem => hlongest.1.isSuffix.mem hmem, hlongest.2⟩

/-- Room that begins with a character shows it, room that begins amid one shows what follows, if anything does. -/
example : ((Ring.empty 3).write (Bytes.ofText "né!")).text = "é!" ∧
    ((Ring.empty 2).write (Bytes.ofText "né!")).text = "!" ∧ ((Ring.empty 2).write (Bytes.ofText "🎮")).text = "" := by
  decide +kernel

end GameData
end Workbench.Console

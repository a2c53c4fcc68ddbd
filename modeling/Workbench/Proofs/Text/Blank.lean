import Workbench.Text.Blank

/-!
Trimming.  What is left of a text stands in it between blanks, and neither begins nor ends with one; nothing is
left exactly of a text that is blank throughout.
-/

namespace Workbench.Text

/-- White space and nothing else. -/
def AllBlank (text : String) : Prop := ∀ c ∈ text.toList, isBlank c = true

instance (text : String) : Decidable (AllBlank text) :=
  decidable_of_iff (text.toList.all isBlank = true) List.all_eq_true

/-- What is left of a text without the blanks around it. -/
structure LeftOf (text kept : String) : Prop where
  amid : ∃ front back, text = front ++ kept ++ back ∧ AllBlank front ∧ AllBlank back
  begins : ∀ c ∈ kept.toList.head?, isBlank c = false
  ends : ∀ c ∈ kept.toList.getLast?, isBlank c = false

theorem trimStart_split (cs : List Char) :
    ∃ front, cs = front ++ trimStart cs ∧ ∀ c ∈ front, isBlank c = true :=
  ⟨cs.takeWhile isBlank, List.takeWhile_append_dropWhile.symm,
    fun _ hc => List.all_eq_true.1 List.all_takeWhile _ hc⟩

theorem head?_dropWhile {cs : List Char} : ∀ c ∈ (cs.dropWhile isBlank).head?, isBlank c = false := by
  intro c hc
  have hnot := List.head?_dropWhile_not isBlank cs
  rw [Option.mem_def.1 hc] at hnot
  simpa using hnot

theorem trimEnd_split (cs : List Char) :
    ∃ back, cs = trimEnd cs ++ back ∧ ∀ c ∈ back, isBlank c = true := by
  obtain ⟨front, hsplit, hblank⟩ := trimStart_split cs.reverse
  refine ⟨front.reverse, ?_, fun c hc => hblank c (List.mem_reverse.1 hc)⟩
  have hreverse := congrArg List.reverse hsplit
  rwa [List.reverse_reverse, List.reverse_append] at hreverse

/-- Blanks at the end do not decide how a text begins. -/
theorem head?_trimEnd {cs : List Char} : ∀ c ∈ (trimEnd cs).head?, c ∈ cs.head? := by
  intro c hc
  obtain ⟨back, hsplit, -⟩ := trimEnd_split cs
  rw [hsplit, List.head?_append, Option.mem_def.1 hc]
  rfl

theorem leftOf_trim (text : String) : LeftOf text (trim text) := by
  obtain ⟨front, hfront, hblankFront⟩ := trimStart_split text.toList
  obtain ⟨back, hback, hblankBack⟩ := trimEnd_split (trimStart text.toList)
  refine ⟨⟨String.ofList front, String.ofList back, ?_, ?_, ?_⟩, ?_, ?_⟩
  · rw [← String.toList_inj]
    simp only [String.toList_append, String.toList_ofList, trim, List.append_assoc, ← hback, ← hfront]
  · simpa [AllBlank] using hblankFront
  · simpa [AllBlank] using hblankBack
  · intro c hc
    rw [trim, String.toList_ofList] at hc
    exact head?_dropWhile c (head?_trimEnd c hc)
  · intro c hc
    rw [trim, String.toList_ofList, trimEnd, List.getLast?_reverse] at hc
    exact head?_dropWhile c hc

theorem trim_eq_empty_iff (text : String) : trim text = "" ↔ AllBlank text := by
  obtain ⟨⟨front, back, htext, hfront, hback⟩, hbegins, -⟩ := leftOf_trim text
  constructor
  · intro hempty c hc
    rw [htext, hempty] at hc
    simp only [String.append_empty, String.toList_append, List.mem_append] at hc
    exact hc.elim (hfront c) (hback c)
  · intro hblank
    rw [← String.toList_eq_nil_iff, ← List.head?_eq_none_iff, Option.eq_none_iff_forall_not_mem]
    intro c hc
    have hmem : c ∈ text.toList := by
      rw [htext, String.toList_append, String.toList_append]
      exact List.mem_append_left _ (List.mem_append_right _ (List.mem_of_mem_head? hc))
    have hnot := hbegins c hc
    rw [hblank c hmem] at hnot
    cases hnot

end Workbench.Text

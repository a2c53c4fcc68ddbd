import Mathlib.Data.List.DropRight
import Workbench.Proofs.Path

/-!
The path above a path.  Blank parts at the end of a path do not count, so the path above it has all of
its components but the last.
-/

namespace Workbench.Path

variable {ps front blank : List String} {last : String}

/-- The component that a path starts with, whatever follows, by its parts. -/
def leading : List String → List Component
  | [] => []
  | first :: rest =>
    if first = "" then (if rest = [] then [] else [.root])
    else if first = "." then [.current]
    else []

/-- Parts up to the last that stands for something. -/
structure EndsAt (ps front : List String) (last : String) (blank : List String) : Prop where
  eq_append : ps = front ++ last :: blank
  last_counts : isBlankPart last = false
  blank_after : ∀ part ∈ blank, isBlankPart part = true

section Parts

/-- Either no part stands for anything or one is the last that does. -/
theorem blank_or_endsAt (ps : List String) :
    (∀ part ∈ ps, isBlankPart part = true) ∨ ∃ front last blank, EndsAt ps front last blank := by
  induction ps with
  | nil => exact .inl (by simp)
  | cons part ps ih =>
      rcases ih with hall | ⟨front, last, blank, h⟩
      · cases hpart : isBlankPart part with
        | true => exact .inl (List.forall_mem_cons.2 ⟨hpart, hall⟩)
        | false => exact .inr ⟨[], part, ps, rfl, hpart, hall⟩
      · exact .inr ⟨part :: front, last, blank, congrArg (part :: ·) h.eq_append, h.last_counts, h.blank_after⟩

theorem head?_ne_current (h : ∀ rest, ps = "." :: rest → False) : ps.head? ≠ some "." := by
  cases ps with
  | nil => simp
  | cons first rest => exact fun heq => h rest (by rw [Option.some.inj heq])

theorem dropWhile_reverse_of_blank (h : ∀ part ∈ ps, isBlankPart part = true) :
    ps.reverse.dropWhile isBlankPart = [] := by
  rw [← List.reverse_eq_nil_iff]
  exact List.rdropWhile_eq_nil_iff.2 h

theorem EndsAt.dropWhile_reverse (h : EndsAt ps front last blank) :
    ps.reverse.dropWhile isBlankPart = last :: front.reverse := by
  have hreverse : ps.reverse = blank.reverse ++ last :: front.reverse := by simp [h.eq_append]
  have hblank : blank.reverse.dropWhile isBlankPart = [] := dropWhile_reverse_of_blank h.blank_after
  rw [hreverse, List.dropWhile_append, hblank]
  simp [h.last_counts]

@[simp] theorem innerComponents_append (a b : List String) :
    innerComponents (a ++ b) = innerComponents a ++ innerComponents b := by
  simp [innerComponents]

theorem innerComponents_of_blank (h : ∀ part ∈ ps, isBlankPart part = true) : innerComponents ps = [] := by
  rw [innerComponents, List.filter_eq_nil_iff.2 (by simpa using h), List.map_nil]

theorem EndsAt.innerComponents_eq (h : EndsAt ps front last blank) :
    innerComponents ps = innerComponents front ++ [partComponent last] := by
  have hlast : innerComponents (last :: blank) = partComponent last :: innerComponents blank := by
    simp [innerComponents, h.last_counts]
  rw [h.eq_append, innerComponents_append, hlast, innerComponents_of_blank h.blank_after]

theorem EndsAt.last_ne (h : EndsAt ps front last blank) : last ≠ "" ∧ last ≠ "." := by
  have hcounts := h.last_counts
  simpa [isBlankPart] using hcounts

/-- What follows the last part that counts does not change how a path starts. -/
theorem EndsAt.leading_eq (h : EndsAt ps front last blank) : leading ps = leading (front ++ [last]) := by
  obtain ⟨hempty, hdot⟩ := h.last_ne
  rw [h.eq_append]
  cases front with
  | nil => simp [leading, hempty, hdot]
  | cons first rest => simp [leading]

end Parts

section Texts

variable (path : String)

theorem parts_ne_nil : parts path ≠ [] := by simpa [parts] using splitSlash_ne_nil path.toList

theorem isAbsolute_iff : isAbsolute path = true ↔ ∃ next rest, parts path = "" :: next :: rest := by
  rw [isAbsolute, parts]
  cases path.toList with
  | nil => simp [splitSlash]
  | cons c cs =>
      rw [splitSlash]
      cases hparts : splitSlash cs with
      | nil => exact absurd hparts (splitSlash_ne_nil cs)
      | cons next rest =>
          by_cases hc : c = '/'
          · simp [hc]
          · simp [hc]

theorem leading_parts : leading (parts path) =
    if isAbsolute path then [.root] else if (parts path).head? = some "." then [.current] else [] := by
  obtain ⟨first, rest, hparts⟩ := List.exists_cons_of_ne_nil (parts_ne_nil path)
  have habsolute := isAbsolute_iff path
  rw [hparts] at habsolute ⊢
  rw [leading]
  by_cases hfirst : first = ""
  · cases rest with
    | nil => simp [hfirst, Bool.eq_false_iff.2 fun h => by simpa using habsolute.1 h]
    | cons next rest => simp [hfirst, habsolute.2 ⟨next, rest, by rw [hfirst]⟩]
  · have hrelative : isAbsolute path = false := by
      rw [Bool.eq_false_iff]
      intro h
      obtain ⟨next, rest, heq⟩ := habsolute.1 h
      exact hfirst (List.cons.inj heq).1
    simp [hfirst, hrelative]

/-- A path has the component that it starts with, and those of its parts. -/
theorem components_eq_leading : components path = leading (parts path) ++ innerComponents (parts path) := by
  rw [components, leading_parts]
  split
  · rfl
  · split
    · next rest hparts =>
      rw [hparts]
      rfl
    · next hdot => rw [if_neg (head?_ne_current hdot), List.nil_append]

theorem components_ofParts (hslash : ∀ part ∈ ps, '/' ∉ part.toList) :
    components (ofParts ps) = leading ps ++ innerComponents ps := by
  by_cases hne : ps = []
  · rw [hne]
    decide
  · rw [components_eq_leading, parts_ofParts hne hslash]

theorem EndsAt.slash_notMem (h : EndsAt (parts path) front last blank) :
    ∀ part ∈ front ++ [last], '/' ∉ part.toList := by
  intro part hpart
  have hmem : part ∈ parts path := by
    rw [h.eq_append]
    exact List.append_subset.2 ⟨List.subset_append_left .., by simp⟩ hpart
  exact slash_notMem_parts hmem

theorem trimEnd_of_endsAt (h : EndsAt (parts path) front last blank) :
    trimEnd path = ofParts (front ++ [last]) := by
  have hkept : (last :: front.reverse).reverse = front ++ [last] := by simp
  rw [trimEnd, h.dropWhile_reverse, hkept]
  split
  · simp
  · split
    · simp
    · rfl

theorem components_trimEnd_of_blank (h : ∀ part ∈ parts path, isBlankPart part = true) :
    components (trimEnd path) = leading (parts path) := by
  rw [trimEnd, dropWhile_reverse_of_blank h, leading_parts]
  split
  · decide
  · split
    · next rest hparts =>
      rw [hparts, List.head?_cons, if_pos rfl]
      decide
    · next hdot =>
      rw [if_neg (head?_ne_current hdot)]
      decide

/-- Blank parts at the end do not count. -/
theorem components_trimEnd : components (trimEnd path) = components path := by
  rw [components_eq_leading path]
  rcases blank_or_endsAt (parts path) with hblank | ⟨front, last, blank, h⟩
  · rw [components_trimEnd_of_blank path hblank, innerComponents_of_blank hblank, List.append_nil]
  · rw [trimEnd_of_endsAt path h, components_ofParts (h.slash_notMem path), h.leading_eq, h.innerComponents_eq]
    have hlast : innerComponents [last] = [partComponent last] := by
      simp [innerComponents, h.last_counts]
    rw [innerComponents_append, hlast]

/-- The text of the parts before the last that counts, absolute if the path is. -/
theorem EndsAt.components_above (h : EndsAt (parts path) front last blank) :
    components (if isAbsolute path ∧ ¬isAbsolute (ofParts front) then "/" ++ ofParts front else ofParts front) =
      leading (parts path) ++ innerComponents front := by
  have hslash : ∀ part ∈ front, '/' ∉ part.toList := fun part hpart =>
    h.slash_notMem path part (List.mem_append_left _ hpart)
  obtain ⟨hempty, hdot⟩ := h.last_ne
  cases front with
  | nil =>
      have hleading : leading (parts path) = [] := by
        rw [h.leading_eq]
        simp [leading, hempty, hdot]
      have hrelative : isAbsolute path = false := by
        rw [leading_parts] at hleading
        split at hleading
        · cases hleading
        · next hrelative => simpa using hrelative
      simp only [hrelative, hleading]
      decide
  | cons first rest =>
      -- Of a name right below the root only the empty part before the separator is left, which is not absolute.
      by_cases hroot : first = "" ∧ rest = []
      · obtain ⟨rfl, rfl⟩ := hroot
        have habsolute : isAbsolute path = true := (isAbsolute_iff path).2 ⟨last, blank, h.eq_append⟩
        rw [leading_parts, if_pos habsolute, habsolute]
        decide
      · have hleading : leading (parts path) = leading (first :: rest) := by
          rw [h.leading_eq]
          by_cases hfirst : first = ""
          · have hrest : rest ≠ [] := fun hrest => hroot ⟨hfirst, hrest⟩
            simp [leading, hfirst, hrest]
          · simp [leading, hfirst]
        have hkept : isAbsolute path = true → isAbsolute (ofParts (first :: rest)) = true := by
          intro habsolute
          obtain ⟨next, behind, hparts⟩ := (isAbsolute_iff path).1 habsolute
          have hfirst : first = "" := (List.cons.inj (h.eq_append.symm.trans hparts)).1
          obtain ⟨second, rest, rfl⟩ := List.exists_cons_of_ne_nil fun hrest => hroot ⟨hfirst, hrest⟩
          rw [isAbsolute_iff, parts_ofParts (List.cons_ne_nil _ _) hslash, hfirst]
          exact ⟨second, rest, rfl⟩
        rw [if_neg fun hboth => hboth.2 (hkept hboth.1), components_ofParts hslash, hleading]

/-- The path above a path has all of its components but the last; the root, and a path without
components, have none above them. -/
theorem map_components_parent? : (parent? path).map components =
    match (components path).getLast? with
    | none | some .root => none
    | some _ => some (components path).dropLast := by
  rw [parent?]
  rcases blank_or_endsAt (parts path) with hblank | ⟨front, last, blank, h⟩
  · have hcomponents : components path = leading (parts path) := by
      rw [components_eq_leading, innerComponents_of_blank hblank, List.append_nil]
    rw [hcomponents, dropWhile_reverse_of_blank hblank, leading_parts]
    cases habsolute : isAbsolute path with
    | true => rfl
    | false =>
        by_cases hdot : (parts path).head? = some "."
        · rw [if_neg (by decide), if_pos hdot]
          simp only [Bool.false_eq_true, false_and, if_false]
          decide
        · rw [if_neg (by decide), if_neg hdot]
          rfl
  · have hcomponents : components path = (leading (parts path) ++ innerComponents front) ++ [partComponent last] := by
      rw [components_eq_leading, h.innerComponents_eq, List.append_assoc]
    have hlast : partComponent last ≠ .root := by
      rw [partComponent]
      split
      · simp
      · simp
    have hback : ((last :: front.reverse).drop 1).reverse = front := by simp
    rw [hcomponents, List.getLast?_concat, List.dropLast_concat, h.dropWhile_reverse]
    cases hkind : partComponent last with
    | root => exact absurd hkind hlast
    | current | parent | normal name =>
        dsimp only
        rw [hback, Option.map_some, components_trimEnd, h.components_above]

end Texts

end Workbench.Path

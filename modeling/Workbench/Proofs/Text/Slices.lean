import Mathlib.Data.List.Infix
import Workbench.Console.Output
import Workbench.Proofs.Text.Pieces

/-!
Offsets in the octets of a text.  A text may be cut at an offset only if it is between two characters.  A text that is
looked for in another one is found where its characters stand, for no octet that begins a character continues one.
-/

namespace Workbench

section Search

variable {α : Type} [BEq α] [LawfulBEq α] {l part before after : List α}

theorem dropInfix?_eq_iff :
    l.dropInfix? part = some (before, after) ↔
      l = before ++ part ++ after ∧ ∀ front back, l = front ++ part ++ back → before.length ≤ front.length := by
  rw [List.dropInfix?_eq_some_iff]
  simp only [beq_iff_eq, exists_eq_right]
  constructor
  · exact fun ⟨hsplit, hleast⟩ => ⟨hsplit, fun front back hother => hleast front part back hother rfl⟩
  · intro ⟨hsplit, hleast⟩
    refine ⟨hsplit, ?_⟩
    rintro front _ back hother rfl
    exact hleast front back hother

/-- What stands somewhere is found. -/
theorem exists_dropInfix? (hsplit : l = before ++ part ++ after) :
    ∃ front back, l.dropInfix? part = some (front, back) := by
  induction hlength : before.length using Nat.strong_induction_on generalizing before after with
  | h n ih =>
      by_cases hleast : ∀ front back, l = front ++ part ++ back → before.length ≤ front.length
      · exact ⟨before, after, dropInfix?_eq_iff.2 ⟨hsplit, hleast⟩⟩
      · simp only [not_forall, Nat.not_le] at hleast
        obtain ⟨front, back, hother, hshorter⟩ := hleast
        exact ih front.length (hlength ▸ hshorter) hother rfl

theorem dropInfix?_eq_none_iff : l.dropInfix? part = none ↔ ¬ part <:+: l := by
  constructor
  · rintro hnone ⟨before, after, hsplit⟩
    obtain ⟨front, back, hsome⟩ := exists_dropInfix? hsplit.symm
    cases hnone.symm.trans hsome
  · intro habsent
    cases hfound : l.dropInfix? part with
    | none => rfl
    | some found =>
        obtain ⟨before, after⟩ := found
        exact absurd ⟨before, after, (dropInfix?_eq_iff.1 hfound).1.symm⟩ habsent

/-- It does not stand before the place where it is found first. -/
theorem not_infix_before (hpart : part ≠ []) (hfound : l.dropInfix? part = some (before, after)) :
    ¬ part <:+: before := by
  rintro ⟨front, back, hbefore⟩
  obtain ⟨hsplit, hleast⟩ := dropInfix?_eq_iff.1 hfound
  have hfirst := hleast front (back ++ part ++ after) (by rw [hsplit, ← hbefore]; simp only [List.append_assoc])
  have hlength := congrArg List.length hbefore
  have hpos := List.length_pos_iff.2 hpart
  simp only [List.length_append] at hlength
  omega

end Search

namespace Utf8

open Console.Ring (isContinuation)

theorem isContinuation_ofNat {n : Nat} (hn : n < 0x100) : isContinuation (UInt8.ofNat n) = (n / 64 == 2) := by
  rw [isContinuation, UInt8.toNat_ofNat', Nat.mod_eq_of_lt hn]

/-- A character is written as an octet that begins it and at most three that continue it. -/
theorem utf8EncodeChar_eq_cons (c : Char) :
    ∃ lead rest, String.utf8EncodeChar c = lead :: rest ∧ isContinuation lead = false ∧
      (∀ octet ∈ rest, isContinuation octet = true) ∧ rest.length ≤ 3 := by
  have hlead : ∀ n < 0x100, n / 64 ≠ 2 → isContinuation (UInt8.ofNat n) = false := by
    intro n hn hother
    rw [isContinuation_ofNat hn]
    exact beq_eq_false_iff_ne.2 hother
  have hrest : ∀ n, isContinuation (UInt8.ofNat (n % 0x40 + 0x80)) = true := by
    intro n
    rw [isContinuation_ofNat (by omega)]
    exact beq_iff_eq.2 (by omega)
  have hscalar : c.val.toNat < 0x110000 := by
    have hvalid : c.val.toNat < 0xD800 ∨ 0xDFFF < c.val.toNat ∧ c.val.toNat < 0x110000 := c.valid
    omega
  unfold String.utf8EncodeChar
  dsimp only
  generalize c.val.toNat = v at hscalar ⊢
  split
  · exact ⟨_, [], rfl, hlead _ (by omega) (by omega), by simp, by simp⟩
  split
  · refine ⟨_, [_], rfl, hlead _ (by omega) (by omega), ?_, by simp⟩
    simp only [List.mem_singleton, forall_eq, hrest]
  split
  · refine ⟨_, [_, _], rfl, hlead _ (by omega) (by omega), ?_, by simp⟩
    simp only [List.forall_mem_cons, List.mem_singleton, forall_eq, hrest, and_self]
  · refine ⟨_, [_, _, _], rfl, hlead _ (by omega) (by omega), ?_, by simp⟩
    simp only [List.forall_mem_cons, List.mem_singleton, forall_eq, hrest, and_self]

theorem spelled_ne_nil {chars : List Char} (hchars : chars ≠ []) : spelled chars ≠ [] := by
  cases chars with
  | nil => exact absurd rfl hchars
  | cons c chars =>
      obtain ⟨lead, rest, hc, -⟩ := utf8EncodeChar_eq_cons c
      simp [hc]

/-- The first octet of a text begins a character. -/
theorem begins_of_spelled {chars : List Char} {lead : UInt8} {rest : Bytes} (hchars : spelled chars = lead :: rest) :
    isContinuation lead = false := by
  cases chars with
  | nil => cases hchars
  | cons c chars =>
      obtain ⟨first, others, hc, hfirst, -⟩ := utf8EncodeChar_eq_cons c
      rw [spelled_cons, hc, List.cons_append] at hchars
      cases hchars
      exact hfirst

section Cuts

variable {chars part : List Char} {c d : Char} {front back : Bytes}

/-- No character is written as the beginning of another. -/
theorem char_eq_of_prefix (heq : String.utf8EncodeChar c ++ front = String.utf8EncodeChar d ++ back) : c = d := by
  have hread : ∀ (e : Char) (more : Bytes),
      (({} : Reading).feed (String.utf8EncodeChar e ++ more)).done.toList.head? = some (some e) := by
    intro e more
    rw [Reading.feed_append, Reading.feed_char rfl, feed_eq]
    simp
  have hsame := hread d back
  rw [← heq, hread c front] at hsame
  cases hsame
  rfl

/-- A text that others begin with as octets is one that their characters begin with. -/
theorem exists_rest (hchars : spelled chars = spelled part ++ back) :
    ∃ rest, chars = part ++ rest ∧ back = spelled rest := by
  induction part generalizing chars with
  | nil => exact ⟨chars, rfl, hchars.symm⟩
  | cons d part ih =>
      cases chars with
      | nil =>
          have hnil := (List.append_eq_nil_iff.1 hchars.symm).1
          exact absurd hnil (spelled_ne_nil (List.cons_ne_nil d part))
      | cons c chars =>
          rw [spelled_cons, spelled_cons, List.append_assoc] at hchars
          have hsame : c = d := char_eq_of_prefix hchars
          rw [hsame] at hchars
          obtain ⟨rest, hrest, hback⟩ := ih (List.append_cancel_left hchars)
          exact ⟨rest, by rw [hsame, hrest, List.cons_append], hback⟩

/-- Octets that begin with a character are cut off between two characters. -/
theorem exists_cut {lead : UInt8} (hchars : spelled chars = front ++ lead :: back)
    (hlead : isContinuation lead = false) :
    ∃ before after, chars = before ++ after ∧ front = spelled before ∧ lead :: back = spelled after := by
  induction chars generalizing front with
  | nil => simp at hchars
  | cons c chars ih =>
      cases front with
      | nil => exact ⟨[], c :: chars, rfl, rfl, hchars.symm⟩
      | cons octet front =>
          obtain ⟨first, others, hc, -, hothers, -⟩ := utf8EncodeChar_eq_cons c
          rw [spelled_cons, hc, List.cons_append, List.cons_append] at hchars
          obtain ⟨rfl, htail⟩ := List.cons.inj hchars
          rcases List.append_eq_append_iff.1 htail with ⟨more, hfront, hrest⟩ | ⟨more, hshort, hrest⟩
          · obtain ⟨before, after, hsplit, hbefore, hafter⟩ := ih hrest
            refine ⟨c :: before, after, by rw [hsplit, List.cons_append], ?_, hafter⟩
            rw [spelled_cons, hc, hfront, hbefore, List.cons_append]
          · cases more with
            | nil =>
                rw [List.append_nil] at hshort
                exact ⟨[c], chars, rfl, by simp [hc, hshort], hrest⟩
            | cons other more =>
                -- the cut would be before an octet that continues the character
                obtain ⟨rfl, -⟩ := List.cons.inj hrest
                have hinside : isContinuation lead = true := hothers lead (by simp [hshort])
                cases hlead.symm.trans hinside

/-- A text is found in another as octets where it stands in it. -/
theorem exists_place (hpart : part ≠ []) (hchars : spelled chars = front ++ spelled part ++ back) :
    ∃ before after, chars = before ++ part ++ after ∧ front = spelled before ∧ back = spelled after := by
  cases hspelled : spelled part with
  | nil => exact absurd hspelled (spelled_ne_nil hpart)
  | cons lead rest =>
      rw [hspelled, List.append_assoc, List.cons_append] at hchars
      obtain ⟨before, tail, hsplit, hbefore, htail⟩ := exists_cut hchars (begins_of_spelled hspelled)
      rw [← List.cons_append, ← hspelled] at htail
      obtain ⟨after, hafter, hback⟩ := exists_rest htail.symm
      exact ⟨before, after, by rw [hsplit, hafter, List.append_assoc], hbefore, hback⟩

theorem length_le_of_spelled {before other : List Char} (hle : before <+: other) :
    (spelled before).length ≤ (spelled other).length := by
  obtain ⟨rest, rfl⟩ := hle
  simp

theorem dropInfix?_spelled (hpart : part ≠ []) (chars : List Char) :
    (spelled chars).dropInfix? (spelled part) =
      (chars.dropInfix? part).map fun (before, after) => (spelled before, spelled after) := by
  cases hfound : chars.dropInfix? part with
  | none =>
      rw [dropInfix?_eq_none_iff] at hfound
      rw [Option.map_none, dropInfix?_eq_none_iff]
      rintro ⟨front, back, hsplit⟩
      obtain ⟨before, after, hchars, -⟩ := exists_place hpart hsplit.symm
      exact hfound ⟨before, after, hchars.symm⟩
  | some found =>
      obtain ⟨before, after⟩ := found
      obtain ⟨hsplit, hleast⟩ := dropInfix?_eq_iff.1 hfound
      rw [Option.map_some, dropInfix?_eq_iff]
      refine ⟨by rw [hsplit, spelled_append, spelled_append], ?_⟩
      intro front back hother
      obtain ⟨there, rest, hchars, rfl, -⟩ := exists_place hpart hother
      have hshorter : before.length ≤ there.length := hleast there rest hchars
      apply length_le_of_spelled
      have hfirst : before <+: chars := ⟨part ++ after, by rw [hsplit, List.append_assoc]⟩
      have hsecond : there <+: chars := ⟨part ++ rest, by rw [hchars, List.append_assoc]⟩
      exact List.prefix_of_prefix_length_le hfirst hsecond hshorter

end Cuts

section Slices

/-- An offset that is between two characters of a text, or at an end of it. -/
def isBoundary (octets : Bytes) (i : Nat) : Bool :=
  i == 0 || i == octets.length || octets[i]?.any fun octet => !isContinuation octet

/-- The octets of a text from one offset to another; there are none if one of them is inside a character. -/
def slice? (octets : Bytes) (first last : Nat) : Option Bytes :=
  if first ≤ last ∧ isBoundary octets first ∧ isBoundary octets last then some ((octets.take last).drop first)
  else none

/-- The offset at which one text first stands in another. -/
def find? (octets part : Bytes) : Option Nat := (octets.dropInfix? part).map fun (before, _) => before.length

theorem isBoundary_spelled (before after : List Char) :
    isBoundary (spelled (before ++ after)) (spelled before).length = true := by
  cases hafter : spelled after with
  | nil => simp [isBoundary, hafter]
  | cons lead rest =>
      have hlead : isContinuation lead = false := begins_of_spelled hafter
      simp [isBoundary, hafter, hlead]

/-- Between characters a text can be cut. -/
theorem slice?_spelled (before middle after : List Char) :
    slice? (spelled (before ++ middle ++ after)) (spelled before).length (spelled (before ++ middle)).length =
      some (spelled middle) := by
  have hfirst : isBoundary (spelled (before ++ middle ++ after)) (spelled before).length = true := by
    rw [List.append_assoc]
    exact isBoundary_spelled before (middle ++ after)
  have hlast := isBoundary_spelled (before ++ middle) after
  have hle : (spelled before).length ≤ (spelled (before ++ middle)).length := by simp
  rw [slice?, if_pos ⟨hle, hfirst, hlast⟩, spelled_append (before ++ middle) after, List.take_left,
    spelled_append before middle, List.drop_left]

theorem slice?_eq (before middle after : List Char) {octets : Bytes} {first last : Nat}
    (hoctets : octets = spelled (before ++ middle ++ after)) (hfirst : first = (spelled before).length)
    (hlast : last = (spelled before).length + (spelled middle).length) :
    slice? octets first last = some (spelled middle) := by
  rw [hoctets, hfirst, hlast, ← List.length_append, ← spelled_append]
  exact slice?_spelled before middle after

/-- What is left behind an offset that is not the first is shorter. -/
theorem length_of_slice? {octets left : Bytes} {first : Nat} (hpos : 0 < first)
    (hleft : slice? octets first octets.length = some left) : left.length < octets.length := by
  rw [slice?] at hleft
  split at hleft
  · next hbounds =>
      cases hleft
      rw [List.length_drop, List.length_take]
      omega
  · cases hleft

theorem find?_spelled {part : List Char} (hpart : part ≠ []) (chars : List Char) :
    find? (spelled chars) (spelled part) =
      (chars.dropInfix? part).map fun (before, _) => (spelled before).length := by
  rw [find?, dropInfix?_spelled hpart, Option.map_map]
  rfl

end Slices

end Utf8
end Workbench

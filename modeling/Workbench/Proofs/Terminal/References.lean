import Workbench.Proofs.Text.Slices
import Workbench.Terminal.Variables

/-!
References to variables in a text.  The text is read once, from its front to its end: what stands between references
stays, and what is put in place of one is not looked at.  The octets of the text are cut only between characters.
-/

namespace Workbench

namespace Variables

open Utf8 (spelled spelled_append ofText_eq_spelled slice? find? find?_spelled)

/-- What a reference begins with. -/
def opening : List Char := ['$', '\x7b']

/-- What ends it. -/
def closing : List Char := ['\x7d']

section Chars

variable {lookup : String → Option String} {before rest name after cs : List Char}

/-- Behind a character that does not begin a reference the work goes on. -/
theorem expand_cons {c : Char} (hplain : ¬ opening <+: c :: rest) :
    expand lookup (c :: rest) = c :: expand lookup rest := by
  rw [expand]
  rintro others rfl rfl
  exact hplain ⟨others, rfl⟩

theorem not_opening_front {c : Char} (hplain : ¬ opening <:+: c :: before) :
    ¬ opening <+: c :: (before ++ (opening ++ rest)) := by
  intro hfront
  cases before with
  | nil => simp [opening] at hfront
  | cons d before =>
      simp only [opening, List.cons_append, List.cons_prefix_cons] at hfront
      obtain ⟨rfl, rfl, -⟩ := hfront
      exact hplain (List.prefix_append opening before).isInfix

/-- What stands before the first reference stays. -/
theorem expand_append (hplain : ¬ opening <:+: before) :
    expand lookup (before ++ (opening ++ rest)) = before ++ expand lookup (opening ++ rest) := by
  induction before with
  | nil => rfl
  | cons c before ih =>
      have hbefore : ¬ opening <:+: before := fun h => hplain (h.trans (List.suffix_cons c before).isInfix)
      rw [List.cons_append, expand_cons (not_opening_front hplain), ih hbefore, List.cons_append]

theorem expand_of_plain (hplain : ¬ opening <:+: cs) : expand lookup cs = cs := by
  induction cs with
  | nil => rw [expand]
  | cons c cs ih =>
      have hrest : ¬ opening <:+: cs := fun h => hplain (h.trans (List.suffix_cons c cs).isInfix)
      rw [expand_cons fun h => hplain h.isInfix, ih hrest]

/-- A reference is replaced, and the work goes on behind it. -/
theorem expand_closed (hname : '\x7d' ∉ name) :
    expand lookup (opening ++ (name ++ closing ++ after)) = reference lookup name ++ expand lookup after := by
  have hcut : Text.cut? '\x7d' (name ++ closing ++ after) = some (name, after) := by
    rw [List.append_assoc]
    exact Text.cut?_append hname after
  show expand lookup ('$' :: '\x7b' :: (name ++ closing ++ after)) = _
  rw [expand]
  split
  · next hfound =>
      cases hcut.symm.trans hfound
      rfl
  · next hnone => cases hcut.symm.trans hnone

/-- An opening that is never closed stays, with all that follows it. -/
theorem expand_unclosed (hrest : '\x7d' ∉ rest) : expand lookup (opening ++ rest) = opening ++ rest := by
  show expand lookup ('$' :: '\x7b' :: rest) = _
  rw [expand]
  split
  · next hfound =>
      have hclosed : '\x7d' ∈ rest := by
        rw [(Text.eq_append_of_cut? hfound).1]
        exact List.mem_append_right _ List.mem_cons_self
      exact absurd hclosed hrest
  · rfl

end Chars

section Octets

open Utf8 (decode? slice?_eq length_of_slice?)

/-- The octets that are put in place of a reference, which stands from one offset to another. -/
def replaced? (lookup : String → Option String) (name octets : Bytes) (first last : Nat) : Option Bytes :=
  (decode? name).bind fun name =>
    match lookup name with
    | some value => some (Bytes.ofText value)
    | none => slice? octets first last

/-- What a turn puts out, and what it leaves. -/
structure Turn where
  put : Bytes
  left : Bytes

/-- One turn of the scan over the octets of a text: the next reference is replaced, unless there is none.  Nothing
comes of it if the octets are cut inside a character. -/
def turn? (lookup : String → Option String) (rest : Bytes) : Option (Option Turn) := do
  let some start := find? rest (spelled opening) | return none
  let inner ← slice? rest (start + 2) rest.length
  let some length := find? inner (spelled closing) | return none
  let name ← slice? rest (start + 2) (start + 2 + length)
  let before ← slice? rest 0 start
  let put ← replaced? lookup name rest start (start + 3 + length)
  let left ← slice? rest (start + 3 + length) rest.length
  return some ⟨before ++ put, left⟩

variable {lookup : String → Option String}

theorem length_left {rest : Bytes} {turn : Turn} (hturn : turn? lookup rest = some (some turn)) :
    turn.left.length < rest.length := by
  unfold turn? at hturn
  split at hturn
  · next start _ =>
      obtain ⟨inner, -, hturn⟩ := Option.bind_eq_some_iff.1 hturn
      split at hturn
      · next length _ =>
          obtain ⟨name, -, hturn⟩ := Option.bind_eq_some_iff.1 hturn
          obtain ⟨before, -, hturn⟩ := Option.bind_eq_some_iff.1 hturn
          obtain ⟨put, -, hturn⟩ := Option.bind_eq_some_iff.1 hturn
          obtain ⟨left, hleft, hturn⟩ := Option.bind_eq_some_iff.1 hturn
          cases hturn
          have hpos : 0 < start + 3 + length := by omega
          exact length_of_slice? hpos hleft
      · cases hturn
  · cases hturn

/-- The scan over the octets of a text, turn after turn. -/
def scan? (lookup : String → Option String) (rest : Bytes) : Option Bytes :=
  match h : turn? lookup rest with
  | none => none
  | some none => some rest
  | some (some turn) =>
    have := length_left h
    (scan? lookup turn.left).map (turn.put ++ ·)
termination_by rest.length

theorem scan?_of_end {rest : Bytes} (hturn : turn? lookup rest = some none) : scan? lookup rest = some rest := by
  rw [scan?]
  split
  · next hnone => cases hturn.symm.trans hnone
  · rfl
  · next hsome => cases hturn.symm.trans hsome

theorem scan?_of_turn {rest : Bytes} {turn : Turn} (hturn : turn? lookup rest = some (some turn)) :
    scan? lookup rest = (scan? lookup turn.left).map (turn.put ++ ·) := by
  rw [scan?]
  split
  · next hnone => cases hturn.symm.trans hnone
  · next hend => cases hturn.symm.trans hend
  · next hsome =>
      cases hturn.symm.trans hsome
      rfl

theorem opening_ne_nil : opening ≠ [] := List.cons_ne_nil _ _

theorem closing_ne_nil : closing ≠ [] := List.cons_ne_nil _ _

theorem length_spelled_opening : (spelled opening).length = 2 := by decide

theorem length_spelled_closing : (spelled closing).length = 1 := by decide

theorem replaced?_spelled (name : List Char) {octets : Bytes} {first last : Nat}
    (hwritten : slice? octets first last = some (spelled (opening ++ name ++ closing))) :
    replaced? lookup (spelled name) octets first last = some (spelled (reference lookup name)) := by
  have hname : decode? (spelled name) = some (String.ofList name) := by
    rw [spelled, ← Bytes.ofText_ofList]
    exact Utf8.decode?_ofText _
  rw [replaced?, hname, Option.bind_some, reference]
  cases lookup (String.ofList name) with
  | some value => exact congrArg some (ofText_eq_spelled value)
  | none => exact hwritten

variable {cs before rest name after : List Char}

theorem turn?_of_plain (hnone : cs.dropInfix? opening = none) : turn? lookup (spelled cs) = some none := by
  have hstart : find? (spelled cs) (spelled opening) = none := by
    rw [find?_spelled opening_ne_nil, hnone, Option.map_none]
  simp only [turn?, hstart]
  rfl

section Found

variable (hfound : cs.dropInfix? opening = some (before, rest))

include hfound

theorem find?_opening : find? (spelled cs) (spelled opening) = some (spelled before).length := by
  rw [find?_spelled opening_ne_nil, hfound, Option.map_some]

theorem slice?_inner : slice? (spelled cs) ((spelled before).length + 2) (spelled cs).length = some (spelled rest) := by
  apply slice?_eq (before ++ opening) rest []
  · rw [(dropInfix?_eq_iff.1 hfound).1, List.append_nil]
  · simp [length_spelled_opening]
  · simp [(dropInfix?_eq_iff.1 hfound).1, Nat.add_assoc]

theorem turn?_unclosed (hnone : rest.dropInfix? closing = none) : turn? lookup (spelled cs) = some none := by
  have hend : find? (spelled rest) (spelled closing) = none := by
    rw [find?_spelled closing_ne_nil, hnone, Option.map_none]
  simp only [turn?, find?_opening hfound, slice?_inner hfound, Option.bind_eq_bind, Option.bind_some, hend]
  rfl

theorem turn?_closed (hclosed : rest.dropInfix? closing = some (name, after)) :
    turn? lookup (spelled cs) = some (some ⟨spelled before ++ spelled (reference lookup name), spelled after⟩) := by
  have hcs : cs = before ++ opening ++ (name ++ closing ++ after) := by
    rw [(dropInfix?_eq_iff.1 hfound).1, (dropInfix?_eq_iff.1 hclosed).1]
  have hend : find? (spelled rest) (spelled closing) = some (spelled name).length := by
    rw [find?_spelled closing_ne_nil, hclosed, Option.map_some]
  have hname : slice? (spelled cs) ((spelled before).length + 2) ((spelled before).length + 2 + (spelled name).length) =
      some (spelled name) := by
    apply slice?_eq (before ++ opening) name (closing ++ after)
    · simp [hcs]
    · simp [length_spelled_opening]
    · simp [length_spelled_opening]
  have hbefore : slice? (spelled cs) 0 (spelled before).length = some (spelled before) := by
    apply slice?_eq [] before (opening ++ (name ++ closing ++ after))
    · simp [hcs]
    · simp
    · simp
  have hwritten : slice? (spelled cs) (spelled before).length ((spelled before).length + 3 + (spelled name).length) =
      some (spelled (opening ++ name ++ closing)) := by
    apply slice?_eq before (opening ++ name ++ closing) after
    · simp [hcs]
    · rfl
    · simp [length_spelled_opening, length_spelled_closing]
      omega
  have hleft : slice? (spelled cs) ((spelled before).length + 3 + (spelled name).length) (spelled cs).length =
      some (spelled after) := by
    apply slice?_eq (before ++ opening ++ name ++ closing) after []
    · simp [hcs]
    · simp [length_spelled_opening, length_spelled_closing]
      omega
    · simp [hcs]
      omega
  simp only [turn?, find?_opening hfound, slice?_inner hfound, Option.bind_eq_bind, Option.bind_some, hend, hname,
    hbefore, replaced?_spelled name hwritten, hleft]
  rfl

end Found

theorem closing_not_mem_iff : ¬ closing <:+: cs ↔ '\x7d' ∉ cs := not_congr (List.singleton_infix_iff _ _)

/-- What a text with a reference that is closed becomes. -/
theorem expand_found (hfound : cs.dropInfix? opening = some (before, rest))
    (hclosed : rest.dropInfix? closing = some (name, after)) :
    expand lookup cs = before ++ (reference lookup name ++ expand lookup after) := by
  have hname : '\x7d' ∉ name := closing_not_mem_iff.1 (not_infix_before closing_ne_nil hclosed)
  rw [(dropInfix?_eq_iff.1 hfound).1, (dropInfix?_eq_iff.1 hclosed).1, List.append_assoc,
    expand_append (not_infix_before opening_ne_nil hfound), expand_closed hname]

theorem expand_found_unclosed (hfound : cs.dropInfix? opening = some (before, rest))
    (hnone : rest.dropInfix? closing = none) : expand lookup cs = cs := by
  have hrest : '\x7d' ∉ rest := closing_not_mem_iff.1 (dropInfix?_eq_none_iff.1 hnone)
  rw [(dropInfix?_eq_iff.1 hfound).1, List.append_assoc, expand_append (not_infix_before opening_ne_nil hfound),
    expand_unclosed hrest]

theorem length_after (hfound : cs.dropInfix? opening = some (before, rest))
    (hclosed : rest.dropInfix? closing = some (name, after)) : after.length < cs.length := by
  rw [(dropInfix?_eq_iff.1 hfound).1, (dropInfix?_eq_iff.1 hclosed).1]
  simp [opening, closing]
  omega

/-- Whatever a text is made of, its octets are never cut inside a character, and the scan comes to an end. -/
theorem scan?_spelled (lookup : String → Option String) (cs : List Char) :
    scan? lookup (spelled cs) = some (spelled (expand lookup cs)) := by
  induction hlength : cs.length using Nat.strong_induction_on generalizing cs with
  | h n ih =>
      cases hfound : cs.dropInfix? opening with
      | none => rw [scan?_of_end (turn?_of_plain hfound), expand_of_plain (dropInfix?_eq_none_iff.1 hfound)]
      | some found =>
          obtain ⟨before, rest⟩ := found
          cases hclosed : rest.dropInfix? closing with
          | none => rw [scan?_of_end (turn?_unclosed hfound hclosed), expand_found_unclosed hfound hclosed]
          | some cut =>
              obtain ⟨name, after⟩ := cut
              have hshorter : after.length < n := hlength ▸ length_after hfound hclosed
              rw [scan?_of_turn (turn?_closed hfound hclosed), ih after.length hshorter after rfl,
                expand_found hfound hclosed, Option.map_some, spelled_append, spelled_append, List.append_assoc]

end Octets

section Pieces

/-- What stands in a text: what is left as it is, or a reference. -/
inductive Piece where
  | literal (chars : List Char)
  | reference (name : List Char)

/-- What a piece is written as. -/
def Piece.source : Piece → List Char
  | .literal chars => chars
  | .reference name => opening ++ name ++ closing

/-- What a piece becomes. -/
def Piece.value (lookup : String → Option String) : Piece → List Char
  | .literal chars => chars
  | .reference name => Variables.reference lookup name

/-- A text is made of these pieces, whatever is known of the variables. -/
structure MadeOf (cs : List Char) (pieces : List Piece) : Prop where
  source_eq : cs = pieces.flatMap Piece.source
  expand_eq : ∀ lookup, expand lookup cs = pieces.flatMap (Piece.value lookup)

theorem exists_pieces (cs : List Char) : ∃ pieces, MadeOf cs pieces := by
  induction hlength : cs.length using Nat.strong_induction_on generalizing cs with
  | h n ih =>
      have hliteral : (∀ lookup, expand lookup cs = cs) → MadeOf cs [.literal cs] :=
        fun hcs => ⟨(List.append_nil cs).symm, fun lookup => (hcs lookup).trans (List.append_nil cs).symm⟩
      cases hfound : cs.dropInfix? opening with
      | none => exact ⟨_, hliteral fun _ => expand_of_plain (dropInfix?_eq_none_iff.1 hfound)⟩
      | some found =>
          obtain ⟨before, rest⟩ := found
          cases hclosed : rest.dropInfix? closing with
          | none => exact ⟨_, hliteral fun _ => expand_found_unclosed hfound hclosed⟩
          | some cut =>
              obtain ⟨name, after⟩ := cut
              have hshorter : after.length < n := hlength ▸ length_after hfound hclosed
              obtain ⟨pieces, hpieces⟩ := ih after.length hshorter after rfl
              refine ⟨.literal before :: .reference name :: pieces, ?_, ?_⟩
              · have hcs : cs = before ++ opening ++ (name ++ closing ++ after) := by
                  rw [(dropInfix?_eq_iff.1 hfound).1, (dropInfix?_eq_iff.1 hclosed).1]
                simp [hcs, Piece.source, ← hpieces.source_eq]
              · intro lookup
                rw [expand_found hfound hclosed, hpieces.expand_eq lookup]
                rfl

end Pieces

section Texts

variable {v : Variables} {text s name rest t : String}

theorem toList_resolve (v : Variables) (text : String) : (v.resolve text).toList = expand v.lookup text.toList :=
  String.toList_ofList

theorem resolve_of_plain (hplain : ¬ opening <:+: text.toList) : v.resolve text = text := by
  apply String.toList_inj.1
  rw [toList_resolve, expand_of_plain hplain]

theorem resolve_unclosed (hplain : ¬ opening <:+: s.toList) (hrest : '\x7d' ∉ rest.toList) :
    v.resolve (s ++ "$\x7b" ++ rest) = s ++ "$\x7b" ++ rest := by
  have htext : (s ++ "$\x7b" ++ rest).toList = s.toList ++ (opening ++ rest.toList) := by
    simp [opening]
  apply String.toList_inj.1
  rw [toList_resolve, htext, expand_append hplain, expand_unclosed hrest]

theorem resolve_closed (hplain : ¬ opening <:+: s.toList) (hname : '\x7d' ∉ name.toList) :
    v.resolve (s ++ "$\x7b" ++ name ++ "\x7d" ++ t) =
      s ++ (v.lookup name).getD ("$\x7b" ++ name ++ "\x7d") ++ v.resolve t := by
  have htext : (s ++ "$\x7b" ++ name ++ "\x7d" ++ t).toList =
      s.toList ++ (opening ++ (name.toList ++ closing ++ t.toList)) := by
    simp [opening, closing]
  have hvalue : reference v.lookup name.toList = ((v.lookup name).getD ("$\x7b" ++ name ++ "\x7d")).toList := by
    rw [reference, String.ofList_toList]
    cases v.lookup name with
    | some value => rfl
    | none => simp
  apply String.toList_inj.1
  rw [toList_resolve, htext, expand_append hplain, expand_closed hname, hvalue, String.toList_append,
    String.toList_append, toList_resolve, List.append_assoc]

end Texts

/-- A text is left as it is if nothing in it begins a reference, or if nothing ends the first that is begun.  Otherwise
the first reference is replaced, by its value or by itself, and the work goes on behind it; so what it is replaced by
is never looked at.  The octets of a text are scanned to their end and cut only between characters.  And a text is
made of pieces that do not depend on the variables: those that are no references stay, in their order. -/
theorem references_resolved_once :
    (∀ v : Variables,
      (∀ text : String, ¬ opening <:+: text.toList → v.resolve text = text) ∧
      (∀ s rest : String, ¬ opening <:+: s.toList → '\x7d' ∉ rest.toList →
        v.resolve (s ++ "$\x7b" ++ rest) = s ++ "$\x7b" ++ rest) ∧
      (∀ s name t : String, ¬ opening <:+: s.toList → '\x7d' ∉ name.toList →
        v.resolve (s ++ "$\x7b" ++ name ++ "\x7d" ++ t) =
          s ++ (v.lookup name).getD ("$\x7b" ++ name ++ "\x7d") ++ v.resolve t) ∧
      ∀ text : String, scan? v.lookup (Bytes.ofText text) = some (Bytes.ofText (v.resolve text))) ∧
    ∀ text : String, ∃ pieces : List Piece, text.toList = pieces.flatMap Piece.source ∧
      ∀ v : Variables, (v.resolve text).toList = pieces.flatMap (Piece.value v.lookup) := by
  constructor
  · intro v
    refine ⟨fun _ => resolve_of_plain, fun _ _ => resolve_unclosed, fun _ _ _ => resolve_closed, ?_⟩
    intro text
    rw [ofText_eq_spelled, ofText_eq_spelled, toList_resolve]
    exact scan?_spelled v.lookup text.toList
  · intro text
    obtain ⟨pieces, hpieces⟩ := exists_pieces text.toList
    exact ⟨pieces, hpieces.source_eq, fun v => (toList_resolve v text).trans (hpieces.expand_eq v.lookup)⟩

/-- A home whose name looks like a reference is not resolved again, what is not known stays, and so does what is not
closed. -/
theorem references_resolved_once_home :
    let v : Variables := { home := some "/é$\x7bfile\x7d", file := some "/a" }
    v.resolve "→$\x7buserHome\x7d$\x7bnope\x7d$\x7bfile" = "→/é$\x7bfile\x7d$\x7bnope\x7d$\x7bfile" := by
  intro v
  obtain ⟨-, hunclosed, hclosed, -⟩ := references_resolved_once.1 v
  have hhome : v.lookup "userHome" = some "/é$\x7bfile\x7d" := by decide
  have hunknown : v.lookup "nope" = none := by decide
  have hfirst := hclosed "→" "userHome" "$\x7bnope\x7d$\x7bfile" (by decide) (by decide)
  have hsecond := hclosed "" "nope" "$\x7bfile" (by decide) (by decide)
  have hthird := hunclosed "" "file" (by decide) (by decide)
  calc v.resolve "→$\x7buserHome\x7d$\x7bnope\x7d$\x7bfile"
      = "→" ++ "/é$\x7bfile\x7d" ++ v.resolve "$\x7bnope\x7d$\x7bfile" := by rw [hhome] at hfirst; exact hfirst
    _ = "→" ++ "/é$\x7bfile\x7d" ++ ("" ++ "$\x7bnope\x7d" ++ v.resolve "$\x7bfile") := by
        rw [hunknown] at hsecond
        exact congrArg _ hsecond
    _ = "→" ++ "/é$\x7bfile\x7d" ++ ("" ++ "$\x7bnope\x7d" ++ "$\x7bfile") := by
        exact congrArg (fun rest => "→" ++ "/é$\x7bfile\x7d" ++ ("" ++ "$\x7bnope\x7d" ++ rest)) hthird
    _ = _ := by decide

end Variables
end Workbench

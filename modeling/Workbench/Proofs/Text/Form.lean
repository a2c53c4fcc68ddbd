import Workbench.Proofs.Text.Utf8
import Workbench.Text.Form

/-!
Forms are read as they are written.  What is written for a key or a value holds no mark that separates pairs, and
every octet of it stands for itself, for a blank, or with two others for one octet.
-/

namespace Workbench.Form

section Octets

theorem digit?_hexOctet : ∀ n < 16, digit? (hexOctet n) = some n := by decide

theorem hexOctet_plain : ∀ n < 16, isPlain (hexOctet n) = true := by decide

/-- What stands for itself is none of the marks. -/
theorem ne_mark_of_plain {b : UInt8} (h : isPlain b = true) :
    b ≠ ampersand ∧ b ≠ equals ∧ b ≠ plus ∧ b ≠ percent := by
  refine ⟨?_, ?_, ?_, ?_⟩
  all_goals
    rintro rfl
    exact absurd h (by decide)

/-- The three ways in which an octet is written. -/
theorem encodeOctet_cases (b : UInt8) :
    isPlain b = true ∧ encodeOctet b = [b] ∨
      b = blank ∧ encodeOctet b = [plus] ∨
      encodeOctet b = [percent, hexOctet (b.toNat / 16), hexOctet (b.toNat % 16)] := by
  rw [encodeOctet]
  split
  · next hplain => exact .inl ⟨hplain, rfl⟩
  · split
    · next hblank => exact .inr (.inl ⟨hblank, rfl⟩)
    · exact .inr (.inr rfl)

theorem high_lt (b : UInt8) : b.toNat / 16 < 16 := by
  have hb := b.toNat_lt
  omega

theorem low_lt (b : UInt8) : b.toNat % 16 < 16 := Nat.mod_lt _ (by decide)

theorem ne_separator_of_mem_encodeOctet {b x : UInt8} (h : x ∈ encodeOctet b) : x ≠ ampersand ∧ x ≠ equals := by
  rcases encodeOctet_cases b with ⟨hplain, heq⟩ | ⟨-, heq⟩ | heq
  · rw [heq, List.mem_singleton] at h
    rw [h]
    exact ⟨(ne_mark_of_plain hplain).1, (ne_mark_of_plain hplain).2.1⟩
  · rw [heq, List.mem_singleton] at h
    rw [h]
    decide
  · rw [heq, List.mem_cons, List.mem_cons, List.mem_singleton] at h
    rcases h with rfl | rfl | rfl
    · decide
    · have hmark := ne_mark_of_plain (hexOctet_plain _ (high_lt b))
      exact ⟨hmark.1, hmark.2.1⟩
    · have hmark := ne_mark_of_plain (hexOctet_plain _ (low_lt b))
      exact ⟨hmark.1, hmark.2.1⟩

theorem percentDecode_cons {a : UInt8} (h : a ≠ percent) (rest : Bytes) :
    percentDecode (a :: rest) = a :: percentDecode rest := by
  cases rest with
  | nil => rfl
  | cons b rest =>
      cases rest with
      | nil => rfl
      | cons c rest => rw [percentDecode, if_neg h]

theorem percentDecode_percent {high low : Nat} (hhigh : high < 16) (hlow : low < 16) (rest : Bytes) :
    percentDecode (percent :: hexOctet high :: hexOctet low :: rest) =
      UInt8.ofNat (high * 16 + low) :: percentDecode rest := by
  rw [percentDecode, if_pos rfl, digit?_hexOctet high hhigh, digit?_hexOctet low hlow]
  rfl

/-- Octets are read as they are written. -/
theorem percentDecode_encode (octets : Bytes) :
    percentDecode ((octets.flatMap encodeOctet).map fun b => if b = plus then blank else b) = octets := by
  induction octets with
  | nil => rfl
  | cons b octets ih =>
      rw [List.flatMap_cons, List.map_append]
      rcases encodeOctet_cases b with ⟨hplain, heq⟩ | ⟨rfl, heq⟩ | heq
      · obtain ⟨-, -, hplus, hpercent⟩ := ne_mark_of_plain hplain
        rw [heq, List.map_singleton, if_neg hplus, List.singleton_append, percentDecode_cons hpercent, ih]
      · rw [heq, List.map_singleton, if_pos rfl, List.singleton_append, percentDecode_cons (by decide), ih]
      · have hhigh := (ne_mark_of_plain (hexOctet_plain _ (high_lt b))).2.2.1
        have hlow := (ne_mark_of_plain (hexOctet_plain _ (low_lt b))).2.2.1
        have hnumber : b.toNat / 16 * 16 + b.toNat % 16 = b.toNat := Nat.div_add_mod' b.toNat 16
        rw [heq, List.map_cons, List.map_cons, List.map_singleton, if_neg (by decide), if_neg hhigh, if_neg hlow]
        simp only [List.cons_append, List.nil_append]
        rw [percentDecode_percent (high_lt b) (low_lt b), ih, hnumber, UInt8.ofNat_toNat]

end Octets

section Texts

theorem decode_encode (text : String) : decode (encode text) = text := by
  rw [decode, encode, percentDecode_encode, Utf8.decodeLossy_ofText]

theorem ne_separator_of_mem_encode {text : String} {x : UInt8} (h : x ∈ encode text) :
    x ≠ ampersand ∧ x ≠ equals := by
  obtain ⟨b, -, hx⟩ := List.mem_flatMap.1 h
  exact ne_separator_of_mem_encodeOctet hx

theorem split_of_notMem {mark : UInt8} {octets : Bytes} (h : mark ∉ octets) : split mark octets = [octets] := by
  induction octets with
  | nil => rfl
  | cons b octets ih =>
      rw [List.mem_cons, not_or] at h
      rw [split, if_neg (Ne.symm h.1), ih h.2]

theorem split_append {mark : UInt8} {front : Bytes} (h : mark ∉ front) (back : Bytes) :
    split mark (front ++ mark :: back) = front :: split mark back := by
  induction front with
  | nil => rw [List.nil_append, split, if_pos rfl]
  | cons b front ih =>
      rw [List.mem_cons, not_or] at h
      rw [List.cons_append, split, if_neg (Ne.symm h.1), ih h.2]

theorem cut_append {mark : UInt8} {front : Bytes} (h : mark ∉ front) (back : Bytes) :
    cut mark (front ++ mark :: back) = (front, back) := by
  induction front with
  | nil => rw [List.nil_append, cut, if_pos rfl]
  | cons b front ih =>
      rw [List.mem_cons, not_or] at h
      rw [List.cons_append, cut, if_neg (Ne.symm h.1), ih h.2]

end Texts

section Pairs

variable (pair : String × String) (pairs : List (String × String))

/-- What is written for one pair. -/
def writePair : Bytes := encode pair.1 ++ equals :: encode pair.2

theorem ampersand_notMem_writePair : ampersand ∉ writePair pair := by
  rw [writePair, List.mem_append, List.mem_cons, not_or, not_or]
  exact ⟨fun h => (ne_separator_of_mem_encode h).1 rfl, by decide, fun h => (ne_separator_of_mem_encode h).1 rfl⟩

theorem cut_writePair : cut equals (writePair pair) = (encode pair.1, encode pair.2) :=
  cut_append (fun h => (ne_separator_of_mem_encode h).2 rfl) _

theorem split_write : split ampersand (write (pair :: pairs)) = (pair :: pairs).map writePair := by
  induction pairs generalizing pair with
  | nil => exact split_of_notMem (ampersand_notMem_writePair pair)
  | cons next pairs ih =>
      have hwrite : write (pair :: next :: pairs) = writePair pair ++ ampersand :: write (next :: pairs) := by
        simp [write, writePair]
      rw [hwrite, split_append (ampersand_notMem_writePair pair), ih next, ← List.map_cons]

/-- Pairs are read as they are written. -/
theorem parse_write : parse (write pairs) = pairs := by
  cases pairs with
  | nil => rfl
  | cons pair pairs =>
      have hkept : ((pair :: pairs).map writePair).filter (fun part => !part.isEmpty) =
          (pair :: pairs).map writePair := by
        rw [List.filter_eq_self]
        intro part hpart
        obtain ⟨p, -, rfl⟩ := List.mem_map.1 hpart
        simp [writePair]
      rw [parse, split_write, hkept, List.map_map]
      calc
        (pair :: pairs).map _ = (pair :: pairs).map id :=
          List.map_congr_left fun p _ => by simp [cut_writePair, decode_encode]
        _ = pair :: pairs := List.map_id _

end Pairs

end Workbench.Form

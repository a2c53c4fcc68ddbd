import Workbench.Proofs.Lists
import Workbench.Text.Utf8

/-!
Texts written as UTF-8 are read back.  The octets of one character take the machine from between two
characters to between two characters, and complete that character.
-/

namespace Workbench

namespace Bytes

/-- A text is written character by character. -/
theorem ofText_ofList (chars : List Char) :
    ofText (String.ofList chars) = chars.flatMap String.utf8EncodeChar := by
  simp [ofText, Blob.toBytes, List.utf8Encode]

theorem ofText_append (s t : String) : ofText (s ++ t) = ofText s ++ ofText t := by
  simp [ofText, Blob.toBytes]

theorem length_ofText (s : String) : (ofText s).length = s.utf8ByteSize := by
  simp [ofText, Blob.toBytes]

end Bytes

namespace Utf8

/-- The octets that characters are written as. -/
def spelled (chars : List Char) : Bytes := chars.flatMap String.utf8EncodeChar

@[simp] theorem spelled_nil : spelled [] = [] := rfl

@[simp] theorem spelled_cons (c : Char) (chars : List Char) :
    spelled (c :: chars) = String.utf8EncodeChar c ++ spelled chars := rfl

@[simp] theorem spelled_append (chars more : List Char) : spelled (chars ++ more) = spelled chars ++ spelled more :=
  List.flatMap_append

theorem ofText_eq_spelled (s : String) : Bytes.ofText s = spelled s.toList := by
  rw [spelled, ← Bytes.ofText_ofList, String.ofList_toList]

theorem length_spelled (s : String) : (spelled s.toList).length = s.utf8ByteSize := by
  rw [← ofText_eq_spelled, Bytes.length_ofText]

/-- The first octet of a character of two octets. -/
theorem start_two {v : Nat} (hlow : 0x80 ≤ v) (hhigh : v < 0x800) :
    start (v / 64 % 0x20 + 0xC0) = ⟨[], some ⟨1, v / 64, 0x80, 0xBF⟩⟩ := by
  have hvalue : v / 64 % 0x20 + 0xC0 - 0xC0 = v / 64 := by omega
  rw [start, if_neg (by omega), if_pos (by omega), hvalue]

/-- The first octet of a character of three octets; what may come next is in the range it gives, unless the
character would be a surrogate. -/
theorem start_three {v : Nat} (hlow : 0x800 ≤ v) (hhigh : v < 0x10000)
    (hscalar : v < 0xD800 ∨ 0xDFFF < v) :
    ∃ low high, start (v / 4096 % 0x10 + 0xE0) = ⟨[], some ⟨2, v / 4096, low, high⟩⟩ ∧
      low ≤ v / 64 % 0x40 + 0x80 ∧ v / 64 % 0x40 + 0x80 ≤ high := by
  have hvalue : v / 4096 % 0x10 + 0xE0 - 0xE0 = v / 4096 := by omega
  rw [start, if_neg (by omega), if_neg (by omega)]
  by_cases hleast : v / 4096 = 0
  · refine ⟨0xA0, 0xBF, ?_, by omega, by omega⟩
    rw [if_pos (by omega), hleast]
  · rw [if_neg (by omega)]
    by_cases hsurrogate : v / 4096 = 0xD
    · refine ⟨0x80, 0x9F, ?_, by omega, by omega⟩
      rw [if_pos (by omega), hsurrogate]
    · refine ⟨0x80, 0xBF, ?_, by omega, by omega⟩
      rw [if_neg (by omega), if_pos (by omega), hvalue]

/-- The first octet of a character of four octets. -/
theorem start_four {v : Nat} (hlow : 0x10000 ≤ v) (hhigh : v < 0x110000) :
    ∃ low high, start (v / 262144 % 0x08 + 0xF0) = ⟨[], some ⟨3, v / 262144, low, high⟩⟩ ∧
      low ≤ v / 4096 % 0x40 + 0x80 ∧ v / 4096 % 0x40 + 0x80 ≤ high := by
  have hvalue : v / 262144 % 0x08 + 0xF0 - 0xF0 = v / 262144 := by omega
  rw [start, if_neg (by omega), if_neg (by omega), if_neg (by omega), if_neg (by omega),
    if_neg (by omega)]
  by_cases hleast : v / 262144 = 0
  · refine ⟨0x90, 0xBF, ?_, by omega, by omega⟩
    rw [if_pos (by omega), hleast]
  · rw [if_neg (by omega)]
    by_cases hlast : v / 262144 = 4
    · refine ⟨0x80, 0x8F, ?_, by omega, by omega⟩
      rw [if_neg (by omega), if_pos (by omega), hlast]
    · refine ⟨0x80, 0xBF, ?_, by omega, by omega⟩
      rw [if_pos (by omega), hvalue]

namespace Reading

variable {r : Reading}

/-- An octet between two characters starts one. -/
theorem take_start (hstate : r.state = none) {n : Nat} (hn : n < 0x100) :
    r.take (UInt8.ofNat n) = ⟨r.done ++ (start n).out, (start n).state⟩ := by
  simp only [take, hstate, step, UInt8.toNat_ofNat', Nat.mod_eq_of_lt hn]

/-- An octet continues the character in progress, and completes it if it is the last one owed. -/
theorem take_continue {owed value low high n : Nat}
    (hstate : r.state = some ⟨owed, value, low, high⟩) (hn : n < 0x40)
    (hlow : low ≤ n + 0x80) (hhigh : n + 0x80 ≤ high) :
    r.take (UInt8.ofNat (n + 0x80)) =
      if owed ≤ 1 then ⟨r.done.push (some (Char.ofNat (value * 64 + n))), none⟩
      else ⟨r.done, some ⟨owed - 1, value * 64 + n, 0x80, 0xBF⟩⟩ := by
  have hoctet : (UInt8.ofNat (n + 0x80)).toNat = n + 0x80 := by
    rw [UInt8.toNat_ofNat']
    omega
  simp only [take, hstate, step, hoctet, hlow, hhigh, and_self, ↓reduceIte, Nat.add_sub_cancel]
  split
  · simp
  · simp

/-- The octets of a character complete it. -/
theorem feed_char (hstate : r.state = none) (c : Char) :
    r.feed (String.utf8EncodeChar c) = ⟨r.done.push (some c), none⟩ := by
  have hscalar : c.val.toNat < 0xD800 ∨ 0xDFFF < c.val.toNat ∧ c.val.toNat < 0x110000 := c.valid
  have hchar : Char.ofNat c.val.toNat = c := Char.ofNat_toNat c
  unfold String.utf8EncodeChar
  dsimp only
  generalize c.val.toNat = v at hscalar hchar ⊢
  by_cases hone : v ≤ 0x7F
  · have hstart : start v = ⟨[some (Char.ofNat v)], none⟩ := by rw [start, if_pos (by omega)]
    rw [if_pos hone, feed, List.foldl_cons, List.foldl_nil, take_start hstate (by omega), hstart,
      hchar]
    simp
  rw [if_neg hone]
  by_cases htwo : v ≤ 0x7FF
  · rw [if_pos htwo, feed, List.foldl_cons, take_start hstate (by omega),
      start_two (by omega) (by omega), List.foldl_cons, List.foldl_nil,
      take_continue rfl (by omega) (by omega) (by omega)]
    have hvalue : v / 64 * 64 + v % 0x40 = v := by omega
    simp [hvalue, hchar]
  rw [if_neg htwo]
  by_cases hthree : v ≤ 0xFFFF
  · obtain ⟨low, high, hstart, hlow, hhigh⟩ :=
      start_three (v := v) (by omega) (by omega) (by omega)
    rw [if_pos hthree, feed, List.foldl_cons, take_start hstate (by omega), hstart,
      List.foldl_cons, take_continue rfl (by omega) hlow hhigh, if_neg (by omega),
      List.foldl_cons, List.foldl_nil, take_continue rfl (by omega) (by omega) (by omega)]
    have hvalue : (v / 4096 * 64 + v / 64 % 0x40) * 64 + v % 0x40 = v := by omega
    simp [hvalue, hchar]
  · obtain ⟨low, high, hstart, hlow, hhigh⟩ := start_four (v := v) (by omega) (by omega)
    rw [if_neg hthree, feed, List.foldl_cons, take_start hstate (by omega), hstart,
      List.foldl_cons, take_continue rfl (by omega) hlow hhigh, if_neg (by omega),
      List.foldl_cons, take_continue rfl (by omega) (by omega) (by omega), if_neg (by omega),
      List.foldl_cons, List.foldl_nil, take_continue rfl (by omega) (by omega) (by omega)]
    have hvalue : ((v / 262144 * 64 + v / 4096 % 0x40) * 64 + v / 64 % 0x40) * 64 + v % 0x40 = v := by
      omega
    simp [hvalue, hchar]

theorem feed_chars (hstate : r.state = none) (chars : List Char) :
    r.feed (chars.flatMap String.utf8EncodeChar) = ⟨r.done ++ chars.map some, none⟩ := by
  induction chars generalizing r with
  | nil => simp [feed, ← hstate]
  | cons c chars ih =>
      rw [List.flatMap_cons, feed_append, feed_char hstate, ih rfl]
      simp

end Reading

/-- What a text is written as reads as its characters, and no character is left open. -/
theorem feed_ofText (s : String) : ({} : Reading).feed (Bytes.ofText s) = ⟨(s.toList.map some).toArray, none⟩ := by
  rw [← String.ofList_toList (s := s), Bytes.ofText_ofList, Reading.feed_chars rfl]
  simp

theorem decode?_ofText (s : String) : decode? (Bytes.ofText s) = some s := by
  simp only [decode?, feed_ofText, Option.isSome_none, Bool.false_eq_true, ↓reduceIte, mapM_id_map_some,
    Option.map_some, String.ofList_toList]

theorem decodeLossy_ofText (s : String) : decodeLossy (Bytes.ofText s) = s := by
  simp [decodeLossy, feed_ofText, shown, Function.comp_def]

end Utf8
end Workbench

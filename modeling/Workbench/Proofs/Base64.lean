import Workbench.Base64
import Workbench.Proofs.Lists
import Workbench.Proofs.Text.Utf8

/-!
Base64, written and read.  Every symbol is one octet of a text, and every three octets begun are four symbols.
The reader takes the groups before the last one symbol for symbol, and only in the last group padding; there it
accepts just what the last octets are written as.  So a text is read exactly when it is what some octets are
written as, and as these octets.
-/

namespace Workbench

namespace Bytes

/-- Characters of ASCII are the octets of their numbers. -/
theorem ofText_ascii {chars : List Char} (hascii : ∀ c ∈ chars, c.toNat < 0x80) :
    ofText (String.ofList chars) = chars.map fun c => UInt8.ofNat c.toNat := by
  rw [ofText_ofList]
  induction chars with
  | nil => rfl
  | cons c chars ih =>
      have hval : c.val.toNat ≤ 0x7F := Nat.le_of_lt_succ (hascii c List.mem_cons_self)
      have hc : String.utf8EncodeChar c = [UInt8.ofNat c.toNat] := by
        rw [String.utf8EncodeChar, if_pos hval]
        rfl
      rw [List.flatMap_cons, List.map_cons, hc, ih fun other hother => hascii other (List.mem_cons_of_mem c hother)]
      rfl

end Bytes

namespace Base64

theorem symbol_ascii (n : Nat) : (symbol n).toNat < 0x80 := by
  have hsmall : ∀ k : Nat, k < 0x80 → (Char.ofNat k).toNat < 0x80 := by decide
  unfold symbol
  split
  · exact hsmall _ (by omega)
  split
  · exact hsmall _ (by omega)
  split
  · exact hsmall _ (by omega)
  split
  · decide
  · decide

theorem encodeOnto_ascii (soFar : List Char) (b : Bytes) (hsoFar : ∀ c ∈ soFar, c.toNat < 0x80) :
    ∀ c ∈ encodeOnto soFar b, c.toNat < 0x80 := by
  have hpad : ('=').toNat < 0x80 := by decide
  fun_induction encodeOnto soFar b with
  | case1 => simpa using hsoFar
  | case2 | case3 => simpa [or_imp, forall_and, symbol_ascii, hpad] using hsoFar
  | case4 s a b c rest ih => exact ih (by simpa [or_imp, forall_and, symbol_ascii] using hsoFar)

theorem length_encodeOnto (soFar : List Char) (b : Bytes) :
    (encodeOnto soFar b).length = soFar.length + 4 * ((b.length + 2) / 3) := by
  fun_induction encodeOnto soFar b with
  | case1 | case2 | case3 => simp
  | case4 s a b c rest ih =>
      rw [ih]
      simp only [List.length_cons]
      omega

theorem length_encode (b : Bytes) : (Bytes.ofText (encode b)).length = 4 * ((b.length + 2) / 3) := by
  have hascii := encodeOnto_ascii [] b fun c hc => by cases hc
  rw [encode, Bytes.ofText_ascii hascii, List.length_map, length_encodeOnto, List.length_nil, Nat.zero_add]

/-- The octet of a symbol. -/
def octet (n : Nat) : UInt8 := UInt8.ofNat (symbol n).toNat

section Symbols

theorem toNat_octet {n : Nat} (hn : n < 64) : (octet n).toNat =
    if n < 26 then 65 + n else if n < 52 then 71 + n else if n < 62 then n - 4 else if n = 62 then 43 else 47 := by
  have hall : ∀ k < 64, (octet k).toNat =
      if k < 26 then 65 + k else if k < 52 then 71 + k else if k < 62 then k - 4 else if k = 62 then 43 else 47 := by
    decide
  exact hall n hn

/-- The symbols and nothing else have values. -/
theorem value?_eq_some_iff {o : UInt8} {n : Nat} : value? o = some n ↔ n < 64 ∧ o = octet n := by
  constructor
  · intro hvalue
    have hn : n < 64 := by
      unfold value? at hvalue
      grind
    refine ⟨hn, UInt8.toNat_inj.1 ?_⟩
    rw [toNat_octet hn]
    unfold value? at hvalue
    grind
  · rintro ⟨hn, rfl⟩
    have hall : ∀ k < 64, value? (octet k) = some k := by decide
    exact hall n hn

theorem octet_ne_pad {n : Nat} (hn : n < 64) : octet n ≠ pad := by
  have hall : ∀ k < 64, octet k ≠ pad := by decide
  exact hall n hn

theorem valueAt_eq_ok_iff {offset : Nat} {o : UInt8} {n : Nat} :
    valueAt offset o = .ok n ↔ n < 64 ∧ o = octet n := by
  rw [← value?_eq_some_iff, valueAt]
  split
  · next h => simp [h]
  · next h => simp [h]

end Symbols

/-- The octets of what octets are written as. -/
def written : Bytes → Bytes
  | [] => []
  | [a] => [octet (a.toNat / 4), octet (a.toNat % 4 * 16), pad, pad]
  | [a, b] =>
    [octet (a.toNat / 4), octet (a.toNat % 4 * 16 + b.toNat / 16), octet (b.toNat % 16 * 4), pad]
  | a :: b :: c :: rest =>
    octet (a.toNat / 4) :: octet (a.toNat % 4 * 16 + b.toNat / 16) ::
      octet (b.toNat % 16 * 4 + c.toNat / 64) :: octet (c.toNat % 64) :: written rest

section Writing

theorem ofText_encode (b : Bytes) : Bytes.ofText (encode b) = written b := by
  have honto : ∀ soFar : List Char, (encodeOnto soFar b).map (fun c => UInt8.ofNat c.toNat) =
      (soFar.reverse.map fun c => UInt8.ofNat c.toNat) ++ written b := by
    intro soFar
    fun_induction encodeOnto soFar b with
    | case1 | case2 | case3 => simp [written, octet, pad]
    | case4 s a b c rest ih => simp [ih, written, octet]
  rw [encode, Bytes.ofText_ascii (encodeOnto_ascii [] b fun c hc => by cases hc), honto]
  rfl

theorem length_written (b : Bytes) : (written b).length = 4 * ((b.length + 2) / 3) := by
  rw [← ofText_encode, length_encode]

theorem written_eq_nil_iff {b : Bytes} : written b = [] ↔ b = [] := by
  rw [← List.length_eq_zero_iff, ← List.length_eq_zero_iff, length_written]
  omega

/-- Whole groups are written apart from what follows. -/
theorem written_append {count : Nat} {front : Bytes} (hlength : front.length = 3 * count) (back : Bytes) :
    written (front ++ back) = written front ++ written back := by
  induction count generalizing front with
  | zero =>
      rw [List.length_eq_zero_iff.1 hlength]
      rfl
  | succ count ih =>
      match front, hlength with
      | a :: b :: c :: rest, hlength =>
        have hrest : rest.length = 3 * count := by
          simp only [List.length_cons] at hlength
          omega
        simp [written, ih hrest]

theorem unpack_sixes (p q r : UInt8) :
    unpack (p.toNat / 4) (p.toNat % 4 * 16 + q.toNat / 16) (q.toNat % 16 * 4 + r.toNat / 64) (r.toNat % 64) =
      [p, q, r] := by
  have hp := p.toNat_lt
  have hq := q.toNat_lt
  have hr := r.toNat_lt
  have hfirst : p.toNat / 4 * 4 + (p.toNat % 4 * 16 + q.toNat / 16) / 16 = p.toNat := by omega
  have hsecond : (p.toNat % 4 * 16 + q.toNat / 16) % 16 * 16 + (q.toNat % 16 * 4 + r.toNat / 64) / 4 = q.toNat := by
    omega
  have hthird : (q.toNat % 16 * 4 + r.toNat / 64) % 4 * 64 + r.toNat % 64 = r.toNat := by omega
  simp only [unpack, hfirst, hsecond, hthird, UInt8.ofNat_toNat]

theorem written_unpack {w x y z : Nat} (hw : w < 64) (hx : x < 64) (hy : y < 64) (hz : z < 64) (rest : Bytes) :
    written (unpack w x y z ++ rest) = octet w :: octet x :: octet y :: octet z :: written rest := by
  have hfirst : (UInt8.ofNat (w * 4 + x / 16)).toNat = w * 4 + x / 16 := by
    rw [UInt8.toNat_ofNat', Nat.mod_eq_of_lt (by omega)]
  have hsecond : (UInt8.ofNat (x % 16 * 16 + y / 4)).toNat = x % 16 * 16 + y / 4 := by
    rw [UInt8.toNat_ofNat', Nat.mod_eq_of_lt (by omega)]
  have hthird : (UInt8.ofNat (y % 4 * 64 + z)).toNat = y % 4 * 64 + z := by
    rw [UInt8.toNat_ofNat', Nat.mod_eq_of_lt (by omega)]
  simp only [unpack, List.cons_append, List.nil_append, written, hfirst, hsecond, hthird]
  congr 2
  · omega
  · congr 1
    omega
  · congr 2
    · omega
    · congr 2
      omega

theorem written_one {w x : Nat} (hw : w < 64) (hx : x < 64) (hzero : x % 16 = 0) :
    written [UInt8.ofNat (w * 4 + x / 16)] = [octet w, octet x, pad, pad] := by
  have hvalue : (UInt8.ofNat (w * 4 + x / 16)).toNat = w * 4 + x / 16 := by
    rw [UInt8.toNat_ofNat', Nat.mod_eq_of_lt (by omega)]
  have hfirst : (w * 4 + x / 16) / 4 = w := by omega
  have hsecond : (w * 4 + x / 16) % 4 * 16 = x := by omega
  rw [written, hvalue, hfirst, hsecond]

theorem written_two {w x y : Nat} (hw : w < 64) (hx : x < 64) (hy : y < 64) (hzero : y % 4 = 0) :
    written [UInt8.ofNat (w * 4 + x / 16), UInt8.ofNat (x % 16 * 16 + y / 4)] =
      [octet w, octet x, octet y, pad] := by
  have hvalue : (UInt8.ofNat (w * 4 + x / 16)).toNat = w * 4 + x / 16 := by
    rw [UInt8.toNat_ofNat', Nat.mod_eq_of_lt (by omega)]
  have hnext : (UInt8.ofNat (x % 16 * 16 + y / 4)).toNat = x % 16 * 16 + y / 4 := by
    rw [UInt8.toNat_ofNat', Nat.mod_eq_of_lt (by omega)]
  have hfirst : (w * 4 + x / 16) / 4 = w := by omega
  have hsecond : (w * 4 + x / 16) % 4 * 16 + (x % 16 * 16 + y / 4) / 16 = x := by omega
  have hthird : (x % 16 * 16 + y / 4) % 16 * 4 = y := by omega
  rw [written, hvalue, hnext, hfirst, hsecond, hthird]

end Writing

section Groups

/-- Groups before the last are read as what is written as they are. -/
theorem groups_eq_ok_iff {count offset : Nat} {soFar text out rest : Bytes} (hlong : 4 * count ≤ text.length) :
    groups count offset soFar text = .ok (out, rest) ↔
      ∃ front : Bytes, front.length = 3 * count ∧ text = written front ++ rest ∧ out = front.reverse ++ soFar := by
  induction count generalizing offset soFar text with
  | zero =>
      rw [groups]
      constructor
      · intro h
        cases h
        exact ⟨[], rfl, rfl, rfl⟩
      · rintro ⟨front, hlength, rfl, rfl⟩
        rw [List.length_eq_zero_iff.1 hlength]
        rfl
  | succ count ih =>
      match text, hlong with
      | a :: b :: c :: d :: more, hlong =>
        have hmore : 4 * count ≤ more.length := by
          simp only [List.length_cons] at hlong
          omega
        simp only [groups, bind_eq_ok, valueAt_eq_ok_iff, ih hmore]
        constructor
        · rintro ⟨w, ⟨hw, rfl⟩, x, ⟨hx, rfl⟩, y, ⟨hy, rfl⟩, z, ⟨hz, rfl⟩, front, hlength, rfl, rfl⟩
          refine ⟨unpack w x y z ++ front, ?_, ?_, by simp⟩
          · simp only [unpack, List.length_append, List.length_cons, List.length_nil, hlength]
            omega
          · rw [written_unpack hw hx hy hz]
            rfl
        · rintro ⟨front, hlength, htext, rfl⟩
          match front, hlength, htext with
          | p :: q :: r :: front, hlength, htext =>
            have hp := p.toNat_lt
            have hq := q.toNat_lt
            have hr := r.toNat_lt
            simp only [written, List.cons_append, List.cons.injEq] at htext
            obtain ⟨ha, hb, hc, hd, hrest⟩ := htext
            refine ⟨_, ⟨by omega, ha⟩, _, ⟨by omega, hb⟩, _, ⟨by omega, hc⟩, _, ⟨by omega, hd⟩, front, ?_, hrest, ?_⟩
            · simp only [List.length_cons] at hlength
              omega
            · rw [unpack_sixes]
              simp

end Groups

section Last

/-- Behind padding there is only padding. -/
theorem tail_padded {start index : Nat} {t t' : Tail} {text : Bytes} (hpadded : 0 < t.padding) (hindex : 2 ≤ index) :
    tail start index t text = .ok t' ↔
      ∃ m, text = List.replicate m pad ∧ t' = { t with padding := t.padding + m } := by
  induction text generalizing index t with
  | nil =>
      rw [tail]
      constructor
      · intro h
        cases h
        exact ⟨0, rfl, rfl⟩
      · rintro ⟨m, hm, rfl⟩
        rw [List.length_replicate.symm.trans (congrArg List.length hm).symm]
        rfl
  | cons o text ih =>
      rw [tail]
      by_cases ho : o = pad
      · have hnot : ¬ index < 2 := by omega
        have hne : t.padding ≠ 0 := by omega
        rw [if_pos ho, if_neg hnot, if_neg hne, ih (by simp) (by omega)]
        constructor
        · rintro ⟨m, rfl, rfl⟩
          exact ⟨m + 1, by rw [ho]; rfl, by simp [Nat.add_comm, Nat.add_left_comm]⟩
        · rintro ⟨m, hm, rfl⟩
          cases m with
          | zero => cases hm
          | succ m =>
              obtain ⟨-, rfl⟩ := List.cons.inj hm
              exact ⟨m, rfl, by simp [Nat.add_comm, Nat.add_left_comm]⟩
      · rw [if_neg ho, if_pos hpadded]
        refine iff_of_false nofun ?_
        rintro ⟨m, hm, -⟩
        exact ho (List.eq_of_mem_replicate (hm ▸ List.mem_cons_self))

/-- The last group is read as symbols and then padding, which stands behind two symbols at least. -/
theorem tail_eq_ok_iff {start index : Nat} {t t' : Tail} {text : Bytes} (hopen : t.padding = 0) :
    tail start index t text = .ok t' ↔
      ∃ (ns : List Nat) (m : Nat), (∀ n ∈ ns, n < 64) ∧ text = ns.map octet ++ List.replicate m pad ∧
        (0 < m → 2 ≤ index + ns.length) ∧
        t' = ⟨t.symbols ++ ns.map fun n => (octet n, n), m, if m = 0 then t.firstPad else index + ns.length⟩ := by
  induction text generalizing index t with
  | nil =>
      rw [tail]
      constructor
      · intro h
        cases h
        exact ⟨[], 0, nofun, rfl, nofun, by simp [← hopen]⟩
      · rintro ⟨ns, m, -, htext, -, rfl⟩
        obtain ⟨hns, hm⟩ := List.append_eq_nil_iff.1 htext.symm
        obtain rfl := List.map_eq_nil_iff.1 hns
        obtain rfl : m = 0 := by simpa using hm
        simp [← hopen]
  | cons o text ih =>
      rw [tail]
      by_cases ho : o = pad
      · rw [if_pos ho]
        by_cases hindex : index < 2
        · rw [if_pos hindex]
          refine iff_of_false nofun ?_
          rintro ⟨ns, m, hns, htext, hm, -⟩
          cases ns with
          | nil =>
              cases m with
              | zero => cases htext
              | succ m => exact absurd (hm (Nat.succ_pos m)) (by simpa using hindex)
          | cons n ns =>
              have hhead : o = octet n := (List.cons.inj htext).1
              exact octet_ne_pad (hns n List.mem_cons_self) (hhead ▸ ho)
        · rw [if_neg hindex, if_pos hopen, tail_padded (by simp) (by omega)]
          constructor
          · rintro ⟨m, rfl, rfl⟩
            refine ⟨[], m + 1, nofun, ?_, fun _ => Nat.le_of_not_lt hindex, ?_⟩
            · rw [ho]
              rfl
            · simp [hopen, Nat.add_comm]
          · rintro ⟨ns, m, hns, htext, -, rfl⟩
            cases ns with
            | nil =>
                cases m with
                | zero => cases htext
                | succ m => exact ⟨m, (List.cons.inj htext).2, by simp [hopen, Nat.add_comm]⟩
            | cons n ns =>
                have hhead : o = octet n := (List.cons.inj htext).1
                exact absurd (hhead ▸ ho) (octet_ne_pad (hns n List.mem_cons_self))
      · have hnot : ¬ 0 < t.padding := by omega
        have hnext := fun n => @ih (index + 1) { t with symbols := t.symbols ++ [(o, n)] } hopen
        simp only [if_neg ho, if_neg hnot, bind_eq_ok, valueAt_eq_ok_iff, hnext]
        constructor
        · rintro ⟨n, ⟨hn, rfl⟩, ns, m, hns, rfl, hm, rfl⟩
          refine ⟨n :: ns, m, List.forall_mem_cons.2 ⟨hn, hns⟩, rfl, fun hpos => ?_, ?_⟩
          · have hbound := hm hpos
            simp only [List.length_cons]
            omega
          · simp [Nat.add_comm, Nat.add_left_comm]
        · rintro ⟨ns, m, hns, htext, hm, rfl⟩
          cases ns with
          | nil =>
              cases m with
              | zero => cases htext
              | succ m => exact absurd (List.cons.inj htext).1 ho
          | cons n ns =>
              obtain ⟨hhead, hrest⟩ := List.cons.inj htext
              obtain ⟨hn, hns⟩ := List.forall_mem_cons.1 hns
              refine ⟨n, ⟨hn, hhead⟩, ns, m, hns, hrest, fun hpos => ?_, ?_⟩
              · have hbound := hm hpos
                simp only [List.length_cons] at hbound
                omega
              · simp [hhead, Nat.add_comm, Nat.add_left_comm]

section Finish

variable {start firstPad w x y z : Nat}

/-- Four symbols, as one number, are three octets. -/
theorem bigEndian_four (hy : y < 64) (hz : z < 64) :
    Bytes.bigEndian 3 (((w * 64 + x) * 64 + y) * 64 + z) = unpack w x y z := by
  have hcongr : ∀ {a b : Nat}, a % 256 = b % 256 → UInt8.ofNat a = UInt8.ofNat b := fun h =>
    UInt8.toNat_inj.1 (by rwa [UInt8.toNat_ofNat', UInt8.toNat_ofNat'])
  simp only [Bytes.bigEndian, unpack, Nat.shiftRight_eq_div_pow, List.cons.injEq, and_true]
  refine ⟨hcongr ?_, hcongr ?_, hcongr ?_⟩
  · omega
  · omega
  · omega

/-- The bits that carry nothing have to be zero. -/
theorem finish_two :
    finish false start ⟨[(octet w, w), (octet x, x)], 2, firstPad⟩ =
      if x % 16 = 0 then .ok [UInt8.ofNat (w * 4 + x / 16)]
      else .error (.lastSymbol (octet x) (start + 1)) := by
  have hunused : (((w * 64 + x) * 64 + 0) * 64 + 0) % 65536 = 0 ↔ x % 16 = 0 := by omega
  have hwhole := bigEndian_four (w := w) (x := x) (y := 0) (by omega) (z := 0) (by omega)
  simp only [Nat.add_zero] at hunused hwhole
  by_cases hzero : x % 16 = 0
  · simp [finish, hunused.2 hzero, hzero, hwhole, unpack]
  · simp [finish, hunused, hzero]

theorem finish_three (hy : y < 64) :
    finish false start ⟨[(octet w, w), (octet x, x), (octet y, y)], 1, firstPad⟩ =
      if y % 4 = 0 then .ok [UInt8.ofNat (w * 4 + x / 16), UInt8.ofNat (x % 16 * 16 + y / 4)]
      else .error (.lastSymbol (octet y) (start + 2)) := by
  have hunused : (((w * 64 + x) * 64 + y) * 64 + 0) % 256 = 0 ↔ y % 4 = 0 := by omega
  have hwhole := bigEndian_four (w := w) (x := x) hy (z := 0) (by omega)
  simp only [Nat.add_zero] at hunused hwhole
  by_cases hzero : y % 4 = 0
  · simp [finish, hunused.2 hzero, hzero, hwhole, unpack]
  · simp [finish, hunused, hzero]

theorem finish_four (hy : y < 64) (hz : z < 64) :
    finish false start ⟨[(octet w, w), (octet x, x), (octet y, y), (octet z, z)], 0, firstPad⟩ =
      .ok (unpack w x y z) := by
  have hwhole := bigEndian_four (w := w) (x := x) hy hz
  simp [finish, Nat.mod_one, hwhole, unpack]

end Finish

/-- A last group has two symbols at least, and with its padding it is whole. -/
theorem length_of_finish {start : Nat} {t : Tail} {last : Bytes} (h : finish false start t = .ok last) :
    2 ≤ t.symbols.length ∧ (t.padding + t.symbols.length) % 4 = 0 := by
  by_cases hfew : t.symbols.length < 2
  · simp [finish, hfew] at h
  · by_cases hwhole : (t.padding + t.symbols.length) % 4 = 0
    · exact ⟨Nat.le_of_not_lt hfew, hwhole⟩
    · simp [finish, hfew, hwhole] at h

section Group

variable {start : Nat} {text last : Bytes}

/-- A last group that is read is what one, two or three octets are written as. -/
theorem written_of_last (hshort : text.length ≤ 4) (h : (tail start 0 {} text >>= finish false start) = .ok last) :
    text = written last := by
  have htail := fun t' => @tail_eq_ok_iff start 0 {} t' text rfl
  simp only [bind_eq_ok, htail, List.nil_append, Nat.zero_add] at h
  obtain ⟨_, ⟨ns, m, hns, rfl, -, rfl⟩, hfinish⟩ := h
  obtain ⟨hfew, hwhole⟩ := length_of_finish hfinish
  simp only [List.length_append, List.length_map, List.length_replicate] at hshort hfew hwhole
  match ns, hns, hfinish with
  | [w, x], hns, hfinish =>
      obtain rfl : m = 2 := by
        simp only [List.length_cons, List.length_nil] at hshort hwhole
        omega
      obtain ⟨hw, hx⟩ : w < 64 ∧ x < 64 := by simpa using hns
      rw [List.map_cons, List.map_cons, List.map_nil, finish_two] at hfinish
      split at hfinish
      · next hzero =>
        cases hfinish
        rw [written_one hw hx hzero]
        rfl
      · cases hfinish
  | [w, x, y], hns, hfinish =>
      obtain rfl : m = 1 := by
        simp only [List.length_cons, List.length_nil] at hshort hwhole
        omega
      obtain ⟨hw, hx, hy⟩ : w < 64 ∧ x < 64 ∧ y < 64 := by simpa using hns
      rw [List.map_cons, List.map_cons, List.map_cons, List.map_nil, finish_three hy] at hfinish
      split at hfinish
      · next hzero =>
        cases hfinish
        rw [written_two hw hx hy hzero]
        rfl
      · cases hfinish
  | [w, x, y, z], hns, hfinish =>
      obtain rfl : m = 0 := by
        simp only [List.length_cons, List.length_nil] at hshort
        omega
      obtain ⟨hw, hx, hy, hz⟩ : w < 64 ∧ x < 64 ∧ y < 64 ∧ z < 64 := by simpa using hns
      simp only [List.map_cons, List.map_nil, finish_four hy hz] at hfinish
      cases hfinish
      rw [← List.append_nil (unpack w x y z), written_unpack hw hx hy hz]
      rfl
  | [], _, _ | [_], _, _ =>
      simp at hfew
  | _ :: _ :: _ :: _ :: _ :: _, _, _ =>
      simp only [List.length_cons] at hshort
      omega

/-- What they are written as is read as a last group. -/
theorem last_of_written (hne : text ≠ []) (hshort : text.length ≤ 4) (htext : text = written last) :
    (tail start 0 {} text >>= finish false start) = .ok last := by
  have htail := fun t' => @tail_eq_ok_iff start 0 {} t' text rfl
  simp only [bind_eq_ok, htail, List.nil_append, Nat.zero_add]
  match last with
  | [] => exact absurd htext hne
  | [p] =>
      have hp := p.toNat_lt
      refine ⟨_, ⟨[p.toNat / 4, p.toNat % 4 * 16], 2, ?_, htext, by simp, rfl⟩, ?_⟩
      · simp only [List.mem_cons, List.not_mem_nil, or_false, forall_eq_or_imp, forall_eq]
        omega
      · have hzero : p.toNat % 4 * 16 % 16 = 0 := by omega
        have hvalue : p.toNat / 4 * 4 + p.toNat % 4 * 16 / 16 = p.toNat := by omega
        simp only [List.map_cons, List.map_nil]
        rw [finish_two, if_pos hzero, hvalue, UInt8.ofNat_toNat]
  | [p, q] =>
      have hp := p.toNat_lt
      have hq := q.toNat_lt
      refine ⟨_, ⟨[p.toNat / 4, p.toNat % 4 * 16 + q.toNat / 16, q.toNat % 16 * 4], 1, ?_, htext, by simp, rfl⟩, ?_⟩
      · simp only [List.mem_cons, List.not_mem_nil, or_false, forall_eq_or_imp, forall_eq]
        omega
      · have hzero : q.toNat % 16 * 4 % 4 = 0 := by omega
        have hfirst : p.toNat / 4 * 4 + (p.toNat % 4 * 16 + q.toNat / 16) / 16 = p.toNat := by omega
        have hsecond : (p.toNat % 4 * 16 + q.toNat / 16) % 16 * 16 + q.toNat % 16 * 4 / 4 = q.toNat := by omega
        simp only [List.map_cons, List.map_nil]
        rw [finish_three (by omega), if_pos hzero, hfirst, hsecond, UInt8.ofNat_toNat, UInt8.ofNat_toNat]
  | [p, q, r] =>
      have hp := p.toNat_lt
      have hq := q.toNat_lt
      have hr := r.toNat_lt
      refine ⟨_, ⟨[p.toNat / 4, p.toNat % 4 * 16 + q.toNat / 16, q.toNat % 16 * 4 + r.toNat / 64, r.toNat % 64], 0,
        ?_, htext, by simp, rfl⟩, ?_⟩
      · simp only [List.mem_cons, List.not_mem_nil, or_false, forall_eq_or_imp, forall_eq]
        omega
      · simp only [List.map_cons, List.map_nil]
        rw [finish_four (by omega) (by omega), unpack_sixes]
  | _ :: _ :: _ :: _ :: _ =>
      rw [htext, length_written] at hshort
      simp only [List.length_cons] at hshort
      omega

end Group

end Last

theorem decode_nil : decode [] = .ok [] := rfl

/-- A text is read when it is what some octets are written as, and as these. -/
theorem decode_eq_ok_iff {text b : Bytes} : decode text = .ok b ↔ text = written b := by
  by_cases hne : text = []
  · rw [hne, decode_nil, eq_comm (a := []), written_eq_nil_iff]
    simp [eq_comm]
  have hpos := List.length_pos_iff.2 hne
  have hempty : text.isEmpty = false := by simpa using hne
  unfold decode
  extract_lets n extra stray count
  have hcount : 4 * count < text.length ∧ text.length ≤ 4 * count + 4 := by
    simp only [count, extra, n]
    split
    · omega
    · omega
  constructor
  · intro h
    cases hstray : stray with
    | some o => simp [hstray] at h
    | none =>
      simp only [hstray, bind_eq_ok, hempty] at h
      obtain ⟨⟨octets, rest⟩, hgroups, t, htail, last, hfinish, hb⟩ := h
      obtain ⟨front, hfront, htext, rfl⟩ := (groups_eq_ok_iff (Nat.le_of_lt hcount.1)).1 hgroups
      have hlength := congrArg List.length htext
      simp only [List.length_append, length_written, hfront] at hlength
      have hrest : rest = written last :=
        written_of_last (by omega) (bind_eq_ok.2 ⟨t, htail, hfinish⟩)
      cases hb
      rw [List.append_nil, List.reverse_reverse, written_append hfront, htext, hrest]
  · intro htext
    have hlength := length_written b
    rw [← htext] at hlength
    have hwhole : extra = 0 := by
      simp only [extra, n]
      omega
    have hstray : stray = none := by
      simp only [stray, hwhole]
      split
      · simp
      · rfl
    have hfront : (b.take (3 * count)).length = 3 * count := by
      rw [List.length_take]
      omega
    have hsplit : text = written (b.take (3 * count)) ++ written (b.drop (3 * count)) := by
      rw [← written_append hfront, List.take_append_drop, htext]
    have hrest := congrArg List.length hsplit
    simp only [List.length_append, length_written, hfront] at hrest
    have hlast : (tail (count * 4) 0 {} (written (b.drop (3 * count))) >>= finish false (count * 4)) =
        .ok (b.drop (3 * count)) :=
      last_of_written (List.length_pos_iff.1 (by rw [length_written]; omega)) (by rw [length_written]; omega) rfl
    obtain ⟨t, htail, hfinish⟩ := bind_eq_ok.1 hlast
    rw [hstray]
    simp only [bind_eq_ok, hempty]
    refine ⟨_, (groups_eq_ok_iff (Nat.le_of_lt hcount.1)).2 ⟨_, hfront, hsplit, rfl⟩, t, htail, _, hfinish, ?_⟩
    simp [pure, Except.pure]

end Base64

end Workbench

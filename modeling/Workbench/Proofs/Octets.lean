import Workbench.Bytes

/-!
Octets as numbers.  Most significant first, a number and its octets determine each other as long as the
number is below what so many octets can tell apart.
-/

namespace Workbench.Bytes

/-- How many numbers a count of octets can tell apart. -/
def capacity (count : Nat) : Nat := 1 <<< (8 * count)

theorem capacity_succ (count : Nat) : capacity (count + 1) = capacity count * 256 := by
  rw [capacity, capacity, Nat.mul_add, Nat.shiftLeft_add, Nat.shiftLeft_eq _ (8 * 1)]

theorem capacity_pos (count : Nat) : 0 < capacity count := by
  induction count with
  | zero => decide
  | succ count ih => rw [capacity_succ]; omega

theorem shiftRight_capacity (n count : Nat) : n >>> (8 * count) = n / capacity count := by
  rw [Nat.shiftRight_eq_div_pow, capacity, Nat.one_shiftLeft]

/-- Octets read on from a number already read. -/
theorem foldl_toNat (start : Nat) (b : Bytes) :
    b.foldl (fun n b => n * 256 + b.toNat) start = start * capacity b.length + toNat b := by
  induction b generalizing start with
  | nil => simp [toNat, capacity]
  | cons x b ih =>
      rw [toNat, List.foldl_cons, List.foldl_cons, ih, ih (0 * 256 + x.toNat), List.length_cons,
        capacity_succ]
      grind

theorem toNat_cons (x : UInt8) (b : Bytes) :
    toNat (x :: b) = x.toNat * capacity b.length + toNat b := by
  rw [toNat, List.foldl_cons, foldl_toNat, Nat.zero_mul, Nat.zero_add]

theorem toNat_lt (b : Bytes) : toNat b < capacity b.length := by
  induction b with
  | nil => decide
  | cons x b ih =>
      have hx : x.toNat * capacity b.length ≤ 255 * capacity b.length :=
        Nat.mul_le_mul_right _ (Nat.le_of_lt_succ x.toNat_lt)
      rw [toNat_cons, List.length_cons, capacity_succ]
      omega

/-- Octets that are too few keep the low end of a number. -/
theorem toNat_bigEndian (count n : Nat) : toNat (bigEndian count n) = n % capacity count := by
  induction count with
  | zero => simp [bigEndian, toNat, capacity, Nat.mod_one]
  | succ count ih =>
      rw [bigEndian, toNat_cons, ih, length_bigEndian, shiftRight_capacity, capacity_succ,
        Nat.mod_mul, UInt8.toNat_ofNat', Nat.add_comm, Nat.mul_comm]

theorem toNat_bigEndian_of_lt {count n : Nat} (hn : n < capacity count) :
    toNat (bigEndian count n) = n := by
  rw [toNat_bigEndian, Nat.mod_eq_of_lt hn]

/-- As many octets that stand for the same number are the same. -/
theorem eq_of_toNat_eq {a b : Bytes} (hlength : a.length = b.length) (hnat : toNat a = toNat b) :
    a = b := by
  induction a generalizing b with
  | nil => exact (List.length_eq_zero_iff.1 hlength.symm).symm
  | cons x a ih =>
      obtain ⟨y, b, rfl⟩ := List.exists_cons_of_length_eq_add_one hlength.symm
      have htail : a.length = b.length := by simpa using hlength
      have ha := toNat_lt a
      have hb := toNat_lt b
      rw [toNat_cons, toNat_cons, htail] at hnat
      rw [htail] at ha
      have hx : x.toNat = y.toNat := by
        have hdiv := congrArg (· / capacity b.length) hnat
        simpa [Nat.mul_add_div, Nat.mul_comm _ (capacity b.length), capacity_pos,
          Nat.div_eq_of_lt ha, Nat.div_eq_of_lt hb] using hdiv
      have hrest : toNat a = toNat b := by
        rw [hx] at hnat
        omega
      rw [UInt8.toNat_inj.1 hx, ih htail hrest]

theorem bigEndian_toNat {count : Nat} {b : Bytes} (hlength : b.length = count) :
    bigEndian count (toNat b) = b := by
  have hlt := toNat_lt b
  rw [hlength] at hlt
  exact eq_of_toNat_eq (by rw [length_bigEndian, hlength]) (toNat_bigEndian_of_lt hlt)

end Workbench.Bytes

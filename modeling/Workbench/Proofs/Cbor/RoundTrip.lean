import Workbench.Cbor.Reader
import Workbench.Proofs.Octets
import Workbench.Proofs.Text.Utf8

/-!
What is written as CBOR is read back, whatever follows it, as long as it is nested no deeper than the reader
goes.  `Item.ofDatum` says as what item a datum is written.
-/

namespace Workbench

namespace Datum

mutual
/-- How deep sequences and maps stand in each other. -/
def nesting : Datum → Nat
  | .seq items => nestingItems items + 1
  | .map entries => nestingEntries entries + 1
  | _ => 0

def nestingItems : List Datum → Nat
  | [] => 0
  | item :: rest => max (nesting item) (nestingItems rest)

def nestingEntries : List (Datum × Datum) → Nat
  | [] => 0
  | (key, value) :: rest => max (max (nesting key) (nesting value)) (nestingEntries rest)
end

end Datum

namespace Cbor

theorem splitAt?_append (left right : Bytes) :
    splitAt? left.length (left ++ right) = some (left, right) := by
  induction left with
  | nil => rfl
  | cons x left ih => simp [splitAt?, ih]

theorem takeOctets?_append (left right : Bytes) :
    takeOctets? left.length (left ++ right) = some (left, right) := by
  simp [takeOctets?]

section Heads

variable (m : Major) {low count n : Nat} (rest : Bytes)

theorem major_code : major m.code = m := by
  cases m <;> rfl

theorem toNat_lead (hlow : low < 32) : (lead m low).toNat = m.code * 32 + low := by
  have hcode : m.code ≤ 7 := by cases m <;> decide
  rw [lead, UInt8.toNat_ofNat']
  omega

/-- A small argument stands in the first octet. -/
theorem readHead_lead (hlow : low < 24) :
    readHead (lead m low :: rest) = some (⟨m, low, some low⟩, rest) := by
  have hmajor : (m.code * 32 + low) / 32 = m.code := by omega
  have hrest : (m.code * 32 + low) % 32 = low := by omega
  simp only [readHead, toNat_lead m (Nat.lt_trans hlow (by decide)), hmajor, hrest, major_code, hlow,
    ↓reduceIte]

/-- A larger one stands in one, two, four or eight octets after it. -/
theorem readHead_wide (hwidth : (low, count) ∈ [(24, 1), (25, 2), (26, 4), (27, 8)])
    (hn : n < Bytes.capacity count) :
    readHead (lead m low :: (Bytes.bigEndian count n ++ rest)) =
      some (⟨m, low, some n⟩, rest) := by
  have hsplit : splitAt? count (Bytes.bigEndian count n ++ rest) =
      some (Bytes.bigEndian count n, rest) := by
    have happend := splitAt?_append (Bytes.bigEndian count n) rest
    rwa [Bytes.length_bigEndian] at happend
  have hmajor : (m.code * 32 + low) / 32 = m.code ∧ (m.code * 32 + low) % 32 = low := by
    have hlow : low < 32 := by
      simp only [List.mem_cons, Prod.mk.injEq, List.not_mem_nil, or_false] at hwidth
      omega
    omega
  simp only [List.mem_cons, Prod.mk.injEq, List.not_mem_nil, or_false] at hwidth
  rcases hwidth with ⟨rfl, rfl⟩ | ⟨rfl, rfl⟩ | ⟨rfl, rfl⟩ | ⟨rfl, rfl⟩
  all_goals
    simp [readHead, toNat_lead, hmajor, major_code, hsplit, Bytes.toNat_bigEndian_of_lt hn]

/-- A head is read back, if its argument fits a word. -/
theorem readHead_head (hn : n < 0x10000000000000000) :
    ∃ low, readHead (head m n ++ rest) = some (⟨m, low, some n⟩, rest) := by
  unfold head
  split
  · rename_i hshort
    exact ⟨n, readHead_lead m rest hshort⟩
  split
  · rename_i hfits
    exact ⟨24, readHead_wide m rest (by simp) hfits⟩
  split
  · rename_i hfits
    exact ⟨25, readHead_wide m rest (by simp) hfits⟩
  split
  · rename_i hfits
    exact ⟨26, readHead_wide m rest (by simp) hfits⟩
  · exact ⟨27, readHead_wide m rest (by simp) hn⟩

end Heads

namespace FloatFormat

variable {f : FloatFormat} {x : Binary64} {bits : Nat}

theorem hiddenBit_le_signBit (f : FloatFormat) : f.hiddenBit ≤ f.signBit := by
  rw [hiddenBit, signBit, Nat.one_shiftLeft, Nat.one_shiftLeft]
  exact Nat.pow_le_pow_right (by decide) (by omega)

theorem hiddenBit_pos (f : FloatFormat) : 0 < f.hiddenBit := by
  rw [hiddenBit, Nat.one_shiftLeft]
  exact Nat.two_pow_pos _

theorem finiteBits?_lt {m : Nat} {e : Int} (hbits : f.finiteBits? m e = some bits) :
    bits < f.infiniteBits := by
  unfold finiteBits? at hbits
  dsimp only at hbits
  split at hbits
  · cases hbits
  split at hbits
  · cases hbits
  split at hbits
  · rename_i hlt
    cases hbits
    exact hlt
  · cases hbits

/-- The fraction of a not-a-number, cut down to a format, stays within its fraction. -/
theorem fraction_lt (hfraction : f.fractionBits ≤ 52) :
    (x.magnitudeBits % Binary64.hiddenBit) >>> (52 - f.fractionBits) < f.hiddenBit := by
  have hlt : x.magnitudeBits % Binary64.hiddenBit < 2 ^ 52 := Nat.mod_lt _ (by decide)
  rw [Nat.shiftRight_eq_div_pow, hiddenBit, Nat.one_shiftLeft, Nat.div_lt_iff_lt_mul (Nat.two_pow_pos _),
    ← Nat.pow_add, Nat.add_sub_cancel' hfraction]
  exact hlt

/-- Bits of a narrower format that stand for a double widen to it and fit the format. -/
theorem narrow?_eq_some (hfraction : f.fractionBits ≤ 52) (hbits : f.narrow? x = some bits) :
    f.widen bits = x ∧ bits < 2 * f.signBit := by
  have hhidden := hiddenBit_le_signBit f
  have hpos := hiddenBit_pos f
  have hinfinite : f.infiniteBits = f.signBit - f.hiddenBit := rfl
  unfold narrow? at hbits
  obtain ⟨magnitude, hmagnitude, hwidens⟩ := Option.bind_eq_some_iff.1 hbits
  have hlt : magnitude < f.signBit := by
    split at hmagnitude
    · have := finiteBits?_lt hmagnitude
      omega
    · cases hmagnitude
      omega
    · cases hmagnitude
      have := fraction_lt (x := x) hfraction
      omega
  have hsign : (if x.negative then f.signBit else 0) ≤ f.signBit := by split <;> omega
  generalize (if x.negative then f.signBit else 0) = sign at hsign hwidens
  split at hwidens
  · rename_i hwiden
    cases hwidens
    exact ⟨hwiden, by omega⟩
  · cases hwidens

end FloatFormat

namespace Item

/-- An integer as an item. -/
def ofInt (n : Int) : Item :=
  if 0 ≤ n then .natural n.toNat else .negative (-n - 1).toNat

mutual
/-- The item that a datum is written as. -/
def ofDatum : Datum → Item
  | .null => .simple 22
  | .bool b => .simple (if b then 21 else 20)
  | .int n => ofInt n.val
  | .double x => .double x
  | .text s => .text true s
  | .bytes b => .bytes true b
  | .seq items => .array (ofItems items)
  | .map entries => .map (ofEntries entries)

def ofItems : List Datum → List Item
  | [] => []
  | item :: rest => ofDatum item :: ofItems rest

def ofEntries : List (Datum × Datum) → List (Item × Item)
  | [] => []
  | (key, value) :: rest => (ofDatum key, ofDatum value) :: ofEntries rest
end

end Item

theorem head_pos (m : Major) (n : Nat) : 0 < (head m n).length := by
  unfold head
  repeat' split
  all_goals simp

/-- Nothing is written as no octets. -/
theorem encode_pos (d : Datum) : 0 < (encode d).length := by
  cases d with
  | null | bool => simp [encode]
  | int n =>
      rw [encode, integer]
      split <;> exact head_pos _ _
  | double x =>
      rw [encode, double]
      split
      · simp
      · split <;> simp
  | text | bytes | seq | map =>
      simp only [encode, List.length_append]
      exact Nat.add_pos_left (head_pos _ _) _

theorem length_le_encodeItems (items : List Datum) : items.length ≤ (encodeItems items).length := by
  induction items with
  | nil => exact Nat.zero_le _
  | cons item items ih =>
      have := encode_pos item
      simp only [encodeItems, List.length_cons, List.length_append]
      omega

theorem length_le_encodeEntries (entries : List (Datum × Datum)) :
    entries.length ≤ (encodeEntries entries).length := by
  induction entries with
  | nil => exact Nat.zero_le _
  | cons entry entries ih =>
      have := encode_pos entry.1
      simp only [encodeEntries, List.length_cons, List.length_append]
      omega

section Scalars

variable (fuel depth : Nat) (rest : Bytes)

theorem item_integer (n : WordInt) :
    item (fuel + 1) depth (integer n.val ++ rest) = some (.ofInt n.val, rest) := by
  have hlower := n.lower
  have hupper := n.upper
  rw [integer, Item.ofInt]
  split
  · obtain ⟨low, hread⟩ := readHead_head .natural (n := n.val.toNat) rest (by omega)
    simp only [item, hread, Option.bind_eq_bind, Option.bind_some]
  · obtain ⟨low, hread⟩ := readHead_head .negative (n := (-n.val - 1).toNat) rest (by omega)
    simp only [item, hread, Option.bind_eq_bind, Option.bind_some]

theorem item_double (x : Binary64) :
    item (fuel + 1) depth (double x ++ rest) = some (.double x, rest) := by
  unfold double
  split
  · rename_i bits hbits
    obtain ⟨hwiden, hlt⟩ := FloatFormat.narrow?_eq_some (by decide) hbits
    have hread : readHead (lead .simple 25 :: (Bytes.bigEndian 2 bits ++ rest)) =
        some (⟨.simple, 25, some bits⟩, rest) := readHead_wide .simple rest (by simp) hlt
    simp [item, hread, simpleItem, hwiden]
  split
  · rename_i bits hbits
    obtain ⟨hwiden, hlt⟩ := FloatFormat.narrow?_eq_some (by decide) hbits
    have hread : readHead (lead .simple 26 :: (Bytes.bigEndian 4 bits ++ rest)) =
        some (⟨.simple, 26, some bits⟩, rest) := readHead_wide .simple rest (by simp) hlt
    simp [item, hread, simpleItem, hwiden]
  · have hread : readHead (lead .simple 27 :: (Bytes.bigEndian 8 x.bits.toNat ++ rest)) =
        some (⟨.simple, 27, some x.bits.toNat⟩, rest) :=
      readHead_wide .simple rest (by simp) x.bits.toNat_lt
    simp [item, hread, simpleItem]

theorem item_text (s : String) (hsize : (Bytes.ofText s).length < 0x10000000000000000) :
    item (fuel + 1) depth (encode (.text s) ++ rest) = some (.text true s, rest) := by
  obtain ⟨low, hread⟩ := readHead_head .text (Bytes.ofText s ++ rest) hsize
  simp only [encode, List.append_assoc]
  simp [item, hread, textString, takeOctets?_append, Utf8.decode?_ofText]

theorem item_bytes (b : Bytes) (hsize : b.length < 0x10000000000000000) :
    item (fuel + 1) depth (encode (.bytes b) ++ rest) = some (.bytes true b, rest) := by
  obtain ⟨low, hread⟩ := readHead_head .bytes (b ++ rest) hsize
  simp only [encode, List.append_assoc]
  simp [item, hread, byteString, takeOctets?_append]

end Scalars

/-- What stands one level further in is read with one level less to go. -/
theorem descend {α β : Type} (depth nesting : Nat) (v : α) (next : α → Option β) :
    (if depth = 0 then none
      else (if nesting ≤ depth - 1 then some v else none).bind next) =
      if nesting + 1 ≤ depth then next v else none := by
  by_cases hfits : nesting + 1 ≤ depth
  · rw [if_pos hfits, if_neg (by omega), if_pos (by omega), Option.bind_some]
  · rw [if_neg hfits]
    split
    · rfl
    · rw [if_neg (by omega), Option.bind_none]

mutual
/-- A datum is read back from what it is written as, unless it is nested too deep. -/
theorem item_encode (d : Datum) (fuel depth : Nat) (rest : Bytes)
    (hsize : (encode d).length < 0x10000000000000000) (hfuel : 2 * (encode d).length ≤ fuel) :
    item fuel depth (encode d ++ rest) =
      if d.nesting ≤ depth then some (.ofDatum d, rest) else none := by
  -- a list takes a step for each of its items and one to see its end, so two steps an octet are enough
  have hpos := encode_pos d
  obtain ⟨fuel, rfl⟩ : ∃ n, fuel = n + 1 := ⟨fuel - 1, by omega⟩
  match d with
  | .null =>
      simp [encode, item, readHead_lead, simpleItem, Datum.nesting, Item.ofDatum]
  | .bool true =>
      simp [encode, item, readHead_lead, simpleItem, Datum.nesting, Item.ofDatum]
  | .bool false =>
      simp [encode, item, readHead_lead, simpleItem, Datum.nesting, Item.ofDatum]
  | .int n => simpa [encode, Datum.nesting, Item.ofDatum] using item_integer fuel depth rest n
  | .double x => simpa [encode, Datum.nesting, Item.ofDatum] using item_double fuel depth rest x
  | .text s =>
      have hlength : (Bytes.ofText s).length < 0x10000000000000000 := by
        simp only [encode, List.length_append] at hsize
        omega
      simpa [Datum.nesting, Item.ofDatum] using item_text fuel depth rest s hlength
  | .bytes b =>
      have hlength : b.length < 0x10000000000000000 := by
        simp only [encode, List.length_append] at hsize
        omega
      simpa [Datum.nesting, Item.ofDatum] using item_bytes fuel depth rest b hlength
  | .seq ds =>
      have hcount := length_le_encodeItems ds
      have hhead := head_pos .array ds.length
      simp only [encode, List.length_append] at hsize hfuel
      obtain ⟨low, hread⟩ :=
        readHead_head .array (n := ds.length) (encodeItems ds ++ rest) (by omega)
      have hitems := items_encode ds fuel (depth - 1) [] rest (by omega) (by omega)
      simp only [encode, List.append_assoc, item, hread, Option.bind_eq_bind, Option.bind_some, hitems,
        Item.ofDatum, Datum.nesting]
      exact descend depth _ _ _
  | .map es =>
      have hcount := length_le_encodeEntries es
      have hhead := head_pos .map es.length
      simp only [encode, List.length_append] at hsize hfuel
      obtain ⟨low, hread⟩ :=
        readHead_head .map (n := es.length) (encodeEntries es ++ rest) (by omega)
      have hentries :=
        entries_encode es fuel (depth - 1) [] rest (by omega) (by omega)
      simp only [encode, List.append_assoc, item, hread, Option.bind_eq_bind, Option.bind_some, hentries,
        Item.ofDatum, Datum.nesting]
      exact descend depth _ _ _

theorem items_encode (ds : List Datum) (fuel depth : Nat) (soFar : List Item) (rest : Bytes)
    (hsize : (encodeItems ds).length < 0x10000000000000000)
    (hfuel : 2 * (encodeItems ds).length + 1 ≤ fuel) :
    items fuel depth (some ds.length) soFar (encodeItems ds ++ rest) =
      if Datum.nestingItems ds ≤ depth then some (soFar.reverse ++ Item.ofItems ds, rest)
      else none := by
  obtain ⟨fuel, rfl⟩ : ∃ n, fuel = n + 1 := ⟨fuel - 1, by omega⟩
  match ds with
  | [] => simp [items, encodeItems, Datum.nestingItems, Item.ofItems]
  | d :: ds =>
      have hpos := encode_pos d
      simp only [encodeItems, List.length_append] at hsize hfuel
      have hitem := item_encode d fuel depth (encodeItems ds ++ rest)
        (by omega) (by omega)
      have hitems := items_encode ds fuel depth (.ofDatum d :: soFar) rest
        (by omega) (by omega)
      simp only [encodeItems, List.append_assoc, List.length_cons, items, hitem, Datum.nestingItems,
        Item.ofItems]
      by_cases hdeep : d.nesting ≤ depth
      · simp only [hdeep, ↓reduceIte, hitems, Nat.max_le, true_and, List.reverse_cons,
          List.append_assoc, List.singleton_append]
      · simp only [hdeep, ↓reduceIte, Nat.max_le, false_and]

theorem entries_encode (es : List (Datum × Datum)) (fuel depth : Nat) (soFar : List (Item × Item))
    (rest : Bytes) (hsize : (encodeEntries es).length < 0x10000000000000000)
    (hfuel : 2 * (encodeEntries es).length + 1 ≤ fuel) :
    entries fuel depth (some es.length) soFar (encodeEntries es ++ rest) =
      if Datum.nestingEntries es ≤ depth then some (soFar.reverse ++ Item.ofEntries es, rest)
      else none := by
  obtain ⟨fuel, rfl⟩ : ∃ n, fuel = n + 1 := ⟨fuel - 1, by omega⟩
  match es with
  | [] => simp [entries, encodeEntries, Datum.nestingEntries, Item.ofEntries]
  | (key, value) :: es =>
      have hkeyPos := encode_pos key
      have hvaluePos := encode_pos value
      simp only [encodeEntries, List.length_append] at hsize hfuel
      have hkey := item_encode key fuel depth
        (encode value ++ (encodeEntries es ++ rest)) (by omega) (by omega)
      have hvalue := item_encode value fuel depth (encodeEntries es ++ rest)
        (by omega) (by omega)
      have hentries := entries_encode es fuel depth
        ((.ofDatum key, .ofDatum value) :: soFar) rest (by omega) (by omega)
      simp only [encodeEntries, List.append_assoc, List.length_cons, entries, hkey,
        Datum.nestingEntries, Item.ofEntries, Nat.max_le]
      by_cases hkeyDeep : key.nesting ≤ depth
      · by_cases hvalueDeep : value.nesting ≤ depth
        · simp only [hkeyDeep, hvalueDeep, ↓reduceIte, Option.bind_eq_bind, Option.bind_some, hvalue,
            hentries, true_and, List.reverse_cons, List.append_assoc, List.singleton_append]
        · simp only [hkeyDeep, hvalueDeep, ↓reduceIte, Option.bind_eq_bind, Option.bind_some,
            Option.bind_none, hvalue, and_false, false_and]
      · simp only [hkeyDeep, ↓reduceIte, Option.bind_eq_bind, Option.bind_none, false_and]
end

/-- What is written is read back in front of anything, or refused for its nesting alone. -/
theorem read?_encode (d : Datum) (rest : Bytes) (hsize : (encode d).length < 0x10000000000000000) :
    read? (encode d ++ rest) =
      if d.nesting ≤ maxDepth then some (.ofDatum d, rest) else none := by
  refine item_encode d (2 * (encode d ++ rest).length + 2) maxDepth rest hsize ?_
  rw [List.length_append]
  omega

namespace Item

theorem ofInt?_datum (n : WordInt) : (ofInt n.val).datum? = some (.int n) := by
  unfold ofInt
  split
  · rename_i hsign
    rw [datum?, Int.toNat_of_nonneg hsign, WordInt.ofInt?_val]
    rfl
  · rename_i hsign
    have hval : -((-n.val - 1).toNat : Int) - 1 = n.val := by omega
    rw [datum?, hval, WordInt.ofInt?_val]
    rfl

mutual
/-- A reader that takes values as they describe themselves finds the datum again. -/
theorem datum?_ofDatum (d : Datum) : (ofDatum d).datum? = some d := by
  match d with
  | .null | .bool true | .bool false | .double _ | .text _ | .bytes _ => rfl
  | .int n => exact ofInt?_datum n
  | .seq ds => rw [ofDatum, datum?, datums?_ofItems ds]; rfl
  | .map es => rw [ofDatum, datum?, datumEntries?_ofEntries es]; rfl

theorem datums?_ofItems (ds : List Datum) : datums? (ofItems ds) = some ds := by
  match ds with
  | [] => rfl
  | d :: ds => simp [ofItems, datums?, datum?_ofDatum d, datums?_ofItems ds]

theorem datumEntries?_ofEntries (es : List (Datum × Datum)) :
    datumEntries? (ofEntries es) = some es := by
  match es with
  | [] => rfl
  | (key, value) :: es =>
      simp [ofEntries, datumEntries?, datum?_ofDatum key, datum?_ofDatum value,
        datumEntries?_ofEntries es]
end

end Item

end Cbor
end Workbench

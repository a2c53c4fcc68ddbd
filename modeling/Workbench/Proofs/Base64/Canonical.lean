import Workbench.Buffer
import Workbench.Proofs.Base64

/-!
Binary content has one text.  It is that of the standard alphabet: the bits of the octets six at a time, filled up
with zeros, and padding to whole groups of four.  No other text is read as these octets, nor is any text that is
not of this form; an array of their numbers is read as well.
-/

namespace Workbench

namespace Base64

/-- The symbols by what they stand for. -/
def alphabet : List Char := "ABCDEFGHIJKLMNOPQRSTUVWXYZabcdefghijklmnopqrstuvwxyz0123456789+/".toList

/-- The bits of an octet, most significant first. -/
def octetBits (o : UInt8) : List Nat := [128, 64, 32, 16, 8, 4, 2, 1].map fun weight => o.toNat / weight % 2

/-- The number that some bits write. -/
def bitsNumber (bits : List Nat) : Nat := bits.foldl (fun n bit => 2 * n + bit) 0

/-- The numbers of six bits at a time; zeros fill up the last six. -/
def sixes : List Nat → List Nat
  | [] => []
  | a :: b :: c :: d :: e :: f :: rest => bitsNumber [a, b, c, d, e, f] :: sixes rest
  | few => [bitsNumber (few ++ List.replicate (6 - few.length) 0)]

/-- The standard text of octets. -/
def canonical (b : Bytes) : List Char :=
  let symbols := (sixes (b.flatMap octetBits)).map fun n => alphabet.getD n '='
  symbols ++ List.replicate ((4 - symbols.length % 4) % 4) '='

theorem symbol_eq {n : Nat} (hn : n < 64) : symbol n = alphabet.getD n '=' := by
  have hall : ∀ k < 64, symbol k = alphabet.getD k '=' := by decide +kernel
  exact hall n hn

section Bits

/-- The numbers that the bits of an octet write in front of a cut and behind it. -/
theorem bitsNumber_cut : ∀ n < 256,
    (bitsNumber [n / 128 % 2, n / 64 % 2] = n / 64 ∧
      bitsNumber [n / 32 % 2, n / 16 % 2, n / 8 % 2, n / 4 % 2, n / 2 % 2, n / 1 % 2] = n % 64) ∧
    (bitsNumber [n / 128 % 2, n / 64 % 2, n / 32 % 2, n / 16 % 2] = n / 16 ∧
      bitsNumber [n / 8 % 2, n / 4 % 2, n / 2 % 2, n / 1 % 2] = n % 16) ∧
    bitsNumber [n / 128 % 2, n / 64 % 2, n / 32 % 2, n / 16 % 2, n / 8 % 2, n / 4 % 2] = n / 4 ∧
      bitsNumber [n / 2 % 2, n / 1 % 2] = n % 4 := by
  decide +kernel

theorem bitsNumber_two_four (p q r s t u : Nat) :
    bitsNumber [p, q, r, s, t, u] = bitsNumber [p, q] * 16 + bitsNumber [r, s, t, u] := by
  simp only [bitsNumber, List.foldl_cons, List.foldl_nil]
  omega

theorem bitsNumber_four_two (p q r s t u : Nat) :
    bitsNumber [p, q, r, s, t, u] = bitsNumber [p, q, r, s] * 4 + bitsNumber [t, u] := by
  simp only [bitsNumber, List.foldl_cons, List.foldl_nil]
  omega

variable (a b c : UInt8)

theorem sixes_one : sixes (octetBits a) = [a.toNat / 4, a.toNat % 4 * 16] := by
  obtain ⟨-, -, hfront, hback⟩ := bitsNumber_cut a.toNat a.toNat_lt
  simp only [octetBits, List.map_cons, List.map_nil, sixes, List.length_cons, List.length_nil, List.replicate,
    List.cons_append, List.nil_append, hfront]
  rw [bitsNumber_two_four, hback]
  rfl

theorem sixes_two : sixes (octetBits a ++ octetBits b) =
    [a.toNat / 4, a.toNat % 4 * 16 + b.toNat / 16, b.toNat % 16 * 4] := by
  obtain ⟨-, -, hfront, hback⟩ := bitsNumber_cut a.toNat a.toNat_lt
  obtain ⟨-, ⟨hfront', hback'⟩, -⟩ := bitsNumber_cut b.toNat b.toNat_lt
  simp only [octetBits, List.map_cons, List.map_nil, sixes, List.length_cons, List.length_nil, List.replicate,
    List.cons_append, List.nil_append, hfront]
  rw [bitsNumber_two_four, hback, hfront', bitsNumber_four_two, hback']
  rfl

/-- Three octets are four times six bits, and leave none for what follows. -/
theorem sixes_three (bits : List Nat) : sixes (octetBits a ++ (octetBits b ++ (octetBits c ++ bits))) =
    a.toNat / 4 :: (a.toNat % 4 * 16 + b.toNat / 16) :: (b.toNat % 16 * 4 + c.toNat / 64) :: c.toNat % 64 ::
      sixes bits := by
  obtain ⟨-, -, hfront, hback⟩ := bitsNumber_cut a.toNat a.toNat_lt
  obtain ⟨-, ⟨hfront', hback'⟩, -⟩ := bitsNumber_cut b.toNat b.toNat_lt
  obtain ⟨⟨hfront'', hback''⟩, -⟩ := bitsNumber_cut c.toNat c.toNat_lt
  simp only [octetBits, List.map_cons, List.map_nil, sixes, List.cons_append, List.nil_append, hfront, hback'']
  rw [bitsNumber_two_four, hback, hfront', bitsNumber_four_two, hback', hfront'']

end Bits

theorem encode_eq_canonical (b : Bytes) : encode b = String.ofList (canonical b) := by
  have honto : ∀ soFar, encodeOnto soFar b = soFar.reverse ++ canonical b := by
    intro soFar
    fun_induction encodeOnto soFar b with
    | case1 soFar => simp [canonical, sixes]
    | case2 soFar a =>
        have ha := a.toNat_lt
        simp [canonical, sixes_one, symbol_eq (show a.toNat / 4 < 64 by omega),
          symbol_eq (show a.toNat % 4 * 16 < 64 by omega)]
    | case3 soFar a b =>
        have ha := a.toNat_lt
        have hb := b.toNat_lt
        simp [canonical, sixes_two, symbol_eq (show a.toNat / 4 < 64 by omega),
          symbol_eq (show a.toNat % 4 * 16 + b.toNat / 16 < 64 by omega),
          symbol_eq (show b.toNat % 16 * 4 < 64 by omega)]
    | case4 soFar a b c rest ih =>
        have ha := a.toNat_lt
        have hb := b.toNat_lt
        have hc := c.toNat_lt
        have hgroup : ∀ length, (length + 1 + 1 + 1 + 1) % 4 = length % 4 := by omega
        rw [ih]
        simp [canonical, sixes_three, hgroup, symbol_eq (show a.toNat / 4 < 64 by omega),
          symbol_eq (show a.toNat % 4 * 16 + b.toNat / 16 < 64 by omega),
          symbol_eq (show b.toNat % 16 * 4 + c.toNat / 64 < 64 by omega),
          symbol_eq (show c.toNat % 64 < 64 by omega)]
  rw [encode, honto]
  rfl

/-- A text is read when it is what some octets are written as, and as these. -/
theorem decodeText_eq_ok_iff {text : String} {b : Bytes} : decodeText text = .ok b ↔ text = encode b := by
  rw [decodeText, decode_eq_ok_iff, ← ofText_encode]
  constructor
  · intro h
    have hback := congrArg Utf8.decode? h
    rw [Utf8.decode?_ofText, Utf8.decode?_ofText] at hback
    exact Option.some.inj hback
  · rintro rfl
    rfl

end Base64

namespace Buffer

/-- The numbers of some octets as a JSON array. -/
def numbers (b : Bytes) : Json := .arr (b.map fun o => .nat o.toNat)

theorem shape_text (o : Origin) (text : String) (blob : ByteArray) :
    shape o (.text text) = .ok blob ↔ text = Base64.encode (Blob.toBytes blob) := by
  rw [← Base64.decodeText_eq_ok_iff, shape]
  cases Base64.decodeText text with
  | error e => simp
  | ok b =>
      simp only [Except.ok.injEq]
      constructor
      · rintro rfl
        exact (Blob.toBytes_ofBytes b).symm
      · rintro rfl
        exact Blob.ofBytes_toBytes blob

theorem shape_numbers (o : Origin) (b : Bytes) : shape o (Datum.ofJson (numbers b)) = .ok (Blob.ofBytes b) := by
  have hitems : (Datum.ofItems (b.map fun o => Json.nat o.toNat)).mapM (Shape.u8 o) = .ok b := by
    induction b with
    | nil => rfl
    | cons x b ih =>
        have hx : Shape.u8 o (Datum.ofJson (Json.nat x.toNat)) = .ok x := by
          have hlt := x.toNat_lt
          have hword : (WordInt.ofNat x.toNat).val = x.toNat := by
            have hrange : (-0x8000000000000000 : Int) ≤ x.toNat ∧ (x.toNat : Int) < 0x10000000000000000 := by omega
            simp only [WordInt.ofNat, WordInt.ofInt?, dif_pos hrange, Option.getD_some]
          have hsmall : (0 : Int) ≤ x.toNat ∧ (x.toNat : Int) < (0x100 : Nat) := by omega
          simp only [Shape.u8, Json.nat, Datum.ofJson, Shape.natural, hword, if_pos hsmall, Int.toNat_natCast]
          exact congrArg Except.ok (UInt8.ofNat_toNat)
        rw [List.map_cons, Datum.ofItems, List.mapM_cons, hx, ih]
        rfl
  rw [numbers, Datum.ofJson, shape, hitems]
  rfl

/-- Binary content is written as the standard base64 of its octets; a text is read as content exactly if it is the
text that this content is written as; and the array of its octets is read as well.  It makes no difference
whether the reader has looked ahead for a tag. -/
theorem one_text_for_content (o : Origin) (blob : ByteArray) (text : String) :
    toJson blob = .str (String.ofList (Base64.canonical (Blob.toBytes blob))) ∧
      (shape o (Datum.ofJson (.str text)) = .ok blob ↔ toJson blob = .str text) ∧
      shape o (Datum.ofJson (toJson blob)) = .ok blob ∧
      shape o (Datum.ofJson (numbers (Blob.toBytes blob))) = .ok blob := by
  have htext : ∀ text, shape o (Datum.ofJson (.str text)) = .ok blob ↔ toJson blob = .str text := by
    intro text
    rw [Datum.ofJson, shape_text, toJson, Json.str.injEq, eq_comm]
  refine ⟨?_, htext text, (htext _).2 rfl, ?_⟩
  · rw [toJson, Base64.encode_eq_canonical]
  · rw [shape_numbers, Blob.ofBytes_toBytes]

end Buffer
end Workbench

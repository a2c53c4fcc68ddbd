import Workbench.Cbor.Reader

/-!
Reading looks at nothing behind the item it reads: what follows may be anything, and the item and what is
left are the same.  So octets that read as an item are never the beginning of another item's octets.
-/

namespace Workbench.Cbor

variable {b rest : Bytes} {fuel fuel' depth : Nat} (more : Bytes)

theorem splitAt?_extend {n : Nat} {left : Bytes} (hsplit : splitAt? n b = some (left, rest)) :
    splitAt? n (b ++ more) = some (left, rest ++ more) := by
  induction n generalizing b left with
  | zero =>
      cases hsplit
      rfl
  | succ n ih =>
      cases b with
      | nil => cases hsplit
      | cons x b =>
          obtain ⟨⟨front, back⟩, hfront, heq⟩ := Option.map_eq_some_iff.1 hsplit
          cases heq
          rw [List.cons_append, splitAt?, ih hfront]
          rfl

theorem takeOctets?_extend {n : Nat} {left : Bytes} (htake : takeOctets? n b = some (left, rest)) :
    takeOctets? n (b ++ more) = some (left, rest ++ more) := by
  unfold takeOctets? at htake
  dsimp only at htake
  split at htake
  · rename_i hlength
    cases htake
    have hle : n ≤ b.length := by
      rw [List.length_take] at hlength
      omega
    simp only [takeOctets?, List.take_append_of_le_length hle, hlength, ↓reduceIte,
      List.drop_append_of_le_length hle]
  · cases htake

theorem readHead_extend {h : Head} (hread : readHead b = some (h, rest)) :
    readHead (b ++ more) = some (h, rest ++ more) := by
  cases b with
  | nil => cases hread
  | cons first b =>
      rw [List.cons_append]
      simp only [readHead] at hread ⊢
      split at hread
      · rename_i hlow
        cases hread
        rw [if_pos hlow]
      · rename_i hlow
        rw [if_neg hlow]
        split at hread
        case h_5 =>
          cases hread
          rfl
        case h_6 => cases hread
        all_goals
          obtain ⟨⟨octets, left⟩, hsplit, heq⟩ := Option.map_eq_some_iff.1 hread
          cases heq
          rw [splitAt?_extend more hsplit]
          rfl

theorem pieces_extend {m : Major} {opened : Nat} {ps : List Bytes}
    (hread : pieces fuel m opened b = some (ps, rest)) (hfuel : fuel ≤ fuel') :
    pieces fuel' m opened (b ++ more) = some (ps, rest ++ more) := by
  induction fuel generalizing fuel' opened b ps with
  | zero => cases hread
  | succ fuel ih =>
      obtain ⟨fuel', rfl⟩ : ∃ n, fuel' = n + 1 := ⟨fuel' - 1, by omega⟩
      have hle : fuel ≤ fuel' := Nat.le_of_succ_le_succ hfuel
      obtain ⟨⟨h, afterHead⟩, hhead, hpieces⟩ := Option.bind_eq_some_iff.1 hread
      simp only [pieces, readHead_extend more hhead, Option.bind_eq_bind, Option.bind_some]
      dsimp only at hpieces
      split at hpieces
      · rename_i hbreak
        rw [if_pos hbreak]
        split at hpieces
        · rename_i hlast
          cases hpieces
          rw [if_pos hlast]
        · rename_i hlast
          rw [if_neg hlast]
          exact ih hpieces hle
      · rename_i hbreak
        rw [if_neg hbreak]
        split at hpieces
        · rename_i hmajor
          rw [if_pos hmajor]
          split at hpieces
          · exact ih hpieces hle
          · rename_i n _
            obtain ⟨⟨piece, afterPiece⟩, htake, hrest⟩ := Option.bind_eq_some_iff.1 hpieces
            obtain ⟨⟨others, left⟩, hothers, heq⟩ := Option.bind_eq_some_iff.1 hrest
            cases heq
            simp only [takeOctets?_extend more htake, Option.bind_some, ih hothers hle]
            rfl
        · cases hpieces

theorem byteString_extend {argument : Option Nat} {it : Item}
    (hread : byteString argument b = some (it, rest)) :
    byteString argument (b ++ more) = some (it, rest ++ more) := by
  cases argument with
  | some n =>
      obtain ⟨⟨octets, left⟩, htake, heq⟩ := Option.map_eq_some_iff.1 hread
      cases heq
      simp only [byteString, takeOctets?_extend more htake, Option.map_some]
  | none =>
      obtain ⟨⟨ps, left⟩, hpieces, heq⟩ := Option.map_eq_some_iff.1 hread
      cases heq
      have hle : b.length + 1 ≤ (b ++ more).length + 1 := by simp
      simp only [byteString, pieces_extend more hpieces hle, Option.map_some]

theorem textString_extend {argument : Option Nat} {it : Item}
    (hread : textString argument b = some (it, rest)) :
    textString argument (b ++ more) = some (it, rest ++ more) := by
  cases argument with
  | some n =>
      obtain ⟨⟨octets, left⟩, htake, hdecode⟩ := Option.bind_eq_some_iff.1 hread
      obtain ⟨s, hs, heq⟩ := Option.bind_eq_some_iff.1 hdecode
      cases heq
      simp only [textString, takeOctets?_extend more htake, Option.bind_eq_bind, Option.bind_some, hs]
      rfl
  | none =>
      obtain ⟨⟨ps, left⟩, hpieces, hdecode⟩ := Option.bind_eq_some_iff.1 hread
      obtain ⟨s, hs, heq⟩ := Option.bind_eq_some_iff.1 hdecode
      cases heq
      have hle : b.length + 1 ≤ (b ++ more).length + 1 := by simp
      simp only [textString, pieces_extend more hpieces hle, Option.bind_eq_bind, Option.bind_some, hs]
      rfl

/-- The readers of items, arrays and maps under one bound on their steps: each reads the same in front of
more octets, also under a larger bound. -/
structure Extends (fuel : Nat) : Prop where
  ofItem : ∀ {fuel' depth b it rest} (more : Bytes), fuel ≤ fuel' →
    item fuel depth b = some (it, rest) →
      item fuel' depth (b ++ more) = some (it, rest ++ more)
  ofItems : ∀ {fuel' depth count soFar b its rest} (more : Bytes), fuel ≤ fuel' →
    items fuel depth count soFar b = some (its, rest) →
      items fuel' depth count soFar (b ++ more) = some (its, rest ++ more)
  ofEntries : ∀ {fuel' depth count soFar b es rest} (more : Bytes), fuel ≤ fuel' →
    entries fuel depth count soFar b = some (es, rest) →
      entries fuel' depth count soFar (b ++ more) = some (es, rest ++ more)

theorem item_succ_extend (hextends : Extends fuel) {it : Item} (hfuel : fuel + 1 ≤ fuel')
    (hread : item (fuel + 1) depth b = some (it, rest)) :
    item fuel' depth (b ++ more) = some (it, rest ++ more) := by
  obtain ⟨fuel', rfl⟩ : ∃ n, fuel' = n + 1 := ⟨fuel' - 1, by omega⟩
  have hle : fuel ≤ fuel' := Nat.le_of_succ_le_succ hfuel
  obtain ⟨⟨⟨m, low, argument⟩, afterHead⟩, hhead, hbody⟩ := Option.bind_eq_some_iff.1 hread
  simp only [item, readHead_extend more hhead, Option.bind_eq_bind, Option.bind_some]
  cases m with
  | bytes => exact byteString_extend more hbody
  | text => exact textString_extend more hbody
  | natural | negative | simple =>
      cases argument with
      | none => cases hbody
      | some n =>
          cases hbody
          rfl
  | tag =>
      cases argument with
      | none => cases hbody
      | some n =>
          dsimp only at hbody ⊢
          split at hbody
          · cases hbody
          · rename_i hdepth
            obtain ⟨⟨inner, left⟩, hinner, heq⟩ := Option.bind_eq_some_iff.1 hbody
            cases heq
            rw [if_neg hdepth, hextends.ofItem more hle hinner]
            rfl
  | array =>
      dsimp only at hbody ⊢
      split at hbody
      · cases hbody
      · rename_i hdepth
        obtain ⟨⟨its, left⟩, hits, heq⟩ := Option.bind_eq_some_iff.1 hbody
        cases heq
        rw [if_neg hdepth, hextends.ofItems more hle hits]
        rfl
  | map =>
      dsimp only at hbody ⊢
      split at hbody
      · cases hbody
      · rename_i hdepth
        obtain ⟨⟨es, left⟩, hes, heq⟩ := Option.bind_eq_some_iff.1 hbody
        cases heq
        rw [if_neg hdepth, hextends.ofEntries more hle hes]
        rfl

theorem items_succ_extend (hextends : Extends fuel) {count : Option Nat} {soFar its : List Item}
    (hfuel : fuel + 1 ≤ fuel') (hread : items (fuel + 1) depth count soFar b = some (its, rest)) :
    items fuel' depth count soFar (b ++ more) = some (its, rest ++ more) := by
  obtain ⟨fuel', rfl⟩ : ∃ n, fuel' = n + 1 := ⟨fuel' - 1, by omega⟩
  have hle : fuel ≤ fuel' := Nat.le_of_succ_le_succ hfuel
  match count with
  | some 0 =>
      cases hread
      rfl
  | some (n + 1) =>
      simp only [items] at hread ⊢
      split at hread
      · cases hread
      · rename_i it left hitem
        rw [hextends.ofItem more hle hitem]
        exact hextends.ofItems more hle hread
  | none =>
      simp only [items] at hread ⊢
      split at hread
      · cases hread
      · rename_i h afterHead hhead
        rw [readHead_extend more hhead]
        dsimp only
        split at hread
        · rename_i hbreak
          cases hread
          rw [if_pos hbreak]
        · rename_i hbreak
          rw [if_neg hbreak]
          split at hread
          · cases hread
          · rename_i it left hitem
            rw [hextends.ofItem more hle hitem]
            exact hextends.ofItems more hle hread

theorem entries_succ_extend (hextends : Extends fuel) {count : Option Nat}
    {soFar es : List (Item × Item)} (hfuel : fuel + 1 ≤ fuel')
    (hread : entries (fuel + 1) depth count soFar b = some (es, rest)) :
    entries fuel' depth count soFar (b ++ more) = some (es, rest ++ more) := by
  obtain ⟨fuel', rfl⟩ : ∃ n, fuel' = n + 1 := ⟨fuel' - 1, by omega⟩
  have hle : fuel ≤ fuel' := Nat.le_of_succ_le_succ hfuel
  match count with
  | some 0 =>
      cases hread
      rfl
  | some (n + 1) =>
      obtain ⟨⟨key, afterKey⟩, hkey, hafterKey⟩ := Option.bind_eq_some_iff.1 hread
      obtain ⟨⟨value, left⟩, hvalue, hentries⟩ := Option.bind_eq_some_iff.1 hafterKey
      simp only [entries, hextends.ofItem more hle hkey, hextends.ofItem more hle hvalue,
        Option.bind_eq_bind, Option.bind_some]
      exact hextends.ofEntries more hle hentries
  | none =>
      obtain ⟨⟨h, afterHead⟩, hhead, hbody⟩ := Option.bind_eq_some_iff.1 hread
      simp only [entries, readHead_extend more hhead, Option.bind_eq_bind, Option.bind_some]
      dsimp only at hbody
      split at hbody
      · rename_i hbreak
        cases hbody
        rw [if_pos hbreak]
      · rename_i hbreak
        rw [if_neg hbreak]
        obtain ⟨⟨key, afterKey⟩, hkey, hafterKey⟩ := Option.bind_eq_some_iff.1 hbody
        obtain ⟨⟨value, left⟩, hvalue, hentries⟩ := Option.bind_eq_some_iff.1 hafterKey
        rw [hextends.ofItem more hle hkey, Option.bind_some, hextends.ofItem more hle hvalue,
          Option.bind_some]
        exact hextends.ofEntries more hle hentries

theorem extends_fuel (fuel : Nat) : Extends fuel := by
  induction fuel with
  | zero =>
      constructor
      all_goals
        intros
        rename_i hread
        cases hread
  | succ fuel ih =>
      constructor
      · intros
        exact item_succ_extend _ ih ‹_› ‹_›
      · intros
        exact items_succ_extend _ ih ‹_› ‹_›
      · intros
        exact entries_succ_extend _ ih ‹_› ‹_›

/-- An item is read in front of anything that follows it. -/
theorem read?_extend {it : Item} (hread : read? b = some (it, rest)) :
    read? (b ++ more) = some (it, rest ++ more) := by
  refine (extends_fuel _).ofItem more ?_ hread
  rw [List.length_append]
  omega

/-- Octets that are one item and nothing else do not begin with another item's octets. -/
theorem read?_front {front : Bytes} {it : Item} (hread : read? b = some (it, []))
    (hfront : front <+: b) (hproper : front ≠ b) : read? front = none := by
  obtain ⟨more, rfl⟩ := hfront
  cases hshort : read? front with
  | none => rfl
  | some pair =>
      have hlong := read?_extend more hshort
      rw [hread] at hlong
      have hnil : pair.2 ++ more = [] := congrArg Prod.snd (Option.some.inj hlong).symm
      rw [(List.append_eq_nil_iff.1 hnil).2, List.append_nil] at hproper
      exact absurd rfl hproper

end Workbench.Cbor

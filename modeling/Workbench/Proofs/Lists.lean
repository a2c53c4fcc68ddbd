/-!
What is used of lists: entries that are found by a key, a list that has grown by one, one entry among others, the
last entry of a name, and entries that are all there or not; and what is used of outcomes, one after the other.
-/

namespace Workbench

variable {α κ : Type}

/-- What has a key is found no more once it has been taken out, and everything else is found as before. -/
theorem find?_filter_key [BEq κ] [LawfulBEq κ] (key : α → κ) (entries : List α) (k other : κ)
    [Decidable (other = k)] :
    (entries.filter fun e => key e != k).find? (fun e => key e == other) =
      if other = k then none else entries.find? fun e => key e == other := by
  rw [List.find?_filter]
  split
  · next heq =>
    rw [List.find?_eq_none]
    intro e _
    simp [heq]
  · next hne =>
    congr 1
    funext e
    by_cases he : key e = other
    · simp [he, hne]
    · simp [he]

section Concat

variable {l : List α} {a b : α}

theorem pairwise_concat_iff {r : α → α → Prop} : (l ++ [a]).Pairwise r ↔ l.Pairwise r ∧ ∀ x ∈ l, r x a := by
  simp [List.pairwise_append]

theorem getElem?_concat_eq_some_iff {i : Nat} :
    (l ++ [a])[i]? = some b ↔ l[i]? = some b ∨ (i = l.length ∧ a = b) := by
  rcases Nat.lt_trichotomy i l.length with hlt | rfl | hgt
  · simp [List.getElem?_append_left hlt, Nat.ne_of_lt hlt]
  · simp
  · have hnone : l[i]? = none := List.getElem?_eq_none (Nat.le_of_lt hgt)
    have hbeyond : (l ++ [a])[i]? = none := by
      rw [List.getElem?_append_right (Nat.le_of_lt hgt), List.getElem?_singleton, if_neg (by omega)]
    simp [hnone, hbeyond, Nat.ne_of_gt hgt]

end Concat

section Others

variable {before after : List α} {a : α}

/-- Where keys increase, the others have other keys. -/
theorem key_ne_of_increasing {key : α → Nat}
    (hincreasing : (before ++ a :: after).Pairwise fun x y => key x < key y) :
    ∀ x ∈ before ++ after, key x ≠ key a := by
  obtain ⟨-, hafter, hbefore⟩ := List.pairwise_append.1 hincreasing
  intro x hx
  rcases List.mem_append.1 hx with hx | hx
  · exact Nat.ne_of_lt (hbefore x hx a (List.mem_cons_self ..))
  · exact Nat.ne_of_gt ((List.pairwise_cons.1 hafter).1 x hx)

theorem filter_others {p : α → Bool} (hself : p a = false) (hothers : ∀ x ∈ before ++ after, p x = true) :
    (before ++ a :: after).filter p = before ++ after := by
  rw [List.filter_append, List.filter_cons_of_neg (by simp [hself]), ← List.filter_append,
    List.filter_eq_self.2 hothers]

end Others

/-- The last entry of a name, which is its only one where no name is given twice. -/
def lastOf? {α : Type} : (entries : List (String × α)) → (name : String) → Option α
  | [], _ => none
  | (n, a) :: rest, name => (lastOf? rest name).or (if n = name then some a else none)

section LastOf

variable {α β : Type}

theorem lastOf?_map (f : α → β) (entries : List (String × α)) (name : String) :
    lastOf? (entries.map fun e => (e.1, f e.2)) name = (lastOf? entries name).map f := by
  induction entries with
  | nil => rfl
  | cons e rest ih =>
      rw [List.map_cons, lastOf?, lastOf?, ih, Option.map_or]
      split
      · rfl
      · rfl

theorem lastOf?_append (before after : List (String × α)) (name : String) :
    lastOf? (before ++ after) name = (lastOf? after name).or (lastOf? before name) := by
  induction before with
  | nil => simp [lastOf?]
  | cons e rest ih => rw [List.cons_append, lastOf?, lastOf?, ih, Option.or_assoc]

theorem lastOf?_eq_none_iff {entries : List (String × α)} {name : String} :
    lastOf? entries name = none ↔ name ∉ entries.map (·.1) := by
  induction entries with
  | nil => simp [lastOf?]
  | cons e rest ih =>
      rw [lastOf?, Option.or_eq_none_iff, ih, List.map_cons, List.mem_cons, not_or, and_comm, eq_comm (a := name)]
      simp

/-- Keys of values are taken from the front. -/
theorem map_fst_zip_sublist (keys : List String) (values : List α) : ((keys.zip values).map (·.1)).Sublist keys := by
  induction keys generalizing values with
  | nil => exact List.nil_sublist _
  | cons key keys ih =>
      cases values with
      | nil => exact List.nil_sublist _
      | cons value values => exact (ih values).cons_cons key

/-- Where no key is given twice, a value is found under the key at its position. -/
theorem lastOf?_zip {keys : List String} (h : keys.Nodup) (values : List α) {i : Nat} {key : String}
    (hkey : keys[i]? = some key) : lastOf? (keys.zip values) key = values[i]? := by
  induction keys generalizing values i with
  | nil => simp at hkey
  | cons k keys ih =>
      obtain ⟨hnew, hkeys⟩ := List.nodup_cons.1 h
      cases values with
      | nil => simp [lastOf?]
      | cons value values =>
          cases i with
          | zero =>
              have hk : k = key := by simpa using hkey
              have hnone : lastOf? (keys.zip values) key = none :=
                lastOf?_eq_none_iff.2 fun hmem => hnew (hk ▸ (map_fst_zip_sublist keys values).subset hmem)
              simp [lastOf?, hnone, hk]
          | succ i =>
              rw [List.getElem?_cons_succ] at hkey
              have hne : k ≠ key := fun heq => hnew (heq ▸ List.mem_of_getElem? hkey)
              rw [List.zip_cons_cons, lastOf?, if_neg hne, Option.or_none, ih hkeys values hkey,
                List.getElem?_cons_succ]

end LastOf

theorem mapM_id_map_some (l : List α) : (l.map some).mapM id = some l := by
  induction l with
  | nil => rfl
  | cons a l ih => simp [ih]

theorem mapM_id_eq_none {l : List (Option α)} (h : none ∈ l) : l.mapM id = none := by
  induction l with
  | nil => cases h
  | cons a l ih =>
      rcases List.mem_cons.1 h with rfl | h
      · simp
      · simp [ih h]

/-- Two things in turn come out well when the first does, and the second on what the first has given. -/
theorem bind_eq_ok {ε β : Type} {x : Except ε α} {next : α → Except ε β} {r : β} :
    x >>= next = .ok r ↔ ∃ v, x = .ok v ∧ next v = .ok r := by
  cases x with
  | ok v => simp [bind, Except.bind]
  | error e => simp [bind, Except.bind]

end Workbench

import Mathlib.Logic.Relation
import Workbench.ConnectionQuery
import Workbench.Proofs.Lists
import Workbench.Proofs.Text.Form

/-!
What counts in the query of an upgrade request is the last pair of each of four keys.  Pairs of other keys, and the
order of pairs whose keys differ, do not count, and the pairs of parameters say the parameters.
-/

namespace Workbench.ConnectionQuery

/-- The keys that something is said with. -/
def keys : List String := ["reconnectionToken", "reconnection", "skipWebSocketFrames", "path"]

/-- Two lists of pairs between which one pair of no key that counts is put in, or two neighbours of different keys
change places. -/
inductive Shift : List (String × String) → List (String × String) → Prop where
  | insert (before after : List (String × String)) (pair : String × String) (h : pair.1 ∉ keys) :
      Shift (before ++ after) (before ++ pair :: after)
  | swap (before after : List (String × String)) (a b : String × String) (h : a.1 ≠ b.1) :
      Shift (before ++ a :: b :: after) (before ++ b :: a :: after)

section Last

variable {pairs others : List (String × String)}

/-- One pair after the other, each key keeps what its last pair has said, and what was said before if it has none. -/
theorem foldl_take (pairs : List (String × String)) (said : Said) :
    pairs.foldl Said.take said =
      { token := (lastOf? pairs "reconnectionToken").or said.token
        reconnection := ((lastOf? pairs "reconnection").map (· == "true")).getD said.reconnection
        raw := ((lastOf? pairs "skipWebSocketFrames").map (· == "true")).getD said.raw
        path := (lastOf? pairs "path").or said.path } := by
  induction pairs generalizing said with
  | nil => rfl
  | cons pair pairs ih =>
      obtain ⟨key, value⟩ := pair
      rw [List.foldl_cons, ih, Said.take]
      simp only [lastOf?]
      split
      · next hkey => cases lastOf? pairs "reconnectionToken" <;> simp_all
      · next hkey => cases lastOf? pairs "reconnection" <;> simp_all
      · next hkey => cases lastOf? pairs "skipWebSocketFrames" <;> simp_all
      · next hkey => cases lastOf? pairs "path" <;> simp_all
      · next htoken hreconnection hraw hpath => simp_all

/-- Pairs that agree in the last pair of each key give the same parameters. -/
theorem ofPairs_congr (h : ∀ key ∈ keys, lastOf? others key = lastOf? pairs key) : ofPairs others = ofPairs pairs := by
  simp only [keys, List.forall_mem_cons] at h
  obtain ⟨htoken, hreconnection, hraw, hpath, -⟩ := h
  simp only [ofPairs, foldl_take, htoken, hreconnection, hraw, hpath]

theorem Shift.lastOf?_eq (h : Shift pairs others) : ∀ key ∈ keys, lastOf? others key = lastOf? pairs key := by
  intro key hkey
  cases h with
  | insert before after pair hpair =>
      have hne : pair.1 ≠ key := fun heq => hpair (heq ▸ hkey)
      rw [lastOf?_append, lastOf?_append, lastOf?, if_neg hne, Option.or_none]
  | swap before after a b hab =>
      rw [lastOf?_append, lastOf?_append, lastOf?, lastOf?, lastOf?, lastOf?]
      by_cases ha : a.1 = key
      · have hb : b.1 ≠ key := fun heq => hab (ha.trans heq.symm)
        rw [if_neg hb, Option.or_none, Option.or_none]
      · rw [if_neg ha, Option.or_none, Option.or_none]

theorem ofPairs_eq_of_eqvGen (h : Relation.EqvGen Shift pairs others) : ofPairs others = ofPairs pairs := by
  induction h with
  | rel pairs others h => exact ofPairs_congr h.lastOf?_eq
  | refl pairs => rfl
  | symm pairs others _ ih => exact ih.symm
  | trans pairs between others _ _ ih ih' => exact ih'.trans ih

theorem ofPairs_of_token {token : String} (h : lastOf? pairs "reconnectionToken" = some token) (hne : token ≠ "") :
    ofPairs pairs = .ok {
      token
      reconnection := ((lastOf? pairs "reconnection").map (· == "true")).getD false
      raw := ((lastOf? pairs "skipWebSocketFrames").map (· == "true")).getD false
      path := lastOf? pairs "path" } := by
  have hkept : (some token).filter (· ≠ "") = some token := by simp [hne]
  simp only [ofPairs, foldl_take, h, Option.or_none, hkept]

theorem ofPairs_of_no_token (h : ∀ token, lastOf? pairs "reconnectionToken" = some token → token = "") :
    ofPairs pairs = .error missingToken := by
  have hdropped : (lastOf? pairs "reconnectionToken").filter (· ≠ "") = none := by
    simpa [Option.filter_eq_none_iff] using h
  simp only [ofPairs, foldl_take, Option.or_none, hdropped]

/-- Either the last token is absent or empty, or there is a token. -/
theorem token_cases (pairs : List (String × String)) :
    (∀ token, lastOf? pairs "reconnectionToken" = some token → token = "") ∨
      ∃ token, lastOf? pairs "reconnectionToken" = some token ∧ token ≠ "" := by
  by_cases h : ∀ token, lastOf? pairs "reconnectionToken" = some token → token = ""
  · exact .inl h
  · exact .inr (by simpa using h)

/-- What is not said to be true is false. -/
theorem getD_eq_true_iff (value : Option String) :
    (value.map (· == "true")).getD false = true ↔ value = some "true" := by
  cases value <;> simp

theorem ofPairs_eq_ok_iff {q : ConnectionQuery} :
    ofPairs pairs = .ok q ↔
      q.token ≠ "" ∧ lastOf? pairs "reconnectionToken" = some q.token ∧
        (q.reconnection = true ↔ lastOf? pairs "reconnection" = some "true") ∧
        (q.raw = true ↔ lastOf? pairs "skipWebSocketFrames" = some "true") ∧ q.path = lastOf? pairs "path" := by
  rcases token_cases pairs with hno | ⟨last, hlast, hne⟩
  · rw [ofPairs_of_no_token hno]
    constructor
    · intro h
      cases h
    · intro h
      exact absurd (hno q.token h.2.1) h.1
  · obtain ⟨token, reconnection, raw, path⟩ := q
    rw [ofPairs_of_token hlast hne, ← getD_eq_true_iff, ← getD_eq_true_iff, ← Bool.eq_iff_iff, ← Bool.eq_iff_iff]
    simp only [hlast, Except.ok.injEq, mk.injEq, Option.some.injEq]
    constructor
    · rintro ⟨rfl, rfl, rfl, rfl⟩
      exact ⟨hne, rfl, rfl, rfl, rfl⟩
    · rintro ⟨-, rfl, rfl, rfl, rfl⟩
      exact ⟨rfl, rfl, rfl, rfl⟩

theorem ofPairs_eq_error_iff {e : Fault} :
    ofPairs pairs = .error e ↔
      e = missingToken ∧ ∀ token, lastOf? pairs "reconnectionToken" = some token → token = "" := by
  rcases token_cases pairs with hno | ⟨last, hlast, hne⟩
  · rw [ofPairs_of_no_token hno, Except.error.injEq, eq_comm]
    exact ⟨fun h => ⟨h, hno⟩, And.left⟩
  · rw [ofPairs_of_token hlast hne]
    simp [hlast, hne]

end Last

/-- The pairs of parameters say the parameters, if there is a token. -/
theorem ofPairs_toPairs (q : ConnectionQuery) :
    ofPairs q.toPairs = if q.token = "" then .error missingToken else .ok q := by
  have htoken : lastOf? q.toPairs "reconnectionToken" = some q.token := by
    cases hpath : q.path <;> simp [toPairs, lastOf?, hpath]
  split
  · next hempty => exact ofPairs_of_no_token fun token h => by simpa [htoken, hempty] using h.symm
  · next hne =>
    apply ofPairs_eq_ok_iff.2
    refine ⟨hne, htoken, ?_, ?_, ?_⟩
    all_goals cases hpath : q.path <;> simp [toPairs, lastOf?, hpath]

/-- What the written form of pairs gives is decided by the last pair of each key: without a token in the last pair of
its key there is nothing, otherwise the parameters are what the last pairs say.  So pairs of other keys can be put in
anywhere, and pairs of different keys can change places; and the pairs of parameters give the parameters. -/
theorem parse_write_eq (pairs : List (String × String)) :
    (∀ q, parse (Form.write pairs) = .ok q ↔
        q.token ≠ "" ∧ lastOf? pairs "reconnectionToken" = some q.token ∧
          (q.reconnection = true ↔ lastOf? pairs "reconnection" = some "true") ∧
          (q.raw = true ↔ lastOf? pairs "skipWebSocketFrames" = some "true") ∧ q.path = lastOf? pairs "path") ∧
      (∀ e, parse (Form.write pairs) = .error e ↔
        e = missingToken ∧ ∀ token, lastOf? pairs "reconnectionToken" = some token → token = "") ∧
      (∀ others, (∀ key ∈ keys, lastOf? others key = lastOf? pairs key) →
        parse (Form.write others) = parse (Form.write pairs)) ∧
      (∀ others, Relation.EqvGen Shift pairs others → parse (Form.write others) = parse (Form.write pairs)) ∧
      ∀ q : ConnectionQuery,
        parse (Form.write q.toPairs) = if q.token = "" then .error missingToken else .ok q := by
  simp only [parse, Form.parse_write]
  exact ⟨fun _ => ofPairs_eq_ok_iff, fun _ => ofPairs_eq_error_iff, fun _ => ofPairs_congr,
    fun _ => ofPairs_eq_of_eqvGen, ofPairs_toPairs⟩

end Workbench.ConnectionQuery

import Workbench.Datum

/-!
JSON values as JSON has them: doubles are finite, and the fields of an object are sorted by key, one field a
key.  Such a value comes back from its self-describing form.
-/

namespace Workbench.Json

/-- Fields in the order of their keys, no key given twice. -/
def Fields.sorted (fields : Fields) : Bool := decide (fields.Pairwise fun a b => a.1 < b.1)

mutual
/-- The values that JSON has a form for. -/
def proper : Json → Bool
  | .double x => x.isFinite
  | .arr items => properItems items
  | .obj fields => Fields.sorted fields && properFields fields
  | .null | .bool _ | .int _ | .str _ => true

def properItems : List Json → Bool
  | [] => true
  | item :: rest => proper item && properItems rest

def properFields : List (String × Json) → Bool
  | [] => true
  | (_, value) :: rest => proper value && properFields rest
end

namespace Fields

/-- A key beyond all others goes to the end. -/
theorem insert_of_lt {fields : Fields} {key : String} (hlast : ∀ field ∈ fields, field.1 < key)
    (value : Json) : insert fields key value = fields ++ [(key, value)] := by
  induction fields with
  | nil => rfl
  | cons field fields ih =>
      have hlt : field.1 < key := hlast field List.mem_cons_self
      have hne : key ≠ field.1 := fun heq => String.lt_irrefl _ (heq ▸ hlt)
      have hnot : ¬ key < field.1 := String.lt_asymm hlt
      rw [insert, if_neg hne, if_neg hnot,
        ih fun other hother => hlast other (List.mem_cons_of_mem field hother)]
      rfl

/-- Sorted fields are the fields of themselves. -/
theorem ofList_of_sorted {fields : Fields} (hsorted : sorted fields = true) : ofList fields = fields := by
  have hinserted : ∀ (done rest : Fields), (done ++ rest).Pairwise (fun a b => a.1 < b.1) →
      rest.foldl (fun fields field => insert fields field.1 field.2) done = done ++ rest := by
    intro done rest hpairwise
    induction rest generalizing done with
    | nil => simp
    | cons field rest ih =>
        have hlast : ∀ other ∈ done, other.1 < field.1 := fun other hother =>
          (List.pairwise_append.1 hpairwise).2.2 other hother field List.mem_cons_self
        rw [List.foldl_cons, insert_of_lt hlast, ih, List.append_assoc, List.singleton_append]
        rwa [List.append_assoc, List.singleton_append]
  exact hinserted [] fields (of_decide_eq_true hsorted)

end Fields

mutual
/-- A proper value is what its self-describing form stands for. -/
theorem toJson?_ofJson (v : Json) (hproper : v.proper = true) : (Datum.ofJson v).toJson? = some v := by
  match v with
  | .null | .bool _ | .int _ | .str _ => rfl
  | .double x =>
      rw [proper] at hproper
      simp only [Datum.ofJson, Datum.toJson?, Datum.finiteOrNull, hproper, ↓reduceIte]
  | .arr items =>
      rw [proper] at hproper
      rw [Datum.ofJson, Datum.toJson?, toItems?_ofItems items hproper]
      rfl
  | .obj fields =>
      rw [proper, Bool.and_eq_true] at hproper
      rw [Datum.ofJson, Datum.toJson?, toFields?_ofFields fields hproper.2, Option.map_some, ofPairs,
        Fields.ofList_of_sorted hproper.1]

theorem toItems?_ofItems (items : List Json) (hproper : properItems items = true) :
    Datum.toItems? (Datum.ofItems items) = some items := by
  match items with
  | [] => rfl
  | item :: items =>
      rw [properItems, Bool.and_eq_true] at hproper
      simp [Datum.ofItems, Datum.toItems?, toJson?_ofJson item hproper.1,
        toItems?_ofItems items hproper.2]

theorem toFields?_ofFields (fields : List (String × Json)) (hproper : properFields fields = true) :
    Datum.toFields? (Datum.ofFields fields) = some fields := by
  match fields with
  | [] => rfl
  | (key, value) :: fields =>
      rw [properFields, Bool.and_eq_true] at hproper
      simp [Datum.ofFields, Datum.toFields?, toJson?_ofJson value hproper.1,
        toFields?_ofFields fields hproper.2]
end

end Workbench.Json

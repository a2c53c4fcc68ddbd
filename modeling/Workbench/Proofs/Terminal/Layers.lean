import Workbench.Proofs.Lists
import Workbench.Terminal.Environment

/-!
Environments variable by variable.  Setting and unsetting touch one variable and no other, and of a whole layer only
the last entry of a variable counts.
-/

namespace Workbench

namespace Vars

theorem get?_cons (v : String × String) (vars : Vars) (name : String) :
    get? (v :: vars) name = if v.1 = name then some v.2 else vars.get? name := by
  by_cases h : v.1 = name
  · simp [get?, h]
  · simp [get?, h]

theorem get?_set (vars : Vars) (name value other : String) :
    (vars.set name value).get? other = if name = other then some value else vars.get? other := by
  induction vars with
  | nil => exact get?_cons (name, value) [] other
  | cons v vars ih =>
      rw [set]
      split
      · next heq =>
        rw [get?_cons, get?_cons, ← heq]
        split
        · rfl
        · rfl
      · next hne =>
        split
        · exact get?_cons (name, value) (v :: vars) other
        · rw [get?_cons, get?_cons, ih]
          split
          · next hother => rw [if_neg fun h => hne (h.trans hother.symm)]
          · rfl

theorem get?_unset (vars : Vars) (name other : String) :
    (vars.unset name).get? other = if name = other then none else vars.get? other := by
  rw [get?, unset, find?_filter_key Prod.fst]
  split
  · next heq => rw [if_pos heq.symm]; rfl
  · next hne => rw [if_neg (Ne.symm hne)]; rfl

/-- A layer decides the variables that it speaks for, and leaves the others. -/
theorem get?_overlay (vars : Vars) (changes : VarChanges) (name : String) :
    (vars.overlay changes).get? name = (lastOf? changes name).getD (vars.get? name) := by
  induction changes generalizing vars with
  | nil => rfl
  | cons change rest ih =>
      obtain ⟨n, value⟩ := change
      cases value with
      | some v =>
          have hstep : vars.overlay ((n, some v) :: rest) = (vars.set n v).overlay rest := rfl
          rw [hstep, ih, lastOf?, get?_set]
          cases lastOf? rest name with
          | some said => rfl
          | none =>
              split
              · rfl
              · rfl
      | none =>
          have hstep : vars.overlay ((n, none) :: rest) = (vars.unset n).overlay rest := rfl
          rw [hstep, ih, lastOf?, get?_unset]
          cases lastOf? rest name with
          | some said => rfl
          | none =>
              split
              · rfl
              · rfl

theorem ofList_eq_overlay (pairs : List (String × String)) :
    ofList pairs = overlay [] (pairs.map fun e => (e.1, some e.2)) := by
  rw [ofList, overlay, List.foldl_map]

theorem get?_ofList (pairs : List (String × String)) (name : String) :
    (ofList pairs).get? name = lastOf? pairs name := by
  have hsome : lastOf? (pairs.map fun e => (e.1, some e.2)) name = (lastOf? pairs name).map some :=
    lastOf?_map some pairs name
  rw [ofList_eq_overlay, get?_overlay, hsome]
  cases lastOf? pairs name with
  | none => rfl
  | some value => rfl

end Vars

end Workbench

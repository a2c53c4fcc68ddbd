/-!
Runs of what goes on step by step.
-/

namespace Workbench

variable {σ ε : Type} (step : σ → ε → σ)

/-- Everything in a run is admitted in the state in which it happens. -/
def Throughout (admits : σ → ε → Prop) : σ → List ε → Prop
  | _, [] => True
  | s, e :: events => admits s e ∧ Throughout admits (step s e) events

instance decidableThroughout (admits : σ → ε → Prop) [∀ s e, Decidable (admits s e)] :
    (s : σ) → (events : List ε) → Decidable (Throughout step admits s events)
  | _, [] => inferInstanceAs (Decidable True)
  | s, e :: events =>
    @instDecidableAnd _ _ inferInstance (decidableThroughout admits (step s e) events)

/-- Where not everything is admitted, there is something that is the first not to be. -/
theorem exists_not_admitted {admits : σ → ε → Prop} {s : σ} {events : List ε}
    (h : ¬Throughout step admits s events) :
    ∃ before e after, events = before ++ e :: after ∧ Throughout step admits s before ∧
      ¬admits (before.foldl step s) e := by
  induction events generalizing s with
  | nil => exact absurd trivial h
  | cons e events ih =>
      by_cases hfirst : admits s e
      · have hrest : ¬Throughout step admits (step s e) events := fun hrest => h ⟨hfirst, hrest⟩
        obtain ⟨before, e', after, rfl, hbefore, hnot⟩ := ih hrest
        exact ⟨e :: before, e', after, rfl, ⟨hfirst, hbefore⟩, hnot⟩
      · exact ⟨[], e, events, rfl, trivial, hfirst⟩

/-- If just what is admitted keeps a state good, a run stays good as long as everything in it is admitted, and no
longer. -/
theorem forall_prefix_iff_throughout {known good : σ → Prop} {admits : σ → ε → Prop}
    (hknown : ∀ s e, known s → known (step s e))
    (hgood : ∀ s e, known s → good s → (good (step s e) ↔ admits s e)) {s : σ} (hs : known s) (hstart : good s)
    (events : List ε) :
    (∀ before, before <+: events → good (before.foldl step s)) ↔ Throughout step admits s events := by
  induction events generalizing s with
  | nil =>
      refine iff_of_true (fun before hbefore => ?_) trivial
      rw [List.prefix_nil.1 hbefore]
      exact hstart
  | cons e events ih =>
      have hnext := hgood s e hs hstart
      constructor
      · intro hall
        have hfirst : good (step s e) := hall [e] (List.prefix_append [e] events)
        refine ⟨hnext.1 hfirst, (ih (hknown s e hs) hfirst).1 fun before hbefore => ?_⟩
        exact hall (e :: before) ((List.prefix_cons_inj e).2 hbefore)
      · rintro ⟨hfirst, hrest⟩ before hbefore
        rcases List.prefix_cons_iff.1 hbefore with rfl | ⟨before, rfl, hprefix⟩
        · exact hstart
        · exact (ih (hknown s e hs) (hnext.2 hfirst)).2 hrest before hprefix

end Workbench

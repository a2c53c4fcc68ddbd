import Mathlib.Logic.Relation
import Workbench.Proofs.Terminal.Layers

/-!
What extensions do to the environment of a terminal.  Changes are noted by variable, each in front of the earlier
ones to its variable, and made from the front; the table that results holds for every variable just the changes up
to the first that replaces, the last of them in front.  So the variables are changed apart from each other.
-/

namespace Workbench

namespace EnvMutator

/-- Changes up to the first that replaces; those behind it are never made. -/
def untilReplace : List EnvMutator → List EnvMutator
  | [] => []
  | m :: rest => if m.kind = .replace then [m] else m :: untilReplace rest

theorem untilReplace_eq_nil_iff {ms : List EnvMutator} : untilReplace ms = [] ↔ ms = [] := by
  cases ms with
  | nil => exact Iff.rfl
  | cons m ms =>
      rw [untilReplace]
      split
      · simp
      · simp

/-- What changes that are declared one after the other make of a value: the first is made last. -/
def outermost (ms : List EnvMutator) (value : String) : String := (untilReplace ms).foldr apply value

end EnvMutator

/-- Declared changes, each with its variable. -/
abbrev Declarations := List (String × EnvMutator)

namespace Declarations

/-- The changes to one variable, in the order of their declaration. -/
def of (declared : Declarations) (name : String) : List EnvMutator :=
  (declared.filter fun e => e.1 == name).map (·.2)

theorem of_cons (e : String × EnvMutator) (declared : Declarations) (name : String) :
    of (e :: declared) name = if e.1 = name then e.2 :: of declared name else of declared name := by
  by_cases h : e.1 = name
  · simp [of, h]
  · simp [of, h]

theorem of_append (before after : Declarations) (name : String) :
    of (before ++ after) name = of before name ++ of after name := by
  rw [of, List.filter_append, List.map_append, of, of]

/-- Two declarations next to each other, of different variables, have changed places. -/
def Swapped (declared other : Declarations) : Prop :=
  ∃ before a b after, a.1 ≠ b.1 ∧ declared = before ++ a :: b :: after ∧ other = before ++ b :: a :: after

theorem Swapped.of_eq {declared other : Declarations} (h : Swapped declared other) (name : String) :
    other.of name = declared.of name := by
  obtain ⟨before, a, b, after, hne, rfl, rfl⟩ := h
  rw [of_append, of_append, of_cons, of_cons, of_cons, of_cons]
  split
  · next hb => rw [if_neg fun ha => hne (ha.trans hb.symm), if_neg fun ha => hne (ha.trans hb.symm)]
  · rfl

theorem of_eq_of_reordered {declared other : Declarations} (h : Relation.ReflTransGen Swapped declared other)
    (name : String) : other.of name = declared.of name := by
  induction h with
  | refl => rfl
  | tail _ hstep ih => rw [hstep.of_eq, ih]

end Declarations

/-- All changes that some extensions declare. -/
def EnvCollection.declared (collections : List EnvCollection) : Declarations :=
  collections.flatMap (·.mutators)

namespace MutatorTable

open EnvMutator

/-- The changes that are noted for a variable. -/
def noted (table : MutatorTable) (name : String) : List EnvMutator :=
  ((table.find? fun e => e.1 == name).map (·.2)).getD []

theorem noted_cons (e : String × List EnvMutator) (table : MutatorTable) (name : String) :
    noted (e :: table) name = if e.1 = name then e.2 else noted table name := by
  by_cases h : e.1 = name
  · simp [noted, h]
  · simp [noted, h]

theorem noted_add (table : MutatorTable) (name : String) (m : EnvMutator) (other : String) :
    (table.add name m).noted other = if name = other then stack m (table.noted other) else table.noted other := by
  induction table with
  | nil => exact noted_cons (name, stack m []) [] other
  | cons e table ih =>
      rw [add]
      split
      · next heq =>
        rw [noted_cons, noted_cons, ← heq]
        split
        · rfl
        · rfl
      · next hne =>
        rw [noted_cons, noted_cons, ih]
        split
        · next hother => rw [if_neg fun h => hne (hother.trans h.symm)]
        · rfl

/-- The variables of a table, of which `add` names none twice. -/
def names (table : MutatorTable) : List String := table.map (·.1)

theorem noted_of_not_mem {table : MutatorTable} {name : String} (h : name ∉ table.names) : table.noted name = [] := by
  induction table with
  | nil => rfl
  | cons e table ih =>
      obtain ⟨hne, hrest⟩ := not_or.1 (mt List.mem_cons.2 h)
      rw [noted_cons, if_neg (Ne.symm hne), ih hrest]

theorem mem_names_add (table : MutatorTable) (name : String) (m : EnvMutator) (other : String) :
    other ∈ (table.add name m).names ↔ other = name ∨ other ∈ table.names := by
  induction table with
  | nil => simp [add, names]
  | cons e table ih =>
      rw [add]
      split
      · next heq => simp [names, heq]
      · next hne =>
        have hcons : ∀ t : MutatorTable, names (e :: t) = e.1 :: names t := fun _ => rfl
        rw [hcons, hcons, List.mem_cons, List.mem_cons, ih]
        exact or_left_comm

theorem nodup_names_add {table : MutatorTable} (h : table.names.Nodup) (name : String) (m : EnvMutator) :
    (table.add name m).names.Nodup := by
  induction table with
  | nil => exact List.pairwise_singleton _ name
  | cons e table ih =>
      obtain ⟨hnew, hrest⟩ := List.nodup_cons.1 h
      rw [add]
      split
      · exact h
      · next hne =>
        refine List.nodup_cons.2 ⟨?_, ih hrest⟩
        intro hmem
        rcases (mem_names_add table name m e.1).1 hmem with heq | hold
        · exact hne heq
        · exact hnew hold

/-- A table to which declarations have been added. -/
def addAll (table : MutatorTable) (declared : Declarations) : MutatorTable :=
  declared.foldl (fun table e => table.add e.1 e.2) table

theorem ofCollections_eq (collections : List EnvCollection) :
    ofCollections collections = addAll [] (EnvCollection.declared collections) := by
  rw [addAll, EnvCollection.declared, List.foldl_flatMap]
  rfl

theorem nodup_names_addAll (declared : Declarations) {table : MutatorTable} (h : table.names.Nodup) :
    (table.addAll declared).names.Nodup := by
  induction declared generalizing table with
  | nil => exact h
  | cons e declared ih => exact ih (nodup_names_add h e.1 e.2)

/-- A variable's changes are those declared for it, stacked; the other variables do not matter. -/
theorem noted_addAll (table : MutatorTable) (declared : Declarations) (name : String) :
    (table.addAll declared).noted name =
      (declared.of name).foldl (fun ms m => stack m ms) (table.noted name) := by
  induction declared generalizing table with
  | nil => rfl
  | cons e declared ih =>
      have hstep : table.addAll (e :: declared) = (table.add e.1 e.2).addAll declared := rfl
      rw [hstep, ih, noted_add, Declarations.of_cons]
      split
      · rfl
      · rfl

/-- Nothing is put in front of a change that replaces. -/
theorem foldl_stack_of_replace {top : EnvMutator} (htop : top.kind = .replace) (ms rest : List EnvMutator) :
    ms.foldl (fun ms m => stack m ms) (top :: rest) = top :: rest := by
  induction ms with
  | nil => rfl
  | cons m ms ih => rw [List.foldl_cons, stack, if_pos htop, ih]

/-- Where the changes so far do not replace, those that come are put in front of them, up to the first that does. -/
theorem foldl_stack {below : List EnvMutator} (hbelow : ∀ m ∈ below, m.kind ≠ .replace) (ms : List EnvMutator) :
    ms.foldl (fun ms m => stack m ms) below = (untilReplace ms).reverse ++ below := by
  induction ms generalizing below with
  | nil => rfl
  | cons m ms ih =>
      have hstack : stack m below = m :: below := by
        cases below with
        | nil => rfl
        | cons top rest => rw [stack, if_neg (hbelow top List.mem_cons_self)]
      rw [List.foldl_cons, hstack, untilReplace]
      split
      · next hm => exact foldl_stack_of_replace hm ms below
      · next hm =>
        rw [ih (List.forall_mem_cons.2 ⟨hm, hbelow⟩), List.reverse_cons, List.append_assoc,
          List.singleton_append]

/-- What is noted of a variable in the end. -/
theorem noted_ofCollections (collections : List EnvCollection) (name : String) :
    (ofCollections collections).noted name =
      (untilReplace ((EnvCollection.declared collections).of name)).reverse := by
  have hnone : noted [] name = [] := rfl
  rw [ofCollections_eq, noted_addAll, hnone, foldl_stack (by simp), List.append_nil]

end MutatorTable

namespace Vars

/-- Changes to a variable touch no other, and no change makes no variable. -/
theorem get?_mutate (vars : Vars) (name : String) (ms : List EnvMutator) (other : String) :
    (vars.mutate name ms).get? other =
      if name = other ∧ ms ≠ [] then
        some (ms.foldl (fun value m => m.apply value) ((vars.get? other).getD ""))
      else vars.get? other := by
  induction ms generalizing vars with
  | nil => simp [mutate]
  | cons m ms ih =>
      have hstep : vars.mutate name (m :: ms) =
          (vars.set name (m.apply ((vars.get? name).getD ""))).mutate name ms := rfl
      rw [hstep, ih, get?_set]
      by_cases heq : name = other
      · subst heq
        cases ms with
        | nil => simp
        | cons m' ms => simp
      · simp [heq]

/-- A table that names no variable twice changes every variable as it has noted. -/
theorem get?_foldl_mutate {table : MutatorTable} (h : table.names.Nodup) (vars : Vars) (name : String) :
    (table.foldl (fun vars e => vars.mutate e.1 e.2) vars).get? name =
      if table.noted name = [] then vars.get? name
      else some ((table.noted name).foldl (fun value m => m.apply value) ((vars.get? name).getD "")) := by
  induction table generalizing vars with
  | nil => rfl
  | cons e table ih =>
      obtain ⟨hnew, hrest⟩ := List.nodup_cons.1 h
      rw [List.foldl_cons, ih hrest, MutatorTable.noted_cons, get?_mutate]
      by_cases heq : e.1 = name
      · rw [MutatorTable.noted_of_not_mem (heq ▸ hnew), if_pos rfl, if_pos heq]
        by_cases hms : e.2 = []
        · rw [if_pos hms, if_neg fun h => h.2 hms]
        · rw [if_neg hms, if_pos ⟨heq, hms⟩]
      · have hother : ¬(e.1 = name ∧ e.2 ≠ []) := fun h => heq h.1
        rw [if_neg heq, if_neg hother]

end Vars

namespace EnvCollection

open EnvMutator

/-- What becomes of a variable that some changes are declared for; one that is not there counts as empty. -/
def mutated (ms : List EnvMutator) (before : Option String) : Option String :=
  if ms = [] then before else some (outermost ms (before.getD ""))

theorem get?_applyAll (collections : List EnvCollection) (vars : Vars) (name : String) :
    (applyAll collections vars).get? name = mutated ((declared collections).of name) (vars.get? name) := by
  have hnodup : (MutatorTable.ofCollections collections).names.Nodup := by
    rw [MutatorTable.ofCollections_eq]
    exact MutatorTable.nodup_names_addAll _ List.nodup_nil
  have hrun : applyAll collections vars =
      (MutatorTable.ofCollections collections).foldl (fun vars e => vars.mutate e.1 e.2) vars := rfl
  rw [hrun, Vars.get?_foldl_mutate hnodup, MutatorTable.noted_ofCollections, List.foldl_reverse, mutated,
    outermost]
  simp only [List.reverse_eq_nil_iff, untilReplace_eq_nil_iff]

/-- Extensions change every variable apart from the others: the first of the changes declared for it, within an
extension and from one to the next, is made last, and those behind the first that replaces are not made at all.  A
variable that is not there counts as empty, and one that nothing is declared for stays as it is.  So it does not
matter how declarations of different variables follow each other. -/
theorem variables_change_apart (collections : List EnvCollection) (vars : Vars) :
    (∀ name, (applyAll collections vars).get? name =
      match (declared collections).of name with
      | [] => vars.get? name
      | m :: ms => some ((untilReplace (m :: ms)).foldr EnvMutator.apply ((vars.get? name).getD ""))) ∧
    (∀ text value, EnvMutator.apply ⟨text, .replace⟩ value = text ∧
      EnvMutator.apply ⟨text, .append⟩ value = value ++ text ∧
      EnvMutator.apply ⟨text, .prepend⟩ value = text ++ value) ∧
    ∀ others, Relation.ReflTransGen Declarations.Swapped (declared collections) (declared others) →
      ∀ name, (applyAll others vars).get? name = (applyAll collections vars).get? name := by
  refine ⟨?_, fun _ _ => ⟨rfl, rfl, rfl⟩, ?_⟩
  · intro name
    rw [get?_applyAll]
    cases (declared collections).of name with
    | nil => rfl
    | cons m ms => rfl
  · intro others hswapped name
    rw [get?_applyAll, get?_applyAll, Declarations.of_eq_of_reordered hswapped]

/-- Two extensions that change a search path, the first of which replaces it, too, and names an editor. -/
def searchPaths : List EnvCollection := [
  ⟨"tools", [("PATH", ⟨"/opt:", .prepend⟩), ("EDITOR", ⟨"vi", .replace⟩), ("PATH", ⟨"/usr", .replace⟩)]⟩,
  ⟨"games", [("PATH", ⟨":/games", .append⟩)]⟩]

/-- The same with the editor named behind the paths. -/
def editorLater : List EnvCollection := [
  ⟨"tools", [("PATH", ⟨"/opt:", .prepend⟩), ("PATH", ⟨"/usr", .replace⟩), ("EDITOR", ⟨"vi", .replace⟩)]⟩,
  ⟨"games", [("PATH", ⟨":/games", .append⟩)]⟩]

theorem editorLater_reordered :
    Relation.ReflTransGen Declarations.Swapped (declared searchPaths) (declared editorLater) := by
  refine .single ⟨[("PATH", ⟨"/opt:", .prepend⟩)], ("EDITOR", ⟨"vi", .replace⟩), ("PATH", ⟨"/usr", .replace⟩),
    [("PATH", ⟨":/games", .append⟩)], ?_, rfl, rfl⟩
  decide

theorem variables_change_apart_searchPaths :
    Relation.ReflTransGen Declarations.Swapped (declared searchPaths) (declared editorLater) ∧
      (applyAll searchPaths [("PATH", "/bin")]).get? "PATH" = some "/opt:/usr" ∧
      (applyAll editorLater [("PATH", "/bin")]).get? "PATH" = some "/opt:/usr" := by
  obtain ⟨hvalue, -, hreordered⟩ := variables_change_apart searchPaths [("PATH", "/bin")]
  have hpath : (applyAll searchPaths [("PATH", "/bin")]).get? "PATH" = some "/opt:/usr" := by
    rw [hvalue]
    decide
  exact ⟨editorLater_reordered, hpath, (hreordered editorLater editorLater_reordered "PATH").trans hpath⟩

end EnvCollection

end Workbench

import Mathlib.Data.List.Basic
import Workbench.Path

/-!
Absolute paths that are written without blank parts and double dots.  Such a path is known by its names:
it is taken apart into them, put below another by putting them behind the names of the other, and lies
below another when its names begin with the names of the other.
-/

namespace Workbench.Path

/-- A text that can stand for something in a directory. -/
structure IsName (name : String) : Prop where
  ne_empty : name ≠ ""
  ne_current : name ≠ "."
  ne_parent : name ≠ ".."
  no_slash : '/' ∉ name.toList

instance (name : String) : Decidable (IsName name) :=
  decidable_of_iff (name ≠ "" ∧ name ≠ "." ∧ name ≠ ".." ∧ '/' ∉ name.toList)
    ⟨fun ⟨a, b, c, d⟩ => ⟨a, b, c, d⟩, fun ⟨a, b, c, d⟩ => ⟨a, b, c, d⟩⟩

/-- Names with a separator between them. -/
def spell (names : List String) : String := String.intercalate "/" names

/-- The absolute path of some names. -/
def absolute (names : List String) : String := "/" ++ spell names

/-- An absolute path without blank parts and double dots. -/
def IsNormal (path : String) : Prop := ∃ names, (∀ name ∈ names, IsName name) ∧ path = absolute names

/-- Neither path lies below the other. -/
def Apart (a b : String) : Prop :=
  ¬ components a <+: components b ∧ ¬ components b <+: components a

instance (a b : String) : Decidable (Apart a b) := inferInstanceAs (Decidable (_ ∧ _))

section Characters

theorem splitSlash_eq_splitOn (cs : List Char) : splitSlash cs = cs.splitOn '/' := by
  induction cs with
  | nil => rfl
  | cons c cs ih =>
      rw [splitSlash, List.splitOn_cons_eq_if_modifyHead, ih]
      by_cases hc : c = '/'
      · simp [hc]
      · rw [if_neg hc, if_neg (by simpa using hc)]
        cases hparts : cs.splitOn '/' with
        | nil => exact absurd hparts (List.splitOn_ne_nil _ _)
        | cons part parts => rfl

theorem splitSlash_ne_nil (cs : List Char) : splitSlash cs ≠ [] := by
  rw [splitSlash_eq_splitOn]
  exact List.splitOn_ne_nil _ _

theorem splitSlash_append (a b : List Char) : splitSlash (a ++ '/' :: b) = splitSlash a ++ splitSlash b := by
  induction a with
  | nil => rfl
  | cons c a ih =>
      rw [List.cons_append, splitSlash, splitSlash, ih]
      split
      · rfl
      · cases hparts : splitSlash a with
        | nil => exact absurd hparts (splitSlash_ne_nil a)
        | cons part parts => rfl

theorem splitSlash_of_notMem {cs : List Char} (h : '/' ∉ cs) : splitSlash cs = [cs] := by
  induction cs with
  | nil => rfl
  | cons c cs ih =>
      rw [List.mem_cons, not_or] at h
      rw [splitSlash, if_neg (Ne.symm h.1), ih h.2]

/-- Between separators there are no separators, and nothing that the whole does not have. -/
theorem mem_splitSlash {cs part : List Char} (h : part ∈ splitSlash cs) : '/' ∉ part ∧ ∀ c ∈ part, c ∈ cs := by
  induction cs generalizing part with
  | nil =>
      rw [List.mem_singleton.1 h]
      simp
  | cons c cs ih =>
      rw [splitSlash] at h
      split at h
      · rcases List.mem_cons.1 h with rfl | h
        · simp
        · exact ⟨(ih h).1, fun c' hc' => List.mem_cons_of_mem _ ((ih h).2 c' hc')⟩
      · next hc =>
        cases hparts : splitSlash cs with
        | nil => exact absurd hparts (splitSlash_ne_nil cs)
        | cons first rest =>
            rw [hparts] at h ih
            rcases List.mem_cons.1 h with rfl | h
            · obtain ⟨hslash, hsub⟩ := ih List.mem_cons_self
              refine ⟨?_, ?_⟩
              · rw [List.mem_cons, not_or]
                exact ⟨Ne.symm hc, hslash⟩
              · intro c' hc'
                rcases List.mem_cons.1 hc' with rfl | hc'
                · exact List.mem_cons_self
                · exact List.mem_cons_of_mem _ (hsub c' hc')
            · obtain ⟨hslash, hsub⟩ := ih (List.mem_cons_of_mem _ h)
              exact ⟨hslash, fun c' hc' => List.mem_cons_of_mem _ (hsub c' hc')⟩

theorem parts_ofParts {ps : List String} (hne : ps ≠ []) (hslash : ∀ p ∈ ps, '/' ∉ p.toList) :
    parts (ofParts ps) = ps := by
  have hslashes : ∀ part ∈ ps.map String.toList, '/' ∉ part := by
    intro part hpart
    obtain ⟨p, hp, rfl⟩ := List.mem_map.1 hpart
    exact hslash p hp
  rw [parts, splitSlash_eq_splitOn, ofParts]
  have hsplit : (String.intercalate "/" ps).toList.splitOn '/' = ps.map String.toList := by
    rw [String.toList_intercalate]
    exact List.splitOn_intercalate '/' hslashes (by simpa using hne)
  rw [hsplit]
  simp

theorem slash_notMem_parts {path part : String} (h : part ∈ parts path) : '/' ∉ part.toList := by
  obtain ⟨cs, hcs, rfl⟩ := List.mem_map.1 h
  rw [String.toList_ofList]
  exact (mem_splitSlash hcs).1

theorem toList_spell (names : List String) :
    (spell names).toList = ['/'].intercalate (names.map String.toList) := String.toList_intercalate

@[simp] theorem toList_absolute (names : List String) :
    (absolute names).toList = '/' :: (spell names).toList := by
  simp [absolute]

end Characters

section Spelling

@[simp] theorem spell_singleton (name : String) : spell [name] = name := String.intercalate_singleton

theorem spell_cons {name : String} {names : List String} (hnames : names ≠ []) :
    spell (name :: names) = name ++ "/" ++ spell names := String.intercalate_cons_of_ne_nil hnames

/-- Names behind names are a path below a path. -/
theorem absolute_append {above below : List String} (habove : above ≠ []) (hbelow : below ≠ []) :
    absolute (above ++ below) = absolute above ++ "/" ++ spell below := by
  rw [absolute, spell, String.intercalate_append_of_ne_nil habove hbelow, absolute, spell, spell]
  simp only [String.append_assoc]

theorem slashJoin_normal (names : List String) : slashJoin (names.map .normal) = spell names := by
  simp [slashJoin, spell, List.filterMap_map]

/-- A character other than the separator stands in a spelled path exactly when it stands in a name. -/
theorem mem_spell {c : Char} (hc : c ≠ '/') {names : List String} :
    c ∈ (spell names).toList ↔ ∃ name ∈ names, c ∈ name.toList := by
  induction names with
  | nil => simp [spell]
  | cons name rest ih =>
      cases rest with
      | nil => simp
      | cons next rest =>
          rw [spell_cons (List.cons_ne_nil _ _), String.toList_append, String.toList_append]
          rw [List.mem_append, List.mem_append, ih]
          simp [hc]

theorem isAbsolute_absolute (names : List String) : isAbsolute (absolute names) = true := by
  simp [isAbsolute]

/-- A spelled path begins with its first name. -/
theorem exists_spell_cons (name : String) (names : List String) :
    ∃ back, spell (name :: names) = name ++ back := by
  by_cases hnames : names = []
  · exact ⟨"", by rw [hnames, spell_singleton, String.append_empty]⟩
  · exact ⟨"/" ++ spell names, by rw [spell_cons hnames, String.append_assoc]⟩

/-- A spelled path ends in its last name. -/
theorem exists_spell_concat (names : List String) (name : String) :
    ∃ front, spell (names ++ [name]) = front ++ name := by
  by_cases hnames : names = []
  · exact ⟨"", by rw [hnames, List.nil_append, spell_singleton, String.empty_append]⟩
  · refine ⟨spell names ++ "/", ?_⟩
    rw [spell, String.intercalate_append_of_ne_nil hnames (List.cons_ne_nil _ _), String.intercalate_singleton]
    rfl

end Spelling

section Names

variable {names : List String} (hnames : ∀ name ∈ names, IsName name)
include hnames

theorem parts_absolute (hne : names ≠ []) : parts (absolute names) = "" :: names := by
  have hslash : ∀ part ∈ names.map String.toList, '/' ∉ part := by
    intro part hpart
    obtain ⟨name, hname, rfl⟩ := List.mem_map.1 hpart
    exact (hnames name hname).no_slash
  have hsplit : (spell names).toList.splitOn '/' = names.map String.toList := by
    rw [toList_spell, List.splitOn_intercalate '/' hslash (by simpa using hne)]
  rw [parts, splitSlash_eq_splitOn, toList_absolute, List.splitOn_cons_eq_if_modifyHead,
    if_pos (by decide), hsplit]
  simp

theorem innerComponents_names : innerComponents names = names.map .normal := by
  have hkept : names.filter (fun part => !isBlankPart part) = names := by
    rw [List.filter_eq_self]
    intro name hname
    simp [isBlankPart, (hnames name hname).ne_empty, (hnames name hname).ne_current]
  rw [innerComponents, hkept]
  refine List.map_congr_left fun name hname => ?_
  simp [partComponent, (hnames name hname).ne_parent]

theorem components_absolute : components (absolute names) = .root :: names.map .normal := by
  rw [components, if_pos (isAbsolute_absolute names)]
  by_cases hne : names = []
  · rw [hne]; rfl
  · rw [parts_absolute hnames hne]
    have hblank : innerComponents ("" :: names) = innerComponents names := rfl
    rw [hblank, innerComponents_names hnames]

end Names

section Order

variable {above names : List String} (habove : ∀ name ∈ above, IsName name)
  (hnames : ∀ name ∈ names, IsName name)
include habove hnames

theorem absolute_inj : absolute above = absolute names ↔ above = names := by
  constructor
  · intro heq
    have hcomponents := congrArg components heq
    rw [components_absolute habove, components_absolute hnames, List.cons_inj_right] at hcomponents
    exact (List.map_injective_iff.2 fun _ _ h => by injection h) hcomponents
  · rintro rfl
    rfl

theorem components_prefix_iff :
    components (absolute above) <+: components (absolute names) ↔ above <+: names := by
  rw [components_absolute habove, components_absolute hnames, List.cons_prefix_cons]
  rw [List.prefix_map_iff_of_injective fun _ _ h => by injection h]
  simp

theorem componentsBelow?_absolute : componentsBelow? (absolute names) (absolute above) =
    if above <+: names then some ((names.drop above.length).map .normal) else none := by
  have hbegins := components_prefix_iff habove hnames
  rw [← List.isPrefixOf_iff_prefix] at hbegins
  rw [componentsBelow?]
  split
  · next h =>
      rw [if_pos (hbegins.1 h), components_absolute habove, components_absolute hnames]
      simp
  · next h => rw [if_neg fun h' => h (hbegins.2 h')]

end Order

section Joining

variable {above below : List String} (habove : ∀ name ∈ above, IsName name)
  (hbelow : ∀ name ∈ below, IsName name)

include hbelow in
theorem isAbsolute_spell (hne : below ≠ []) : isAbsolute (spell below) = false := by
  obtain ⟨name, rest, rfl⟩ := List.exists_cons_of_ne_nil hne
  have hname := hbelow name List.mem_cons_self
  have hhead : (spell (name :: rest)).toList.head? = name.toList.head? := by
    cases rest with
    | nil => simp
    | cons next rest =>
        rw [spell_cons (List.cons_ne_nil _ _), String.toList_append, String.toList_append,
          List.append_assoc, List.head?_append_of_ne_nil _ (by simpa using hname.ne_empty)]
  rw [isAbsolute, hhead]
  refine beq_false_of_ne fun hslash => hname.no_slash ?_
  exact List.mem_of_mem_head? hslash

include habove in
theorem getLast?_absolute (hne : above ≠ []) : (absolute above).toList.getLast? ≠ some '/' := by
  obtain ⟨start, last, rfl⟩ := (List.eq_nil_or_concat above).resolve_left hne
  rw [List.concat_eq_append] at habove ⊢
  have hlast := habove last (by simp)
  have hend : ∃ before, (absolute (start ++ [last])).toList = before ++ last.toList := by
    by_cases hstart : start = []
    · exact ⟨['/'], by simp [hstart]⟩
    · refine ⟨(absolute start ++ "/").toList, ?_⟩
      rw [absolute_append hstart (by simp), String.toList_append, spell_singleton]
  obtain ⟨before, heq⟩ := hend
  rw [heq, List.getLast?_append_of_ne_nil _ (by simpa using hlast.ne_empty)]
  exact fun hslash => hlast.no_slash (List.mem_of_getLast? hslash)

include habove hbelow in
/-- A path of names put below a path of names. -/
theorem join_absolute (hne : above ≠ []) (hne' : below ≠ []) :
    join (absolute above) (spell below) = absolute (above ++ below) := by
  have hlast := getLast?_absolute habove hne
  have hempty : (absolute above).isEmpty = false := by
    rw [← Bool.not_eq_true, String.isEmpty_iff]
    intro heq
    have htoList := toList_absolute above
    rw [heq] at htoList
    cases htoList
  rw [join, isAbsolute_spell hbelow hne', hempty, beq_false_of_ne hlast, absolute_append hne hne']
  rfl

end Joining

/-- What comes between a path and a name that is put behind it. -/
def lead (base : String) : String := if base.isEmpty || base.toList.getLast? == some '/' then "" else "/"

section Lead

variable {base name : String} {names a b : List String}

theorem isAbsolute_name (h : IsName name) : isAbsolute name = false := by
  rw [isAbsolute]
  refine beq_false_of_ne fun hhead => h.no_slash ?_
  exact List.mem_of_mem_head? hhead

theorem join_name (h : IsName name) (base : String) : join base name = base ++ lead base ++ name := by
  rw [join, isAbsolute_name h, if_neg (by decide), lead]
  by_cases hempty : base.isEmpty = true
  · rw [String.isEmpty_iff.1 hempty]
    simp
  · by_cases hslash : (base.toList.getLast? == some '/') = true <;> simp [hempty, hslash]

theorem lead_join (h : IsName name) (base : String) : lead (join base name) = "/" := by
  have hne : name.toList ≠ [] := by simpa using h.ne_empty
  have hempty : (base ++ lead base ++ name).isEmpty = false := by
    rw [← Bool.not_eq_true, String.isEmpty_iff]
    intro heq
    have hlist := congrArg String.toList heq
    simp [h.ne_empty] at hlist
  have hlast : ((base ++ lead base ++ name).toList.getLast? == some '/') = false := by
    rw [String.toList_append, List.getLast?_append_of_ne_nil _ hne]
    exact beq_false_of_ne fun hslash => h.no_slash (List.mem_of_getLast? hslash)
  rw [join_name h, lead, hempty, hlast]
  rfl

/-- Names put behind a path one after another are spelled behind it. -/
theorem foldl_join (hnames : ∀ name ∈ names, IsName name) (hne : names ≠ []) (base : String) :
    names.foldl join base = base ++ lead base ++ spell names := by
  induction names generalizing base with
  | nil => exact absurd rfl hne
  | cons name rest ih =>
      obtain ⟨hname, hrest⟩ := List.forall_mem_cons.1 hnames
      rw [List.foldl_cons]
      by_cases hnil : rest = []
      · rw [hnil, List.foldl_nil, spell_singleton, join_name hname]
      · rw [ih hrest hnil, lead_join hname, join_name hname, spell_cons hnil]
        simp only [String.append_assoc]

theorem foldl_join_inj (ha : ∀ name ∈ a, IsName name) (hb : ∀ name ∈ b, IsName name)
    (h : a.foldl join base = b.foldl join base) : a = b := by
  -- names that are put behind a path make it longer
  have hlonger : ∀ {names}, (∀ name ∈ names, IsName name) → names ≠ [] → names.foldl join base ≠ base := by
    intro names hnames hne heq
    obtain ⟨first, rest, rfl⟩ := List.exists_cons_of_ne_nil hne
    obtain ⟨back, hback⟩ := exists_spell_cons first rest
    rw [foldl_join hnames hne, hback, String.append_assoc] at heq
    have hlist := congrArg String.toList heq
    have hfirst := (hnames first List.mem_cons_self).ne_empty
    simp [hfirst] at hlist
  by_cases hanil : a = []
  · subst hanil
    by_contra hne
    exact hlonger hb (Ne.symm hne) h.symm
  · by_cases hbnil : b = []
    · subst hbnil
      exact absurd h (hlonger ha hanil)
    · rw [foldl_join ha hanil, foldl_join hb hbnil] at h
      have hspell : spell a = spell b := by
        rw [← String.toList_inj] at h ⊢
        simpa using h
      exact (absolute_inj ha hb).1 (by rw [absolute, absolute, hspell])

end Lead

end Workbench.Path

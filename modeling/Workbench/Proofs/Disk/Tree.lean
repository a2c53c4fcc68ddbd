import Workbench.Disk
import Workbench.Proofs.Path

/-!
Trees seen place by place.  What stands at a place after an entry has been put somewhere, or contents have been
given to a file, is what stood there before, except at that place; a tree whose names are in order stays in order.
-/

namespace Workbench

/-- What stands at a place, less what it holds. -/
inductive Node where
  | file (id : Nat) (content : ByteArray)
  | link (target : String)
  | dir

namespace Entry

def node : Entry → Node
  | file id content => .file id content
  | link target => .link target
  | dir _ => .dir

/-- A name that an entry can have. -/
structure IsName (name : String) : Prop extends Path.IsName name where
  no_nul : '\x00' ∉ name.toList

/-- Entries by ascending names. -/
structure Ascending (entries : List (String × Entry)) : Prop where
  names : ∀ e ∈ entries, IsName e.1
  sorted : entries.Pairwise fun a b => a.1 < b.1

section Lookup

variable {entries rest : List (String × Entry)} {name n : String} {e child : Entry}

@[simp] theorem lookup_nil : lookup [] name = none := rfl

theorem lookup_cons : lookup ((n, e) :: rest) name = if n = name then some e else lookup rest name := by
  by_cases h : n = name
  · simp [lookup, h]
  · rw [lookup, List.find?_cons_of_neg (by simpa using h), if_neg h, lookup]

theorem mem_of_lookup (h : lookup entries name = some e) : (name, e) ∈ entries := by
  obtain ⟨found, hfound, rfl⟩ := Option.map_eq_some_iff.1 h
  have hname : found.1 = name := by simpa using List.find?_some hfound
  rw [← hname]
  exact List.mem_of_find?_eq_some hfound

theorem lookup_eq_none_of_lt (h : ∀ e ∈ entries, name < e.1) : lookup entries name = none := by
  cases hlookup : lookup entries name with
  | none => rfl
  | some e => exact absurd (h _ (mem_of_lookup hlookup)) (String.lt_irrefl name)

theorem Ascending.nil : Ascending [] := ⟨by simp, .nil⟩

theorem ascending_cons_iff : Ascending ((n, e) :: rest) ↔ IsName n ∧ (∀ x ∈ rest, n < x.1) ∧ Ascending rest := by
  constructor
  · rintro ⟨hnames, hsorted⟩
    rw [List.forall_mem_cons] at hnames
    rw [List.pairwise_cons] at hsorted
    exact ⟨hnames.1, hsorted.1, hnames.2, hsorted.2⟩
  · rintro ⟨hn, hlt, hnames, hsorted⟩
    exact ⟨List.forall_mem_cons.2 ⟨hn, hnames⟩, List.pairwise_cons.2 ⟨hlt, hsorted⟩⟩

theorem Ascending.lookup_of_mem (h : Ascending entries) (hmem : (name, e) ∈ entries) :
    lookup entries name = some e := by
  induction entries with
  | nil => simp at hmem
  | cons first rest ih =>
      obtain ⟨-, hlt, hrest⟩ := ascending_cons_iff.1 h
      rw [lookup_cons]
      cases hmem with
      | head => exact if_pos rfl
      | tail _ hmem =>
          have hne : first.1 ≠ name := (String.ne_of_lt (hlt _ hmem))
          rw [if_neg hne]
          exact ih hrest hmem

/-- An entry, if there is one, in front of others. -/
def before (name : String) (entry : Option Entry) (rest : List (String × Entry)) : List (String × Entry) :=
  (entry.map fun e => (name, e)).toList ++ rest

section Before

variable {entry : Option Entry}

theorem mem_before {x : String × Entry} (h : x ∈ before name entry rest) : x.1 = name ∨ x ∈ rest := by
  cases entry with
  | none => exact .inr h
  | some e =>
      rcases List.mem_cons.1 h with rfl | h
      · exact .inl rfl
      · exact .inr h

theorem Ascending.before (h : Ascending rest) (hname : IsName name) (hlt : ∀ x ∈ rest, name < x.1) :
    Ascending (before name entry rest) := by
  cases entry with
  | none => exact h
  | some e => exact ascending_cons_iff.2 ⟨hname, hlt, h⟩

theorem lookup_before (h : lookup rest name = none) :
    lookup (before name entry rest) n = if n = name then entry else lookup rest n := by
  cases entry with
  | none =>
      show lookup rest n = _
      split
      · next heq => rw [heq, h]
      · rfl
  | some e =>
      show lookup ((name, e) :: rest) n = _
      rw [lookup_cons]
      split
      · next heq => rw [if_pos heq.symm]
      · next hne => rw [if_neg (Ne.symm hne)]

end Before

section AlterName

variable (f : Option Entry → Option Entry)

theorem alterName_nil : alterName name f [] = before name (f none) [] := by
  rw [alterName, before, List.append_nil]
  cases f none <;> rfl

theorem alterName_cons : alterName name f ((n, e) :: rest) =
    if n = name then before n (f (some e)) rest
    else if name < n then before name (f none) ((n, e) :: rest)
    else (n, e) :: alterName name f rest := by
  rw [alterName, before, before]
  congr 1
  · cases f (some e) <;> rfl
  · congr 1
    cases f none <;> rfl

/-- Every entry after a change has the changed name or was there before. -/
theorem name_of_mem_alterName {x : String × Entry} (hmem : x ∈ alterName name f entries) :
    x.1 = name ∨ ∃ y ∈ entries, y.1 = x.1 := by
  induction entries with
  | nil =>
      rw [alterName_nil] at hmem
      exact (mem_before hmem).imp_right fun h => by cases h
  | cons first rest ih =>
      rw [alterName_cons] at hmem
      split at hmem
      · next heq =>
        rw [heq] at hmem
        exact (mem_before hmem).imp_right fun h => ⟨x, List.mem_cons_of_mem _ h, rfl⟩
      · split at hmem
        · exact (mem_before hmem).imp_right fun h => ⟨x, h, rfl⟩
        · rcases List.mem_cons.1 hmem with rfl | hmem
          · exact .inr ⟨_, List.mem_cons_self, rfl⟩
          · exact (ih hmem).imp_right fun ⟨y, hy, heq⟩ => ⟨y, List.mem_cons_of_mem _ hy, heq⟩

/-- Two names of which neither comes first are one. -/
theorem lt_of_ne_of_not_lt (hne : n ≠ name) (hnot : ¬name < n) : n < name :=
  String.not_le.1 fun hle => hne (String.le_antisymm (String.not_lt.1 hnot) hle)

theorem lt_of_lt_first (h : Ascending ((n, e) :: rest)) (hlt : name < n) :
    ∀ x ∈ (n, e) :: rest, name < x.1 := by
  obtain ⟨-, hfirst, -⟩ := ascending_cons_iff.1 h
  exact List.forall_mem_cons.2 ⟨hlt, fun x hx => String.lt_trans hlt (hfirst x hx)⟩

theorem Ascending.altered (h : Ascending entries) (hname : IsName name) :
    Ascending (alterName name f entries) := by
  induction entries with
  | nil =>
      rw [alterName_nil]
      exact h.before hname (by simp)
  | cons first rest ih =>
      obtain ⟨hn, hlt, hrest⟩ := ascending_cons_iff.1 h
      rw [alterName_cons]
      split
      · exact hrest.before hn hlt
      · next hne =>
        split
        · next hfirst => exact h.before hname (lt_of_lt_first h hfirst)
        · next hnot =>
          refine ascending_cons_iff.2 ⟨hn, ?_, ih hrest⟩
          intro x hx
          rcases name_of_mem_alterName f hx with heq | ⟨y, hy, heq⟩
          · rw [heq]
            exact lt_of_ne_of_not_lt hne hnot
          · rw [← heq]
            exact hlt y hy

theorem Ascending.lookup_altered (h : Ascending entries) :
    lookup (alterName name f entries) n = if n = name then f (lookup entries name) else lookup entries n := by
  induction entries with
  | nil =>
      rw [alterName_nil]
      exact lookup_before lookup_nil
  | cons first rest ih =>
      obtain ⟨m, e⟩ := first
      obtain ⟨-, hlt, hrest⟩ := ascending_cons_iff.1 h
      rw [alterName_cons, lookup_cons, lookup_cons]
      split
      · next heq =>
        subst heq
        rw [lookup_before (lookup_eq_none_of_lt hlt)]
        split
        · rfl
        · next hne => rw [if_neg (Ne.symm hne)]
      · next hne =>
        split
        · next hfirst =>
          have hnone := lookup_eq_none_of_lt (lt_of_lt_first h hfirst)
          rw [lookup_before hnone, lookup_cons]
          rw [lookup_cons, if_neg hne] at hnone
          rw [hnone]
        · rw [lookup_cons, ih hrest]
          split
          · next heq => rw [if_neg fun heq' => hne (heq.trans heq')]
          · rfl

end AlterName

end Lookup

section Places

variable {entries : List (String × Entry)} {name : String} {place below : Place} {e e' : Entry}

@[simp] theorem at?_nil (e : Entry) : e.at? [] = some e := rfl

theorem at?_cons (e : Entry) (name : String) (place : Place) :
    e.at? (name :: place) = (lookup e.children name).bind (·.at? place) := rfl

theorem at?_append (e : Entry) (place below : Place) :
    e.at? (place ++ below) = (e.at? place).bind (·.at? below) := by
  induction place generalizing e with
  | nil => rfl
  | cons name place ih =>
      rw [List.cons_append, at?_cons, at?_cons]
      cases lookup e.children name with
      | none => rfl
      | some child => exact ih child

theorem at?_concat (hdir : e.at? place = some (.dir entries)) : e.at? (place ++ [name]) = lookup entries name := by
  rw [at?_append, hdir]
  show (lookup entries name).bind _ = _
  cases lookup entries name <;> rfl

/-- Only a directory has something in it. -/
theorem dir_of_at?_cons (h : e.at? (name :: place) = some e') : ∃ entries, e = .dir entries := by
  cases e with
  | file id content => cases h
  | link target => cases h
  | dir entries => exact ⟨entries, rfl⟩

theorem dir_of_at?_append (hne : below ≠ []) (h : e.at? (place ++ below) = some e') :
    ∃ entries, e.at? place = some (.dir entries) := by
  rw [at?_append] at h
  obtain ⟨between, hbetween, hbelow⟩ := Option.bind_eq_some_iff.1 h
  obtain ⟨name, rest, rfl⟩ := List.exists_cons_of_ne_nil hne
  obtain ⟨entries, rfl⟩ := dir_of_at?_cons hbelow
  exact ⟨entries, hbetween⟩

/-- The directories of a tree have their entries by ascending names. -/
def Tidy (e : Entry) : Prop := ∀ place entries, e.at? place = some (.dir entries) → Ascending entries

theorem Tidy.child (h : e.Tidy) (hlookup : lookup e.children name = some e') : e'.Tidy := by
  intro place entries hat
  apply h (name :: place) entries
  rw [at?_cons, hlookup]
  exact hat

theorem tidy_dir_iff : (dir entries).Tidy ↔ Ascending entries ∧ ∀ name e, lookup entries name = some e → e.Tidy := by
  constructor
  · intro h
    exact ⟨h [] entries rfl, fun name e hlookup => h.child hlookup⟩
  · rintro ⟨hascending, hchildren⟩ place es hat
    cases place with
    | nil =>
        cases hat
        exact hascending
    | cons name place =>
        rw [at?_cons] at hat
        obtain ⟨child, hchild, hat⟩ := Option.bind_eq_some_iff.1 hat
        exact hchildren name child hchild place es hat

theorem tidy_of_children_eq_nil (h : e.children = []) : e.Tidy := by
  intro place entries hat
  cases place with
  | nil =>
      cases hat
      rw [show entries = [] from h]
      exact .nil
  | cons name place =>
      rw [at?_cons, h] at hat
      cases hat

end Places

section Alter

variable {entries : List (String × Entry)} {name : String} {place : Place} {e : Entry}
variable (f : Option Entry → Option Entry)

/-- What a change at a place means for the name that the place begins with. -/
def alterBelow (place : Place) : Option Entry → Option Entry :=
  if place = [] then f else Option.map (alter f place)

theorem alter_cons_dir : alter f (name :: place) (dir entries) = dir (alterName name (alterBelow f place) entries) := by
  cases place with
  | nil => rfl
  | cons next rest => rfl

theorem node_alter_cons : (alter f (name :: place) e).node = e.node := by
  cases e with
  | file id content => cases place <;> rfl
  | link target => cases place <;> rfl
  | dir entries => rw [alter_cons_dir, node, node]

theorem Tidy.altered (htidy : e.Tidy) (hplace : ∀ name ∈ place, IsName name)
    (hf : ∀ old new, (∀ e ∈ old, Tidy e) → f old = some new → new.Tidy) : (alter f place e).Tidy := by
  induction place generalizing e with
  | nil =>
      rw [alter]
      cases hnew : f (some e) with
      | none => exact htidy
      | some new =>
          apply hf _ _ _ hnew
          rintro e' ⟨⟩
          exact htidy
  | cons name place ih =>
      rw [List.forall_mem_cons] at hplace
      cases e with
      | file id content => cases place <;> exact htidy
      | link target => cases place <;> exact htidy
      | dir entries =>
          obtain ⟨hascending, hchildren⟩ := tidy_dir_iff.1 htidy
          rw [alter_cons_dir]
          refine tidy_dir_iff.2 ⟨hascending.altered _ hplace.1, ?_⟩
          intro n new hlookup
          rw [hascending.lookup_altered] at hlookup
          split at hlookup
          · rw [alterBelow] at hlookup
            split at hlookup
            · exact hf _ _ (fun e he => hchildren name e he) hlookup
            · obtain ⟨child, hchild, rfl⟩ := Option.map_eq_some_iff.1 hlookup
              exact ih (hchildren name child hchild) hplace.2
          · exact hchildren n new hlookup

/-- A change in a directory, seen from any place. -/
theorem Tidy.at?_alter {dir : Place} (htidy : e.Tidy) (hdir : e.at? dir = some (.dir entries)) (r : Place) :
    (alter f (dir ++ [name]) e).at? r =
      if dir ++ [name] <+: r then (f (lookup entries name)).bind (·.at? (r.drop (dir ++ [name]).length))
      else if r <+: dir then (e.at? r).map (alter f ((dir ++ [name]).drop r.length))
      else e.at? r := by
  induction dir generalizing e r with
  | nil =>
      cases hdir
      rw [List.nil_append, alter_cons_dir]
      cases r with
      | nil => rfl
      | cons n r =>
          rw [at?_cons, children, (htidy [] _ rfl).lookup_altered, if_neg (by simp : ¬n :: r <+: [])]
          by_cases heq : n = name
          · rw [if_pos heq, if_pos (by simp [heq])]
            rfl
          · rw [if_neg heq, if_neg (by simpa using Ne.symm heq)]
            rfl
  | cons m dir ih =>
      obtain ⟨es, rfl⟩ := dir_of_at?_cons hdir
      obtain ⟨child, hchild, hinner⟩ := Option.bind_eq_some_iff.1 hdir
      rw [children] at hchild
      have hbelow : alterBelow f (dir ++ [name]) = Option.map (alter f (dir ++ [name])) :=
        if_neg (by simp)
      rw [List.cons_append, alter_cons_dir, hbelow]
      cases r with
      | nil =>
          show some _ = some (alter f (m :: (dir ++ [name])) (.dir es))
          rw [alter_cons_dir, hbelow]
      | cons n r =>
          rw [at?_cons, children, (htidy [] _ rfl).lookup_altered]
          by_cases heq : n = m
          · subst heq
            rw [if_pos rfl, hchild]
            show (alter f (dir ++ [name]) child).at? r = _
            rw [ih (htidy.child hchild) hinner r]
            simp only [List.cons_prefix_cons, true_and]
            rw [at?_cons, children, hchild]
            rfl
          · rw [if_neg heq]
            simp only [List.cons_prefix_cons, Ne.symm heq, heq, false_and, if_false]
            rfl

/-- A change in a directory is not seen where the place is neither above nor below it. -/
theorem Tidy.at?_alter_of_apart {dir r : Place} (htidy : e.Tidy) (hdir : e.at? dir = some (.dir entries))
    (habove : ¬dir ++ [name] <+: r) (hbelow : ¬r <+: dir) : (alter f (dir ++ [name]) e).at? r = e.at? r := by
  rw [htidy.at?_alter f hdir, if_neg habove, if_neg hbelow]

/-- Where nothing is below it, a change in a directory shows at its place only. -/
theorem Tidy.node_at?_alter {dir : Place} (htidy : e.Tidy) (hdir : e.at? dir = some (.dir entries))
    (hold : ∀ old ∈ lookup entries name, old.children = [])
    (hnew : ∀ new ∈ f (lookup entries name), new.children = []) (r : Place) :
    ((alter f (dir ++ [name]) e).at? r).map node =
      if r = dir ++ [name] then (f (lookup entries name)).map node else (e.at? r).map node := by
  rw [htidy.at?_alter _ hdir]
  by_cases hbegins : dir ++ [name] <+: r
  · rw [if_pos hbegins]
    obtain ⟨rest, rfl⟩ := hbegins
    rw [List.drop_left]
    -- nothing is found below an entry that holds nothing
    have hbelow : ∀ (x : Option Entry) n rest, (∀ e ∈ x, e.children = []) → (x.bind (·.at? (n :: rest))) = none := by
      intro x n rest hx
      cases x with
      | none => rfl
      | some e => rw [Option.bind_some, at?_cons, hx e rfl, lookup_nil, Option.bind_none]
    cases rest with
    | nil => simp
    | cons n rest =>
        rw [if_neg (by simp), at?_append, at?_concat hdir, hbelow _ n rest hold, hbelow _ n rest hnew]
  · have hne : r ≠ dir ++ [name] := by
      rintro rfl
      exact hbegins List.prefix_rfl
    rw [if_neg hbegins, if_neg hne]
    split
    · next hbelow =>
      obtain ⟨rest, rfl⟩ := hbelow
      rw [List.append_assoc, List.drop_left, Option.map_map]
      obtain ⟨n, rest, hrest⟩ := List.exists_cons_of_ne_nil (List.concat_ne_nil name rest)
      rw [hrest]
      congr 1
      funext e'
      exact node_alter_cons _
    · rfl

/-- An entry that holds nothing, put where nothing is, is all that is seen of it. -/
theorem Tidy.node_at?_put {dir : Place} {new : Entry} (htidy : e.Tidy) (hdir : e.at? dir = some (.dir entries))
    (hnone : lookup entries name = none) (hnew : new.children = []) (r : Place) :
    ((alter (fun _ => some new) (dir ++ [name]) e).at? r).map node =
      if r = dir ++ [name] then some new.node else (e.at? r).map node := by
  apply htidy.node_at?_alter _ hdir
  · rw [hnone]
    rintro old ⟨⟩
  · rintro _ ⟨⟩
    exact hnew

end Alter

section Contents

variable {entries : List (String × Entry)} {name : String} {place : Place} {e : Entry} {id : Nat}
  {content : ByteArray}

theorem lookup_setContents (id : Nat) (content : ByteArray) (entries : List (String × Entry)) (name : String) :
    lookup (setContents id content entries) name = (lookup entries name).map (setContent id content) := by
  induction entries with
  | nil => rw [setContents, lookup_nil]; rfl
  | cons first rest ih =>
      rw [setContents, lookup_cons, lookup_cons, ih]
      split <;> rfl

theorem children_setContent (id : Nat) (content : ByteArray) (e : Entry) :
    (setContent id content e).children = setContents id content e.children := by
  cases e with
  | file n old =>
      rw [setContent]
      split <;> rfl
  | link target => rfl
  | dir entries => rw [setContent, children, children]

/-- Contents given to a file show at its places. -/
theorem at?_setContent (id : Nat) (content : ByteArray) (e : Entry) (place : Place) :
    (setContent id content e).at? place = (e.at? place).map (setContent id content) := by
  induction place generalizing e with
  | nil => rfl
  | cons name place ih =>
      rw [at?_cons, at?_cons, children_setContent, lookup_setContents]
      cases lookup e.children name with
      | none => rfl
      | some child => exact ih child

theorem name_of_mem_setContents {x : String × Entry} (h : x ∈ setContents id content entries) :
    ∃ y ∈ entries, y.1 = x.1 := by
  induction entries with
  | nil => cases h
  | cons first rest ih =>
      rw [setContents] at h
      rcases List.mem_cons.1 h with rfl | h
      · exact ⟨first, List.mem_cons_self, rfl⟩
      · obtain ⟨y, hy, heq⟩ := ih h
        exact ⟨y, List.mem_cons_of_mem _ hy, heq⟩

theorem Ascending.filled (h : Ascending entries) (id : Nat) (content : ByteArray) :
    Ascending (setContents id content entries) := by
  induction entries with
  | nil => exact h
  | cons first rest ih =>
      obtain ⟨hname, hlt, hrest⟩ := ascending_cons_iff.1 h
      rw [setContents]
      refine ascending_cons_iff.2 ⟨hname, ?_, ih hrest⟩
      intro x hx
      obtain ⟨y, hy, heq⟩ := name_of_mem_setContents hx
      rw [← heq]
      exact hlt y hy

theorem Tidy.filled (h : e.Tidy) (id : Nat) (content : ByteArray) : (setContent id content e).Tidy := by
  intro place entries hat
  rw [at?_setContent] at hat
  obtain ⟨old, hold, hset⟩ := Option.map_eq_some_iff.1 hat
  cases old with
  | file n old =>
      rw [setContent] at hset
      split at hset <;> cases hset
  | link target =>
      rw [setContent] at hset
      cases hset
  | dir es =>
      rw [setContent] at hset
      cases hset
      exact (h place es hold).filled id content

mutual

theorem setContent_eq_self (e : Entry) (h : e.content? id = none) : e.setContent id content = e := by
  cases e with
  | file n old =>
      rw [content?] at h
      rw [setContent, if_neg fun heq => by simp [heq] at h]
  | link target => rw [setContent]
  | dir entries =>
      rw [content?] at h
      rw [setContent, setContents_eq_self entries h]

theorem setContents_eq_self (entries : List (String × Entry)) (h : contents? id entries = none) :
    setContents id content entries = entries := by
  cases entries with
  | nil => rw [setContents]
  | cons first rest =>
      rw [contents?, Option.or_eq_none_iff] at h
      rw [setContents, setContent_eq_self first.2 h.1, setContents_eq_self rest h.2]

end

theorem contents?_ne_none_of_mem (hmem : (name, e) ∈ entries) (h : e.content? id ≠ none) :
    contents? id entries ≠ none := by
  induction entries with
  | nil => cases hmem
  | cons first rest ih =>
      rw [contents?, Ne, Option.or_eq_none_iff]
      rintro ⟨hfirst, hrest⟩
      cases hmem with
      | head => exact h hfirst
      | tail _ hmem => exact ih hmem hrest

/-- The contents of a file that stands somewhere are found by its number. -/
theorem content?_ne_none_of_at? (h : e.at? place = some (.file id content)) : e.content? id ≠ none := by
  induction place generalizing e with
  | nil =>
      cases h
      rw [content?, if_pos rfl]
      exact Option.some_ne_none _
  | cons name place ih =>
      obtain ⟨entries, rfl⟩ := dir_of_at?_cons h
      obtain ⟨child, hchild, hinner⟩ := Option.bind_eq_some_iff.1 h
      rw [content?]
      exact contents?_ne_none_of_mem (mem_of_lookup hchild) (ih hinner)

mutual

/-- Contents that are found by a number are those of a file that stands somewhere. -/
theorem Tidy.at?_of_content? (e : Entry) (htidy : e.Tidy) (h : e.content? id = some content) :
    ∃ place, e.at? place = some (.file id content) := by
  cases e with
  | file n old =>
      rw [content?] at h
      split at h
      · next heq =>
        cases h
        exact ⟨[], by rw [heq, at?_nil]⟩
      · cases h
  | link target => cases h
  | dir entries =>
      rw [content?] at h
      obtain ⟨hascending, hchildren⟩ := tidy_dir_iff.1 htidy
      have htidies : ∀ x ∈ entries, x.2.Tidy := fun x hx => hchildren x.1 x.2 (hascending.lookup_of_mem hx)
      obtain ⟨x, hx, place, hplace⟩ := mem_of_contents? entries htidies h
      refine ⟨x.1 :: place, ?_⟩
      rw [at?_cons, children, hascending.lookup_of_mem hx]
      exact hplace

theorem mem_of_contents? (entries : List (String × Entry)) (htidy : ∀ x ∈ entries, x.2.Tidy)
    (h : contents? id entries = some content) :
    ∃ x ∈ entries, ∃ place, x.2.at? place = some (.file id content) := by
  cases entries with
  | nil => cases h
  | cons first rest =>
      rw [List.forall_mem_cons] at htidy
      rw [contents?, Option.or_eq_some_iff] at h
      rcases h with hfirst | ⟨-, hrest⟩
      · exact ⟨first, List.mem_cons_self, Tidy.at?_of_content? first.2 htidy.1 hfirst⟩
      · obtain ⟨x, hx, hplace⟩ := mem_of_contents? rest htidy.2 hrest
        exact ⟨x, List.mem_cons_of_mem _ hx, hplace⟩

end

/-- A tree in which no file has a number is the same after contents have been given to that number. -/
theorem Tidy.setContent_of_absent (htidy : e.Tidy) (h : ∀ place old, e.at? place ≠ some (.file id old)) :
    setContent id content e = e := by
  apply setContent_eq_self
  rw [Option.eq_none_iff_forall_ne_some]
  intro old hold
  obtain ⟨place, hplace⟩ := htidy.at?_of_content? e hold
  exact h place old hplace

end Contents

section Under

variable {p : Place} {e x : Entry}

mutual

/-- What is listed below an entry stands there. -/
theorem at?_of_mem_under (e : Entry) (htidy : e.Tidy) (place : Place) (h : (p, x) ∈ e.under place) :
    ∃ below, below ≠ [] ∧ p = place ++ below ∧ e.at? below = some x := by
  cases e with
  | file id content => cases h
  | link target => cases h
  | dir entries =>
      rw [under] at h
      obtain ⟨hascending, hchildren⟩ := tidy_dir_iff.1 htidy
      have htidies : ∀ y ∈ entries, y.2.Tidy := fun y hy => hchildren y.1 y.2 (hascending.lookup_of_mem hy)
      obtain ⟨y, hy, below, rfl, hat⟩ := at?_of_mem_underAll entries htidies place h
      refine ⟨y.1 :: below, List.cons_ne_nil _ _, rfl, ?_⟩
      rw [at?_cons, children, hascending.lookup_of_mem hy]
      exact hat

theorem at?_of_mem_underAll (entries : List (String × Entry)) (htidy : ∀ y ∈ entries, y.2.Tidy) (place : Place)
    (h : (p, x) ∈ underAll place entries) :
    ∃ y ∈ entries, ∃ below, p = place ++ y.1 :: below ∧ y.2.at? below = some x := by
  cases entries with
  | nil => cases h
  | cons first rest =>
      obtain ⟨name, e⟩ := first
      rw [List.forall_mem_cons] at htidy
      rw [underAll, List.mem_append, List.mem_cons] at h
      rcases h with (heq | hfirst) | hrest
      · cases heq
        exact ⟨_, List.mem_cons_self, [], rfl, rfl⟩
      · obtain ⟨below, -, rfl, hat⟩ := at?_of_mem_under e htidy.1 _ hfirst
        exact ⟨_, List.mem_cons_self, below, by simp, hat⟩
      · obtain ⟨y, hy, hbelow⟩ := at?_of_mem_underAll rest htidy.2 place hrest
        exact ⟨y, List.mem_cons_of_mem _ hy, hbelow⟩

end

variable {place : Place}

theorem mem_underAll {name : String} {entries : List (String × Entry)} {child : Entry} (hmem : (name, child) ∈ entries)
    (h : p = place ++ [name] ∧ x = child ∨ (p, x) ∈ child.under (place ++ [name])) :
    (p, x) ∈ underAll place entries := by
  induction entries with
  | nil => cases hmem
  | cons first rest ih =>
      rw [underAll, List.mem_append, List.mem_cons]
      cases hmem with
      | head =>
          refine .inl (h.imp_left ?_)
          rintro ⟨rfl, rfl⟩
          rfl
      | tail _ hmem => exact .inr (ih hmem)

/-- What stands below an entry is listed there. -/
theorem mem_under_of_at? {name : String} {below : Place} (h : e.at? (name :: below) = some x) :
    (place ++ name :: below, x) ∈ e.under place := by
  induction below generalizing e name place with
  | nil =>
      obtain ⟨entries, rfl⟩ := dir_of_at?_cons h
      obtain ⟨child, hchild, hat⟩ := Option.bind_eq_some_iff.1 h
      cases hat
      exact mem_underAll (mem_of_lookup hchild) (.inl ⟨rfl, rfl⟩)
  | cons next below ih =>
      obtain ⟨entries, rfl⟩ := dir_of_at?_cons h
      obtain ⟨child, hchild, hat⟩ := Option.bind_eq_some_iff.1 h
      rw [List.append_cons]
      exact mem_underAll (mem_of_lookup hchild) (.inr (ih hat))

end Under

end Entry

end Workbench

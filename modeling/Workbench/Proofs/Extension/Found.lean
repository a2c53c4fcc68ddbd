import Mathlib.Data.List.Forall2
import Mathlib.Data.String.Basic
import Workbench.Extension.Manifest
import Workbench.Proofs.Disk.Outcome

/-!
Which extensions there are on a disk, said of its tree: a directory holds one if its manifest names a publisher and a
name, and a search finds those that are held right below its path.  Looking for extensions finds just these.
-/

namespace Workbench

namespace Disk

variable {d : Disk} {path : String}

/-- Reading a path gives contents just when it leads to a file that has them. -/
theorem readAll_eq_ok_iff {content : ByteArray} :
    (readAll path d).1 = .ok content ↔ ∃ place id, d.find? path true = .ok (place, .file id content) := by
  cases hfind : d.find? path true with
  | error e =>
      have hread : readAll path d = (.error e, d) := Call.bind_of_error (stat_of_error hfind) _
      simp [hread]
  | ok found =>
      obtain ⟨place, entry⟩ := found
      cases entry with
      | file id there =>
          have hread : readAll path d = (.ok there, d) := Call.bind_of_ok (stat_of_ok hfind) _
          simp [hread]
      | dir entries =>
          have hread : readAll path d = (.error .isDirectory, d) := Call.bind_of_ok (stat_of_ok hfind) _
          simp [hread]
      | link target =>
          have hread : readAll path d = (.error .loop, d) := Call.bind_of_ok (stat_of_ok hfind) _
          simp [hread]

/-- Listing a path gives entries just when it leads to a directory that has them. -/
theorem list_eq_ok_iff {entries : List (String × Entry)} :
    (list path d).1 = .ok entries ↔ ∃ place, d.find? path true = .ok (place, .dir entries) := by
  cases hfind : d.find? path true with
  | error e => simp [list_of_error hfind]
  | ok found =>
      obtain ⟨place, entry⟩ := found
      cases entry with
      | file id there =>
          have hlist : list path d = (.error .notDirectory, d) := Call.bind_of_ok (stat_of_ok hfind) _
          simp [hlist]
      | dir there => simp [list_of_dir hfind]
      | link target =>
          have hlist : list path d = (.error .notDirectory, d) := Call.bind_of_ok (stat_of_ok hfind) _
          simp [hlist]

end Disk

namespace Extension

variable (d : Disk) (search : ExtensionSearch)

/-- A path leads to a file whose text is an object with these fields. -/
def Describes (path : String) (fields : Json.Fields) : Prop :=
  ∃ place id content text, d.find? path true = .ok (place, .file id content) ∧
    Utf8.decode? (Blob.toBytes content) = some text ∧ Json.parse? text = some (.obj fields)

/-- A manifest in a language.  Its messages are those of the first file that describes any. -/
inductive Translated (dir language : String) (manifest : Json.Fields) : Json.Fields → Prop where
  | messages {earlier later : List String} {path : String} {messages : Json.Fields}
      (hfiles : messageFiles dir language = earlier ++ path :: later)
      (hearlier : ∀ other ∈ earlier, ∀ fields, ¬ Describes d other fields)
      (hdescribes : Describes d path messages) :
      Translated dir language manifest (localizeFields messages manifest)
  | plain (hnone : ∀ path ∈ messageFiles dir language, ∀ fields, ¬ Describes d path fields) :
      Translated dir language manifest manifest

/-- A directory holds an extension. -/
structure Holds (dir : String) (e : Extension) : Prop where
  /-- The manifest has texts for the publisher and the name; by these, before any translation, the extension is
  known.  What else it says is kept in the language of the search. -/
  named : ∃ manifest publisher name said,
    Describes d (Path.join dir "package.json") manifest ∧
    Json.Fields.get? manifest "publisher" = some (.str publisher) ∧
    Json.Fields.get? manifest "name" = some (.str name) ∧
    e.id.value = publisher ++ "." ++ name ∧
    Translated d dir search.language manifest said ∧
    e.manifest = said.filter fun field => !reservedFields.contains field.1
  builtin : e.builtin = search.builtin
  underDevelopment : e.underDevelopment = search.underDevelopment
  location : e.location = Resource.file dir

/-- The paths of the directories right below a path, in order. -/
structure Subdirs (path : String) (dirs : List String) : Prop where
  listed : ∃ place entries, d.find? path true = .ok (place, .dir entries) ∧
    dirs.Perm ((entries.filter fun e => e.2.isDir).map fun e => Path.join path e.1)
  ordered : dirs.Pairwise (· ≤ ·)

/-- What is held in directories, in their order. -/
inductive Held : List String → List Extension → Prop where
  | nil : Held [] []
  | found {dir : String} {dirs : List String} {e : Extension} {es : List Extension} (hholds : Holds d search dir e)
      (hrest : Held dirs es) : Held (dir :: dirs) (e :: es)
  | none {dir : String} {dirs : List String} {es : List Extension} (hnone : ∀ e, ¬ Holds d search dir e)
      (hrest : Held dirs es) : Held (dir :: dirs) es

/-- What a search finds: what is held right below its path, and nothing where there is no directory. -/
inductive Finds : List Extension → Prop where
  | found {dirs : List String} {es : List Extension} (hdirs : Subdirs d search.path dirs)
      (hheld : Held d search dirs es) : Finds es
  | nowhere (hnone : ∀ dirs, ¬ Subdirs d search.path dirs) : Finds []

section Reading

variable {d search} {path dir language : String} {manifest said : Json.Fields} {e : Extension}

theorem readObject?_eq_some_iff : readObject? d path = some manifest ↔ Describes d path manifest := by
  have hread : ∀ content, (Disk.readAll path d).1.toOption = some content ↔
      ∃ place id, d.find? path true = .ok (place, .file id content) := by
    intro content
    rw [← Disk.readAll_eq_ok_iff]
    cases (Disk.readAll path d).1 <;> simp [Except.toOption]
  have hobject : ∀ v : Json, v.obj? = some manifest ↔ v = .obj manifest := by
    intro v
    cases v <;> simp [Json.obj?]
  simp only [readObject?, Option.bind_eq_bind, Option.bind_eq_some_iff, hread, hobject, Describes]
  constructor
  · rintro ⟨content, ⟨place, id, hfind⟩, text, hdecode, v, hparse, rfl⟩
    exact ⟨place, id, content, text, hfind, hdecode, hparse⟩
  · rintro ⟨place, id, content, text, hfind, hdecode, hparse⟩
    exact ⟨content, ⟨place, id, hfind⟩, text, hdecode, _, hparse, rfl⟩

theorem readObject?_eq_none_iff : readObject? d path = none ↔ ∀ fields, ¬ Describes d path fields := by
  simp only [← readObject?_eq_some_iff, Option.eq_none_iff_forall_ne_some, ne_eq]

theorem translated_iff :
    Translated d dir language manifest said ↔ said = localized d dir language manifest := by
  constructor
  · intro htranslated
    cases htranslated with
    | messages hfiles hearlier hdescribes =>
        have hfirst : messages? d dir language = some _ := List.findSome?_eq_some_iff.2
          ⟨_, _, _, hfiles, readObject?_eq_some_iff.2 hdescribes, fun other hother =>
            readObject?_eq_none_iff.2 (hearlier other hother)⟩
        rw [localized, hfirst]
    | plain hnone =>
        have hno : messages? d dir language = none := List.findSome?_eq_none_iff.2 fun path hpath =>
          readObject?_eq_none_iff.2 (hnone path hpath)
        rw [localized, hno]
  · rintro rfl
    unfold localized
    split
    · next messages hmessages =>
      obtain ⟨earlier, path, later, hfiles, hread, hearlier⟩ := List.findSome?_eq_some_iff.1 hmessages
      exact .messages hfiles (fun other hother => readObject?_eq_none_iff.1 (hearlier other hother))
        (readObject?_eq_some_iff.1 hread)
    · next hno =>
      exact .plain fun path hpath => readObject?_eq_none_iff.1 (List.findSome?_eq_none_iff.1 hno path hpath)

theorem text?_eq_some_iff {key text : String} :
    text? manifest key = some text ↔ Json.Fields.get? manifest key = some (.str text) := by
  have hstr : ∀ v : Json, v.str? = some text ↔ v = .str text := by
    intro v
    cases v <;> simp [Json.str?]
  simp only [text?, Option.bind_eq_some_iff, hstr, exists_eq_right]

/-- Reading a directory gives an extension just when the directory holds it. -/
theorem read?_eq_some_iff : read? d dir search = some e ↔ Holds d search dir e := by
  simp only [read?, Option.bind_eq_bind, Option.bind_eq_some_iff, readObject?_eq_some_iff, text?_eq_some_iff]
  constructor
  · rintro ⟨manifest, hmanifest, publisher, hpublisher, name, hname, heq⟩
    cases heq
    exact ⟨⟨manifest, publisher, name, _, hmanifest, hpublisher, hname, rfl, translated_iff.2 rfl, rfl⟩, rfl, rfl, rfl⟩
  · rintro ⟨⟨manifest, publisher, name, said, hmanifest, hpublisher, hname, hid, htranslated, hrest⟩, hbuiltin,
      hunder, hlocation⟩
    refine ⟨manifest, hmanifest, publisher, hpublisher, name, hname, ?_⟩
    obtain ⟨⟨id⟩, builtin, underDevelopment, location, rest⟩ := e
    cases hid
    cases hbuiltin
    cases hunder
    cases hlocation
    rw [translated_iff.1 htranslated] at hrest
    cases hrest
    rfl

theorem read?_eq_none_iff : read? d dir search = none ↔ ∀ e, ¬ Holds d search dir e := by
  simp only [← read?_eq_some_iff, Option.eq_none_iff_forall_ne_some, ne_eq]

end Reading

section Searching

variable {d search} {path : String} {dirs : List String} {es : List Extension}

theorem dirsAmong_perm (path : String) (entries : List (String × Entry)) :
    (dirsAmong path entries).Perm ((entries.filter fun e => e.2.isDir).map fun e => Path.join path e.1) :=
  List.mergeSort_perm _ _

theorem dirsAmong_sorted (path : String) (entries : List (String × Entry)) :
    (dirsAmong path entries).Pairwise (· ≤ ·) := by
  have hsorted : (dirsAmong path entries).Pairwise fun a b => decide (a ≤ b) :=
    List.pairwise_mergeSort (fun a b c => by simpa using le_trans) (fun a b => by simpa using le_total a b) _
  exact hsorted.imp of_decide_eq_true

theorem subdirs_iff : Subdirs d path dirs ↔
    ∃ entries, (Disk.list path d).1 = .ok entries ∧ dirs = dirsAmong path entries := by
  simp only [Disk.list_eq_ok_iff]
  constructor
  · rintro ⟨⟨place, entries, hfind, hperm⟩, hordered⟩
    have hsame : dirs.Perm (dirsAmong path entries) := hperm.trans (dirsAmong_perm path entries).symm
    exact ⟨entries, ⟨place, hfind⟩,
      hsame.eq_of_pairwise (fun a b _ _ => le_antisymm) hordered (dirsAmong_sorted path entries)⟩
  · rintro ⟨entries, ⟨place, hfind⟩, rfl⟩
    exact ⟨⟨place, entries, hfind, dirsAmong_perm path entries⟩, dirsAmong_sorted path entries⟩

theorem held_iff : Held d search dirs es ↔ es = dirs.filterMap fun dir => read? d dir search := by
  constructor
  · intro hheld
    induction hheld with
    | nil => rfl
    | found hholds _ ih =>
        rw [List.filterMap_cons_some (f := fun dir => read? d dir search) (read?_eq_some_iff.2 hholds), ih]
    | none hnone _ ih =>
        rw [List.filterMap_cons_none (f := fun dir => read? d dir search) (read?_eq_none_iff.2 hnone), ih]
  · rintro rfl
    induction dirs with
    | nil => exact .nil
    | cons dir dirs ih =>
        cases hread : read? d dir search with
        | none =>
            rw [List.filterMap_cons_none (f := fun dir => read? d dir search) hread]
            exact .none (read?_eq_none_iff.1 hread) ih
        | some e =>
            rw [List.filterMap_cons_some (f := fun dir => read? d dir search) hread]
            exact .found (read?_eq_some_iff.1 hread) ih

/-- A scan gives what its search finds. -/
theorem finds_iff : Finds d search es ↔ es = given (scan d search) := by
  have hscan : given (scan d search) = match (Disk.list search.path d).1 with
      | .ok entries => (dirsAmong search.path entries).filterMap fun dir => read? d dir search
      | .error _ => [] := by
    unfold scan
    cases (Disk.list search.path d).1 with
    | ok entries => rfl
    | error e => cases e <;> rfl
  rw [hscan]
  constructor
  · intro hfinds
    cases hfinds with
    | found hdirs hheld =>
        obtain ⟨entries, hlist, rfl⟩ := subdirs_iff.1 hdirs
        rw [hlist]
        exact held_iff.1 hheld
    | nowhere hnone =>
        cases hlist : (Disk.list search.path d).1 with
        | ok entries => exact absurd (subdirs_iff.2 ⟨entries, hlist, rfl⟩) (hnone _)
        | error e => rfl
  · rintro rfl
    cases hlist : (Disk.list search.path d).1 with
    | ok entries => exact .found (subdirs_iff.2 ⟨entries, hlist, rfl⟩) (held_iff.2 rfl)
    | error e =>
        refine .nowhere fun dirs hdirs => ?_
        obtain ⟨entries, hok, -⟩ := subdirs_iff.1 hdirs
        rw [hlist] at hok
        cases hok

end Searching

end Extension
end Workbench

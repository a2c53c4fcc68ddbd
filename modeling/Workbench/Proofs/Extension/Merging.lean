import Mathlib.Data.List.Induction
import Workbench.Channel.Extensions
import Workbench.Proofs.Disk.Way
import Workbench.Proofs.Extension.Found
import Workbench.Proofs.Lists

/-!
The extensions of a server.  Its directories are scanned at the same time, and what the scans give is put together in
the order of the directories, whichever ends first.  Of several extensions of one identity the first stays.
-/

namespace Workbench

namespace Gathering

variable {α : Type}

theorem length_after (all : List α) (order : List Nat) : (after all order).slots.length = all.length := by
  induction order using List.reverseRecOn with
  | nil => exact List.length_replicate
  | append_singleton order j ih =>
      rw [after, List.foldl_append]
      exact List.length_set.trans ih

theorem slots_after (all : List α) (order : List Nat) (i : Nat) (hi : i < all.length) :
    (after all order).slots[i]? = some (if i ∈ order then all[i]? else none) := by
  induction order using List.reverseRecOn with
  | nil =>
      show (List.replicate all.length none)[i]? = _
      simp [hi]
  | append_singleton order j ih =>
      have hset : (after all (order ++ [j])).slots = (after all order).slots.set j all[j]? := by
        rw [after, List.foldl_append]
        rfl
      rw [hset]
      by_cases hij : j = i
      · have hthere : i < (after all order).slots.length := (length_after all order).symm ▸ hi
        simp [hij, List.getElem?_set_self hthere]
      · rw [List.getElem?_set_ne hij, ih]
        simp [Ne.symm hij]

/-- When all have come they stand in their places, in whatever order that was; before, nothing is given. -/
theorem results?_after (all : List α) (order : List Nat) :
    (after all order).results? = if ∀ i < all.length, i ∈ order then some all else none := by
  split
  · next hall =>
      have hslots : (after all order).slots = all.map some := by
        apply List.ext_getElem?
        intro i
        by_cases hi : i < all.length
        · rw [slots_after all order i hi, if_pos (hall i hi), List.getElem?_map, List.getElem?_eq_getElem hi]
          rfl
        · have hbeyond : (after all order).slots.length ≤ i := by
            rw [length_after]
            omega
          rw [List.getElem?_eq_none hbeyond, List.getElem?_eq_none (by simpa using hi)]
      rw [results?, hslots]
      exact mapM_id_map_some all
  · next hmissing =>
      simp only [not_forall] at hmissing
      obtain ⟨i, hi, hnot⟩ := hmissing
      have hslot := slots_after all order i hi
      rw [if_neg hnot] at hslot
      exact mapM_id_eq_none (List.mem_of_getElem? hslot)

end Gathering

namespace Extension

section Firsts

/-- No extension before this place has the identity of the one at it. -/
def isFirst (found : List Extension) (e : Extension × Nat) : Bool :=
  (found.take e.2).all fun other => other.id.key ≠ e.1.id.key

/-- The extensions before which none has their identity. -/
def firstOccurrences (found : List Extension) : List Extension := (found.zipIdx.filter (isFirst found)).map Prod.fst

theorem isFirst_append {found : List Extension} {e : Extension × Nat} (he : e.2 ≤ found.length)
    (more : List Extension) : isFirst (found ++ more) e = isFirst found e := by
  rw [isFirst, List.take_append_of_le_length he]
  rfl

theorem isFirst_concat (found : List Extension) (e : Extension) :
    isFirst (found ++ [e]) (e, found.length) = true ↔ ∀ other ∈ found, other.id.key ≠ e.id.key := by
  rw [isFirst_append (Nat.le_refl _), isFirst, List.take_length]
  simp

theorem firstOccurrences_concat (found : List Extension) (e : Extension) :
    firstOccurrences (found ++ [e]) =
      firstOccurrences found ++ if ∀ other ∈ found, other.id.key ≠ e.id.key then [e] else [] := by
  have hearlier : found.zipIdx.filter (isFirst (found ++ [e])) = found.zipIdx.filter (isFirst found) := by
    apply List.filter_congr
    intro x hx
    have hlt : x.2 < found.length := List.snd_lt_of_mem_zipIdx hx
    exact isFirst_append (Nat.le_of_lt hlt) [e]
  have hlast : ([(e, found.length)].filter (isFirst (found ++ [e]))).map Prod.fst =
      if ∀ other ∈ found, other.id.key ≠ e.id.key then [e] else [] := by
    by_cases hfirst : ∀ other ∈ found, other.id.key ≠ e.id.key
    · rw [if_pos hfirst, List.filter_cons_of_pos ((isFirst_concat found e).2 hfirst)]
      rfl
    · rw [if_neg hfirst, List.filter_cons_of_neg (mt (isFirst_concat found e).1 hfirst)]
      rfl
  rw [firstOccurrences, List.zipIdx_append, List.filter_append, hearlier, List.map_append, ← hlast, Nat.zero_add]
  rfl

theorem firsts_concat (seen : List String) (found : List Extension) (e : Extension) :
    firsts seen (found ++ [e]) =
      firsts seen found ++ if e.id.key ∉ seen ∧ ∀ other ∈ found, other.id.key ≠ e.id.key then [e] else [] := by
  induction found generalizing seen with
  | nil => by_cases he : e.id.key ∈ seen <;> simp [firsts, he]
  | cons head found ih =>
      by_cases hhead : head.id.key ∈ seen
      · -- what has the identity of this one has been seen
        have hsame : (e.id.key ∉ seen ∧ ∀ other ∈ head :: found, other.id.key ≠ e.id.key) ↔
            e.id.key ∉ seen ∧ ∀ other ∈ found, other.id.key ≠ e.id.key := by
          rw [List.forall_mem_cons]
          exact and_congr_right fun hnot => and_iff_right fun heq => hnot (heq ▸ hhead)
        simp only [List.cons_append, firsts, hhead, ↓reduceIte, ih, hsame]
      · have hsame : (e.id.key ∉ seen ∧ ∀ other ∈ head :: found, other.id.key ≠ e.id.key) ↔
            e.id.key ∉ head.id.key :: seen ∧ ∀ other ∈ found, other.id.key ≠ e.id.key := by
          rw [List.forall_mem_cons, List.mem_cons, not_or, and_assoc, and_left_comm, eq_comm]
        simp only [List.cons_append, firsts, hhead, ↓reduceIte, ih, hsame]

theorem firsts_eq (found : List Extension) : firsts [] found = firstOccurrences found := by
  induction found using List.reverseRecOn with
  | nil => rfl
  | append_singleton found e ih =>
      rw [firsts_concat, firstOccurrences_concat, ih]
      simp

theorem firstOccurrences_sublist (found : List Extension) : (firstOccurrences found).Sublist found := by
  have hsublist := (List.filter_sublist (p := isFirst found) (l := found.zipIdx)).map Prod.fst
  rw [List.zipIdx_map_fst] at hsublist
  exact hsublist

/-- Of each identity the first that is found stays, and no other. -/
theorem filter_firstOccurrences (found : List Extension) (key : String) :
    (firstOccurrences found).filter (fun e => e.id.key = key) = (found.find? fun e => e.id.key = key).toList := by
  induction found using List.reverseRecOn with
  | nil => rfl
  | append_singleton found e ih =>
      rw [firstOccurrences_concat, List.filter_append, ih, List.find?_append]
      by_cases hkey : e.id.key = key
      · cases hfound : found.find? fun e => e.id.key = key with
        | none =>
            have hfirst : ∀ other ∈ found, other.id.key ≠ e.id.key := by
              simpa [hkey] using hfound
            rw [if_pos hfirst]
            simp [hkey]
        | some earlier =>
            have hagain : ¬ ∀ other ∈ found, other.id.key ≠ e.id.key := by
              intro hfirst
              have hsame : earlier.id.key = key := by simpa using List.find?_some hfound
              exact hfirst earlier (List.mem_of_find?_eq_some hfound) (hsame.trans hkey.symm)
            rw [if_neg hagain]
            simp
      · split <;> simp [hkey]

end Firsts

/-- Once no search is waited for, what stays does not depend on the order in which they have ended. -/
theorem scanAll_eq (d : Disk) (searches : List ExtensionSearch) (faults : Nat → Option Errno) (order : List Nat) :
    scanAll d searches faults order =
      if ∀ i < searches.length, i ∈ order then
        some (firstOccurrences
          (searches.zipIdx.map fun (search, i) => given (attempt d (faults i) search)).flatten)
      else none := by
  rw [scanAll, Gathering.results?_after, List.length_map, List.length_zipIdx]
  split
  · rw [Option.map_some, merge, firsts_eq]
  · rfl

end Extension

namespace ExtensionChannel

open Extension

variable (place : Place) (language : String) (d : Disk) (faults : Nat → Option Errno)

/-- Where extensions are searched: in the directories of the server, and then in those of installed extensions, which
are the ones under development. -/
def searched : List ExtensionSearch :=
  (place.installation.builtinExtensions :: place.installation.moreBuiltinExtensions).map (fun path =>
    { language, path, builtin := true, underDevelopment := false }) ++
  (place.installation.extensions :: place.installation.moreExtensions).map fun path =>
    { language, path, builtin := false, underDevelopment := true }

/-- What the searches find together, each in its turn.  One that fails finds nothing. -/
def Found (found : List Extension) : Prop :=
  ∃ parts, found = parts.flatten ∧
    List.Forall₂ (fun (search, i) part => if (faults i).isSome then part = [] else Finds d search part)
      (searched place language).zipIdx parts

theorem finds_attempt_iff (search : ExtensionSearch) (i : Nat) (part : List Extension) :
    (if (faults i).isSome then part = [] else Finds d search part) ↔ given (attempt d (faults i) search) = part := by
  rw [eq_comm (b := part)]
  cases hfault : faults i with
  | none => exact finds_iff
  | some e => exact Iff.rfl

theorem found_iff {found : List Extension} :
    Found place language d faults found ↔
      found =
        ((searches place language).zipIdx.map fun (search, i) => given (attempt d (faults i) search)).flatten := by
  have hparts : ∀ parts,
      List.Forall₂ (fun (search, i) part => if (faults i).isSome then part = [] else Finds d search part)
        (searched place language).zipIdx parts ↔
      ((searches place language).zipIdx.map fun (search, i) => given (attempt d (faults i) search)) = parts := by
    intro parts
    simp only [finds_attempt_iff]
    rw [← List.forall₂_map_left_iff (R := Eq), List.forall₂_eq_eq_eq]
    rfl
  simp only [Found, hparts]
  constructor
  · rintro ⟨_, rfl, rfl⟩
    rfl
  · intro heq
    exact ⟨_, heq, rfl⟩

/-- The extensions of a server are those found first of their identity: in its own directories, then in those of
installed extensions, in the order in which the directories are configured and of the paths in each.  Whichever
searches fail, only what is in their directories is missing; and whichever search ends first, that makes no
difference. -/
theorem first_of_each_identity (order : List Nat) :
    ∃ found, (∀ other, Found place language d faults other ↔ other = found) ∧
      scanExtensions place language d faults order =
        (if ∀ i < (searched place language).length, i ∈ order then some (firstOccurrences found) else none) ∧
      (firstOccurrences found).Sublist found ∧
      (∀ key, (firstOccurrences found).filter (fun e => e.id.key = key) =
        (found.find? fun e => e.id.key = key).toList) ∧
      ((∀ i, faults i = none) → scanAll place language d = firstOccurrences found) := by
  refine ⟨_, fun other => found_iff place language d faults, Extension.scanAll_eq d _ faults order,
    firstOccurrences_sublist _, filter_firstOccurrences _, fun hnone => ?_⟩
  obtain rfl : faults = fun _ => none := funext hnone
  have hended : ∀ i < (searches place language).length, i ∈ List.range (searches place language).length :=
    fun i hi => List.mem_range.2 hi
  rw [scanAll, scanExtensions, Extension.scanAll_eq, if_pos hended]
  rfl

section Example

/-- A server with two directories of its own. -/
def somePlace : Place := ⟨{ builtinExtensions := "/b", extensions := "/i", moreBuiltinExtensions := ["/c"] }, "en"⟩

/-- A directory with nothing but a manifest. -/
def withManifest (id : Nat) (text : String) : Entry := .dir [("package.json", .file id text.toUTF8)]

/-- Two extensions of the server, and three directories of installed ones: one has the identity of an extension of
the server in another case, and one is empty. -/
def someDisk : Disk :=
  { root := .dir [
      ("b", .dir [("lua", withManifest 1 "\x7b\"publisher\": \"M\", \"name\": \"L\"\x7d")]),
      ("c", .dir [("js", withManifest 2 "\x7b\"publisher\": \"w\", \"name\": \"j\"\x7d")]),
      ("i", .dir [("css", withManifest 3 "\x7b\"publisher\": \"w\", \"name\": \"c\"\x7d"), ("empty", .dir []),
        ("lua", withManifest 4 "\x7b\"publisher\": \"m\", \"name\": \"l\"\x7d")])] }

/-- The second directory of the server cannot be searched. -/
def someFaults (i : Nat) : Option Errno := if i = 1 then some .accessDenied else none

/-- An extension whose manifest says nothing but its publisher and its name. -/
def named (publisher name dir : String) (builtin : Bool) : Extension :=
  { id := ⟨publisher ++ "." ++ name⟩
    builtin
    underDevelopment := !builtin
    location := Resource.file dir
    manifest := [("name", .str name), ("publisher", .str publisher)] }

/-- A directory with such a manifest holds the extension. -/
theorem holds_withManifest {id : Nat} {text publisher name dir path : String} {builtin : Bool} (place : List String)
    (hdir : someDisk.at? place = some (withManifest id text))
    (hpaths : Disk.IsPlain (Path.join dir "package.json") ∧ Disk.IsPlain (Path.join dir "package.nls.json"))
    (hparts : Disk.partsOf (Path.join dir "package.json") = place ++ ["package.json"] ∧
      Disk.partsOf (Path.join dir "package.nls.json") = place ++ ["package.nls.json"])
    (htext : Utf8.decode? (Blob.toBytes text.toUTF8) = some text)
    (hparse : Json.parse? text = some (.obj [("name", .str name), ("publisher", .str publisher)])) :
    Holds someDisk ⟨"en", path, builtin, !builtin⟩ dir (named publisher name dir builtin) := by
  have hmanifest : Describes someDisk (Path.join dir "package.json")
      [("name", .str name), ("publisher", .str publisher)] :=
    ⟨_, id, _, text, Disk.find?_of_plain hpaths.1 hparts.1 hdir rfl nofun, htext, hparse⟩
  have hmissing : ∀ other ∈ messageFiles dir "en", ∀ fields, ¬ Describes someDisk other fields := by
    rintro other hother fields ⟨there, _, _, _, hfind, -, -⟩
    obtain rfl := List.mem_singleton.1 hother
    rw [Disk.find?_of_plain_missing hpaths.2 hparts.2 hdir rfl] at hfind
    cases hfind
  exact ⟨⟨_, publisher, name, _, hmanifest, rfl, rfl, rfl, .plain hmissing, rfl⟩, rfl, rfl, rfl⟩

theorem subdirs_server : Subdirs someDisk "/b" ["/b/lua"] := by
  have hparts : Disk.partsOf "/b" = [] ++ ["b"] := by decide
  exact ⟨⟨_, _, Disk.find?_of_plain (by decide) hparts rfl rfl nofun, .of_eq (by decide)⟩, by decide⟩

theorem subdirs_installed : Subdirs someDisk "/i" ["/i/css", "/i/empty", "/i/lua"] := by
  have hparts : Disk.partsOf "/i" = [] ++ ["i"] := by decide
  exact ⟨⟨_, _, Disk.find?_of_plain (by decide) hparts rfl rfl nofun, .of_eq (by decide)⟩, by decide⟩

/-- What is found there, without the directory that cannot be searched. -/
theorem found_someDisk : Found somePlace "en" someDisk someFaults
    [named "M" "L" "/b/lua" true, named "w" "c" "/i/css" false, named "m" "l" "/i/lua" false] := by
  have hserver : Finds someDisk ⟨"en", "/b", true, false⟩ [named "M" "L" "/b/lua" true] :=
    .found subdirs_server (.found
      (holds_withManifest ["b", "lua"] rfl (by decide) (by decide) (by decide +kernel)
        (by decide +kernel)) .nil)
  have hcss : Holds someDisk ⟨"en", "/i", false, true⟩ "/i/css" (named "w" "c" "/i/css" false) :=
    holds_withManifest ["i", "css"] rfl (by decide) (by decide) (by decide +kernel) (by decide +kernel)
  have hlua : Holds someDisk ⟨"en", "/i", false, true⟩ "/i/lua" (named "m" "l" "/i/lua" false) :=
    holds_withManifest ["i", "lua"] rfl (by decide) (by decide) (by decide +kernel) (by decide +kernel)
  have hempty : ∀ e, ¬ Holds someDisk ⟨"en", "/i", false, true⟩ "/i/empty" e := by
    rintro e ⟨⟨_, _, _, _, ⟨_, _, _, _, hfind, -⟩, -⟩, -, -, -⟩
    have hparts : Disk.partsOf (Path.join "/i/empty" "package.json") = ["i", "empty"] ++ ["package.json"] := by decide
    rw [Disk.find?_of_plain_missing (by decide) hparts rfl rfl] at hfind
    cases hfind
  have hinstalled : Finds someDisk ⟨"en", "/i", false, true⟩
      [named "w" "c" "/i/css" false, named "m" "l" "/i/lua" false] :=
    .found subdirs_installed (.found hcss (.none hempty (.found hlua .nil)))
  exact ⟨[[named "M" "L" "/b/lua" true], [],
    [named "w" "c" "/i/css" false, named "m" "l" "/i/lua" false]], rfl,
    .cons hserver (.cons rfl (.cons hinstalled .nil))⟩

/-- The extension of the server stays, whichever search ends first, and of the installed ones the other. -/
theorem first_of_each_identity_twiceLua :
    scanExtensions somePlace "en" someDisk someFaults [2, 1, 0] =
        some [named "M" "L" "/b/lua" true, named "w" "c" "/i/css" false] ∧
      scanExtensions somePlace "en" someDisk someFaults [2, 0] = none := by
  obtain ⟨found, hfound, hscan, -⟩ := first_of_each_identity somePlace "en" someDisk someFaults [2, 1, 0]
  obtain ⟨_, -, hwaits, -⟩ := first_of_each_identity somePlace "en" someDisk someFaults [2, 0]
  obtain rfl := (hfound _).1 found_someDisk
  obtain ⟨hserver, hcss, hlua⟩ : (named "M" "L" "/b/lua" true).id.key = "m.l" ∧
      (named "w" "c" "/i/css" false).id.key = "w.c" ∧ (named "m" "l" "/i/lua" false).id.key = "m.l" := by
    decide +kernel
  constructor
  · rw [hscan, if_pos (by decide)]
    simp [firstOccurrences, isFirst, hserver, hcss, hlua]
  · rw [hwaits, if_neg (by decide)]

end Example

end ExtensionChannel
end Workbench

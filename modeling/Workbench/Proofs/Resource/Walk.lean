import Mathlib.Data.List.Forall2
import Workbench.Resource.Addressing

/-!
Readdressing the resources inside a value.  A value is left as it is around its outermost resources: an
object that is not marked as one, or does not read as one, keeps its fields, and what is changed inside it
does not make it a resource or stop it from being none.  So what one mapping does the other takes back.
-/

namespace Workbench.Addressing

open Resource

/-- The resource that a value is marked as and reads as. -/
def resource? (v : Json) : Option Resource := if isMarked v then (Resource.ofJson v).toOption else none

theorem resource?_eq_some_iff {v : Json} {r : Resource} :
    resource? v = some r ↔ isMarked v = true ∧ Resource.ofJson v = .ok r := by
  rw [resource?]
  split
  · next hmarked =>
      cases hread : Resource.ofJson v with
      | ok read => simp [Except.toOption, hmarked]
      | error fault => simp [Except.toOption]
  · next hmarked => simp [hmarked]

mutual
/-- The outermost resources inside a value, as they stand there. -/
def outermost : Json → List Json
  | .arr items => outermostItems items
  | .obj fields => if (resource? (.obj fields)).isSome then [.obj fields] else outermostFields fields
  | _ => []

def outermostItems : List Json → List Json
  | [] => []
  | v :: rest => outermost v ++ outermostItems rest

def outermostFields : List (String × Json) → List Json
  | [] => []
  | (_, v) :: rest => outermost v ++ outermostFields rest
end

/-- A way into a value. -/
inductive Step where
  | item (i : Nat)
  | field (key : String)

/-- The value to which some steps lead; no step leads into a resource. -/
def inside? : Json → List Step → Option Json
  | v, [] => some v
  | .arr items, .item i :: path => items[i]?.bind fun v => inside? v path
  | .obj fields, .field key :: path =>
    if (resource? (.obj fields)).isSome then none
    else (Json.Fields.get? fields key).bind fun v => inside? v path
  | _, _ => none

section Marks

variable (f : Resource → Resource)

theorem readdressed?_eq (v : Json) : readdressed? f v = (resource? v).map fun r => (f r).toJson := by
  rw [readdressed?, resource?]
  split
  · cases Resource.ofJson v <;> rfl
  · rfl

theorem readdressItems_eq_map (items : List Json) :
    readdressItems f items = items.map (readdressJson f) := by
  induction items with
  | nil => rfl
  | cons v rest ih => rw [readdressItems, ih, List.map_cons]

theorem readdressFields_eq_map (fields : List (String × Json)) :
    readdressFields f fields = fields.map fun e => (e.1, readdressJson f e.2) := by
  induction fields with
  | nil => rfl
  | cons e rest ih => rw [readdressFields, ih, List.map_cons]

theorem readdressJson_resource {fields : List (String × Json)} {r : Resource}
    (hresource : resource? (.obj fields) = some r) : readdressJson f (.obj fields) = (f r).toJson := by
  rw [readdressJson, readdressed?_eq, hresource]
  rfl

theorem readdressJson_other {fields : List (String × Json)} (hresource : resource? (.obj fields) = none) :
    readdressJson f (.obj fields) = .obj (fields.map fun e => (e.1, readdressJson f e.2)) := by
  rw [readdressJson, readdressed?_eq, hresource, readdressFields_eq_map]
  rfl

/-- Objects become objects. -/
theorem readdressJson_obj (fields : List (String × Json)) :
    ∃ fields', readdressJson f (.obj fields) = .obj fields' := by
  cases hresource : resource? (.obj fields) with
  | some r => exact ⟨_, readdressJson_resource f hresource⟩
  | none => exact ⟨_, readdressJson_other f hresource⟩

@[simp] theorem str?_readdressJson (v : Json) : (readdressJson f v).str? = v.str? := by
  cases v with
  | obj fields =>
      obtain ⟨fields', heq⟩ := readdressJson_obj f fields
      rw [heq]
      rfl
  | _ => rfl

@[simp] theorem nat?_readdressJson (v : Json) : (readdressJson f v).nat? = v.nat? := by
  cases v with
  | obj fields =>
      obtain ⟨fields', heq⟩ := readdressJson_obj f fields
      rw [heq]
      rfl
  | _ => rfl

theorem get?_map (fields : Json.Fields) (g : Json → Json) (key : String) :
    Json.Fields.get? (fields.map fun e => (e.1, g e.2)) key = (fields.get? key).map g := by
  simp only [Json.Fields.get?, List.find?_map, Option.map_map]
  rfl

theorem isMarked_readdressFields (fields : List (String × Json)) :
    isMarked (.obj (fields.map fun e => (e.1, readdressJson f e.2))) = isMarked (.obj fields) := by
  simp only [isMarked, Json.get?, get?_map, Option.bind_map, Function.comp_def, str?_readdressJson,
    nat?_readdressJson]

end Marks

section Reading

/-- Fields with the same keys and the same texts; what is no text may differ. -/
def SameTexts (fields fields' : List (String × Json)) : Prop :=
  List.Forall₂ (fun e e' => e.1 = e'.1 ∧ ∀ s, e.2 = .str s → e'.2 = .str s) fields fields'

/-- A check that lets nothing but texts pass. -/
def TextsOnly (c : FieldCheck) : Prop := ∀ v, c.check .direct (.ofJson v) = .ok () → ∃ s, v = .str s

theorem textsOnly_of_text {field : Field String} (hshape : field.shape = Shape.text) :
    TextsOnly field.check := by
  intro v hcheck
  simp only [Field.check, hshape] at hcheck
  cases v with
  | str s => exact ⟨s, rfl⟩
  | _ => cases hcheck

/-- When only texts are asked for, all that is read is read from the same texts. -/
theorem ofEntries_sameTexts {checks : List FieldCheck} (hchecks : ∀ c ∈ checks, TextsOnly c)
    {fields fields' : List (String × Json)} (hsame : SameTexts fields fields')
    {found : List (String × Datum)} {r : Record}
    (hread : Record.ofEntries .direct checks found (Datum.ofFields fields) = .ok r) :
    Record.ofEntries .direct checks found (Datum.ofFields fields') = .ok r := by
  induction hsame generalizing found with
  | nil => exact hread
  | @cons e e' fields fields' he _ ih =>
      obtain ⟨key, v⟩ := e
      obtain ⟨key', v'⟩ := e'
      obtain ⟨rfl, hv⟩ : key = key' ∧ ∀ s, v = .str s → v' = .str s := he
      simp only [Datum.ofFields, Record.ofEntries, Record.field?, bind, Except.bind] at hread ⊢
      cases hfind : checks.find? (·.name == key) with
      | none =>
          rw [hfind] at hread
          exact ih hread
      | some c =>
          rw [hfind] at hread
          simp only at hread ⊢
          split at hread
          · cases hread
          · next hnew =>
              rw [if_neg hnew]
              split at hread
              · cases hread
              · next hcheck =>
                  obtain ⟨s, rfl⟩ := hchecks c (List.mem_of_find?_eq_some hfind) v hcheck
                  rw [hv s rfl]
                  simp only [hcheck]
                  exact ih hread

theorem ofJson_sameTexts {fields fields' : List (String × Json)} (hsame : SameTexts fields fields')
    {r : Resource} (hread : Resource.ofJson (.obj fields) = .ok r) :
    Resource.ofJson (.obj fields') = .ok r := by
  have hchecks : ∀ c ∈ [schemeField.check, authorityField.check, pathField.check, queryField.check,
      fragmentField.check], TextsOnly c := by
    intro c hc
    simp only [List.mem_cons, List.not_mem_nil, or_false] at hc
    rcases hc with rfl | rfl | rfl | rfl | rfl <;> exact textsOnly_of_text rfl
  simp only [Resource.ofJson, Shape.ofJson, Datum.ofJson, shape, Shape.record, bind, Except.bind] at hread ⊢
  split at hread
  · cases hread
  · next record hrecord =>
      rw [ofEntries_sameTexts hchecks hsame hrecord]
      exact hread

/-- What a walk changes inside an object that is no resource does not make it one. -/
theorem resource?_readdressFields (f : Resource → Resource) (fields : List (String × Json)) :
    resource? (.obj (fields.map fun e => (e.1, readdressJson f e.2))) = resource? (.obj fields) := by
  have hto : SameTexts fields (fields.map fun e => (e.1, readdressJson f e.2)) := by
    rw [SameTexts, List.forall₂_map_right_iff, List.forall₂_same]
    rintro e - 
    refine ⟨rfl, fun s hs => ?_⟩
    rw [hs]
    rfl
  have hback : SameTexts (fields.map fun e => (e.1, readdressJson f e.2)) fields := by
    rw [SameTexts, List.forall₂_map_left_iff, List.forall₂_same]
    rintro e -
    refine ⟨rfl, fun s hs => ?_⟩
    have hstr := congrArg Json.str? hs
    rw [str?_readdressJson] at hstr
    cases hv : e.2 with
    | str s' =>
        rw [hv] at hstr
        exact congrArg Json.str (Option.some.inj hstr)
    | _ =>
        rw [hv] at hstr
        cases hstr
  ext r
  rw [resource?_eq_some_iff, resource?_eq_some_iff, isMarked_readdressFields]
  exact and_congr_right fun _ => ⟨ofJson_sameTexts hback, ofJson_sameTexts hto⟩

/-- What a resource is written as is marked and reads as the resource. -/
theorem resource?_toJson (r : Resource) : resource? r.toJson = some r := by
  obtain ⟨scheme, authority, path, query, fragment⟩ := r
  rw [resource?_eq_some_iff]
  -- three fields may be left out
  by_cases hauthority : authority = "" <;> by_cases hquery : query = "" <;>
    by_cases hfragment : fragment = "" <;>
    simp only [toJson, textField, hauthority, hquery, hfragment, ↓reduceIte] <;>
    exact ⟨rfl, rfl⟩

theorem readdressJson_toJson (f : Resource → Resource) (r : Resource) :
    readdressJson f r.toJson = (f r).toJson := readdressJson_resource f (resource?_toJson r)

end Reading

section RoundTrip

variable {f g : Resource → Resource}

mutual
/-- Where every outermost resource is written as resources are, what one mapping does to resources and another
takes back is taken back in the whole value. -/
theorem readdressJson_readdressJson (v : Json)
    (hcanonical : ∀ o ∈ outermost v, ∃ r : Resource, o = r.toJson ∧ g (f r) = r) :
    readdressJson g (readdressJson f v) = v := by
  match v with
  | .null | .bool _ | .int _ | .double _ | .str _ => rfl
  | .arr items =>
      rw [readdressJson, readdressJson, readdressItems_readdressItems items hcanonical]
  | .obj fields =>
      rw [outermost] at hcanonical
      cases hresource : resource? (.obj fields) with
      | some r =>
          simp only [hresource, Option.isSome_some, ↓reduceIte, List.mem_singleton, forall_eq] at hcanonical
          obtain ⟨r, heq, hback⟩ := hcanonical
          rw [heq, readdressJson_toJson, readdressJson_toJson, hback]
      | none =>
          simp only [hresource, Option.isSome_none, Bool.false_eq_true, ↓reduceIte] at hcanonical
          have hstill := (resource?_readdressFields f fields).trans hresource
          rw [readdressJson_other f hresource, readdressJson_other g hstill, ← readdressFields_eq_map,
            ← readdressFields_eq_map, readdressFields_readdressFields fields hcanonical]

theorem readdressItems_readdressItems (items : List Json)
    (hcanonical : ∀ o ∈ outermostItems items, ∃ r : Resource, o = r.toJson ∧ g (f r) = r) :
    readdressItems g (readdressItems f items) = items := by
  match items with
  | [] => rfl
  | v :: rest =>
      simp only [outermostItems, List.mem_append] at hcanonical
      rw [readdressItems, readdressItems, readdressJson_readdressJson v fun o ho => hcanonical o (.inl ho),
        readdressItems_readdressItems rest fun o ho => hcanonical o (.inr ho)]

theorem readdressFields_readdressFields (fields : List (String × Json))
    (hcanonical : ∀ o ∈ outermostFields fields, ∃ r : Resource, o = r.toJson ∧ g (f r) = r) :
    readdressFields g (readdressFields f fields) = fields := by
  match fields with
  | [] => rfl
  | (key, v) :: rest =>
      simp only [outermostFields, List.mem_append] at hcanonical
      rw [readdressFields, readdressFields, readdressJson_readdressJson v fun o ho => hcanonical o (.inl ho),
        readdressFields_readdressFields rest fun o ho => hcanonical o (.inr ho)]
end

/-- Steps that lead to a value lead to what it becomes. -/
theorem inside?_readdressJson (v : Json) (path : List Step) :
    inside? (readdressJson f v) path = (inside? v path).map (readdressJson f) := by
  induction path generalizing v with
  | nil => simp only [inside?, Option.map_some]
  | cons step path ih =>
      cases v with
      | arr items =>
          rw [readdressJson, readdressItems_eq_map]
          cases step with
          | item i =>
              rw [inside?, inside?, List.getElem?_map]
              cases items[i]? with
              | none => rfl
              | some v => exact ih v
          | field key => simp [inside?]
      | obj fields =>
          cases hresource : resource? (.obj fields) with
          | some r =>
              -- neither the resource nor what it becomes is looked into
              have hstill := resource?_toJson (f r)
              rw [readdressJson_resource f hresource]
              obtain ⟨fields', heq⟩ : ∃ fields', (f r).toJson = .obj fields' := ⟨_, rfl⟩
              rw [heq] at hstill ⊢
              cases step <;> simp [inside?, hresource, hstill]
          | none =>
              have hstill := (resource?_readdressFields f fields).trans hresource
              rw [readdressJson_other f hresource]
              cases step with
              | item i => simp [inside?]
              | field key =>
                  simp only [inside?, hresource, hstill, Option.isSome_none, Bool.false_eq_true, ↓reduceIte,
                    get?_map]
                  cases Json.Fields.get? fields key with
                  | none => rfl
                  | some v => exact ih v
      | _ => simp [readdressJson, inside?]

end RoundTrip

/-- Resources that a client sends: remote ones of the connection, its own files, and what neither mapping
concerns. -/
def FromClient (a : Addressing) (r : Resource) : Prop :=
  r.scheme = remoteScheme ∧ r.authority = a.authority ∨ r.scheme = fileScheme ∧ r.authority = "" ∨
    r.scheme ≠ fileScheme ∧ r.scheme ≠ remoteScheme ∧ r.scheme ≠ localScheme

/-- Resources that the server sends: its files, those of the client, and what neither mapping concerns. -/
def FromServer (r : Resource) : Prop :=
  (r.scheme = fileScheme ∨ r.scheme = localScheme) ∧ r.authority = "" ∨
    r.scheme ≠ fileScheme ∧ r.scheme ≠ remoteScheme ∧ r.scheme ≠ localScheme

theorem outgoing_incoming {a : Addressing} {r : Resource} (hclient : a.FromClient r) :
    a.outgoing (a.incoming r) = r := by
  obtain ⟨scheme, authority, path, query, fragment⟩ := r
  rcases hclient with ⟨rfl, rfl⟩ | ⟨rfl, rfl⟩ | ⟨hfile, hremote, hlocal⟩
  · rfl
  · rfl
  · simp only at hfile hremote hlocal
    simp only [incoming, outgoing, hfile, hremote, hlocal, ↓reduceIte]

theorem incoming_outgoing {a : Addressing} {r : Resource} (hserver : FromServer r) :
    a.incoming (a.outgoing r) = r := by
  obtain ⟨scheme, authority, path, query, fragment⟩ := r
  rcases hserver with ⟨rfl | rfl, rfl⟩ | ⟨hfile, hremote, hlocal⟩
  · rfl
  · rfl
  · simp only at hfile hremote hlocal
    simp only [incoming, outgoing, hfile, hremote, hlocal, ↓reduceIte]

/-- A value that holds no other values. -/
def IsSimple (v : Json) : Prop := (∀ items, v ≠ .arr items) ∧ ∀ fields, v ≠ .obj fields

theorem readdressJson_simple (f : Resource → Resource) {v : Json} (hsimple : IsSimple v) :
    readdressJson f v = v := by
  cases v with
  | arr items => exact absurd rfl (hsimple.1 items)
  | obj fields => exact absurd rfl (hsimple.2 fields)
  | _ => rfl

/-- What the outgoing mapping does to a value after the incoming one, and the incoming after the outgoing, when
every outermost resource in it is written as resources are: nothing, if all are a client's, or the server's.
At any depth, an object that is not marked as a resource or does not read as one keeps its keys and all
that is simple, and is only changed inside. -/
theorem mappings_undo_each_other (a : Addressing) (v : Json) :
    ((∀ o ∈ outermost v, ∃ r : Resource, o = r.toJson ∧ a.FromClient r) →
      a.outgoingJson (a.incomingJson v) = v) ∧
    ((∀ o ∈ outermost v, ∃ r : Resource, o = r.toJson ∧ FromServer r) →
      a.incomingJson (a.outgoingJson v) = v) ∧
    ∀ walk, walk = a.incomingJson ∨ walk = a.outgoingJson →
      ∀ path fields, inside? v path = some (.obj fields) →
        (isMarked (.obj fields) = false ∨ ∃ fault, Resource.ofJson (.obj fields) = .error fault) →
        inside? (walk v) path = some (.obj (fields.map fun e => (e.1, walk e.2))) ∧
          ∀ e ∈ fields, IsSimple e.2 → walk e.2 = e.2 := by
  refine ⟨fun hclient => ?_, fun hserver => ?_, ?_⟩
  · refine readdressJson_readdressJson v fun o ho => ?_
    obtain ⟨r, heq, hr⟩ := hclient o ho
    exact ⟨r, heq, outgoing_incoming hr⟩
  · refine readdressJson_readdressJson v fun o ho => ?_
    obtain ⟨r, heq, hr⟩ := hserver o ho
    exact ⟨r, heq, incoming_outgoing hr⟩
  · intro walk hwalk path fields hinside hother
    have hresource : resource? (.obj fields) = none := by
      rw [Option.eq_none_iff_forall_ne_some]
      intro r hr
      obtain ⟨hmarked, hread⟩ := resource?_eq_some_iff.1 hr
      rcases hother with hunmarked | ⟨fault, hfault⟩
      · rw [hunmarked] at hmarked
        cases hmarked
      · rw [hfault] at hread
        cases hread
    obtain ⟨f, rfl⟩ : ∃ f, walk = readdressJson f := by
      rcases hwalk with rfl | rfl
      · exact ⟨a.incoming, rfl⟩
      · exact ⟨a.outgoing, rfl⟩
    refine ⟨?_, fun e _ hsimple => readdressJson_simple f hsimple⟩
    rw [inside?_readdressJson, hinside, Option.map_some, readdressJson_other f hresource]

/-- A connection, and what a client sends over it: a resource of the server beside an object that is not marked, with a
file of the client in it. -/
def someAddressing : Addressing := ⟨"host:1", ⟨"/app", "/content", "/user"⟩⟩

def remoteAndOwn (remote own : Resource) : Json :=
  .arr [remote.toJson, .obj [("link", own.toJson), ("scheme", .str "file")]]

theorem mappings_undo_each_other_remoteAndOwn :
    let sent := remoteAndOwn ⟨"vscode-remote", "host:1", "/a", "", ""⟩ ⟨"file", "", "/b", "", ""⟩
    let kept := remoteAndOwn ⟨"file", "", "/a", "", ""⟩ ⟨"vscode-local", "", "/b", "", ""⟩
    someAddressing.incomingJson sent = kept ∧ someAddressing.outgoingJson kept = sent ∧
      someAddressing.incomingJson (someAddressing.outgoingJson kept) = kept ∧
      inside? kept [.item 1] = some (.obj [
        ("link", someAddressing.incomingJson (Resource.toJson ⟨"file", "", "/b", "", ""⟩)),
        ("scheme", someAddressing.incomingJson (.str "file"))]) := by
  intro sent kept
  have hkept : someAddressing.incomingJson sent = kept := by decide +kernel
  have hsent : outermost sent =
      [Resource.toJson ⟨"vscode-remote", "host:1", "/a", "", ""⟩, Resource.toJson ⟨"file", "", "/b", "", ""⟩] := by
    decide +kernel
  have hclient : ∀ o ∈ outermost sent, ∃ r : Resource, o = r.toJson ∧ someAddressing.FromClient r := by
    rw [hsent, List.forall_mem_cons, List.forall_mem_singleton]
    exact ⟨⟨_, rfl, .inl ⟨rfl, rfl⟩⟩, ⟨_, rfl, .inr (.inl ⟨rfl, rfl⟩)⟩⟩
  have hstored : outermost kept =
      [Resource.toJson ⟨"file", "", "/a", "", ""⟩, Resource.toJson ⟨"vscode-local", "", "/b", "", ""⟩] := by
    decide +kernel
  have hserver : ∀ o ∈ outermost kept, ∃ r : Resource, o = r.toJson ∧ FromServer r := by
    rw [hstored, List.forall_mem_cons, List.forall_mem_singleton]
    exact ⟨⟨_, rfl, .inl ⟨.inl rfl, rfl⟩⟩, ⟨_, rfl, .inl ⟨.inr rfl, rfl⟩⟩⟩
  obtain ⟨hback, -, hinside⟩ := mappings_undo_each_other someAddressing sent
  obtain ⟨-, hforth, -⟩ := mappings_undo_each_other someAddressing kept
  have hobject : inside? sent [.item 1] =
      some (.obj [("link", Resource.toJson ⟨"file", "", "/b", "", ""⟩), ("scheme", .str "file")]) := rfl
  obtain ⟨hmapped, -⟩ := hinside _ (.inl rfl) [.item 1] _ hobject (.inl (by decide +kernel))
  rw [hkept] at hmapped
  have hundone := hback hclient
  rw [hkept] at hundone
  exact ⟨hkept, hundone, hforth hserver, hmapped⟩

/-- An object with a resource for an authority reads as none; the resource in it is readdressed. -/
example :
    let a : Addressing := ⟨"host:1", ⟨"/app", "/content", "/user"⟩⟩
    let around (r : Resource) : Json :=
      .obj [("$mid", Json.nat 1), ("authority", r.toJson), ("scheme", .str "file")]
    a.incomingJson (around { scheme := "vscode-remote", authority := "host:1", path := "/a" }) =
      around { scheme := "file", path := "/a" } := by
  decide +kernel

end Workbench.Addressing

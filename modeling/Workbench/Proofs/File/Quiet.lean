import Workbench.Channel.File
import Workbench.File.Rehearsal
import Workbench.Proofs.Lists
import Workbench.Proofs.Path.Parent

/-!
Which failures a file channel keeps to itself.  It looks for a quiet configuration file among all the
values of a call, whatever the command makes of them: also where a command has no parameter for a
resource, and where there is no such command.
-/

namespace Workbench

/-- The path of a quiet configuration file: one of their names in a `.vscode` directory. -/
def EndsQuiet (path : String) : Prop :=
  ∃ name ∈ quietNames, [.normal ".vscode", .normal name] <:+ Path.components path

/-- A value that is a resource at the path of a quiet configuration file. -/
def LeadsQuiet (a : Addressing) (v : Json) : Prop :=
  ∃ r, Resource.ofJson v = .ok r ∧ EndsQuiet (a.resolve r).fsPath

/-- Some value of a call leads to a quiet configuration file. -/
def GivesQuiet (a : Addressing) (args : Json) : Prop := ∃ v ∈ givenValues args, LeadsQuiet a v

section Paths

theorem Path.fileName?_eq_some_iff {path name : String} :
    fileName? path = some name ↔ (components path).getLast? = some (.normal name) := by
  rw [fileName?]
  split
  · next found heq => simp [heq]
  · next hnone =>
    constructor
    · simp
    · exact fun h => absurd h (hnone name)

theorem isQuietConfig_iff (path : String) : isQuietConfig path = true ↔ EndsQuiet path := by
  have habove := Path.map_components_parent? path
  rw [isQuietConfig, Bool.and_eq_true, beq_iff_eq]
  constructor
  · rintro ⟨hparent, hname⟩
    obtain ⟨above, hup, habove'⟩ := Option.bind_eq_some_iff.1 hparent
    cases hfile : Path.fileName? path with
    | none => simp [hfile] at hname
    | some name =>
        rw [hfile] at hname
        have hlast := Path.fileName?_eq_some_iff.1 hfile
        rw [hlast, hup] at habove
        obtain ⟨before, hbefore⟩ := List.getLast?_eq_some_iff.1 hlast
        obtain ⟨start, hstart⟩ := List.getLast?_eq_some_iff.1 (Path.fileName?_eq_some_iff.1 habove')
        have hbefore' : before = start ++ [.normal ".vscode"] := by
          have heq : Path.components above = before := by simpa [hbefore] using habove
          rw [← heq, hstart]
        refine ⟨name, by simpa using hname, start, ?_⟩
        rw [hbefore, hbefore']
        simp
  · rintro ⟨name, hname, start, hcomponents⟩
    have hsplit : Path.components path = (start ++ [.normal ".vscode"]) ++ [.normal name] := by
      rw [← hcomponents]
      simp
    have hlast : (Path.components path).getLast? = some (.normal name) := by
      rw [hsplit, List.getLast?_concat]
    rw [hlast, hsplit, List.dropLast_concat] at habove
    obtain ⟨above, hup, habove⟩ := Option.map_eq_some_iff.1 habove
    refine ⟨?_, ?_⟩
    · rw [hup, Option.bind_some, Path.fileName?_eq_some_iff, habove, List.getLast?_concat]
    · rw [Path.fileName?_eq_some_iff.2 hlast]
      simpa using hname

instance (path : String) : Decidable (EndsQuiet path) := decidable_of_iff _ (isQuietConfig_iff path)

instance (a : Addressing) (v : Json) : Decidable (LeadsQuiet a v) :=
  match h : Resource.ofJson v with
  | .ok r => decidable_of_iff (EndsQuiet (a.resolve r).fsPath) (by simp [LeadsQuiet, h])
  | .error e => .isFalse (by simp [LeadsQuiet, h])

instance (a : Addressing) (args : Json) : Decidable (GivesQuiet a args) :=
  inferInstanceAs (Decidable (∃ v ∈ givenValues args, LeadsQuiet a v))

theorem touchesQuietConfig_iff (a : Addressing) (args : Json) :
    touchesQuietConfig a args = true ↔ GivesQuiet a args := by
  rw [touchesQuietConfig, List.any_eq_true]
  refine exists_congr fun v => and_congr_right fun _ => ?_
  rw [LeadsQuiet]
  cases hresource : Resource.ofJson v with
  | error e => simp
  | ok r => simp [isQuietConfig_iff]

end Paths

namespace FileRequest

/-- The parameters of a command that are resources. -/
def Command.resources : Command → List Parameter
  | .stat | .openFile | .readFile | .writeFile | .delete | .makeDir | .readDir => [resourceAt]
  | .rename | .copy => [resourceAt, targetAt]
  | .watch => [watchedAt]
  | .close | .read | .write | .unwatch => []

/-- The local paths that a request is about. -/
def paths (a : Addressing) : FileRequest → List String
  | .stat path | .openFile path _ | .readFile path | .writeFile path _ _ | .delete path _ => [path]
  | .makeDir path | .readDir path => [path]
  | .rename source target _ | .copy source target _ => [source, target]
  | .watch _ _ addressed _ => [(a.resolve addressed).fsPath]
  | .close _ | .read _ _ _ | .write _ _ _ | .unwatch _ _ => []

variable {a : Addressing} {c : Command} {args : Json} {request : FileRequest}

theorem localPath_eq_ok {q : Parameter} {path : String} : localPath a q args = .ok path ↔
    ∃ v r, q.given? args = some v ∧ Resource.ofJson v = .ok r ∧ (a.resolve r).fsPath = path := by
  rw [localPath, bind_eq_ok]
  constructor
  · rintro ⟨r, hr, hpath⟩
    cases hpath
    rw [Parameter.resource] at hr
    split at hr
    · next v hv => exact ⟨v, r, hv, hr, rfl⟩
    · cases hr
  · rintro ⟨v, r, hv, hr, rfl⟩
    exact ⟨r, by rw [Parameter.resource, hv]; exact hr, rfl⟩

/-- A request is about the resources that its command has parameters for. -/
theorem paths_ofCommand (h : ofCommand a c args = .ok request) :
    request.paths a = c.resources.filterMap fun q => (localPath a q args).toOption := by
  cases c with
  | stat | readFile | makeDir | readDir =>
      obtain ⟨path, hpath, hrequest⟩ := bind_eq_ok.1 h
      cases hrequest
      simp [paths, Command.resources, hpath, Except.toOption]
  | openFile | delete =>
      obtain ⟨options, -, h⟩ := bind_eq_ok.1 h
      obtain ⟨path, hpath, hrequest⟩ := bind_eq_ok.1 h
      cases hrequest
      simp [paths, Command.resources, hpath, Except.toOption]
  | writeFile =>
      obtain ⟨path, hpath, h⟩ := bind_eq_ok.1 h
      obtain ⟨data, -, h⟩ := bind_eq_ok.1 h
      obtain ⟨options, -, hrequest⟩ := bind_eq_ok.1 h
      cases hrequest
      simp [paths, Command.resources, hpath, Except.toOption]
  | rename | copy =>
      obtain ⟨source, hsource, h⟩ := bind_eq_ok.1 h
      obtain ⟨target, htarget, h⟩ := bind_eq_ok.1 h
      obtain ⟨overwrite, -, hrequest⟩ := bind_eq_ok.1 h
      cases hrequest
      simp [paths, Command.resources, hsource, htarget, Except.toOption]
  | watch =>
      obtain ⟨session, -, h⟩ := bind_eq_ok.1 h
      obtain ⟨number, -, h⟩ := bind_eq_ok.1 h
      obtain ⟨addressed, haddressed, h⟩ := bind_eq_ok.1 h
      obtain ⟨options, -, hrequest⟩ := bind_eq_ok.1 h
      cases hrequest
      have hpath : localPath a watchedAt args = .ok (a.resolve addressed).fsPath := by
        rw [localPath, haddressed]
        rfl
      simp [paths, Command.resources, hpath, Except.toOption]
  | close =>
      obtain ⟨fd, -, hrequest⟩ := bind_eq_ok.1 h
      cases hrequest
      rfl
  | read =>
      obtain ⟨fd, -, h⟩ := bind_eq_ok.1 h
      obtain ⟨pos, -, h⟩ := bind_eq_ok.1 h
      obtain ⟨length, -, hrequest⟩ := bind_eq_ok.1 h
      cases hrequest
      rfl
  | write =>
      obtain ⟨fd, -, h⟩ := bind_eq_ok.1 h
      obtain ⟨pos, -, h⟩ := bind_eq_ok.1 h
      obtain ⟨data, -, h⟩ := bind_eq_ok.1 h
      obtain ⟨offset, -, h⟩ := bind_eq_ok.1 h
      obtain ⟨length, -, hrequest⟩ := bind_eq_ok.1 h
      cases hrequest
      rfl
  | unwatch =>
      obtain ⟨session, -, h⟩ := bind_eq_ok.1 h
      obtain ⟨number, -, hrequest⟩ := bind_eq_ok.1 h
      cases hrequest
      rfl

/-- One of the resources that a command has parameters for leads to a quiet configuration file. -/
def Command.NamesQuiet (c : Command) (a : Addressing) (args : Json) : Prop :=
  ∃ q ∈ c.resources, ∃ v ∈ q.given? args, LeadsQuiet a v

/-- A value of a call leads to a quiet configuration file and is none of the command's resources. -/
def Command.StraysQuiet (c : Command) (a : Addressing) (args : Json) : Prop :=
  ∃ v ∈ givenValues args, LeadsQuiet a v ∧ ∀ q ∈ c.resources, q.given? args ≠ some v

instance (c : Command) (a : Addressing) (args : Json) : Decidable (c.NamesQuiet a args) :=
  inferInstanceAs (Decidable (∃ q ∈ c.resources, ∃ v ∈ q.given? args, LeadsQuiet a v))

instance (c : Command) (a : Addressing) (args : Json) : Decidable (c.StraysQuiet a args) :=
  inferInstanceAs (Decidable (∃ v ∈ givenValues args, LeadsQuiet a v ∧ ∀ q ∈ c.resources, q.given? args ≠ some v))

/-- What is given for a parameter is among the values given. -/
theorem given?_mem_givenValues {q : Parameter} {v : Json} (h : q.given? args = some v) :
    v ∈ givenValues args := by
  unfold Parameter.given? at h
  split at h
  · exact List.mem_of_getElem? h
  · obtain ⟨field, hfield, rfl⟩ := Option.map_eq_some_iff.1 h
    exact List.mem_map_of_mem (List.mem_of_find?_eq_some hfield)
  · next harr hobj =>
    split at h
    · cases h
      cases args with
      | arr items => exact (harr items rfl).elim
      | obj fields => exact (hobj fields rfl).elim
      | _ => exact List.mem_singleton_self _
    · cases h

theorem givesQuiet_iff : GivesQuiet a args ↔ c.NamesQuiet a args ∨ c.StraysQuiet a args := by
  constructor
  · rintro ⟨v, hgiven, hquiet⟩
    by_cases hnamed : ∃ q ∈ c.resources, q.given? args = some v
    · obtain ⟨q, hq, hv⟩ := hnamed
      exact .inl ⟨q, hq, v, hv, hquiet⟩
    · exact .inr ⟨v, hgiven, hquiet, fun q hq hv => hnamed ⟨q, hq, hv⟩⟩
  · rintro (⟨q, -, v, hv, hquiet⟩ | ⟨v, hgiven, hquiet, -⟩)
    · exact ⟨v, given?_mem_givenValues hv, hquiet⟩
    · exact ⟨v, hgiven, hquiet⟩

/-- A request that can be read names a quiet configuration file exactly if it is about one. -/
theorem namesQuiet_iff (h : ofCommand a c args = .ok request) :
    c.NamesQuiet a args ↔ ∃ path ∈ request.paths a, EndsQuiet path := by
  rw [paths_ofCommand h]
  constructor
  · rintro ⟨q, hq, v, hv, r, hr, hquiet⟩
    have hpath : localPath a q args = .ok (a.resolve r).fsPath := localPath_eq_ok.2 ⟨v, r, hv, hr, rfl⟩
    exact ⟨_, List.mem_filterMap.2 ⟨q, hq, by rw [hpath]; rfl⟩, hquiet⟩
  · rintro ⟨path, hmem, hquiet⟩
    obtain ⟨q, hq, hpath⟩ := List.mem_filterMap.1 hmem
    cases hlocal : localPath a q args with
    | error e =>
        rw [hlocal] at hpath
        cases hpath
    | ok found =>
        rw [hlocal] at hpath
        cases hpath
        obtain ⟨v, r, hv, hr, rfl⟩ := localPath_eq_ok.1 hlocal
        exact ⟨q, hq, v, hv, r, hr, hquiet⟩

end FileRequest

namespace FileDesk

section Calls

variable {σ : Type} (p : FileProvider (StateM σ)) (ctx : ChannelContext) (command : String) (args : Json)
  (d : FileDesk) (host : σ)

/-- A call leaves behind what its request does, and passes on what comes of it. -/
theorem call_eq_dispatch : call p ctx command args d host =
    ((match (dispatch p ctx.addressing command args d host).1.1 with
      | .ok v => .ok v
      | .error e => if touchesQuietConfig ctx.addressing args then .ok .null else .error e,
      (dispatch p ctx.addressing command args d host).1.2),
    (dispatch p ctx.addressing command args d host).2) := by
  cases hdispatch : dispatch p ctx.addressing command args d host with
  | mk result host' =>
      obtain ⟨answer, rest⟩ := result
      simp only [call, bind, StateT.bind, hdispatch]
      cases answer with
      | ok v => rfl
      | error e => rfl

theorem dispatch_unknown (hcommand : FileRequest.Command.ofName? command = none) :
    dispatch p ctx.addressing command args d host = ((.error (.invalidCall command), d), host) := by
  rw [dispatch, FileRequest.ofCall, hcommand]
  rfl

/-- A call answers what its request does, but a failure becomes null if any value given leads to a quiet
configuration file.  A name that no command has is such a failure, with nothing done; so it is answered by
its fault exactly if no value leads there.  A command hides its failures for its own resources, which are
what its request is about, and for values that are none of them. -/
theorem failures_hidden_iff :
    (call p ctx command args d host).1.2 = (dispatch p ctx.addressing command args d host).1.2 ∧
    (call p ctx command args d host).2 = (dispatch p ctx.addressing command args d host).2 ∧
    (∀ v, (dispatch p ctx.addressing command args d host).1.1 = .ok v →
      (call p ctx command args d host).1.1 = .ok v) ∧
    (∀ e, (dispatch p ctx.addressing command args d host).1.1 = .error e →
      ((call p ctx command args d host).1.1 = .ok .null ↔ GivesQuiet ctx.addressing args) ∧
      ((call p ctx command args d host).1.1 = .error e ↔ ¬ GivesQuiet ctx.addressing args)) ∧
    match FileRequest.Command.ofName? command with
    | none =>
      call p ctx command args d host =
        ((if GivesQuiet ctx.addressing args then .ok .null else .error (.invalidCall command), d), host)
    | some c =>
      (GivesQuiet ctx.addressing args ↔
        c.NamesQuiet ctx.addressing args ∨ c.StraysQuiet ctx.addressing args) ∧
      ∀ request, FileRequest.ofCommand ctx.addressing c args = .ok request →
        (c.NamesQuiet ctx.addressing args ↔ ∃ path ∈ request.paths ctx.addressing, EndsQuiet path) := by
  rw [call_eq_dispatch]
  refine ⟨rfl, rfl, ?_, ?_, ?_⟩
  · intro v hv
    simp only [hv]
  · intro e he
    simp only [he]
    by_cases hquiet : GivesQuiet ctx.addressing args
    · simp [(touchesQuietConfig_iff ctx.addressing args).2 hquiet, hquiet]
    · have huntouched : touchesQuietConfig ctx.addressing args = false :=
        Bool.eq_false_iff.2 fun h => hquiet ((touchesQuietConfig_iff ctx.addressing args).1 h)
      simp [huntouched, hquiet]
  · split
    · next hcommand =>
      rw [dispatch_unknown p ctx command args d host hcommand]
      simp only [touchesQuietConfig_iff]
    · next c hcommand => exact ⟨FileRequest.givesQuiet_iff, fun request h => FileRequest.namesQuiet_iff h⟩

end Calls

/-- A file of the client's workspace, as a client names it. -/
def remoteFile (path : String) : Json := Json.ofPairs [("authority", .str "host:1"), ("path", .str path),
  ("scheme", .str "vscode-remote")]

/-- A call to a desk over a script that fails once. -/
def failingCall (command : String) (args : Json) : Outcome Json :=
  let ctx : ChannelContext := ⟨"host:1", ⟨"host:1", ⟨"/app", "/content", "/user"⟩⟩, "token"⟩
  (call (FileRehearsal.provider fun _ => ByteArray.empty) ctx command args {}
    { script := [.error (.io .notFound "gone")] }).1.1

/-- A name that no command has, and a command with a value that it has no parameter for, are answered by
null. -/
theorem stray_value_hides_failure :
    let a : Addressing := ⟨"host:1", ⟨"/app", "/content", "/user"⟩⟩
    let quiet := remoteFile "/w/.vscode/launch.json"
    FileRequest.Command.ofName? "chmod" = none ∧
      failingCall "chmod" (.arr [quiet]) = .ok .null ∧
      failingCall "chmod" (.arr []) = .error (.invalidCall "chmod") ∧
      FileRequest.Command.ofName? "stat" = some .stat ∧
      ¬ FileRequest.Command.stat.NamesQuiet a (.arr [remoteFile "/w/gone", quiet]) ∧
      failingCall "stat" (.arr [remoteFile "/w/gone", quiet]) = .ok .null ∧
      failingCall "stat" (.arr [remoteFile "/w/gone"]) = .error (.io .notFound "gone") := by
  refine ⟨by decide, ?_, ?_, by decide, ?_, ?_, ?_⟩
  all_goals decide +kernel

end FileDesk

end Workbench

import Mathlib.Data.List.Nodup
import Workbench.Channel.File
import Workbench.Channel.Logger
import Workbench.Channel.Telemetry
import Workbench.Channel.Terminal
import Workbench.Disk.Provider
import Workbench.Proofs.Lists
import Workbench.Terminal.Local

/-!
Arguments by position and by name.  A command reads its arguments through its parameters and in no other way, and
parameters find the same in values that stand in order as in values that stand under their names.  So both ways of
giving arguments have the same outcome, and the same is asked of what stands behind a channel.
-/

namespace Workbench

namespace Json.Fields

theorem get?_cons (field : String × Json) (fields : Fields) (key : String) :
    get? (field :: fields) key = if field.1 = key then some field.2 else get? fields key := by
  by_cases h : field.1 = key
  · simp [get?, h]
  · simp [get?, h]

theorem get?_insert (fields : Fields) (key : String) (value : Json) (other : String) :
    get? (insert fields key value) other = if key = other then some value else get? fields other := by
  induction fields with
  | nil => exact get?_cons (key, value) [] other
  | cons field fields ih => grind [insert, get?_cons]

/-- Of a key given twice the last value is found. -/
theorem get?_foldl_insert (pairs : List (String × Json)) (fields : Fields) (key : String) :
    get? (pairs.foldl (fun fields pair => insert fields pair.1 pair.2) fields) key =
      (lastOf? pairs key).or (get? fields key) := by
  induction pairs generalizing fields with
  | nil => rfl
  | cons pair pairs ih =>
      rw [List.foldl_cons, ih, get?_insert, lastOf?, Option.or_assoc]
      split
      · rfl
      · rfl

theorem get?_ofList (pairs : List (String × Json)) (key : String) : get? (ofList pairs) key = lastOf? pairs key := by
  rw [ofList, get?_foldl_insert]
  exact Option.or_none

/-- A new key is put among the fields. -/
theorem perm_insert {fields : Fields} {key : String} (h : key ∉ fields.map (·.1)) (value : Json) :
    (insert fields key value).Perm ((key, value) :: fields) := by
  induction fields with
  | nil => exact .refl _
  | cons field fields ih =>
      rw [List.map_cons, List.mem_cons, not_or] at h
      rw [insert, if_neg h.1]
      split
      · exact .refl _
      · exact ((ih h.2).cons field).trans (.swap _ _ _)

theorem perm_foldl_insert (pairs : List (String × Json)) {fields : Fields}
    (h : ((fields ++ pairs).map (·.1)).Nodup) :
    (pairs.foldl (fun fields pair => insert fields pair.1 pair.2) fields).Perm (fields ++ pairs) := by
  induction pairs generalizing fields with
  | nil => simp
  | cons pair pairs ih =>
      have hmoved : (fields ++ pair :: pairs).Perm (pair :: (fields ++ pairs)) := List.perm_middle
      have hnew : pair.1 ∉ fields.map (·.1) := by
        have hnodup := (hmoved.map (·.1)).nodup_iff.1 h
        rw [List.map_cons, List.nodup_cons, List.map_append, List.mem_append, not_or] at hnodup
        exact hnodup.1.1
      have hinserted : (insert fields pair.1 pair.2 ++ pairs).Perm (fields ++ pair :: pairs) :=
        ((perm_insert hnew pair.2).append_right pairs).trans hmoved.symm
      exact (ih ((hinserted.map (·.1)).nodup_iff.2 h)).trans hinserted

/-- Where no key is given twice the fields of an object are those that it has been made from. -/
theorem perm_ofList {pairs : List (String × Json)} (h : (pairs.map (·.1)).Nodup) : (ofList pairs).Perm pairs :=
  perm_foldl_insert pairs h

end Json.Fields

/-- Values under the names of parameters. -/
def named (parameters : List Parameter) (values : List Json) : Json :=
  Json.ofPairs ((parameters.map (·.name)).zip values)

/-- Every parameter finds the same in two ways of giving arguments. -/
def SameGiven (parameters : List Parameter) (a b : Json) : Prop := ∀ p ∈ parameters, p.given? a = p.given? b

/-- Parameters stand in the order of their positions, and no two have one name. -/
structure Ordered (parameters : List Parameter) : Prop where
  index : parameters.map (·.index) = List.range parameters.length
  names : (parameters.map (·.name)).Nodup

instance (parameters : List Parameter) : Decidable (Ordered parameters) :=
  decidable_of_iff (parameters.map (·.index) = List.range parameters.length ∧ (parameters.map (·.name)).Nodup)
    ⟨fun h => ⟨h.1, h.2⟩, fun h => ⟨h.index, h.names⟩⟩

namespace Ordered

variable {parameters : List Parameter} {values : List Json}

/-- What a parameter finds among values in order it finds under its name. -/
theorem sameGiven (h : Ordered parameters) (values : List Json) :
    SameGiven parameters (.arr values) (named parameters values) := by
  intro p hp
  obtain ⟨i, hi, hget⟩ := List.getElem_of_mem hp
  have hindex : p.index = i := by
    have hat := congrArg (·[i]?) h.index
    simpa [hi, hget] using hat
  have hname : (parameters.map (·.name))[i]? = some p.name := by simp [hi, hget]
  calc
    p.given? (.arr values) = values[i]? := congrArg (values[·]?) hindex
    _ = lastOf? ((parameters.map (·.name)).zip values) p.name := (lastOf?_zip h.names values hname).symm
    _ = p.given? (named parameters values) := (Json.Fields.get?_ofList _ _).symm

/-- The values themselves are the same, but for their order. -/
theorem perm_givenValues (h : Ordered parameters) (hlength : values.length ≤ parameters.length) :
    (givenValues (named parameters values)).Perm values := by
  have hnodup : (((parameters.map (·.name)).zip values).map (·.1)).Nodup :=
    h.names.sublist (map_fst_zip_sublist _ values)
  have hvalues : ((parameters.map (·.name)).zip values).map (·.2) = values := List.map_snd_zip (by simpa using hlength)
  have hperm := (Json.Fields.perm_ofList hnodup).map (·.2)
  rw [hvalues] at hperm
  exact hperm

end Ordered

section Reading

variable {p : Parameter} {a b : Json}

theorem Parameter.read_congr (h : p.given? a = p.given? b) (shape : Shape α) : p.read shape a = p.read shape b := by
  rw [read, read, h]

theorem Parameter.readOr_congr (h : p.given? a = p.given? b) (shape : Shape α) (default : α) :
    p.readOr shape default a = p.readOr shape default b := by
  rw [readOr, readOr, h, read_congr h]

/-- A request is made of what its parameters find. -/
theorem FileRequest.ofCommand_congr {command : Command} (h : SameGiven command.parameters a b)
    (addressing : Addressing) :
    ofCommand addressing command a = ofCommand addressing command b := by
  cases command
  all_goals
    simp only [SameGiven, Command.parameters, List.forall_mem_cons] at h
    simp only [ofCommand, localPath, Parameter.resource, Parameter.read, Parameter.readOr, h]

theorem ProcessCall.ofCommand_congr {command : Command} (h : SameGiven command.parameters a b) :
    ofCommand command a = ofCommand command b := by
  cases command
  all_goals
    simp only [SameGiven, Command.parameters, List.forall_mem_cons] at h
    simp only [ofCommand, Parameter.read, Parameter.readOr, h]

theorem FileRequest.ofCall_congr {command : String} (h : SameGiven (parameters command) a b) (addressing : Addressing) :
    ofCall addressing command a = ofCall addressing command b := by
  rw [ofCall, ofCall]
  cases hname : Command.ofName? command with
  | none => rfl
  | some c =>
      rw [parameters, hname] at h
      exact ofCommand_congr h addressing

/-- Whether a call names a quiet file does not depend on the order of its values. -/
theorem touchesQuietConfig_congr (h : (givenValues a).Perm (givenValues b)) (addressing : Addressing) :
    touchesQuietConfig addressing a = touchesQuietConfig addressing b := h.any_eq

end Reading

section Calls

variable {m : Type → Type} [Monad m] {command : String} {a b : Json}

theorem FileDesk.call_congr (p : FileProvider m) (ctx : ChannelContext)
    (hgiven : SameGiven (FileRequest.parameters command) a b) (hvalues : (givenValues a).Perm (givenValues b)) :
    call p ctx command a = call p ctx command b := by
  rw [call, call, dispatch, dispatch, FileRequest.ofCall_congr hgiven, touchesQuietConfig_congr hvalues]

theorem TerminalChannel.takeResult_congr (h : SameGiven (parameters "$sendCommandResult") a b) (c : ClientCommands) :
    takeResult a c = takeResult b c := by
  simp only [SameGiven, parameters, List.forall_mem_cons] at h
  rw [takeResult, takeResult, Parameter.read_congr h.1, Parameter.readOr_congr h.2.1, Parameter.read_congr h.2.2.1]

theorem TerminalChannel.call_congr (host : TerminalHost m) (place : TerminalPlace) (ctx : ChannelContext)
    (hcommand : command ≠ "$createProcess") (h : SameGiven (parameters command) a b) :
    call host place ctx command a = call host place ctx command b := by
  funext c
  simp only [call]
  split
  · exact absurd rfl hcommand
  · rw [takeResult_congr h]
  · next hresult =>
    cases hname : ProcessCall.Command.ofName? command with
    | none => rfl
    | some known =>
        have hknown : parameters command = known.parameters := by
          rw [parameters, hname]
          · rfl
          · exact hresult
        simp only [ProcessCall.ofCommand_congr (hknown ▸ h)]

theorem Telemetry.reportOf_congr (h : SameGiven [eventAt, dataAt] a b) : reportOf a = reportOf b := by
  simp only [SameGiven, List.forall_mem_cons] at h
  rw [reportOf, reportOf, Parameter.read_congr h.1, Parameter.readOr_congr h.2.1]

theorem Telemetry.call_congr (sink : TelemetrySink m) (h : SameGiven (parameters command) a b) :
    call sink command a = call sink command b := by
  simp only [call]
  split
  · rw [reportOf_congr h]
  · rw [reportOf_congr h]
  · rw [Parameter.read_congr (h levelAt (by simp [parameters]))]
  · rfl
  · rfl

theorem Logger.call_congr (ctx : ChannelContext) (h : SameGiven (parameters command) a b) :
    call ctx command a = call ctx command b := by
  funext c
  simp only [call]
  split
  · rw [Parameter.read_congr (h levelAt (by simp [parameters]))]
  · rfl
  · rfl

end Calls

section Order

variable (command : String)

theorem FileRequest.ordered_parameters : Ordered (parameters command) := by
  rw [parameters]
  cases Command.ofName? command with
  | none => decide
  | some c => cases c <;> decide

theorem TerminalChannel.ordered_parameters : Ordered (parameters command) := by
  unfold parameters
  split
  · decide
  · cases ProcessCall.Command.ofName? command with
    | none => decide
    | some c => cases c <;> decide

theorem Telemetry.ordered_parameters : Ordered (parameters command) := by
  unfold parameters
  split <;> decide

theorem Logger.ordered_parameters : Ordered (parameters command) := by
  unfold parameters
  split <;> decide

end Order

/-- Arguments in order and the same arguments under their names make the same of a call: they have one outcome, and
whatever stands behind the channel is asked for the same.  Among files no more arguments than parameters may be given,
for any of them can name a quiet configuration file. -/
theorem call_named_eq (ctx : ChannelContext) (command : String) (values : List Json) :
    (∀ (m : Type → Type) [Monad m] (p : FileProvider m), values.length ≤ (FileRequest.parameters command).length →
      FileDesk.call p ctx command (.arr values) =
        FileDesk.call p ctx command (named (FileRequest.parameters command) values)) ∧
      (∀ (m : Type → Type) [Monad m] (host : TerminalHost m) (place : TerminalPlace), command ≠ "$createProcess" →
        TerminalChannel.call host place ctx command (.arr values) =
          TerminalChannel.call host place ctx command (named (TerminalChannel.parameters command) values)) ∧
      (∀ (m : Type → Type) [Monad m] (sink : TelemetrySink m),
        Telemetry.call sink command (.arr values) =
          Telemetry.call sink command (named (Telemetry.parameters command) values)) ∧
      Logger.call ctx command (.arr values) = Logger.call ctx command (named (Logger.parameters command) values) := by
  refine ⟨?_, ?_, ?_, ?_⟩
  · intro m _ p hlength
    have hordered := FileRequest.ordered_parameters command
    exact FileDesk.call_congr p ctx (hordered.sameGiven values) (hordered.perm_givenValues hlength).symm
  · intro m _ host place hcommand
    exact TerminalChannel.call_congr host place ctx hcommand
      ((TerminalChannel.ordered_parameters command).sameGiven values)
  · intro m _ sink
    exact Telemetry.call_congr sink ((Telemetry.ordered_parameters command).sameGiven values)
  · exact Logger.call_congr ctx ((Logger.ordered_parameters command).sameGiven values)

/-- A file is written to without an offset, and a terminal is resized without rows. -/
theorem write_and_resize_named :
    FileDesk.call DiskHost.provider ⟨"host:1", default, "t"⟩ "write"
        (.arr [Json.nat 3, Json.nat 0, .str "QQ=="]) =
      FileDesk.call DiskHost.provider ⟨"host:1", default, "t"⟩ "write"
        (.obj [("data", .str "QQ=="), ("fd", Json.nat 3), ("pos", Json.nat 0)]) ∧
      TerminalChannel.call (LocalTerminals.host []) ⟨⟨"0.1.0", "en", none⟩, [], "/"⟩ ⟨"host:1", default, "t"⟩ "$resize"
          (.arr [Json.nat 1, Json.nat 80]) =
        TerminalChannel.call (LocalTerminals.host []) ⟨⟨"0.1.0", "en", none⟩, [], "/"⟩ ⟨"host:1", default, "t"⟩ "$resize"
          (.obj [("cols", Json.nat 80), ("id", Json.nat 1)]) := by
  have hwrite : named (FileRequest.parameters "write") [Json.nat 3, Json.nat 0, .str "QQ=="] =
      .obj [("data", .str "QQ=="), ("fd", Json.nat 3), ("pos", Json.nat 0)] := by decide +kernel
  have hresize : named (TerminalChannel.parameters "$resize") [Json.nat 1, Json.nat 80] =
      .obj [("cols", Json.nat 80), ("id", Json.nat 1)] := by decide +kernel
  constructor
  · rw [← hwrite]
    exact (call_named_eq ⟨"host:1", default, "t"⟩ "write" _).1 _ DiskHost.provider (by decide)
  · rw [← hresize]
    exact (call_named_eq ⟨"host:1", default, "t"⟩ "$resize" _).2.1 _ (LocalTerminals.host []) _ (by decide)

end Workbench

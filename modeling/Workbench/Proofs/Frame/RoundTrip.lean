import Workbench.Frame.Cbor
import Workbench.Proofs.Cbor.Extension
import Workbench.Proofs.Cbor.RoundTrip
import Workbench.Proofs.Frame.Fields

/-!
Frames in CBOR and back.  A frame that is written is read again in front of anything, unless its JSON is
nested deeper than the reader goes; and no octets that a frame's octets begin with are a frame themselves.
-/

namespace Workbench.Frame

/-- The JSON values in a frame are ones that JSON has a form for. -/
def proper : Frame → Bool
  | .handshake h => h.args.proper
  | .regular _ _ payload => payload.proper
  | .ok _ | .error _ | .ack _ | .keepAlive | .disconnect _ => true

section Typed

variable {type : String} {fields : List (String × Datum)}

/-- Fields beside the type are read when the type is known. -/
theorem shape_typed (hfields : "type" ∉ fields.map (·.1)) (o : Origin) :
    shape o (typed type fields) = ofType type (.record fields) := by
  have hothers : ∀ entry ∈ fields.map fun field => (Datum.text field.1, field.2),
      isTypeKey entry.1 = false := by
    intro entry hentry
    obtain ⟨field, hfield, rfl⟩ := List.mem_map.1 hentry
    exact beq_false_of_ne fun heq => hfields (List.mem_map.2 ⟨field, hfield, heq⟩)
  have htype : (fields.map fun field => (Datum.text field.1, field.2)).filter
      (fun entry => isTypeKey entry.1) = [] :=
    List.filter_eq_nil_iff.2 fun entry hentry => by rw [hothers entry hentry]; decide
  have hrest : (fields.map fun field => (Datum.text field.1, field.2)).filter
      (fun entry => !isTypeKey entry.1) = fields.map fun field => (Datum.text field.1, field.2) :=
    List.filter_eq_self.2 fun entry hentry => by rw [hothers entry hentry]; decide
  have hkey : isTypeKey (.text "type") = true := rfl
  simp only [shape, typed, Datum.record, List.map_cons, List.filter_cons, hkey, htype, hrest, ↓reduceIte,
    Bool.not_true, Bool.false_eq_true]
  rfl

/-- Fields beside the type are held back as they stand. -/
theorem heldEntries_fields (hfields : "type" ∉ fields.map (·.1)) :
    heldEntries (Cbor.Item.ofEntries (fields.map fun field => (.text field.1, field.2))) =
      some (fields.map fun field => (.text field.1, field.2)) := by
  induction fields with
  | nil => rfl
  | cons field fields ih =>
      rw [List.map_cons, List.mem_cons, not_or] at hfields
      have hkey : isTypeKey (.text field.1) = false := beq_false_of_ne (Ne.symm hfields.1)
      have hrest := ih hfields.2
      simp [Cbor.Item.ofEntries, heldEntries, Cbor.Item.datum?_ofDatum, hkey, hrest]

/-- A typed record is held back as it was written, if its type can be looked at as a name. -/
theorem held?_typed (htype : type.utf8ByteSize ≤ Cbor.Item.maxNameLength)
    (hfields : "type" ∉ fields.map (·.1)) :
    held? (Cbor.Item.ofDatum (typed type fields)) = some (typed type fields) := by
  have hkey : (Cbor.Item.text true "type").datum? = some (.text "type") := rfl
  have htypeKey : isTypeKey (.text "type") = true := rfl
  have hname : (Cbor.Item.text true type).identifier? = some (Bytes.ofText type) := by
    simp only [Cbor.Item.identifier?, Cbor.Item.untagged, htype, ↓reduceIte]
  simp only [typed, Datum.record, List.map_cons, Cbor.Item.ofDatum, held?, Cbor.Item.ofEntries,
    heldEntries, hkey, htypeKey, hname, heldEntries_fields hfields, Option.bind_eq_bind,
    Option.bind_some, Utf8.decode?_ofText, ↓reduceIte, Option.map_some]
  rfl

end Typed

theorem regularShape_fields (o : Origin) (seq received : UInt64) {payload : Payload}
    (hproper : payload.proper = true) :
    regularShape o (.record [("seq", .int (.ofUInt64 seq)), ("ack", .int (.ofUInt64 received)),
        ("payload", payload.toDatum)]) = .ok (.regular seq received payload) := by
  have hseq : seqField.shape o (.int (.ofUInt64 seq)) = .ok seq := by
    simp only [seqField, Field.required, Shape.u64_ofUInt64]
  have hack : ackField.shape o (.int (.ofUInt64 received)) = .ok received := by
    simp only [ackField, Field.required, Shape.u64_ofUInt64]
  have hpayload : payloadField.shape o payload.toDatum = .ok payload :=
    Payload.shape_toDatum o hproper
  refine (Shape.record_fields _ _ (by decide) (.cons (Field.accepts hseq)
    (.cons (Field.accepts hack) (.cons (Field.accepts hpayload) .nil)))).trans ?_
  rw [Record.get_of_find hseq rfl, Record.get_of_find hack rfl, Record.get_of_find hpayload rfl]
  rfl

theorem ackShape_fields (o : Origin) (received : UInt64) :
    ackShape o (.record [("ack", .int (.ofUInt64 received))]) = .ok (.ack received) := by
  have hack : ackField.shape o (.int (.ofUInt64 received)) = .ok received := by
    simp only [ackField, Field.required, Shape.u64_ofUInt64]
  refine (Shape.record_fields _ _ (by decide) (.cons (Field.accepts hack) .nil)).trans ?_
  rw [Record.get_of_find hack rfl]
  rfl

theorem disconnectShape_fields (o : Origin) (reason : Option String) :
    disconnectShape o (.record [("reason", .text? reason)]) = .ok (.disconnect reason) := by
  have hreason : reasonField.shape o (.text? reason) = .ok reason := Shape.nullable_text reason
  refine (Shape.record_fields _ _ (by decide) (.cons (Field.accepts hreason) .nil)).trans ?_
  rw [Record.get_of_find hreason rfl]
  rfl

/-- A frame is written as its type with some fields beside it, which are held back as they stand and read as
the frame when the type is known. -/
theorem toDatum_typed {f : Frame} (hproper : f.proper = true) :
    ∃ type fields, f.toDatum = typed type fields ∧
      type.utf8ByteSize ≤ Cbor.Item.maxNameLength ∧ "type" ∉ fields.map (·.1) ∧
      ofType type (.record fields) = .ok f := by
  cases f with
  | handshake h =>
      refine ⟨"handshake", h.fields, rfl, by decide, by simp [Handshake.fields], ?_⟩
      have hread : ∀ d, ofType "handshake" d = (Handshake.shape .held d).map .handshake := fun _ => rfl
      rw [hread, Handshake.shape_fields _ hproper, Except.map]
  | ok reconnection =>
      refine ⟨"ok", _, rfl, by decide, by simp, ?_⟩
      simp only [ofType, shapeOf?, acceptedShape_fields, Except.map]
  | error e =>
      refine ⟨"error", e.fields, rfl, by decide, by simp [ErrorReport.fields], ?_⟩
      simp only [ofType, shapeOf?, ErrorReport.shape_fields, Except.map]
  | regular seq received payload =>
      exact ⟨"regular", _, rfl, by decide, by simp, regularShape_fields _ seq received hproper⟩
  | ack received => exact ⟨"ack", _, rfl, by decide, by simp, ackShape_fields _ received⟩
  | keepAlive => exact ⟨"keepAlive", [], rfl, by decide, by simp, rfl⟩
  | disconnect reason =>
      exact ⟨"disconnect", _, rfl, by decide, by simp, disconnectShape_fields _ reason⟩

/-- A frame's item is the frame. -/
theorem held?_ofDatum {f : Frame} (hproper : f.proper = true) :
    ∃ d, held? (Cbor.Item.ofDatum f.toDatum) = some d ∧ shape .held d = .ok f := by
  obtain ⟨type, fields, htyped, htype, hfields, hread⟩ := toDatum_typed hproper
  refine ⟨f.toDatum, ?_, ?_⟩
  · rw [htyped, held?_typed htype hfields]
  · rw [htyped, shape_typed hfields, hread]

/-- What is left of a frame's octets, and anything behind them, does not matter; a frame nested too deep is
refused. -/
theorem ofCbor_cbor_append {f : Frame} (hproper : f.proper = true)
    (hsize : f.cbor.length < 0x10000000000000000) (rest : Bytes) :
    ofCbor (f.cbor ++ rest) =
      if f.toDatum.nesting ≤ Cbor.maxDepth then .ok f else .error (.codec "malformed item") := by
  obtain ⟨d, hheld, hread⟩ := held?_ofDatum hproper
  rw [ofCbor, cbor, Cbor.read?_encode _ _ hsize]
  by_cases hnesting : f.toDatum.nesting ≤ Cbor.maxDepth
  · simp only [hnesting, ↓reduceIte, Option.bind_some, hheld, hread]
  · simp only [hnesting, ↓reduceIte, Option.bind_none]

/-- What a frame's octets properly begin with is no frame. -/
theorem ofCbor_front {f : Frame} (hsize : f.cbor.length < 0x10000000000000000) {front : Bytes}
    (hfront : front <+: f.cbor) (hproper : front ≠ f.cbor) :
    ofCbor front = .error (.codec "malformed item") := by
  have hread := Cbor.read?_encode f.toDatum [] hsize
  rw [List.append_nil] at hread
  have hnone : Cbor.read? front = none := by
    by_cases hnesting : f.toDatum.nesting ≤ Cbor.maxDepth
    · rw [if_pos hnesting] at hread
      exact Cbor.read?_front hread hfront hproper
    · -- the whole does not read, and what a beginning reads as the whole would read as, too
      rw [if_neg hnesting] at hread
      obtain ⟨more, hmore⟩ := hfront
      cases hshort : Cbor.read? front with
      | none => rfl
      | some pair =>
          have hlong := Cbor.read?_extend more hshort
          rw [hmore] at hlong
          exact absurd (hread.symm.trans hlong) (by simp)
  rw [ofCbor, hnone, Option.bind_none]

/-- A frame's octets, as many as eight octets of a head can count, are read as that frame whatever follows
them, unless it is nested deeper than the reader goes, and as no frame when any are missing at the end. -/
theorem ofCbor_cbor {f : Frame} (hproper : f.proper = true)
    (hsize : f.cbor.length < 0x10000000000000000) :
    (∀ rest, ofCbor (f.cbor ++ rest) =
      if f.toDatum.nesting ≤ Cbor.maxDepth then .ok f else .error (.codec "malformed item")) ∧
    ∀ front, front <+: f.cbor → front ≠ f.cbor → ofCbor front = .error (.codec "malformed item") :=
  ⟨ofCbor_cbor_append hproper hsize, fun _ hfront hne => ofCbor_front hsize hfront hne⟩

/-- A request whose arguments nest arrays and objects and hold numbers of every kind. -/
def renameRequest : Frame :=
  .regular 7 3 (.request (.call 1 "file" "rename" (.obj
    [("from", .str "naïve 𝄞.txt"),
      ("options", .arr [.null, .bool true, .int ⟨-5, by decide, by decide⟩,
        .double ⟨0x3FB999999999999A⟩, .obj [("size", .int (.ofUInt64 0xFFFFFFFFFFFFFFFF))]])])))

theorem ofCbor_renameRequest :
    (renameRequest.proper = true ∧ renameRequest.cbor.length < 0x10000000000000000) ∧
      ofCbor (renameRequest.cbor ++ [0xFF]) = .ok renameRequest ∧
      ofCbor (renameRequest.cbor.take 40) = .error (.codec "malformed item") := by
  have hproper : renameRequest.proper = true := by decide +kernel
  have hlength : renameRequest.cbor.length = 143 := by decide +kernel
  have hnesting : renameRequest.toDatum.nesting = 7 := by decide +kernel
  have hsize : renameRequest.cbor.length < 0x10000000000000000 := by rw [hlength]; decide
  obtain ⟨hwhole, hfront⟩ := ofCbor_cbor hproper hsize
  refine ⟨⟨hproper, hsize⟩, ?_, ?_⟩
  · rw [hwhole, hnesting]
    rfl
  · refine hfront _ (List.take_prefix _ _) fun heq => ?_
    have hshort := congrArg List.length heq
    rw [List.length_take, hlength] at hshort
    omega

end Workbench.Frame

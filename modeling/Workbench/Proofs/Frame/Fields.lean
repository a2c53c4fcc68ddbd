import Mathlib.Data.List.Forall2
import Workbench.Frame.Shape
import Workbench.Proofs.Json.Proper

/-!
Records read from what they were written as.  When the entries of a map come in field order and each field
accepts its entry, reading finds all of them; requests, responses and payloads come back from their variants.
-/

namespace Workbench

/-- A field's check accepts an entry under its name. -/
def FieldCheck.Accepts (c : FieldCheck) (o : Origin) (entry : String × Datum) : Prop :=
  c.name = entry.1 ∧ c.check o entry.2 = .ok ()

/-- What a field's shape can read, its check accepts. -/
theorem Field.accepts {f : Field α} {o : Origin} {d : Datum} {v : α} (hread : f.shape o d = .ok v) :
    f.check.Accepts o (f.name, d) := by
  refine ⟨rfl, ?_⟩
  simp [Field.check, hread, Except.map]

namespace Record

variable {o : Origin} {checks : List FieldCheck}

/-- Entries in field order are all found.  `before` are the fields already met. -/
theorem ofEntries_fields (hnames : (checks.map (·.name)).Nodup) (before : List FieldCheck)
    (found : List (String × Datum)) {rest : List FieldCheck} {fields : List (String × Datum)}
    (hchecks : checks = before ++ rest)
    (hfound : found.map (·.1) = before.map (·.name))
    (haccepts : List.Forall₂ (fun c entry => c.Accepts o entry) rest fields) :
    ofEntries o checks found (fields.map fun entry => (.text entry.1, entry.2)) =
      .ok ⟨o, found ++ fields⟩ := by
  induction haccepts generalizing before found with
  | nil => rw [List.map_nil, ofEntries, List.append_nil]
  | @cons c entry rest fields haccept _ ih =>
      obtain ⟨hname, hcheck⟩ := haccept
      have hfresh : c.name ∉ before.map (·.name) := by
        rw [hchecks, List.map_append, List.nodup_append] at hnames
        intro hmem
        exact hnames.2.2 _ hmem _ (by simp) rfl
      have hfind : checks.find? (·.name == entry.1) = some c := by
        rw [hchecks, List.find?_append, List.find?_eq_none.2, ← hname]
        · simp
        · intro other hother heq
          refine hfresh (List.mem_map.2 ⟨other, hother, ?_⟩)
          rw [hname]
          exact beq_iff_eq.1 heq
      have hnew : found.any (·.1 == c.name) = false := by
        rw [List.any_eq_false]
        intro other hother heq
        refine hfresh (hfound ▸ List.mem_map.2 ⟨other, hother, beq_iff_eq.1 heq⟩)
      have hrest := ih (before ++ [c]) (found ++ [(c.name, entry.2)])
        (by rw [hchecks, List.append_assoc, List.singleton_append])
        (by rw [List.map_append, List.map_append, hfound]; rfl)
      rw [List.append_assoc, List.singleton_append, hname] at hrest
      rw [hname] at hnew
      simp only [List.map_cons, ofEntries, field?, hfind, hnew, hcheck, hname, hrest, bind, Except.bind,
        Bool.false_eq_true, ↓reduceIte]

/-- A field that is there is read from its entry. -/
theorem get_of_find {f : Field α} {found : List (String × Datum)} {name : String} {d : Datum} {v : α}
    (hread : f.shape o d = .ok v) (hfind : found.find? (·.1 == f.name) = some (name, d)) :
    get ⟨o, found⟩ f = .ok v := by
  rw [get, hfind]
  exact hread

end Record

namespace Shape

variable {o : Origin} {checks : List FieldCheck} {fields : List (String × Datum)}

/-- A record is built from its fields when they stand in order and each is accepted. -/
theorem record_fields (what : String) (build : Record → Except Mismatch α)
    (hnames : (checks.map (·.name)).Nodup)
    (haccepts : List.Forall₂ (fun c entry => c.Accepts o entry) checks fields) :
    record what checks build o (.record fields) = build ⟨o, fields⟩ := by
  have hread := Record.ofEntries_fields hnames [] [] rfl rfl haccepts
  simp only [record, Datum.record]
  rw [hread]
  rfl

theorem nullable_text (s : Option String) : nullable text o (.text? s) = .ok s := by
  cases s <;> rfl

theorem natural_int {name : String} {bound k : Nat} {n : WordInt} (hval : n.val = k)
    (hlt : k < bound) : natural name bound o (.int n) = .ok k := by
  have hbounds : 0 ≤ (k : Int) ∧ (k : Int) < bound := by omega
  rw [natural, hval, if_pos hbounds, Int.toNat_natCast]

theorem u8_ofNat (n : UInt8) : u8 o (.int (.ofNat n.toNat)) = .ok n := by
  have hlt := n.toNat_lt
  have hval : (WordInt.ofNat n.toNat).val = n.toNat := by
    rw [WordInt.ofNat, WordInt.ofInt?, dif_pos (by omega)]
    rfl
  rw [u8, natural_int hval hlt, Except.map, UInt8.ofNat_toNat]

theorem u32_ofUInt32 (n : UInt32) : u32 o (.int (.ofUInt32 n)) = .ok n := by
  have hval : (WordInt.ofUInt32 n).val = n.toNat := congrArg Nat.cast n.toNat_toUInt64
  rw [u32, natural_int hval n.toNat_lt, Except.map, UInt32.ofNat_toNat]

theorem u64_ofUInt64 (n : UInt64) : u64 o (.int (.ofUInt64 n)) = .ok n := by
  rw [u64, natural_int (n := .ofUInt64 n) rfl n.toNat_lt, Except.map, UInt64.ofNat_toNat]

theorem list_map {item : Shape α} {write : α → Datum} (hitem : ∀ v, item o (write v) = .ok v)
    (vs : List α) : list item o (.seq (vs.map write)) = .ok vs := by
  rw [list]
  induction vs with
  | nil => rfl
  | cons v vs ih =>
      rw [List.map_cons, List.mapM_cons, hitem, ih]
      rfl

theorem json_ofJson {v : Json} (hproper : v.proper = true) : json o (.ofJson v) = .ok v := by
  rw [json, Json.toJson?_ofJson v hproper]

/-- A variant under its name is read by the variant of that name. -/
theorem union_variant {variants : List (Variant α)} {v : Variant α} {name : String}
    (hfind : variants.find? (·.name == name) = some v) (value : Datum) :
    union variants o (.variant name value) = v.read o (some value) := by
  simp only [union, Datum.variant, Variant.named, hfind, bind, Except.bind]

theorem read_withFields (name : String) (shape : Shape α) (fields : List (String × Datum)) :
    (Variant.withFields name shape).read o (some (.record fields)) = shape o (.record fields) := rfl

end Shape

section Records

variable (o : Origin)

theorem ConnectionKind.shape_code (k : ConnectionKind) :
    ConnectionKind.shape o (.int (.ofNat k.code.toNat)) = .ok k := by
  rw [ConnectionKind.shape, Shape.u8_ofNat]
  simp only [bind, Except.bind, ofCode?_code]
  rfl

theorem Handshake.shape_fields {h : Handshake} (hproper : h.args.proper = true) :
    Handshake.shape o (.record h.fields) = .ok h := by
  have hkind : kindField.shape o (.int (.ofNat h.kind.code.toNat)) = .ok h.kind :=
    ConnectionKind.shape_code o h.kind
  have hcommit : commitField.shape o (.text? h.commit) = .ok h.commit := Shape.nullable_text h.commit
  have hargs : argsField.shape o (.ofJson h.args) = .ok h.args := Shape.json_ofJson (o := o) hproper
  have haccepts : List.Forall₂ (fun c entry => FieldCheck.Accepts c o entry)
      [kindField.check, commitField.check, argsField.check] h.fields :=
    .cons (Field.accepts hkind) (.cons (Field.accepts hcommit) (.cons (Field.accepts hargs) .nil))
  rw [Handshake.shape, Shape.record_fields _ _ (by decide) haccepts,
    Record.get_of_find hkind rfl, Record.get_of_find hcommit rfl, Record.get_of_find hargs rfl]
  rfl

theorem acceptedShape_fields (reconnection : Bool) :
    acceptedShape o (.record [("reconnection", .bool reconnection)]) = .ok reconnection := by
  have hread : reconnectionField.shape o (.bool reconnection) = .ok reconnection := rfl
  refine (Shape.record_fields _ _ (by decide) (.cons (Field.accepts hread) .nil)).trans ?_
  rw [Record.get_of_find hread rfl]

theorem ErrorReport.shape_fields (e : ErrorReport) :
    ErrorReport.shape o (.record e.fields) = .ok e := by
  have hcode : codeField.shape o (.text e.code) = .ok e.code := rfl
  have hmessage : messageField.shape o (.text e.message) = .ok e.message := rfl
  have haccepts : List.Forall₂ (fun c entry => FieldCheck.Accepts c o entry)
      [codeField.check, messageField.check] e.fields :=
    .cons (Field.accepts hcode) (.cons (Field.accepts hmessage) .nil)
  rw [ErrorReport.shape, Shape.record_fields _ _ (by decide) haccepts,
    Record.get_of_find hcode rfl, Record.get_of_find hmessage rfl]
  rfl

end Records

section Channels

variable (o : Origin)

theorem idField_shape (id : UInt32) : idField.shape o (.int (.ofUInt32 id)) = .ok id := by
  simp only [idField, Field.required, Shape.u32_ofUInt32]

theorem channelField_shape (channel : String) : channelField.shape o (.text channel) = .ok channel :=
  rfl

/-- The JSON value of a request is one that JSON has a form for. -/
def ChannelRequest.proper : ChannelRequest → Bool
  | .call _ _ _ args | .listen _ _ _ args => args.proper
  | .dispose _ => true

namespace ChannelRequest

theorem callShape_fields (id : UInt32) (channel command : String) {args : Json}
    (hproper : args.proper = true) :
    callShape o (.record [("id", .int (.ofUInt32 id)), ("channel", .text channel),
        ("command", .text command), ("args", .ofJson args)]) =
      .ok (.call id channel command args) := by
  have hid := idField_shape o id
  have hchannel := channelField_shape o channel
  have hcommand : commandField.shape o (.text command) = .ok command := rfl
  have hargs : argsField.shape o (.ofJson args) = .ok args := Shape.json_ofJson (o := o) hproper
  refine (Shape.record_fields _ _ (by decide) (.cons (Field.accepts hid)
      (.cons (Field.accepts hchannel) (.cons (Field.accepts hcommand)
        (.cons (Field.accepts hargs) .nil))))).trans ?_
  rw [Record.get_of_find hid rfl, Record.get_of_find hchannel rfl, Record.get_of_find hcommand rfl,
    Record.get_of_find hargs rfl]
  rfl

theorem listenShape_fields (id : UInt32) (channel event : String) {args : Json}
    (hproper : args.proper = true) :
    listenShape o (.record [("id", .int (.ofUInt32 id)), ("channel", .text channel),
        ("event", .text event), ("args", .ofJson args)]) =
      .ok (.listen id channel event args) := by
  have hid := idField_shape o id
  have hchannel := channelField_shape o channel
  have hevent : eventField.shape o (.text event) = .ok event := rfl
  have hargs : argsField.shape o (.ofJson args) = .ok args := Shape.json_ofJson (o := o) hproper
  refine (Shape.record_fields _ _ (by decide) (.cons (Field.accepts hid)
      (.cons (Field.accepts hchannel) (.cons (Field.accepts hevent)
        (.cons (Field.accepts hargs) .nil))))).trans ?_
  rw [Record.get_of_find hid rfl, Record.get_of_find hchannel rfl, Record.get_of_find hevent rfl,
    Record.get_of_find hargs rfl]
  rfl

theorem disposeShape_fields (id : UInt32) :
    disposeShape o (.record [("id", .int (.ofUInt32 id))]) = .ok (.dispose id) := by
  have hid := idField_shape o id
  refine (Shape.record_fields _ _ (by decide) (.cons (Field.accepts hid) .nil)).trans ?_
  rw [Record.get_of_find hid rfl]
  rfl

theorem shape_toDatum {r : ChannelRequest} (hproper : r.proper = true) :
    shape o r.toDatum = .ok r := by
  cases r with
  | call id channel command args =>
      rw [shape, toDatum, Shape.union_variant rfl, Shape.read_withFields]
      exact callShape_fields o id channel command hproper
  | listen id channel event args =>
      rw [shape, toDatum, Shape.union_variant rfl, Shape.read_withFields]
      exact listenShape_fields o id channel event hproper
  | dispose id =>
      rw [shape, toDatum, Shape.union_variant rfl, Shape.read_withFields]
      exact disposeShape_fields o id

end ChannelRequest

/-- The JSON value of a response is one that JSON has a form for. -/
def ChannelResponse.proper : ChannelResponse → Bool
  | .ok _ v | .event _ v => v.proper
  | .err _ _ => true

namespace ChannelResponse

theorem okShape_fields (id : UInt32) {result : Json} (hproper : result.proper = true) :
    okShape o (.record [("id", .int (.ofUInt32 id)), ("result", .ofJson result)]) =
      .ok (.ok id result) := by
  have hid := idField_shape o id
  have hresult : resultField.shape o (.ofJson result) = .ok result :=
    Shape.json_ofJson (o := o) hproper
  refine (Shape.record_fields _ _ (by decide) (.cons (Field.accepts hid)
      (.cons (Field.accepts hresult) .nil))).trans ?_
  rw [Record.get_of_find hid rfl, Record.get_of_find hresult rfl]
  rfl

theorem errShape_fields (id : UInt32) (error : ErrorReport) :
    errShape o (.record [("id", .int (.ofUInt32 id)), ("error", .record error.fields)]) =
      .ok (.err id error) := by
  have hid := idField_shape o id
  have herror : errorField.shape o (.record error.fields) = .ok error :=
    ErrorReport.shape_fields o error
  refine (Shape.record_fields _ _ (by decide) (.cons (Field.accepts hid)
      (.cons (Field.accepts herror) .nil))).trans ?_
  rw [Record.get_of_find hid rfl, Record.get_of_find herror rfl]
  rfl

theorem eventShape_fields (id : UInt32) {payload : Json} (hproper : payload.proper = true) :
    eventShape o (.record [("id", .int (.ofUInt32 id)), ("payload", .ofJson payload)]) =
      .ok (.event id payload) := by
  have hid := idField_shape o id
  have hpayload : payloadField.shape o (.ofJson payload) = .ok payload :=
    Shape.json_ofJson (o := o) hproper
  refine (Shape.record_fields _ _ (by decide) (.cons (Field.accepts hid)
      (.cons (Field.accepts hpayload) .nil))).trans ?_
  rw [Record.get_of_find hid rfl, Record.get_of_find hpayload rfl]
  rfl

theorem shape_toDatum {r : ChannelResponse} (hproper : r.proper = true) :
    shape o r.toDatum = .ok r := by
  cases r with
  | ok id result =>
      rw [shape, toDatum, Shape.union_variant rfl, Shape.read_withFields]
      exact okShape_fields o id hproper
  | err id error =>
      rw [shape, toDatum, Shape.union_variant rfl, Shape.read_withFields]
      exact errShape_fields o id error
  | event id payload =>
      rw [shape, toDatum, Shape.union_variant rfl, Shape.read_withFields]
      exact eventShape_fields o id hproper

end ChannelResponse

/-- The JSON value of a payload, if it has one, is one that JSON has a form for. -/
def Payload.proper : Payload → Bool
  | .request r => r.proper
  | .response r => r.proper
  | .data _ => true

theorem Payload.shape_octets (blob : ByteArray) :
    Shape.list Shape.u8 o (octets blob) = .ok (Blob.toBytes blob) :=
  Shape.list_map (fun n => Shape.u8_ofNat n) (Blob.toBytes blob)

theorem Payload.shape_toDatum {p : Payload} (hproper : p.proper = true) :
    shape o p.toDatum = .ok p := by
  cases p with
  | request r =>
      refine (Shape.union_variant rfl _).trans ?_
      simp only [Variant.holding, ChannelRequest.shape_toDatum o hproper, Except.map]
  | response r =>
      refine (Shape.union_variant rfl _).trans ?_
      simp only [Variant.holding, ChannelResponse.shape_toDatum o hproper, Except.map]
  | data blob =>
      refine (Shape.union_variant rfl _).trans ?_
      simp only [Variant.holding, shape_octets, Except.map, Blob.ofBytes_toBytes]

end Channels

end Workbench

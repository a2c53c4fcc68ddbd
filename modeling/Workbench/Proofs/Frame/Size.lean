import Workbench.Buffer
import Workbench.Frame.Cbor
import Workbench.Proofs.Base64

/-!
How many octets a reply takes.  Around its result a reply has names of fixed size and three numbers; binary
content is a text of base64 behind its length.
-/

namespace Workbench

theorem Datum.variant_eq (name : String) (value : Datum) : variant name value = .record [(name, value)] := rfl

namespace Cbor

theorem length_head (m : Major) (n : Nat) :
    (head m n).length =
      if n < 24 then 1 else if n < 0x100 then 2 else if n < 0x10000 then 3
        else if n < 0x100000000 then 5 else 9 := by
  unfold head
  split
  · rfl
  split
  · rfl
  split
  · rfl
  split
  · rfl
  · rfl

theorem length_head_small (m : Major) {n : Nat} (h : n < 24) : (head m n).length = 1 := by
  rw [length_head, if_pos h]

theorem length_head_le (m : Major) (n : Nat) : (head m n).length ≤ 9 := by
  rw [length_head]
  split
  · decide
  split
  · decide
  split
  · decide
  split
  · decide
  · decide

theorem integer_natCast (n : Nat) : integer n = head .natural n := by
  rw [integer, if_pos (Int.natCast_nonneg n), Int.toNat_natCast]

theorem length_encode_record (fields : List (String × Datum)) :
    (encode (.record fields)).length = (head .map fields.length).length +
      (encodeEntries (fields.map fun field => (.text field.1, field.2))).length := by
  rw [Datum.record, encode, List.length_append, List.length_map]

/-- The octets of binary content of a size, as a text of base64. -/
def bufferSize (size : Nat) : Nat :=
  let symbols := 4 * ((size + 2) / 3)
  (head .text symbols).length + symbols

theorem length_encode_buffer (blob : ByteArray) :
    (encode (.ofJson (Buffer.toJson blob))).length = bufferSize blob.size := by
  have hsize : (Blob.toBytes blob).length = blob.size := Array.length_toList
  simp only [Buffer.toJson, Datum.ofJson, encode, List.length_append, Base64.length_encode, hsize,
    bufferSize]

end Cbor

namespace Frame

/-- The frame in which a session sends the result of a call. -/
def reply (seq received : UInt64) (id : UInt32) (result : Json) : Frame :=
  .regular seq received (.response (.ok id result))

/-- The frame in which a session sends an answer of a channel. -/
def answer (seq received : UInt64) (r : ChannelResponse) : Frame := .regular seq received (.response r)

/-- The octets of a regular frame around the answer in it. -/
def answerOverhead (seq received : UInt64) : Nat :=
  40 + (Cbor.head .natural seq.toNat).length + (Cbor.head .natural received.toNat).length

/-- The octets of a reply around its result. -/
def replyOverhead (seq received : UInt64) (id : UInt32) : Nat :=
  55 + (Cbor.head .natural seq.toNat).length + (Cbor.head .natural received.toNat).length +
    (Cbor.head .natural id.toNat).length

theorem length_cbor_answer (seq received : UInt64) (r : ChannelResponse) :
    (answer seq received r).cbor.length = answerOverhead seq received + (Cbor.encode r.toDatum).length := by
  have hnames : (["type", "regular", "seq", "ack", "payload", "response"].map
      fun name => (Cbor.encode (.text name)).length) = [5, 8, 4, 4, 8, 9] := by decide
  simp only [List.map_cons, List.map_nil, List.cons.injEq, and_true] at hnames
  have hword : ∀ n : UInt64, Cbor.encode (.int (.ofUInt64 n)) = Cbor.head .natural n.toNat :=
    fun n => Cbor.integer_natCast n.toNat
  simp only [answer, cbor, toDatum, typed, Payload.toDatum, Datum.variant_eq,
    Cbor.length_encode_record, Cbor.encodeEntries, List.map_cons, List.map_nil, List.length_append,
    List.length_cons, List.length_nil, hnames, hword]
  rw [Cbor.length_head_small .map (by decide), Cbor.length_head_small .map (by decide), answerOverhead]
  omega

/-- An answer about a request holds the kind of answer, the request's number and one value more. -/
theorem length_encode_numbered (kind name : String) (id : UInt32) (value : Json) :
    (Cbor.encode (.variant kind (.record [("id", .int (.ofUInt32 id)), (name, .ofJson value)]))).length =
      5 + (Cbor.encode (.text kind)).length + (Cbor.encode (.text name)).length +
        (Cbor.head .natural id.toNat).length + (Cbor.encode (.ofJson value)).length := by
  have hid : (Cbor.encode (.text "id")).length = 3 := by decide
  have hword : Cbor.encode (.int (.ofUInt32 id)) = Cbor.head .natural id.toNat :=
    (Cbor.integer_natCast id.toUInt64.toNat).trans (by rw [UInt32.toNat_toUInt64])
  simp only [Datum.variant_eq, Cbor.length_encode_record, Cbor.encodeEntries, List.map_cons, List.map_nil,
    List.length_append, List.length_cons, List.length_nil, hid, hword]
  rw [Cbor.length_head_small .map (by decide), Cbor.length_head_small .map (by decide)]
  omega

theorem reply_eq_answer (seq received : UInt64) (id : UInt32) (result : Json) :
    reply seq received id result = answer seq received (.ok id result) := rfl

theorem length_cbor_reply (seq received : UInt64) (id : UInt32) (result : Json) :
    (reply seq received id result).cbor.length =
      replyOverhead seq received id + (Cbor.encode (.ofJson result)).length := by
  have hnames : (Cbor.encode (.text "ok")).length = 3 ∧ (Cbor.encode (.text "result")).length = 7 := by decide
  rw [reply_eq_answer, length_cbor_answer, ChannelResponse.toDatum, length_encode_numbered, hnames.1, hnames.2,
    answerOverhead, replyOverhead]
  omega

theorem length_cbor_event (seq received : UInt64) (id : UInt32) (payload : Json) :
    (answer seq received (.event id payload)).cbor.length =
      4 + replyOverhead seq received id + (Cbor.encode (.ofJson payload)).length := by
  have hnames : (Cbor.encode (.text "event")).length = 6 ∧ (Cbor.encode (.text "payload")).length = 8 := by decide
  rw [length_cbor_answer, ChannelResponse.toDatum, length_encode_numbered, hnames.1, hnames.2,
    answerOverhead, replyOverhead]
  omega

/-- The numbers of a reply take nine octets each at the most. -/
theorem replyOverhead_le (seq received : UInt64) (id : UInt32) : replyOverhead seq received id ≤ 82 := by
  have hseq := Cbor.length_head_le .natural seq.toNat
  have hreceived := Cbor.length_head_le .natural received.toNat
  have hid := Cbor.length_head_le .natural id.toNat
  rw [replyOverhead]
  omega

end Frame

end Workbench

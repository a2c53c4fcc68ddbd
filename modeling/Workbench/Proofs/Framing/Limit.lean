import Workbench.Proofs.Frame.Size
import Workbench.Proofs.Framing.Stream

/-!
Which payloads arrive.  Whatever is written is framed, also beyond the largest payload, and of a length only
the low four octets are written.  A decoder gives out exactly the payloads within the bound; one that
announces more than that stops the stream in front of itself, and does so again each time it is replayed.
-/

namespace Workbench.Framing

/-- The length in front of a payload loses what four octets have no room for. -/
theorem announced_frame (payload rest : Bytes) :
    Decoder.announced ⟨frame payload ++ rest⟩ = payload.length % Bytes.capacity prefixSize := by
  have hprefix : (Bytes.bigEndian prefixSize payload.length).length = prefixSize :=
    Bytes.length_bigEndian _ _
  rw [Decoder.announced, frame, List.append_assoc, List.take_left' hprefix, Bytes.toNat_bigEndian]

theorem prefixSize_le_length_frame (payload rest : Bytes) :
    prefixSize ≤ (frame payload ++ rest).length := by
  rw [frame, List.length_append, List.length_append, Bytes.length_bigEndian]
  omega

theorem frame_oversized {payload : Bytes}
    (hover : maxPayload < payload.length % Bytes.capacity prefixSize) (rest : Bytes) :
    Oversized (frame payload ++ rest) :=
  ⟨prefixSize_le_length_frame payload rest, by rw [← announced_frame payload rest] at hover; exact hover⟩

/-- A payload comes out of its frame if it is within the bound, and only then. -/
theorem next_frame_iff (payload : Bytes) :
    (({} : Decoder).extend (frame payload)).next = (.ok (some payload), {}) ↔
      payload.length ≤ maxPayload := by
  constructor
  · intro hnext
    have hsound := Reading.after_sound [.feed (frame payload), .ask]
    have hgiven : (({} : Reading).after [.feed (frame payload), .ask]).given = [payload] := by
      simp [Reading.after, Reading.step, Reading.given, Reading.payload?, hnext]
    exact hsound.fits payload (by rw [hgiven]; exact List.mem_singleton_self payload)
  · intro hfits
    have hsplit : split? (frame payload) = some (payload, []) :=
      split?_eq_some_iff.2 ⟨hfits, (List.append_nil _).symm⟩
    exact Decoder.next_of_split? (d := ⟨frame payload⟩) hsplit

/-- A payload beyond the bound never comes out of a stream. -/
theorem not_mem_given {payload : Bytes} (hover : maxPayload < payload.length) (events : List Event) :
    payload ∉ (({} : Reading).after events).given := fun hmem =>
  Nat.not_lt.2 ((Reading.after_sound events).fits payload hmem) hover

/-- A stream is not read past a frame whose announced length is refused. -/
theorem given_before_oversized {payload : Bytes}
    (hover : maxPayload < payload.length % Bytes.capacity prefixSize) {before : List Bytes}
    (hfits : ∀ other ∈ before, other.length ≤ maxPayload) {events : List Event} {rest : Bytes}
    (hfed : fed events = before.flatMap frame ++ (frame payload ++ rest)) :
    (({} : Reading).after events).given <+: before := by
  have hpayloads := (Reading.after_sound events).payloads_eq
  rw [hfed, payloads_frames hfits, payloads_of_none (frame_oversized hover rest).split?_eq,
    List.append_nil] at hpayloads
  exact ⟨_, hpayloads.symm⟩

/-- Once everything before such a frame is given out, its length is refused. -/
theorem next_at_oversized {payload : Bytes}
    (hover : maxPayload < payload.length % Bytes.capacity prefixSize) {events : List Event}
    {rest : Bytes}
    (hfed : fed events =
      (({} : Reading).after events).given.flatMap frame ++ (frame payload ++ rest)) :
    let d := (({} : Reading).after events).decoder
    d.next = (.error (Decoder.tooLarge (payload.length % Bytes.capacity prefixSize)), d) := by
  intro d
  have hheld : d.buffer = frame payload ++ rest := by
    have hsound := (Reading.after_sound events).given_append
    rw [hfed] at hsound
    exact List.append_cancel_left hsound
  have hnext := Decoder.next_of_oversized (d := d) (by rw [hheld]; exact frame_oversized hover rest)
  have hannounced : d.announced = payload.length % Bytes.capacity prefixSize := by
    rw [← announced_frame payload rest, ← hheld]
  rw [hannounced] at hnext
  exact hnext

/-- A decoder that is fed such a frame alone refuses it and keeps it. -/
theorem next_of_frame_oversized {payload : Bytes}
    (hover : maxPayload < payload.length % Bytes.capacity prefixSize) :
    (({} : Decoder).extend (frame payload)).next =
      (.error (Decoder.tooLarge (payload.length % Bytes.capacity prefixSize)), ⟨frame payload⟩) := by
  have hnext := Decoder.next_of_oversized (d := ⟨frame payload ++ []⟩) (frame_oversized hover [])
  rw [announced_frame, List.append_nil] at hnext
  exact hnext

/-- The encoding of a value comes out of its frame if it is within the bound, and only then; a longer one
never comes out of any stream.  One whose announced length is beyond the bound stops every stream that it
is part of: what is given out stands before it, and when that is given out the length is refused. -/
theorem encoded_taken_iff (d : Datum) :
    let payload := Cbor.encode d
    ((({} : Decoder).extend (frame payload)).next = (.ok (some payload), {}) ↔
        payload.length ≤ maxPayload) ∧
      (maxPayload < payload.length → ∀ events, payload ∉ (({} : Reading).after events).given) ∧
      (maxPayload < payload.length % Bytes.capacity prefixSize → ∀ before rest events,
        (∀ other ∈ before, other.length ≤ maxPayload) →
        fed events = before.flatMap frame ++ (frame payload ++ rest) →
        let r := ({} : Reading).after events
        r.given <+: before ∧
          (r.given = before → r.decoder.next =
            (.error (Decoder.tooLarge (payload.length % Bytes.capacity prefixSize)), r.decoder))) := by
  intro payload
  refine ⟨next_frame_iff payload, not_mem_given, ?_⟩
  intro hover before rest events hfits hfed r
  refine ⟨given_before_oversized hover hfits hfed, ?_⟩
  intro hgiven
  exact next_at_oversized hover (by rw [← hgiven] at hfed; exact hfed)

/-- The result of reading a file comes out of its frame if base64 and what is around it leave it within the
bound, and only then. -/
theorem next_encode_buffer_iff (seq received : UInt64) (id : UInt32) (blob : ByteArray) :
    let f := Frame.reply seq received id (Buffer.toJson blob)
    (({} : Decoder).extend (encode f)).next = (.ok (some f.cbor), {}) ↔
      Frame.replyOverhead seq received id + Cbor.bufferSize blob.size ≤ maxPayload := by
  intro f
  rw [← Cbor.length_encode_buffer, ← Frame.length_cbor_reply]
  exact next_frame_iff f.cbor

/-- A file of twelve mebibytes is read and answered, and no peer takes the answer. -/
theorem next_encode_twelve_mebibytes :
    let f := Frame.reply 1 1 1 (Buffer.toJson (Blob.ofBytes (List.replicate 12582912 0)))
    f.cbor.length = 16777279 ∧
      (({} : Decoder).extend (encode f)).next = (.error (Decoder.tooLarge 16777279), ⟨encode f⟩) ∧
      (({} : Decoder).extend (encode f)).next ≠ (.ok (some f.cbor), {}) := by
  intro f
  have hsize : (Blob.ofBytes (List.replicate 12582912 0)).size = 12582912 := List.length_replicate
  have hlength : f.cbor.length = 16777279 := by
    rw [Frame.length_cbor_reply, Cbor.length_encode_buffer, hsize]
    decide
  have hannounced : f.cbor.length % Bytes.capacity prefixSize = 16777279 := by
    rw [hlength]
    decide
  have hover : maxPayload < f.cbor.length % Bytes.capacity prefixSize := by
    rw [hannounced]
    decide
  have hnext := next_of_frame_oversized hover
  rw [hannounced] at hnext
  refine ⟨hlength, hnext, ?_⟩
  rw [encode, hnext]
  intro heq
  cases congrArg Prod.fst heq

end Workbench.Framing

import Workbench.Channel.File
import Workbench.Disk.Provider
import Workbench.Proofs.File.Reading
import Workbench.Proofs.Frame.RoundTrip
import Workbench.Proofs.Framing.Limit

/-!
Reads that arrive.  A read through a descriptor gives the stretch that it asks for, however few octets the
system gives at a time; and what is read at once, through a descriptor or as a piece of a stream, is small
enough for the frame that carries it.
-/

namespace Workbench

namespace Cbor

theorem length_integer_le (z : Int) : (integer z).length ≤ 9 := by
  rw [integer]
  split
  · exact length_head_le _ _
  · exact length_head_le _ _

/-- The most that can be read at once leaves room for a third more octets around it. -/
theorem bufferSize_le {size : Nat} (h : size ≤ maxReadLength) : bufferSize size ≤ 11184821 := by
  have hhead := length_head_le .text (4 * ((size + 2) / 3))
  rw [maxReadLength] at h
  rw [bufferSize]
  omega

theorem encode_map (entries : List (Datum × Datum)) :
    encode (.map entries) = head .map entries.length ++ encodeEntries entries := by rw [encode]

end Cbor

namespace Frame

/-- The peer gets a frame out of the octets it is sent in, and reads it. -/
structure Arrives (f : Frame) : Prop where
  fits : f.cbor.length ≤ Framing.maxPayload
  taken : (({} : Framing.Decoder).extend (Framing.encode f)).next = (.ok (some f.cbor), {})
  read : ofCbor f.cbor = .ok f

theorem arrives_of_fits {f : Frame} (hfits : f.cbor.length ≤ Framing.maxPayload) (hproper : f.proper = true)
    (hnesting : f.toDatum.nesting ≤ Cbor.maxDepth) : f.Arrives where
  fits := hfits
  taken := (Framing.next_frame_iff f.cbor).2 hfits
  read := by
    have hsize : f.cbor.length < 0x10000000000000000 := Nat.lt_of_le_of_lt hfits (by decide)
    have hread := ofCbor_cbor_append hproper hsize []
    rwa [List.append_nil, if_pos hnesting] at hread

section Contents

variable {data : ByteArray} (hdata : data.size ≤ maxReadLength) (seq received : UInt64) (id : UInt32)
include hdata

/-- The result of a read arrives. -/
theorem arrives_result :
    (reply seq received id (.arr [Json.nat data.size, Buffer.toJson data])).Arrives := by
  have hoverhead := replyOverhead_le seq received id
  have hbuffer := Cbor.bufferSize_le hdata
  have hsize : (Cbor.encode (.ofJson (Json.nat data.size))).length ≤ 9 := Cbor.length_integer_le _
  have hresult : (Cbor.encode (.ofJson (.arr [Json.nat data.size, Buffer.toJson data]))).length =
      1 + (Cbor.encode (.ofJson (Json.nat data.size))).length + Cbor.bufferSize data.size := by
    rw [← Cbor.length_encode_buffer]
    simp only [Datum.ofJson, Datum.ofItems, Cbor.encode, Cbor.encodeItems, List.length_append,
      List.length_cons, List.length_nil]
    rw [Cbor.length_head_small .array (by decide)]
    omega
  have hnesting : (reply seq received id (.arr [Json.nat data.size, Buffer.toJson data])).toDatum.nesting = 5 := rfl
  refine arrives_of_fits ?_ rfl (by rw [hnesting]; decide)
  rw [length_cbor_reply, hresult, Framing.maxPayload]
  omega

/-- A piece of a stream arrives. -/
theorem arrives_piece :
    (answer seq received (.event id (FileDesk.streamPayload (.data data)))).Arrives := by
  have hpayload : FileDesk.streamPayload (.data data) =
      .obj [("data", Buffer.toJson data), ("type", .str "data")] := rfl
  have hoverhead := replyOverhead_le seq received id
  have hbuffer := Cbor.bufferSize_le hdata
  have htexts : (Cbor.encode (.text "data")).length = 5 ∧ (Cbor.encode (.text "type")).length = 5 := by decide
  have hlength : (Cbor.encode (.ofJson (FileDesk.streamPayload (.data data)))).length =
      16 + Cbor.bufferSize data.size := by
    rw [← Cbor.length_encode_buffer, hpayload]
    simp only [Datum.ofJson, Datum.ofFields, Cbor.encode_map, Cbor.encodeEntries, List.length_append,
      List.length_cons, List.length_nil, htexts.1, htexts.2]
    rw [Cbor.length_head_small .map (by decide)]
    omega
  have hnesting : (answer seq received (.event id (FileDesk.streamPayload (.data data)))).toDatum.nesting = 5 := by
    rw [hpayload]
    rfl
  have hproper : (FileDesk.streamPayload (.data data)).proper = true := by
    have hlt : "data" < "type" := by decide
    have hsorted : Json.Fields.sorted [("data", Buffer.toJson data), ("type", .str "data")] = true :=
      decide_eq_true (List.pairwise_pair.2 hlt)
    rw [hpayload, Json.proper, hsorted]
    rfl
  refine arrives_of_fits ?_ hproper (by rw [hnesting]; decide)
  rw [length_cbor_event, hlength, Framing.maxPayload]
  omega

end Contents

end Frame

namespace DiskHost

variable {h : DiskHost} {fd pos : UInt64} {n : Nat} {d : Descriptor} {content : ByteArray}

theorem bind_of_eq {α β : Type} {x : StateM DiskHost α} {a : α} {h' : DiskHost} (hx : x h = (a, h'))
    (next : α → StateM DiskHost β) : (x >>= next) h = next a h' := by
  have hbind : (x >>= next) h = next (x h).1 (x h).2 := rfl
  rw [hbind, hx]

/-- What a path is opened as. -/
def opening (path : String) (create : Bool) : Disk.Call Descriptor := do
  if create then return ⟨some (← Disk.createFile path), true, none, none⟩
  else
    match ← Disk.stat path with
    | .file id _ => return ⟨some id, false, none, none⟩
    | _ => return ⟨none, false, none, none⟩

/-- What is opened gets the next number. -/
theorem openFile_of_ok {path : String} {create : Bool} {disk : Disk}
    (hopening : opening path create h.disk = (.ok d, disk)) :
    openFile path create h = (.ok (.ofNat h.nextDescriptor), { h with
      disk
      descriptors := h.descriptors ++ [(.ofNat h.nextDescriptor, d)]
      nextDescriptor := h.nextDescriptor + 1 }) := by
  have hopened := onDisk_eq hopening
  have hrun : openFile path create h = _ := bind_of_eq hopened _
  exact hrun.trans rfl

/-- A file that is opened to be made is open for writing. -/
theorem opening_writing {path : String} {id : Nat} {disk disk' : Disk}
    (hcreate : Disk.createFile path disk = (.ok id, disk')) :
    opening path true disk = (.ok ⟨some id, true, none, none⟩, disk') :=
  (Disk.Call.bind_of_ok hcreate _).trans rfl

/-- A file that is opened as it is there is open for reading. -/
theorem opening_reading {path : String} {id : Nat} {disk disk' : Disk}
    (hstat : Disk.stat path disk = (.ok (.file id content), disk')) :
    opening path false disk = (.ok ⟨some id, false, none, none⟩, disk') :=
  (Disk.Call.bind_of_ok hstat _).trans rfl

/-- Going to a position leaves it to the next write to tell of one that has failed. -/
def settled (d : Descriptor) : Descriptor := { d with pending := none, failed := d.failed.or d.pending }

theorem opened_eq (hcontent : (h.opened d).2 = some content) : h.opened d = (content.size, some content) := by
  unfold opened at hcontent ⊢
  cases hfile : d.file with
  | none =>
      rw [hfile] at hcontent
      cases hcontent
  | some id =>
      rw [hfile] at hcontent
      cases hcontent
      rfl

/-- What a read of a file comes to, and what it leaves behind. -/
theorem readBy_file (supply : Supply) (hd : h.descriptor? fd = some d) (hcontent : (h.opened d).2 = some content)
    (hn : n ≤ maxReadLength) (hseek : pos.toNat < maxPosition) :
    readBy supply fd pos n h =
      (if stretch content pos.toNat (some n) = [] then .ok .empty
        else if d.writable then .error Errno.badDescriptor.toFault
        else (readAt supply content pos.toNat (min (content.size - pos.toNat) n)).mapError Errno.toFault,
      h.setDescriptor fd (settled d)) := by
  have hsought : seek d pos.toNat = (.ok (), settled d) := by
    rw [seek, if_neg (Nat.not_le.2 hseek), settled]
  rw [readBy, if_neg (Nat.not_lt.2 hn), hd]
  dsimp only
  rw [opened_eq hcontent]
  dsimp only
  rw [hsought]
  dsimp only
  by_cases hnothing : min (content.size - pos.toNat) n = 0
  · rw [if_pos hnothing, if_pos (stretch_eq_nil_iff.2 hnothing)]
  · rw [if_neg hnothing, if_neg (mt stretch_eq_nil_iff.1 hnothing)]
    have hwritable : (settled d).writable = d.writable := rfl
    rw [hwritable]
    split
    · rfl
    · rfl

/-- A read that succeeds has nothing to give, or gives what reads of a file come to. -/
theorem readBy_ok {supply : Supply} {data : ByteArray} (hread : (readBy supply fd pos n h).1 = .ok data) :
    n ≤ maxReadLength ∧ (data = .empty ∨
      ∃ content length, 0 < length ∧ length ≤ n ∧ readAt supply content pos.toNat length = .ok data) := by
  rw [readBy] at hread
  split at hread
  · cases hread
  next hn =>
  refine ⟨Nat.not_lt.1 hn, ?_⟩
  split at hread
  · cases hread
  next d hd =>
  cases hopened : h.opened d with
  | mk size content =>
  cases hsought : seek d pos.toNat with
  | mk r d' =>
  simp only [hopened, hsought] at hread
  cases r with
  | error e => cases hread
  | ok _ =>
      dsimp only at hread
      split at hread
      · cases hread
        exact .inl rfl
      next hsome =>
      split at hread
      · cases hread
      cases content with
      | none => cases hread
      | some content =>
          dsimp only at hread
          refine .inr ⟨content, _, Nat.pos_of_ne_zero hsome, Nat.min_le_right _ _, ?_⟩
          cases hat : readAt supply content pos.toNat (min (size - pos.toNat) n) with
          | error e =>
              rw [hat] at hread
              cases hread
          | ok got =>
              rw [hat] at hread
              cases hread
              rfl

theorem size_of_readBy {supply : Supply} {data : ByteArray} (hread : (readBy supply fd pos n h).1 = .ok data) :
    data.size ≤ maxReadLength := by
  obtain ⟨hn, rfl | ⟨content, length, hpos, hle, hat⟩⟩ := readBy_ok hread
  · exact Nat.zero_le _
  · rcases readAt_cases supply content pos.toNat hpos with ⟨got, hgot, hstretch⟩ | ⟨e, round, hfailed, -⟩
    · rw [hgot] at hat
      cases hat
      have hlength := congrArg List.length hstretch
      rw [Blob.length_toBytes, stretch, List.length_take] at hlength
      omega
    · rw [hfailed] at hat
      cases hat

/-- A streamed read of a file sends its pieces; any other sends none. -/
theorem readStreamBy_cases (supply : Supply) (h : DiskHost) (path : String) (o : StreamOptions) :
    (∃ content, (readStreamBy supply path o h).1.events = streamSteps supply content o) ∨
      ∀ piece, .data piece ∉ (readStreamBy supply path o h).1.events := by
  have hfailed : ∀ e piece, .data piece ∉ failedSteps e := by simp [failedSteps]
  cases hfind : h.disk.find? path true with
  | error e =>
      rw [readStreamBy_missing supply hfind]
      exact .inr (hfailed e)
  | ok found =>
      obtain ⟨place, entry⟩ := found
      have hstat := Disk.stat_of_ok hfind
      by_cases hseek : maxPosition ≤ o.start
      · have hrefused : streamFrom supply path o h.disk = (.error .invalid, h.disk) := by
          rw [streamFrom, Disk.Call.bind_of_ok hstat, if_pos hseek]
          rfl
        rw [readStreamBy_of_steps (Disk.Call.catch_of_error hrefused _)]
        exact .inr (hfailed .invalid)
      · cases entry with
        | file id content =>
            rw [readStreamBy_file supply hfind (Nat.lt_of_not_le hseek)]
            exact .inl ⟨content, rfl⟩
        | dir _ | link _ =>
            have hother : streamFrom supply path o h.disk =
                (.ok (if o.length = some 0 then [.finished] else failedSteps .isDirectory), h.disk) := by
              rw [streamFrom, Disk.Call.bind_of_ok hstat, if_neg hseek]
              rfl
            rw [readStreamBy_of_steps (Disk.Call.catch_of_ok hother _)]
            refine .inr fun piece => ?_
            dsimp only
            split
            · simp
            · exact hfailed .isDirectory piece

theorem size_of_piece {supply : Supply} {path : String} {o : StreamOptions} {piece : ByteArray}
    (hmem : .data piece ∈ (readStreamBy supply path o h).1.events) : piece.size ≤ maxReadLength := by
  rcases readStreamBy_cases supply h path o with ⟨content, heq⟩ | hnone
  · have hserves := readPieces_serves_start supply content o.piece_pos o.start (o.length.map UInt64.toNat)
    cases hread : readPieces supply content o.piece (content.size + 1) 0 o.start (o.length.map UInt64.toNat) with
    | mk pieces failure =>
    rw [hread] at hserves
    have hpiece : piece ∈ pieces := by
      rw [heq, streamSteps, hread] at hmem
      simpa using hmem
    have hmost : o.piece ≤ maxReadLength := by
      rw [o.piece_eq]
      exact Nat.min_le_right _ _
    exact Nat.le_trans (hserves.sizes piece hpiece).2 hmost
  · exact absurd hmem (hnone piece)

/-- A read of more than can be read at once is refused, and changes nothing.  Any other read of a file, from a
position that the system can go to, gives exactly the stretch that it asks for, however few octets the system
gives at a time; only through a descriptor that was opened for writing there is nothing to be had but the
system's refusal, unless nothing is asked for.  Whatever comes of a read, and every piece of a streamed one,
arrives at the client in the frame that carries it. -/
theorem reads_arrive (supply : Supply) (h : DiskHost) :
    (∀ fd pos n, maxReadLength < n → readBy supply fd pos n h =
      (.error (.invalidMessage s!"read of {n} bytes exceeds the limit of {maxReadLength}"), h)) ∧
    (∀ fd pos n d content, h.descriptor? fd = some d → (h.opened d).2 = some content →
      n ≤ maxReadLength → pos.toNat < maxPosition → (∀ round, ∃ given, supply round = .ok given) →
      (readBy supply fd pos n h).2.disk = h.disk ∧
      if d.writable ∧ stretch content pos.toNat (some n) ≠ [] then
        (readBy supply fd pos n h).1 = .error Errno.badDescriptor.toFault
      else
        ∃ data, (readBy supply fd pos n h).1 = .ok data ∧ Blob.toBytes data = stretch content pos.toNat (some n)) ∧
    (∀ fd pos n desk v, (FileDesk.perform (providerBy supply) (.read fd pos n) desk h).1.1 = .ok v →
      ∀ seq received id, (Frame.reply seq received id v).Arrives) ∧
    ∀ path o piece, .data piece ∈ (readStreamBy supply path o h).1.events → ∀ seq received id,
      (Frame.answer seq received (.event id (FileDesk.streamPayload (.data piece)))).Arrives := by
  refine ⟨?_, ?_, ?_, ?_⟩
  · intro fd pos n hn
    rw [readBy, if_pos hn]
  · intro fd pos n d content hd hcontent hn hseek hsupply
    rw [readBy_file supply hd hcontent hn hseek]
    refine ⟨rfl, ?_⟩
    by_cases hnothing : stretch content pos.toNat (some n) = []
    · rw [if_neg fun hboth => hboth.2 hnothing, if_pos hnothing, hnothing]
      exact ⟨.empty, rfl, rfl⟩
    · rw [if_neg hnothing]
      cases hwritable : d.writable with
      | true => rw [if_pos ⟨rfl, hnothing⟩, if_pos rfl]
      | false =>
          rw [if_neg (by simp), if_neg (by decide)]
          have hpos : 0 < min (content.size - pos.toNat) n :=
            Nat.pos_of_ne_zero (mt stretch_eq_nil_iff.2 hnothing)
          rcases readAt_cases supply content pos.toNat hpos with
            ⟨data, hat, hstretch⟩ | ⟨e, round, -, hfailed⟩
          · exact ⟨data, by rw [hat]; rfl, hstretch.trans stretch_min⟩
          · obtain ⟨given, hgiven⟩ := hsupply round
            rw [hfailed] at hgiven
            cases hgiven
  · intro fd pos n desk v hv
    have hperform : (FileDesk.perform (providerBy supply) (.read fd pos n) desk h).1.1 =
        (readBy supply fd pos n h).1.map fun data => .arr [Json.nat data.size, Buffer.toJson data] := rfl
    rw [hperform] at hv
    cases hread : (readBy supply fd pos n h).1 with
    | error e =>
        rw [hread] at hv
        cases hv
    | ok data =>
        rw [hread] at hv
        cases hv
        exact Frame.arrives_result (size_of_readBy hread)
  · intro path o piece hmem
    exact Frame.arrives_piece (size_of_piece hmem)

/-- The digits, open for reading. -/
def digitsRead : DiskHost :=
  { digits with descriptors := [(1, ⟨some 1, false, none, none⟩)], nextDescriptor := 2 }

/-- Three of them are read one at a time, and arrive. -/
theorem reads_arrive_digits :
    openFile "/digits" false digits = (.ok 1, digitsRead) ∧
    (∃ data, (readBy (fun _ => .ok 1) 1 2 3 digitsRead).1 = .ok data ∧ Blob.toBytes data = [50, 51, 52]) ∧
    ∃ v, (FileDesk.perform (providerBy fun _ => .ok 1) (.read 1 2 3) {} digitsRead).1.1 = .ok v ∧
      (Frame.reply 1 1 1 v).Arrives := by
  obtain ⟨-, hstretch, hresults, -⟩ := reads_arrive (fun _ => .ok 1) digitsRead
  obtain ⟨-, hread⟩ := hstretch 1 2 3 _ _ rfl rfl (by decide) (by decide) fun _ => ⟨1, rfl⟩
  rw [if_neg fun hboth => Bool.noConfusion hboth.1] at hread
  obtain ⟨data, hdata, hoctets⟩ := hread
  have hresult : (FileDesk.perform (providerBy fun _ => .ok 1) (.read 1 2 3) {} digitsRead).1.1 =
      (readBy (fun _ => .ok 1) 1 2 3 digitsRead).1.map fun data => .arr [Json.nat data.size, Buffer.toJson data] := rfl
  rw [hdata] at hresult
  refine ⟨openFile_of_ok (opening_reading (Disk.stat_of_ok find?_digits)),
    ⟨data, hdata, hoctets.trans (by decide)⟩, _, hresult, ?_⟩
  exact hresults 1 2 3 {} _ hresult 1 1 1

/-- The digits, open for writing and so emptied. -/
def digitsEmptied : DiskHost :=
  { digits with
    disk := digits.disk.setContent 1 .empty
    descriptors := [(1, ⟨some 1, true, none, none⟩)]
    nextDescriptor := 2 }

theorem spot?_digits : digits.disk.spot? "/digits" true =
    .ok ⟨[], .named "digits" (some (.file 1 ⟨#[48, 49, 50, 51, 52, 53, 54, 55, 56, 57]⟩)), false⟩ := by
  have hparts : Disk.partsOf "/digits" = ["digits"] := by decide
  rw [Disk.spot?_eq_walk (by decide), hparts, Disk.walk]
  rfl

/-- Four octets are written through a descriptor, and cannot be read through it. -/
theorem written_unreadable :
    let four : ByteArray := ⟨#[48, 49, 50, 51]⟩
    let written := (write 1 0 four digitsEmptied).2
    openFile "/digits" true digits = (.ok 1, digitsEmptied) ∧ (write 1 0 four digitsEmptied).1 = .ok 4 ∧
      (∃ d, written.descriptor? 1 = some d ∧ (written.opened d).2 = some four) ∧
      (readBy (.upTo maxBuffer) 1 0 4 written).1 = .error Errno.badDescriptor.toFault ∧
      ¬∃ data, (readBy (.upTo maxBuffer) 1 0 4 written).1 = .ok data ∧
        Blob.toBytes data = stretch four 0 (some 4) := by
  intro four written
  have hrefused : (readBy (.upTo maxBuffer) 1 0 4 written).1 = .error Errno.badDescriptor.toFault := rfl
  have hcreate : Disk.createFile "/digits" digits.disk = (.ok 1, digits.disk.setContent 1 .empty) :=
    (Disk.Call.bind_of_ok (Disk.Call.look_eq spot?_digits) _).trans rfl
  refine ⟨openFile_of_ok (opening_writing hcreate), rfl, ⟨_, rfl, rfl⟩, hrefused, ?_⟩
  rintro ⟨data, hdata, -⟩
  rw [hrefused] at hdata
  cases hdata

end DiskHost

end Workbench

import Workbench.Proofs.Disk.Way

/-!
Streamed reads.  However few octets the system gives at a time, the pieces of a read that does not fail put together
are just the stretch of the file that was asked for; a read that fails has given a part of it from the start.
-/

namespace Workbench

theorem Blob.toBytes_extract (blob : ByteArray) (i j : Nat) :
    toBytes (blob.extract i j) = ((toBytes blob).drop i).take (j - i) := by
  simp [toBytes, ByteArray.data_extract, List.extract]

/-- The octets of a file from a position on, all of them or so many as there are of a number. -/
def stretch (content : ByteArray) (position : Nat) : (length : Option Nat) → Bytes
  | some n => ((Blob.toBytes content).drop position).take n
  | none => (Blob.toBytes content).drop position

section Stretch

variable {content : ByteArray} {position : Nat}

theorem stretch_zero : stretch content position (some 0) = [] := by
  rw [stretch, List.take_zero]

theorem stretch_of_size_le (h : content.size ≤ position) (length : Option Nat) :
    stretch content position length = [] := by
  have hnone : (Blob.toBytes content).drop position = [] := List.drop_eq_nil_of_le h
  cases length <;> simp [stretch, hnone]

/-- A stretch is a piece of it and what comes behind the piece. -/
theorem stretch_eq_append {n : Nat} {length : Option Nat} (hlength : ∀ most ∈ length, n ≤ most) :
    stretch content position length = Blob.toBytes (content.extract position (position + n)) ++
      stretch content (position + n) (length.map (· - n)) := by
  rw [Blob.toBytes_extract, Nat.add_sub_cancel_left]
  cases length with
  | none => simp [stretch, ← List.drop_drop]
  | some most =>
      have hn : n ≤ most := hlength most rfl
      rw [Option.map_some, stretch, stretch, ← List.drop_drop, ← List.take_add, Nat.add_sub_cancel' hn]

end Stretch

/-- What comes of reads, counted from a round on, that are to give some octets: pieces of no more than a size, none
empty, and the failure of the read after them, if that is what ended them. -/
structure Serves (supply : Supply) (piece round : Nat) (wanted : Bytes) (pieces : List ByteArray)
    (failure : Option Errno) : Prop where
  sizes : ∀ p ∈ pieces, 0 < p.size ∧ p.size ≤ piece
  whole : failure = none → pieces.flatMap Blob.toBytes = wanted
  part : ∀ e, failure = some e → pieces.flatMap Blob.toBytes <+: wanted ∧ supply (round + pieces.length) = .error e

section Serves

variable {supply : Supply} {piece round : Nat}

theorem serves_nothing : Serves supply piece round [] [] none where
  sizes := by simp
  whole _ := rfl
  part := by simp

theorem serves_failure {e : Errno} (he : supply round = .error e) (wanted : Bytes) :
    Serves supply piece round wanted [] (some e) where
  sizes := by simp
  whole := by simp
  part e' he' := by
    cases he'
    exact ⟨List.nil_prefix, he⟩

theorem Serves.cons {wanted : Bytes} {pieces : List ByteArray} {failure : Option Errno}
    (h : Serves supply piece (round + 1) wanted pieces failure) {p : ByteArray} (hp : 0 < p.size ∧ p.size ≤ piece) :
    Serves supply piece round (Blob.toBytes p ++ wanted) (p :: pieces) failure where
  sizes := List.forall_mem_cons.2 ⟨hp, h.sizes⟩
  whole hnone := by rw [List.flatMap_cons, h.whole hnone]
  part e he := by
    obtain ⟨hpart, hsupply⟩ := h.part e he
    refine ⟨?_, ?_⟩
    · rw [List.flatMap_cons]
      exact (List.prefix_append_right_inj _).2 hpart
    · rw [List.length_cons, ← hsupply]
      congr 1
      omega

/-- Every piece is at least an octet long, so there are enough rounds for all that is left of the file. -/
theorem readPieces_serves {content : ByteArray} (hpiece : 0 < piece) {fuel position : Nat}
    (hfuel : content.size - position < fuel) (remaining : Option Nat) :
    Serves supply piece round (stretch content position remaining)
      (readPieces supply content piece fuel round position remaining).1
      (readPieces supply content piece fuel round position remaining).2 := by
  induction fuel generalizing round position remaining with
  | zero => omega
  | succ fuel ih =>
      have hwant : ∀ most ∈ remaining, StreamOptions.want piece remaining ≤ most := by
        rintro most ⟨⟩
        exact Nat.min_le_right ..
      have hle : StreamOptions.want piece remaining ≤ piece := by
        cases remaining
        · exact Nat.le_refl _
        · exact Nat.min_le_left ..
      rw [readPieces]
      split
      · next hzero =>
        have hnothing : remaining = some 0 := by
          cases remaining with
          | none => exact absurd hzero (Nat.ne_of_gt hpiece)
          | some most =>
              rw [StreamOptions.want] at hzero
              congr 1
              omega
        rw [hnothing, stretch_zero]
        exact serves_nothing
      · next hsome =>
        cases hsupply : supply round with
        | error e => exact serves_failure hsupply _
        | ok given =>
            dsimp only
            split
            · next hnone =>
              rw [stretch_of_size_le (by omega)]
              exact serves_nothing
            · next hpos =>
              obtain ⟨n, hn⟩ : ∃ n, n = min (max 1 given)
                (min (StreamOptions.want piece remaining) (content.size - position)) := ⟨_, rfl⟩
              rw [← hn] at hpos ⊢
              have hrest : Serves supply piece (round + 1)
                  (stretch content (position + n) (remaining.map (· - n))) _ _ := ih (by omega) _
              have hsize : (content.extract position (position + n)).size = n := by
                rw [ByteArray.size_extract]
                omega
              rw [stretch_eq_append (n := n) fun most hmost => by
                have := hwant most hmost
                omega]
              exact hrest.cons (by rw [hsize]; omega)

/-- A read from the first round on has enough of them. -/
theorem readPieces_serves_start (supply : Supply) (content : ByteArray) (hpiece : 0 < piece) (position : Nat)
    (remaining : Option Nat) :
    Serves supply piece 0 (stretch content position remaining)
      (readPieces supply content piece (content.size + 1) 0 position remaining).1
      (readPieces supply content piece (content.size + 1) 0 position remaining).2 :=
  readPieces_serves hpiece (Nat.lt_succ_of_le (Nat.sub_le _ _)) remaining

end Serves

section Whole

variable {content : ByteArray} {position length : Nat}

theorem Blob.length_toBytes (blob : ByteArray) : (toBytes blob).length = blob.size := Array.length_toList

theorem toBytes_joinPieces (pieces : List ByteArray) :
    Blob.toBytes (joinPieces pieces) = pieces.flatMap Blob.toBytes := by
  induction pieces with
  | nil => rfl
  | cons p pieces ih =>
      have happend : Blob.toBytes (joinPieces (p :: pieces)) =
          Blob.toBytes p ++ Blob.toBytes (joinPieces pieces) := by
        simp [Blob.toBytes, joinPieces]
      rw [happend, ih, List.flatMap_cons]

theorem stretch_eq_nil_iff :
    stretch content position (some length) = [] ↔ min (content.size - position) length = 0 := by
  rw [stretch, ← List.length_eq_zero_iff, List.length_take, List.length_drop, Blob.length_toBytes, Nat.min_comm]

/-- More than there is of a file is not missed. -/
theorem stretch_min : stretch content position (some (min (content.size - position) length)) =
    stretch content position (some length) := by
  have hleft : ((Blob.toBytes content).drop position).length = content.size - position := by
    rw [List.length_drop, Blob.length_toBytes]
  rw [stretch, stretch, ← hleft, Nat.min_comm, ← List.take_eq_take_min]

/-- A read that is to give something gives all of the stretch, or the failure of one of its rounds. -/
theorem readAt_cases (supply : Supply) (content : ByteArray) (position : Nat) (hlength : 0 < length) :
    (∃ data, readAt supply content position length = .ok data ∧
      Blob.toBytes data = stretch content position (some length)) ∨
    ∃ e round, readAt supply content position length = .error e ∧ supply round = .error e := by
  have hserves := readPieces_serves_start supply content hlength position (some length)
  cases hread : readPieces supply content length (content.size + 1) 0 position (some length) with
  | mk pieces failure =>
  rw [hread] at hserves
  cases failure with
  | none =>
      refine .inl ⟨joinPieces pieces, ?_, ?_⟩
      · rw [readAt, hread]
      · rw [toBytes_joinPieces]
        exact hserves.whole rfl
  | some e =>
      refine .inr ⟨e, 0 + pieces.length, ?_, (hserves.part e rfl).2⟩
      rw [readAt, hread]

end Whole

theorem StreamOptions.piece_eq (o : StreamOptions) :
    o.piece = min ((o.bufferSize.filter (0 < ·)).getD defaultPiece) maxReadLength := by
  have hdefault : defaultPiece = min defaultPiece maxReadLength := by decide
  rw [piece]
  cases o.bufferSize with
  | none => exact hdefault
  | some n =>
      cases n with
      | zero => exact hdefault
      | succ n => rfl

theorem StreamOptions.piece_pos (o : StreamOptions) : 0 < o.piece := by
  have hdefault : 0 < defaultPiece := by decide
  have hmost : 0 < maxReadLength := by decide
  rw [piece]
  split
  · split
    · exact hdefault
    · omega
  · exact hdefault

namespace DiskHost

variable {h : DiskHost} {path : String} {o : StreamOptions}

theorem readStreamBy_of_steps {supply : Supply} {steps : List StreamEvent}
    (hsteps : (tryCatch (streamFrom supply path o) fun e => return failedSteps e) h.disk = (.ok steps, h.disk)) :
    readStreamBy supply path o h = ({ id := 0, events := steps }, h) := by
  have hrun : readStreamBy supply path o h =
      (let r := onDisk (tryCatch (streamFrom supply path o) fun e => return failedSteps e) h
      ({ id := 0, events := r.1.toOption.getD [] }, r.2)) := rfl
  rw [hrun, onDisk_eq hsteps]
  rfl

theorem readStreamBy_file {place : Place} {id : Nat} {content : ByteArray} (supply : Supply)
    (hfile : h.disk.find? path true = .ok (place, .file id content)) (hseek : o.start < maxPosition) :
    readStreamBy supply path o h = ({ id := 0, events := streamSteps supply content o }, h) := by
  have hsought : ¬maxPosition ≤ o.start := Nat.not_le_of_lt hseek
  apply readStreamBy_of_steps
  apply Disk.Call.catch_of_ok
  rw [streamFrom, Disk.Call.bind_of_ok (Disk.stat_of_ok hfile), if_neg hsought]
  rfl

/-- A read of what is not there sends its failure and ends. -/
theorem readStreamBy_missing (supply : Supply) {e : Errno} (he : h.disk.find? path true = .error e) :
    readStreamBy supply path o h = ({ id := 0, events := failedSteps e }, h) := by
  apply readStreamBy_of_steps
  apply Disk.Call.catch_of_error
  rw [streamFrom, Disk.Call.bind_of_error (Disk.stat_of_error he)]

/-- A read of what is not there sends its failure and then the end.  However the system supplies a file, with short
reads or a failure after any of them, a streamed read sends pieces, none empty and none above its size, and then the
end.  The pieces put together are the stretch that was asked for; if a read fails they are a part of it from the
start, and that failure, the only one, comes before the end.  Nothing changes for the disk. -/
theorem pieces_make_stretch (h : DiskHost) (path : String) (o : StreamOptions) (supply : Supply) :
    (∀ e, h.disk.find? path true = .error e →
      readStreamBy supply path o h = ({ id := 0, events := [.failed e.toFault.message, .finished] }, h)) ∧
    ∀ place id content, h.disk.find? path true = .ok (place, .file id content) → o.start < maxPosition →
      ∃ (pieces : List ByteArray) (failure : Option Errno),
        readStreamBy supply path o h = ({
          id := 0
          events := pieces.map StreamEvent.data ++
            (failure.map fun e => StreamEvent.failed e.toFault.message).toList ++ [.finished] }, h) ∧
        (∀ p ∈ pieces,
          0 < p.size ∧ p.size ≤ min ((o.bufferSize.filter (0 < ·)).getD defaultPiece) maxReadLength) ∧
        (failure = none →
          pieces.flatMap Blob.toBytes = stretch content o.start (o.length.map UInt64.toNat)) ∧
        ∀ e, failure = some e →
          pieces.flatMap Blob.toBytes <+: stretch content o.start (o.length.map UInt64.toNat) ∧
            supply pieces.length = .error e := by
  refine ⟨fun e he => readStreamBy_missing supply he, ?_⟩
  intro place id content hfile hseek
  obtain ⟨read, hread⟩ : ∃ read, readPieces supply content o.piece (content.size + 1) 0 o.start
      (o.length.map UInt64.toNat) = read := ⟨_, rfl⟩
  have hserves : Serves supply o.piece 0 (stretch content o.start (o.length.map UInt64.toNat)) read.1 read.2 := by
    rw [← hread]
    exact readPieces_serves o.piece_pos (Nat.lt_succ_of_le (Nat.sub_le _ _)) _
  refine ⟨read.1, read.2, ?_, ?_, hserves.whole, ?_⟩
  · rw [readStreamBy_file supply hfile hseek, streamSteps, hread]
  · rw [← o.piece_eq]
    exact hserves.sizes
  · intro e he
    have hpart := hserves.part e he
    rwa [Nat.zero_add] at hpart

/-- A disk with one file that holds the ten digits. -/
def digits : DiskHost :=
  { disk := { root := .dir [("digits", .file 1 ⟨#[48, 49, 50, 51, 52, 53, 54, 55, 56, 57]⟩)] } }

theorem find?_digits : digits.disk.find? "/digits" true =
    .ok (["digits"], .file 1 ⟨#[48, 49, 50, 51, 52, 53, 54, 55, 56, 57]⟩) := by
  have hparts : Disk.partsOf "/digits" = [] ++ ["digits"] := by decide
  exact Disk.find?_of_plain (by decide) hparts rfl rfl nofun

/-- Five of the digits, the third first. -/
def fiveDigits : StreamOptions := { position := some 2, length := some 5, bufferSize := some 2 }

/-- Given one at a time, they all come. -/
theorem pieces_make_stretch_digits :
    (∃ place id content, digits.disk.find? "/digits" true = .ok (place, .file id content)) ∧
    fiveDigits.start < maxPosition ∧
    ∃ pieces : List ByteArray, (readStreamBy (fun _ => .ok 1) "/digits" fiveDigits digits).1.events =
        pieces.map StreamEvent.data ++ [.finished] ∧
      pieces.flatMap Blob.toBytes = [50, 51, 52, 53, 54] := by
  have hseek : fiveDigits.start < maxPosition := by decide
  obtain ⟨pieces, failure, hrun, -, hwhole, hpart⟩ :=
    (pieces_make_stretch digits "/digits" fiveDigits fun _ => .ok 1).2 _ _ _ find?_digits hseek
  refine ⟨⟨_, _, _, find?_digits⟩, hseek, pieces, ?_⟩
  cases failure with
  | none =>
      rw [hrun]
      refine ⟨by simp, (hwhole rfl).trans ?_⟩
      decide
  | some e =>
      have hnever := (hpart e rfl).2
      cases hnever

end DiskHost

end Workbench

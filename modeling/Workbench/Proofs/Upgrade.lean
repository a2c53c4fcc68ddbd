import Mathlib.Data.List.Basic
import Workbench.Proofs.Http
import Workbench.Upgrade

/-!
The head of an upgrade and what comes behind it.  However a stream is read, a line that is taken from it is the one
that stands in front, so the head is taken to its last octet and no further, and the socket goes on with the rest.
Where there is no head, what is taken of the stream stays within the limit and the upgrade is refused.
-/

namespace Workbench

namespace Intake

section Lines

variable {a b octets : Bytes}

theorem firstLine_append_of_mem (h : lineFeed ∈ a) (b : Bytes) : firstLine (a ++ b) = firstLine a := by
  induction a with
  | nil => cases h
  | cons x a ih =>
      by_cases hx : x = lineFeed
      · simp [firstLine, hx]
      · have ha : lineFeed ∈ a := (List.mem_cons.1 h).resolve_left (Ne.symm hx)
        simp [firstLine, hx, ih ha]

theorem firstLine_append_of_notMem (h : lineFeed ∉ a) (b : Bytes) : firstLine (a ++ b) = a ++ firstLine b := by
  induction a with
  | nil => rfl
  | cons x a ih =>
      rw [List.mem_cons, not_or] at h
      rw [List.cons_append, firstLine, if_neg (Ne.symm h.1), ih h.2, List.cons_append]

theorem firstLine_isPrefix (octets : Bytes) : firstLine octets <+: octets := by
  induction octets with
  | nil => exact List.prefix_rfl
  | cons x octets ih =>
      rw [firstLine]
      split
      · exact ⟨octets, rfl⟩
      · exact List.cons_prefix_cons.2 ⟨rfl, ih⟩

theorem firstLine_ne_nil (h : octets ≠ []) : firstLine octets ≠ [] := by
  cases octets with
  | nil => exact absurd rfl h
  | cons x octets =>
      rw [firstLine]
      split <;> simp

end Lines

section Taking

variable {ended : Bool} {limit : Nat} {buffer line : Bytes} {reads : List Bytes} {s rest : Intake}

/-- Once a line or the limit has been reached what further reads give does not count. -/
theorem firstLine_take_append (h : lineFeed ∈ buffer ∨ limit ≤ buffer.length) (more : Bytes) :
    firstLine ((buffer ++ more).take limit) = firstLine (buffer.take limit) := by
  by_cases hlimit : limit ≤ buffer.length
  · rw [List.take_append_of_le_length hlimit]
  · have hall : buffer.take limit = buffer := List.take_of_length_le (by omega)
    rw [List.take_append, hall, firstLine_append_of_mem (h.resolve_right hlimit)]

/-- Until then all that has been read belongs to the line. -/
theorem firstLine_take_append' (h : ¬(lineFeed ∈ buffer ∨ limit ≤ buffer.length)) (more : Bytes) :
    firstLine ((buffer ++ more).take limit) = buffer ++ firstLine (more.take (limit - buffer.length)) := by
  rw [not_or, Nat.not_le] at h
  have hall : buffer.take limit = buffer := List.take_of_length_le (by omega)
  rw [List.take_append, hall, firstLine_append_of_notMem h.1]

theorem takeLine?_complete (h : lineFeed ∈ buffer ∨ limit ≤ buffer.length) (reads : List Bytes) :
    takeLine? ended limit buffer reads =
      some (firstLine (buffer.take limit), ⟨buffer.drop (firstLine (buffer.take limit)).length, reads, ended⟩) := by
  cases reads <;> exact if_pos h

theorem takeLine?_nil (h : ¬(lineFeed ∈ buffer ∨ limit ≤ buffer.length)) :
    takeLine? ended limit buffer [] = if ended then some (buffer, ⟨[], [], ended⟩) else none := if_neg h

theorem takeLine?_cons (h : ¬(lineFeed ∈ buffer ∨ limit ≤ buffer.length)) (read : Bytes) (reads : List Bytes) :
    takeLine? ended limit buffer (read :: reads) =
      (takeLine? ended (limit - buffer.length) read reads).map fun (more, rest) => (buffer ++ more, rest) := if_neg h

/-- What is taken is the line in front, and the rest is left. -/
structure Taken (s : Intake) (limit : Nat) (line : Bytes) (rest : Intake) : Prop where
  line_eq : line = firstLine (s.content.take limit)
  content_eq : s.content = line ++ rest.content
  ended_eq : rest.ended = s.ended

theorem Taken.length_le (h : Taken s limit line rest) : line.length ≤ limit := by
  rw [h.line_eq]
  exact Nat.le_trans (firstLine_isPrefix _).length_le (List.length_take_le ..)

theorem taken_complete (h : lineFeed ∈ buffer ∨ limit ≤ buffer.length) (reads : List Bytes) :
    Taken ⟨buffer, reads, ended⟩ limit (firstLine (buffer.take limit))
      ⟨buffer.drop (firstLine (buffer.take limit)).length, reads, ended⟩ where
  line_eq := (firstLine_take_append h _).symm
  content_eq := by
    have hprefix : firstLine (buffer.take limit) <+: buffer := (firstLine_isPrefix _).trans (List.take_prefix ..)
    have hbuffer := List.prefix_iff_eq_append.1 hprefix
    calc
      buffer ++ reads.flatten = (firstLine (buffer.take limit) ++ buffer.drop _) ++ reads.flatten := by rw [hbuffer]
      _ = _ := List.append_assoc ..
  ended_eq := rfl

/-- A line that goes on in the next read. -/
theorem taken_cons (h : ¬(lineFeed ∈ buffer ∨ limit ≤ buffer.length)) {read : Bytes}
    (htaken : Taken ⟨read, reads, ended⟩ (limit - buffer.length) line rest) :
    Taken ⟨buffer, read :: reads, ended⟩ limit (buffer ++ line) rest where
  line_eq := by
    rw [htaken.line_eq]
    exact (firstLine_take_append' h _).symm
  content_eq := by
    rw [List.append_assoc, ← htaken.content_eq]
    rfl
  ended_eq := htaken.ended_eq

theorem takeLine?_eq_some (h : takeLine? ended limit buffer reads = some (line, rest)) :
    Taken ⟨buffer, reads, ended⟩ limit line rest := by
  induction reads generalizing limit buffer line with
  | nil =>
      by_cases hcomplete : lineFeed ∈ buffer ∨ limit ≤ buffer.length
      · rw [takeLine?_complete hcomplete] at h
        cases h
        exact taken_complete hcomplete []
      · rw [takeLine?_nil hcomplete] at h
        split at h
        · cases h
          have hline := firstLine_take_append' hcomplete []
          exact ⟨by simpa [content, firstLine] using hline.symm, by simp [content], rfl⟩
        · cases h
  | cons read reads ih =>
      by_cases hcomplete : lineFeed ∈ buffer ∨ limit ≤ buffer.length
      · rw [takeLine?_complete hcomplete] at h
        cases h
        exact taken_complete hcomplete (read :: reads)
      · rw [takeLine?_cons hcomplete] at h
        obtain ⟨⟨more, rest'⟩, hmore, heq⟩ := Option.map_eq_some_iff.1 h
        cases heq
        exact taken_cons hcomplete (ih hmore)

/-- More has to arrive where neither a line nor the limit nor the end of the stream has been reached. -/
theorem takeLine?_eq_none (h : takeLine? ended limit buffer reads = none) :
    ended = false ∧ lineFeed ∉ buffer ++ reads.flatten ∧ (buffer ++ reads.flatten).length < limit := by
  induction reads generalizing limit buffer with
  | nil =>
      by_cases hcomplete : lineFeed ∈ buffer ∨ limit ≤ buffer.length
      · rw [takeLine?_complete hcomplete] at h
        cases h
      · rw [takeLine?_nil hcomplete] at h
        rw [not_or, Nat.not_le] at hcomplete
        simpa [hcomplete.1, hcomplete.2] using h
  | cons read reads ih =>
      by_cases hcomplete : lineFeed ∈ buffer ∨ limit ≤ buffer.length
      · rw [takeLine?_complete hcomplete] at h
        cases h
      · rw [takeLine?_cons hcomplete, Option.map_eq_none_iff] at h
        obtain ⟨hended, hline, hlength⟩ := ih h
        rw [not_or, Nat.not_le] at hcomplete
        refine ⟨hended, ?_, ?_⟩
        · rw [List.flatten_cons, List.mem_append, not_or]
          exact ⟨hcomplete.1, hline⟩
        · rw [List.flatten_cons, List.length_append]
          omega

theorem line?_eq_some (h : s.line? limit = some (line, rest)) : Taken s limit line rest := takeLine?_eq_some h

theorem line?_eq_none (h : s.line? limit = none) :
    s.ended = false ∧ lineFeed ∉ s.content ∧ s.content.length < limit := takeLine?_eq_none h

/-- Where the end of a line has arrived a line is taken, and no more than it. -/
theorem line?_of_mem {front behind : Bytes} (hcontent : s.content = front ++ behind) (hmem : lineFeed ∈ front)
    (hroom : front.length ≤ limit) :
    ∃ line back rest, s.line? limit = some (line, rest) ∧ line ≠ [] ∧ line ++ back = front ∧
      rest.content = back ++ behind ∧ rest.ended = s.ended := by
  cases h : s.line? limit with
  | none =>
      have hnone := (line?_eq_none h).2.1
      rw [hcontent] at hnone
      exact absurd (List.mem_append_left behind hmem) hnone
  | some taken =>
      obtain ⟨line, rest⟩ := taken
      obtain ⟨hline, hsplit, hended⟩ := line?_eq_some h
      rw [hcontent, List.take_append, List.take_of_length_le hroom, firstLine_append_of_mem hmem] at hline
      obtain ⟨back, hback⟩ := firstLine_isPrefix front
      rw [← hline] at hback
      have hrest : rest.content = back ++ behind := by
        apply List.append_cancel_left
        rw [← hsplit, hcontent, ← hback, List.append_assoc]
      exact ⟨line, back, rest, rfl, hline ▸ firstLine_ne_nil (List.ne_nil_of_mem hmem), hback, hrest, hended⟩

end Taking

theorem incoming_foldl_feed (reads : List Bytes) (t : Transport) :
    reads.foldl Transport.feed t = { t with incoming := t.incoming ++ reads.flatten } := by
  induction reads generalizing t with
  | nil => simp
  | cons read reads ih => simp [ih, Transport.feed]

/-- The socket has all that is left of a stream before it. -/
theorem handOver_eq (s : Intake) (t : Transport) :
    s.handOver t = { t with incoming := t.incoming ++ s.content, peerDone := t.peerDone || s.ended } := by
  cases hended : s.ended with
  | true => simp [handOver, incoming_foldl_feed, Transport.feed, Transport.finish, content, hended]
  | false => simp [handOver, incoming_foldl_feed, Transport.feed, content, hended]

end Intake

namespace Upgrade

open Http Head

section Steps

variable {r : Reader} {line : Bytes} {s : Intake}

theorem readHead_nil (h : r.stream.line? r.budget = some ([], s)) (fuel : Nat) :
    readHead (fuel + 1) r = some (.error (if r.budget = 0 then tooLarge else truncated), r) := by
  rw [readHead, h]
  rfl

theorem readHead_line (h : r.stream.line? r.budget = some (line, s)) (hline : line ≠ []) (fuel : Nat) :
    readHead (fuel + 1) r =
      match scan (r.head ++ line) with
      | .got head _ => some (.ok head, ⟨r.head ++ line, s⟩)
      | .bad e => some (.error (malformed e.message), ⟨r.head ++ line, s⟩)
      | .more => readHead fuel ⟨r.head ++ line, s⟩ := by
  have hempty : line.isEmpty = false := by simpa using hline
  rw [readHead, h]
  simp only [Option.bind_eq_bind, Option.bind_some, hempty]
  cases scan (r.head ++ line) <;> rfl

end Steps

section Whole

variable {whole behind missing : Bytes} {head : Head} {r : Reader}

/-- What is missing of a head ends a line. -/
theorem lineFeed_mem_missing (hwhole : scan whole = .got head []) (hhead : r.head ++ missing = whole)
    (hmissing : missing ≠ []) : Intake.lineFeed ∈ missing := by
  obtain ⟨front, hfront⟩ := scan_eq_got hwhole
  have hlast : missing.getLast? = some lf := by
    rw [← List.getLast?_append_of_ne_nil r.head hmissing, hhead, hfront, List.getLast?_concat]
  exact List.mem_of_getLast? hlast

/-- What is missing of a head is taken, and no more. -/
theorem readHead_whole (hwhole : scan whole = .got head []) (hsize : whole.length ≤ maxHead) {fuel : Nat}
    (hhead : r.head ++ missing = whole) (hmissing : missing ≠ []) (hcontent : r.stream.content = missing ++ behind)
    (hfuel : missing.length ≤ fuel) :
    ∃ left, readHead fuel r = some (.ok head, ⟨whole, left⟩) ∧ left.content = behind ∧ left.ended = r.stream.ended := by
  induction fuel generalizing r missing with
  | zero => exact absurd (List.length_eq_zero_iff.1 (Nat.le_zero.1 hfuel)) hmissing
  | succ fuel ih =>
      have hroom : missing.length ≤ r.budget := by
        have hlength := congrArg List.length hhead
        rw [List.length_append] at hlength
        rw [Reader.budget]
        omega
      obtain ⟨line, missing', s, hline, hne, hsplit, hbehind, hended⟩ :=
        Intake.line?_of_mem hcontent (lineFeed_mem_missing hwhole hhead hmissing) hroom
      have hhead' : (r.head ++ line) ++ missing' = whole := by rw [List.append_assoc, hsplit, hhead]
      rw [readHead_line hline hne]
      -- Until nothing is missing a front part of the head has been taken, and this needs more.
      by_cases hdone : missing' = []
      · rw [hdone, List.append_nil] at hhead'
        rw [hhead', hwhole]
        rw [hdone] at hbehind
        exact ⟨s, rfl, hbehind, hended⟩
      · have hshorter : missing'.length ≤ fuel := by
          have hlength := congrArg List.length hsplit
          have hpos := List.length_pos_iff.2 hne
          rw [List.length_append] at hlength
          omega
        rw [scan_front (hhead' ▸ hwhole) hdone]
        obtain ⟨left, hread, hleft, hleftended⟩ := ih (r := ⟨r.head ++ line, s⟩) hhead' hdone hbehind hshorter
        exact ⟨left, hread, hleft, hleftended.trans hended⟩

end Whole

/-- Without a head among the octets that may be taken for one there is a refusal, once these octets or the end of the
stream have arrived. -/
theorem readHead_refused {fuel : Nat} {r : Reader} (hsize : r.head.length ≤ maxHead) (hfuel : r.budget < fuel)
    (hthere : r.stream.ended = true ∨ maxHead ≤ (r.head ++ r.stream.content).length)
    (hnone : ∀ whole head, whole <+: (r.head ++ r.stream.content).take maxHead → scan whole ≠ .got head []) :
    ∃ reason taken left, readHead fuel r = some (.error (.upgrade reason), ⟨taken, left⟩) ∧ taken.length ≤ maxHead ∧
      taken ++ left.content = r.head ++ r.stream.content := by
  induction fuel generalizing r with
  | zero => omega
  | succ fuel ih =>
      cases hline : r.stream.line? r.budget with
      | none =>
          obtain ⟨hended, -, hlength⟩ := Intake.line?_eq_none hline
          rw [hended, List.length_append] at hthere
          rw [Reader.budget] at hlength
          simp only [Bool.false_eq_true, false_or] at hthere
          omega
      | some taken =>
          obtain ⟨line, s⟩ := taken
          have htaken := Intake.line?_eq_some hline
          by_cases hne : line = []
          · rw [hne] at hline
            rw [readHead_nil hline]
            split
            · exact ⟨_, r.head, r.stream, rfl, hsize, rfl⟩
            · exact ⟨_, r.head, r.stream, rfl, hsize, rfl⟩
          · have hall : (r.head ++ line) ++ s.content = r.head ++ r.stream.content := by
              rw [List.append_assoc, htaken.content_eq]
            have hsize' : (r.head ++ line).length ≤ maxHead := by
              have hlength := htaken.length_le
              rw [Reader.budget] at hlength
              rw [List.length_append]
              omega
            rw [readHead_line hline hne]
            cases hscan : scan (r.head ++ line) with
            | got head rest => exact absurd hscan (scan_ne_got hnone ⟨s.content, hall⟩ hsize')
            | bad e => exact ⟨_, r.head ++ line, s, rfl, hsize', hall⟩
            | more =>
                -- The line is not empty, so less may still be taken than before.
                have hfuel' : Reader.budget ⟨r.head ++ line, s⟩ < fuel := by
                  have hpos := List.length_pos_iff.2 hne
                  rw [List.length_append] at hsize'
                  simp only [Reader.budget, List.length_append] at hfuel ⊢
                  omega
                have hrest := ih (r := ⟨r.head ++ line, s⟩) hsize' hfuel'
                rw [hall, htaken.ended_eq] at hrest
                exact hrest hthere hnone

theorem upgrade?_of_readHead {s left : Intake} {taken : Bytes} {result : Outcome Head}
    (h : readHead (maxHead + 1) ⟨[], s⟩ = some (result, ⟨taken, left⟩)) :
    upgrade? s = some (conclude result left) := by
  rw [upgrade?, h]
  rfl

theorem conclude_of_check {head : Head} {query : ConnectionQuery} {response : Response}
    (h : check head = .ok (query, response)) (left : Intake) :
    conclude (.ok head) left = ⟨response, .ok (query,
      { (if query.raw then Transport.raw else Transport.webSocket) with
        incoming := left.content, peerDone := left.ended })⟩ := by
  have hbind : (Except.ok head >>= check : Outcome _) = .ok (query, response) := h
  simp only [conclude, hbind, Intake.handOver_eq]
  cases query.raw <;> simp [Transport.raw, Transport.webSocket]

/-- Where a stream begins with a whole request for an upgrade, it is taken to its last octet however the stream is read,
and the socket has before it what comes behind.  Where it does not, the upgrade is refused once the stream has ended or
as many octets have arrived as a head may have, and no more than these are taken for a head. -/
theorem upgrade?_takes_head (s : Intake) :
    (∀ whole behind head query response, s.content = whole ++ behind → scan whole = .got head [] →
        whole.length ≤ maxHead → check head = .ok (query, response) →
      (∃ left, readHead (maxHead + 1) ⟨[], s⟩ = some (.ok head, ⟨whole, left⟩) ∧ left.content = behind) ∧
        upgrade? s = some ⟨response, .ok (query,
          { (if query.raw then Transport.raw else Transport.webSocket) with
            incoming := behind, peerDone := s.ended })⟩) ∧
      ((s.ended = true ∨ maxHead ≤ s.content.length) →
        (∀ whole head, whole <+: s.content.take maxHead → scan whole ≠ .got head []) →
        ∃ reason taken left, readHead (maxHead + 1) ⟨[], s⟩ = some (.error (.upgrade reason), ⟨taken, left⟩) ∧
          taken.length ≤ maxHead ∧ taken ++ left.content = s.content ∧
          upgrade? s = some (refused (.upgrade reason))) := by
  constructor
  · intro whole behind head query response hcontent hwhole hsize hcheck
    have hne : whole ≠ [] := by
      rintro rfl
      cases hwhole
    obtain ⟨left, hread, hleft, hended⟩ :=
      readHead_whole (r := ⟨[], s⟩) hwhole hsize rfl hne hcontent (Nat.le_succ_of_le hsize)
    refine ⟨⟨left, hread, hleft⟩, ?_⟩
    rw [upgrade?_of_readHead hread, conclude_of_check hcheck, hleft, hended]
  · intro hthere hnone
    obtain ⟨reason, taken, left, hread, hsize, hall⟩ :=
      readHead_refused (r := ⟨[], s⟩) (Nat.zero_le _) (Nat.lt_succ_self maxHead) hthere hnone
    exact ⟨reason, taken, left, hread, hsize, hall, upgrade?_of_readHead hread⟩

section Request

/-- A request for a socket. -/
def request : Bytes := Bytes.ofText <| String.join ["GET /?reconnectionToken=t HTTP/1.1\r\n", "Connection: Upgrade\r\n",
  "Upgrade: websocket\r\n", "Sec-WebSocket-Version: 13\r\n", "Sec-WebSocket-Key: eA==\r\n\r\n"]

def requestHead : Head where
  method := Bytes.ofText "GET"
  target := Bytes.ofText "/?reconnectionToken=t"
  minor := 1
  headers := [⟨Bytes.ofText "Connection", Bytes.ofText "Upgrade"⟩, ⟨Bytes.ofText "Upgrade", Bytes.ofText "websocket"⟩,
    ⟨Bytes.ofText "Sec-WebSocket-Version", Bytes.ofText "13"⟩, ⟨Bytes.ofText "Sec-WebSocket-Key", Bytes.ofText "eA=="⟩]

theorem scan_request : scan request = .got requestHead [] := by rfl

/-- With octets behind it in a second read the request is upgraded; where it is cut off it is refused. -/
theorem request_upgraded_or_cut :
    (∃ response, upgrade? { reads := [request.take 30, request.drop 30 ++ [0, 0, 0]] } =
        some ⟨response, .ok (⟨"t", false, false, none⟩, { Transport.webSocket with incoming := [0, 0, 0] })⟩) ∧
      ∃ reason, upgrade? { reads := [request.take 30], ended := true } = some (refused (.upgrade reason)) := by
  constructor
  · have hcontent : ({ reads := [request.take 30, request.drop 30 ++ [0, 0, 0]] } : Intake).content =
        request ++ [0, 0, 0] := by
      simp [Intake.content, ← List.append_assoc]
    exact ⟨_, ((upgrade?_takes_head _).1 request [0, 0, 0] requestHead ⟨"t", false, false, none⟩
      { status := 101
        reason := "Switching Protocols"
        headers := [("connection", "Upgrade"), ("upgrade", "websocket"),
          ("sec-websocket-accept", acceptKey (Bytes.ofText "eA=="))] }
      hcontent scan_request (by decide +kernel) (by rfl)).2⟩
  · have hnone : ∀ whole head,
        whole <+: (({ reads := [request.take 30], ended := true } : Intake).content).take maxHead →
          scan whole ≠ .got head [] := by
      intro whole head hprefix hwhole
      have hfront : whole <+: request.take 30 := by simpa [Intake.content] using hprefix.trans (List.take_prefix ..)
      obtain ⟨more, hmore⟩ := hfront
      have hrequest : whole ++ (more ++ request.drop 30) = request := by
        rw [← List.append_assoc, hmore, List.take_append_drop]
      have hback : more ++ request.drop 30 ≠ [] := List.append_ne_nil_of_right_ne_nil _ (by decide +kernel)
      have hmissing := scan_front (hrequest ▸ scan_request) hback
      rw [hwhole] at hmissing
      cases hmissing
    obtain ⟨reason, _, _, _, _, _, hrefused⟩ := (upgrade?_takes_head _).2 (.inl rfl) hnone
    exact ⟨reason, hrefused⟩

end Request

end Upgrade

end Workbench

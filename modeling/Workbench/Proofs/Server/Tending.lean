import Workbench.Proofs.Server.Keeping

/-!
A server in use.  Upgrades arrive, sockets are heard, sessions take turns, in any order.  After every admission
no more sessions of its kind stay offline than the server is to keep.
-/

namespace Workbench

namespace Server

/-- The work leaves the table of a server one that servers have. -/
abbrev Tended {α : Type} (act : Serving α) : Prop := Keeps (fun s : Server => s.board.table) act

theorem onBoard_tended {α : Type} {act : Switching ServerRuntime Facilities α} (hact : Switchboard.Kept act) :
    Tended (onBoard act) := fun s f h => hact s.board f h

/-- What happens beside the switchboard. -/
theorem beside_tended {g : Server → Server} (hg : ∀ s, (g s).board = s.board) :
    Tended (modify g : Serving PUnit) := by
  apply Keeps.modify
  intro s h
  rw [hg]
  exact h

theorem connect_tended (p : ServerPlace) (octets : Bytes) (ended : Bool) : Tended (connect p octets ended) := by
  unfold connect
  split
  · exact Keeps.pure _
  · split
    · exact Keeps.pure _
    · apply Keeps.bind (onBoard_tended (Switchboard.addLink_kept _))
      intro socket
      exact Keeps.bind (beside_tended fun _ => rfl) fun _ => Keeps.pure _

theorem forgetKnock_tended (k : Knock) : Tended (forgetKnock k) := beside_tended fun _ => rfl

theorem refuse_tended (socket : SocketId) (e : Fault) : Tended (onBoard (Switchboard.refuse socket e)) :=
  onBoard_tended (Switchboard.onLink_kept socket _)

theorem openTunnel_tended (socket : SocketId) (h : Handshake) : Tended (openTunnel socket h) := by
  have hlook : Tended (getThe Facilities : Serving Facilities) := Keeps.lift get
  apply Keeps.bind hlook
  intro facilities
  dsimp only
  split
  · exact refuse_tended socket _
  · exact Keeps.bind (onBoard_tended (Switchboard.onLink_kept socket _)) fun _ => beside_tended fun _ => rfl

/-- Asks for the session that a handshake is for. -/
def admission (p : ServerPlace) (k : Knock) (h : Handshake) :
    Switching ServerRuntime Facilities (Outcome Switchboard.Seated) :=
  Switchboard.seat ⟨h.kind, k.query.token⟩ k.query.reconnection k.socket (1000 * p.config.graceSeconds)
    (StateT.lift (makeRuntime p h k.query.token))

/-- Offline sessions go, if there are too many of a kind. -/
def sweep (p : ServerPlace) (kind : ConnectionKind) : Switching ServerRuntime Facilities Unit :=
  modify fun b => { b with table := (b.table.sweepOffline kind p.config.maxOffline).2 }

/-- Notes a new session of management, which will be announced. -/
def note (k : Knock) (h : Handshake) : Switchboard.Seated → Serving Unit
  | .created _ =>
    if h.kind = .management then modify fun s => { s with announced := s.announced ++ [k.query.token] }
    else pure ()
  | .resumed _ => pure ()

theorem note_tended (k : Knock) (h : Handshake) (seated : Switchboard.Seated) : Tended (note k h seated) := by
  cases seated with
  | created id =>
      show Tended (if h.kind = .management then _ else _)
      split
      · exact beside_tended fun _ => rfl
      · exact Keeps.pure _
  | resumed id => exact Keeps.pure _

theorem seat_eq (p : ServerPlace) (k : Knock) (h : Handshake) :
    seat p k h = onBoard (admission p k h) >>= fun admitted =>
      match admitted with
      | .error e => onBoard (Switchboard.refuse k.socket e)
      | .ok seated => note k h seated >>= fun _ => onBoard (sweep p h.kind) := by
  apply bind_congr (x := onBoard (admission p k h))
  intro admitted
  cases admitted with
  | error e => rfl
  | ok seated =>
      cases seated with
      | created id =>
          by_cases hkind : h.kind = .management
          · simp only [note, hkind, ↓reduceIte]
            rfl
          · simp only [note, hkind, ↓reduceIte]
            rfl
      | resumed id => rfl

theorem seat_tended (p : ServerPlace) (k : Knock) {h : Handshake} (hkind : h.kind ≠ .tunnel) :
    Tended (seat p k h) := by
  rw [seat_eq]
  apply Keeps.bind (onBoard_tended (Switchboard.seat_kept hkind _ _ _ _))
  intro seated
  cases seated with
  | error e => exact refuse_tended k.socket e
  | ok seated =>
      apply Keeps.bind (note_tended k h seated)
      intro _
      exact onBoard_tended (Keeps.modify fun _ h => h.sweepOffline _ _)

theorem hear_tended (p : ServerPlace) (k : Knock) : Tended (hear p k) := by
  have hrefuse : ∀ e : Fault, Tended (do forgetKnock k; onBoard (Switchboard.refuse k.socket e); return true) :=
    fun e => Keeps.bind (forgetKnock_tended k) fun _ => Keeps.bind (refuse_tended k.socket e) fun _ => Keeps.pure _
  apply Keeps.bind (onBoard_tended (Switchboard.receive_kept k.socket))
  intro received
  split
  · next h =>
      apply Keeps.bind (forgetKnock_tended k)
      intro _
      split
      · exact Keeps.bind (openTunnel_tended k.socket h) fun _ => Keeps.pure _
      · next hkind => exact Keeps.bind (seat_tended p k hkind) fun _ => Keeps.pure _
  · exact hrefuse _
  · exact hrefuse _
  · exact Keeps.bind (forgetKnock_tended k) fun _ => Keeps.pure _
  · apply Keeps.bind Keeps.get
    intro s
    split
    · exact hrefuse _
    · exact Keeps.pure _

theorem tunnelEffect_tended (e : Effect) : Tended (tunnelEffect e) := by
  cases e with
  | send socket | close socket => exact onBoard_tended (Switchboard.onLink_kept socket _)
  | refuse _ _ | deliver _ | shutRuntime => exact Keeps.pure _

theorem setTunnel_tended (t : Tunnel) : Tended (setTunnel t) := beside_tended fun _ => rfl

theorem passOn_tended (t : Tunnel) : Tended (passOn t) := by
  have hdid : ∀ r : List Effect × Tunnel, Tended (do setTunnel r.2; r.1.forM tunnelEffect; return true) :=
    fun r => Keeps.bind (setTunnel_tended r.2) fun _ =>
      Keeps.bind (Keeps.forM tunnelEffect_tended r.1) fun _ => Keeps.pure _
  unfold passOn
  split
  · exact Keeps.pure _
  · apply Keeps.bind (onBoard_tended (Switchboard.receive_kept t.socket))
    intro received
    split
    · exact hdid _
    · exact hdid _
    · exact hdid _
    · dsimp only
      split
      · exact hdid _
      · split
        · exact hdid _
        · exact Keeps.bind (setTunnel_tended _) fun _ => Keeps.pure _

theorem forgetClosed_tended : Tended forgetClosed := by
  apply onBoard_tended
  apply Keeps.modify
  intro b hserved
  apply hserved.foldl
  intro t id ht
  split
  · next s hs =>
      split
      · next hclosed => exact ht.remove hs hclosed
      · exact ht
  · exact ht

theorem round_tended (p : ServerPlace) : Tended (round p) := by
  apply Keeps.bind Keeps.get
  intro s
  apply Keeps.bind (Keeps.mapM (hear_tended p) _)
  intro heard
  apply Keeps.bind Keeps.get
  intro s
  apply Keeps.bind (Keeps.mapM passOn_tended _)
  intro passed
  apply Keeps.bind (onBoard_tended (Switchboard.turns_kept _))
  intro busy
  exact Keeps.bind forgetClosed_tended fun _ => Keeps.pure _

theorem shutdown_tended : Tended shutdown := by
  apply onBoard_tended
  apply Keeps.modifyGet
  exact fun _ h => h.shutdown

theorem takeAnnounced_tended : Tended takeAnnounced := by
  apply Keeps.modifyGet
  exact fun _ h => h

/-- What can happen to a server. -/
inductive Event where
  /-- A request for an upgrade arrives. -/
  | connect (octets : Bytes) (ended : Bool)
  /-- A socket is handed over that has been upgraded. -/
  | accept (link : Link)
  /-- A client does something at its end of a socket. -/
  | talk (socket : SocketId) (f : Link → Link)
  | advance (ms : Nat)
  /-- The world around the server changes. -/
  | meanwhile (f : Facilities → Facilities)
  /-- A socket is heard whose first frame is waited for. -/
  | hear (k : Knock)
  | passOn (t : Tunnel)
  /-- A session takes a turn. -/
  | turn (id : SessionId)
  | forgetClosed
  /-- Everything is looked at until there is nothing left to do. -/
  | settle
  | takeAnnounced
  | shutdown

def Event.act (p : ServerPlace) : Event → Serving Unit
  | .connect octets ended => do let _ ← Server.connect p octets ended
  | .accept link => do let _ ← onBoard (Switchboard.addLink link)
  | .talk socket f => onBoard (Switchboard.onLink socket f)
  | .advance ms => onBoard (Switchboard.advance ms)
  | .meanwhile f => StateT.lift (modify f)
  | .hear k => do let _ ← Server.hear p k
  | .passOn t => do let _ ← Server.passOn t
  | .turn id => do let _ ← onBoard (Switchboard.turn (ServerRuntime.ops p) id)
  | .forgetClosed => Server.forgetClosed
  | .settle => Server.settle p
  | .takeAnnounced => do let _ ← Server.takeAnnounced
  | .shutdown => do let _ ← Server.shutdown

theorem act_tended (p : ServerPlace) (e : Event) : Tended (e.act p) := by
  cases e with
  | connect octets ended => exact Keeps.bind (connect_tended p octets ended) fun _ => Keeps.pure _
  | accept link => exact Keeps.bind (onBoard_tended (Switchboard.addLink_kept link)) fun _ => Keeps.pure _
  | talk socket f => exact onBoard_tended (Switchboard.onLink_kept socket f)
  | advance ms => exact onBoard_tended (Keeps.modify fun _ h => h)
  | meanwhile f => exact Keeps.lift _
  | hear k => exact Keeps.bind (hear_tended p k) fun _ => Keeps.pure _
  | passOn t => exact Keeps.bind (passOn_tended t) fun _ => Keeps.pure _
  | turn id => exact Keeps.bind (onBoard_tended (Switchboard.turn_kept _ id)) fun _ => Keeps.pure _
  | forgetClosed => exact forgetClosed_tended
  | settle => exact Switchboard.settle_keeps (round_tended p) _
  | takeAnnounced => exact Keeps.bind takeAnnounced_tended fun _ => Keeps.pure _
  | shutdown => exact Keeps.bind shutdown_tended fun _ => Keeps.pure _

/-- What becomes of a new server. -/
def run (p : ServerPlace) (f : Facilities) (events : List Event) : Server × Facilities :=
  let ((_, s), f) := (events.forM (Event.act p)) {} f
  (s, f)

theorem run_served (p : ServerPlace) (f : Facilities) (events : List Event) :
    (run p f events).1.board.table.Served :=
  Keeps.forM (act_tended p) events {} f SessionTable.served_empty

/-- A socket shows this handshake, and what it asks for is granted. -/
structure Accepts (p : ServerPlace) (k : Knock) (h : Handshake) (s : Server) (f : Facilities) : Prop where
  heard : (onBoard (Switchboard.receive k.socket) s f).1.1 = .frame (.handshake h)
  granted : h.kind ≠ .tunnel →
    let ((_, s), f) := onBoard (Switchboard.receive k.socket) s f
    ∃ seated, (admission p k h s.board f).1.1 = .ok seated

/-- However many there were, after an admission no more stay offline than are kept. -/
theorem seat_within (p : ServerPlace) (k : Knock) (h : Handshake) (s : Server) (f : Facilities)
    {seated : Switchboard.Seated} (hseated : (admission p k h s.board f).1.1 = .ok seated) :
    ((seat p k h s f).1.2.board.table.offline h.kind).length ≤ p.config.maxOffline := by
  have hadmitted : (onBoard (admission p k h) s f).1.1 = .ok seated := hseated
  rw [seat_eq, bind_apply, hadmitted]
  exact SessionTable.length_offline_sweepOffline_le _ h.kind p.config.maxOffline

theorem hear_handshake (p : ServerPlace) (k : Knock) {h : Handshake} (hkind : h.kind ≠ .tunnel) {s : Server}
    {f : Facilities} (hheard : (onBoard (Switchboard.receive k.socket) s f).1.1 = .frame (.handshake h)) :
    hear p k s f =
      (forgetKnock k >>= fun _ => seat p k h >>= fun _ => pure true : Serving Bool)
        (onBoard (Switchboard.receive k.socket) s f).1.2 (onBoard (Switchboard.receive k.socket) s f).2 := by
  unfold hear
  rw [bind_apply, hheard]
  cases hthis : h.kind with
  | tunnel => exact absurd hthis hkind
  | management | extensionHost => simp only [hthis]

/-- When a server has accepted a socket, no more sessions of its kind are offline than it is to keep. -/
theorem hear_within {p : ServerPlace} {k : Knock} {h : Handshake} {s : Server} {f : Facilities}
    (hserved : s.board.table.Served) (haccepts : Accepts p k h s f) :
    ((hear p k s f).1.2.board.table.offline h.kind).length ≤ p.config.maxOffline := by
  by_cases hkind : h.kind = .tunnel
  · have hlater : (hear p k s f).1.2.board.table.Served := hear_tended p k s f hserved
    rw [hkind, hlater.offline_tunnel]
    exact Nat.zero_le _
  · obtain ⟨seated, hseated⟩ := haccepts.granted hkind
    rw [hear_handshake p k hkind haccepts.heard]
    exact seat_within p k h _ _ hseated

/-- A sweep tells exactly those to shut down who are too many, the ones that have been offline for longest, and
nobody else is touched: of a table in any state, however it has come about.  So a server never has more sessions
of a kind offline than it is to keep right after it has accepted a socket of that kind. -/
theorem longest_offline_swept :
    (∀ t : SessionTable, t.Proper → ∀ kind keep, ∃ gone,
      t.Swept kind keep gone (t.sweepOffline kind keep).2 ∧ (t.sweepOffline kind keep).1 = gone.length) ∧
    (∀ events, (Roster.run events).table.Proper) ∧
    (∀ p f events, let (s, f) := run p f events
      s.board.table.Proper ∧
      ∀ k h, Accepts p k h s f →
        ((hear p k s f).1.2.board.table.offline h.kind).length ≤ p.config.maxOffline) := by
  refine ⟨?_, ?_, ?_⟩
  · intro t hproper kind keep
    exact ⟨t.excess kind keep, hproper.swept kind keep, rfl⟩
  · exact fun events => (Roster.run_sound events).proper
  · intro p f events
    have hserved : (run p f events).1.board.table.Served := run_served p f events
    exact ⟨hserved.proper, fun k h haccepts => hear_within hserved haccepts⟩

/-- Two clients of management have been away since the same time and one has not, and a host of extensions is away. -/
def crowd : SessionTable where
  sessions := [{ Session.start "a" .management 9 0 with offlineSince := some 5 }, .start "b" .management 9 1,
    { Session.start "c" .management 9 2 with offlineSince := some 5 },
    { Session.start "d" .extensionHost 9 3 with offlineSince := some 1 }]
  live := [(⟨.management, "a"⟩, 0), (⟨.management, "b"⟩, 1), (⟨.management, "c"⟩, 2), (⟨.extensionHost, "d"⟩, 3)]

theorem crowd_proper : crowd.Proper where
  keys_nodup := by decide
  live_key := by simp [crowd, SessionTable.session?, Session.start, Session.key]

/-- A client that wants a new session of management. -/
def newClient : Handshake := { kind := .management }

/-- Its handshake is on its way. -/
def newSocket : Link := ⟨{ Transport.raw with incoming := Framing.encode (.handshake newClient) }, .raw⟩

theorem receive_newSocket : newSocket.carry.near.receive.1 = .frame (.handshake newClient) := by
  have hread : Frame.ofCbor (Frame.handshake newClient).cbor = .ok (.handshake newClient) := by decide +kernel
  have hempty : ({} : Framing.Decoder).next = (.ok none, {}) := rfl
  have hnext : (({} : Framing.Decoder).extend newSocket.carry.near.incoming).next =
      (.ok (some (Frame.handshake newClient).cbor), {}) := by decide +kernel
  have hcarrier : newSocket.carry.near.carrier = .raw {} := rfl
  simp only [Transport.receive, hcarrier, Transport.lookRaw, hempty, hnext, Transport.received, hread]

/-- A server that keeps nobody who is offline. -/
def place : ServerPlace := ⟨{}, {}, "/"⟩

def knock : Knock := ⟨0, { token := "e" }, 30000⟩

/-- One of those who have been away since the same time goes, the other stays; and a new client is accepted. -/
theorem longest_offline_swept_crowd :
    (∃ gone, crowd.Swept .management 1 gone (crowd.sweepOffline .management 1).2 ∧ gone.length = 1) ∧
    let (s, f) := run place {} [.accept newSocket]
    Accepts place knock newClient s f ∧
      ((hear place knock s f).1.2.board.table.offline .management).length ≤ 0 := by
  obtain ⟨hswept, -, hserver⟩ := longest_offline_swept
  constructor
  · obtain ⟨gone, hgone, -⟩ := hswept crowd crowd_proper .management 1
    exact ⟨gone, hgone, hgone.length_eq⟩
  · have hgranted : ∃ seated, (admission place knock newClient { links := [newSocket.carry] } {}).1.1 = .ok seated :=
      ⟨.created 0, rfl⟩
    have haccepts : Accepts place knock newClient (run place {} [.accept newSocket]).1
        (run place {} [.accept newSocket]).2 := ⟨receive_newSocket, fun _ => hgranted⟩
    exact ⟨haccepts, (hserver place {} [.accept newSocket]).2 knock newClient haccepts⟩

end Server
end Workbench

import StunServer.Proofs.Answer
import StunServer.Spec.StreamServer

/-! `ReceiveBytesForConnection` and `WriteBytesForConnection` refine the stream server: the
reader, the output buffer, the count of bytes sent and the state stay in step with what was
received and what is left to send. -/

namespace StunServer

open Bytes CStunMessageReader CStunRequestHandler

/-- What the pool promises of a connection, whatever it was used for. -/
structure StunConnection.Fit (conn : StunConnection) : Prop where
  reader : Reachable conn.reader
  output : 800 ≤ conn.spOutputBuffer.getAllocatedSize

/-- What a message that is received on a socket is answered by. -/
def CStunSocket.arrival (stunsocket : CStunSocket) (tsa : TransportAddressSet)
    (spAuth : Option IStunAuth) : Arrival :=
  ⟨⟨stunsocket.role, stunsocket.addrlocal, stunsocket.addrremote, none, true⟩, tsa, spAuth⟩

/-- The reader is in the middle of a message, or at the start of one. -/
def CStunMessageReader.IsWaiting (r : CStunMessageReader) : Prop :=
  r.state = .headerNotRead ∨ r.state = .headerValidated

/-- An open connection that stands where a stream server stands. -/
inductive InPhase (conn : StunConnection) (a : StreamServer) : Prop where
  | receiving (state : conn.state = .receiving) (outbox : a.outbox = [])
      (fed : Fed true conn.reader a.inbox) (waiting : conn.reader.IsWaiting)
      (txCount : conn.txCount = 0)
  | transmitting (state : conn.state = .transmitting) (inbox : a.inbox = [])
      (outbox : a.outbox = conn.spOutputBuffer.bytes.drop conn.txCount)
      (size : conn.spOutputBuffer.bytes.length = conn.spOutputBuffer.getSize)
      (left : conn.txCount < conn.spOutputBuffer.getSize)

/-- A session on a socket that did to the outside what a stream server did. -/
structure Tracks (stunsocket : CStunSocket) (s : Session) (a : StreamServer) : Prop where
  fit : s.conn.Fit
  stunsocket : s.conn.stunsocket = stunsocket
  log : s.log = a.log
  incoming : s.incoming = a.incoming
  closed : s.fClosed = a.closed
  assertsHeld : s.assertsHeld = true

/-- And it will go on like the stream server, unless it is closed. -/
structure Refines (stunsocket : CStunSocket) (s : Session) (a : StreamServer) : Prop
    extends Tracks stunsocket s a where
  phase : s.fClosed = false → InPhase s.conn a

section

variable {r : CStunMessageReader} {b : List UInt8}

/-! ### Bytes needed -/

theorem uint16_sub_toNat {n k : ℕ} (hk : k ≤ n) (hn : n < 2 ^ 16) :
    (UInt16.ofNat n - UInt16.ofNat k).toNat = n - k := by
  rw [UInt16.toNat_sub_of_le]
  · rw [UInt16.toNat_ofNat_of_lt' hn, UInt16.toNat_ofNat_of_lt' (by show _ < 65536; omega)]
  · rw [UInt16.le_iff_toNat_le, UInt16.toNat_ofNat_of_lt' hn,
      UInt16.toNat_ofNat_of_lt' (by show _ < 65536; omega)]
    exact hk

/-- A reader that waits says how many bytes end the header or the message: at least one. -/
theorem howManyBytesNeeded_eq {fAllow : Bool} (h : Fed fAllow r b) (hw : r.IsWaiting) :
    r.howManyBytesNeeded.toNat = StreamServer.needed b ∧ 0 < StreamServer.needed b := by
  cases h with
  | headerNotRead state allow stored table short =>
    rw [howManyBytesNeeded, state, stored.getSize, StreamServer.needed, if_pos short]
    exact ⟨uint16_sub_toNat short.le (by decide), by omega⟩
  | headerValidated state stored table header read short =>
    have hb := header.complete
    have hle := header.length_le
    have hlength : r.msgLength + UInt16.ofNat STUN_HEADER_SIZE =
        UInt16.ofNat (20 + (lengthFieldOf b).toNat) := by
      rw [read.length, Nat.add_comm]
      apply UInt16.toNat_inj.mp
      simp [STUN_HEADER_SIZE]
    rw [howManyBytesNeeded, state, stored.getSize, StreamServer.needed, if_neg (by omega)]
    refine ⟨?_, by omega⟩
    dsimp only
    rw [hlength]
    exact uint16_sub_toNat short.le (by omega)
  | bodyValidated m encode accepted parsed =>
    rcases hw with hw | hw
    · exact absurd (parsed.state.symm.trans hw) (by decide)
    · exact absurd (parsed.state.symm.trans hw) (by decide)
  | parseError state =>
    rcases hw with hw | hw
    · exact absurd (state.symm.trans hw) (by decide)
    · exact absurd (state.symm.trans hw) (by decide)

end

/-! ### Operations on a connection -/

section

variable {conn : StunConnection}

theorem StunConnection.Fit.resetConnection (h : conn.Fit) :
    conn.resetConnection.Fit ∧ Fed true conn.resetConnection.reader [] :=
  ⟨⟨(h.reader.fed_reset _).1, h.output⟩, (h.reader.fed_reset _).2⟩

theorem CStunMessageReader.isWaiting_of_fed_nil {r : CStunMessageReader} (h : Fed true r []) :
    r.IsWaiting := Or.inl (h.state_iff.2.1.mpr (by decide))

/-- Between two messages a connection stands where a server with nothing in its boxes does. -/
theorem StunConnection.Fit.inPhase_reset (h : conn.Fit) {a : StreamServer} (hin : a.inbox = [])
    (hout : a.outbox = []) : InPhase conn.resetConnection a := by
  have hfed := h.resetConnection.2
  refine .receiving rfl hout (by rw [hin]; exact hfed) ?_ rfl
  exact isWaiting_of_fed_nil hfed

theorem StunConnection.Fit.addBytes (h : conn.Fit) {b c : List UInt8}
    (hfed : Fed true conn.reader b) (hlen : c.length < 2 ^ 32) :
    (conn.addBytes c).2.Fit ∧ (conn.addBytes c).1 = (conn.addBytes c).2.reader.state ∧
      Fed true (conn.addBytes c).2.reader (b ++ c) := by
  obtain ⟨hreachable, hstate, hfed'⟩ := h.reader.fed_addBytes hfed hlen
  exact ⟨⟨hreachable, h.output⟩, hstate, hfed'⟩

end

theorem StreamServer.needed_lt (inbox : List UInt8) : StreamServer.needed inbox < 2 ^ 32 := by
  have hlt : (lengthFieldOf inbox).toNat < 65536 := UInt16.toNat_lt _
  rw [StreamServer.needed]
  split_ifs <;> omega

namespace InPhase

variable {conn : StunConnection} {a : StreamServer}

theorem of_outbox_nil (h : InPhase conn a) (hout : a.outbox = []) :
    conn.state = .receiving ∧ Fed true conn.reader a.inbox ∧ conn.reader.IsWaiting ∧
      conn.txCount = 0 := by
  cases h with
  | receiving state _ fed waiting txCount => exact ⟨state, fed, waiting, txCount⟩
  | transmitting state inbox outbox size left =>
    rw [hout, eq_comm, List.drop_eq_nil_iff, size] at outbox
    omega

theorem of_outbox_ne (h : InPhase conn a) (hout : a.outbox ≠ []) :
    conn.state = .transmitting ∧ a.inbox = [] ∧
      a.outbox = conn.spOutputBuffer.bytes.drop conn.txCount ∧
      conn.spOutputBuffer.bytes.length = conn.spOutputBuffer.getSize ∧
      conn.txCount < conn.spOutputBuffer.getSize := by
  cases h with
  | receiving _ outbox => exact absurd outbox hout
  | transmitting state inbox outbox size left => exact ⟨state, inbox, outbox, size, left⟩

end InPhase

/-! ### Writing -/

section

variable {stunsocket : CStunSocket} {s : Session} {a : StreamServer} {call : ConnectionCall}

theorem Tracks.close (h : Tracks stunsocket s a) : Refines stunsocket s.close a.close :=
  { h with
    closed := rfl
    phase := fun hc => by cases hc }

theorem Tracks.logged (h : Tracks stunsocket s a) (event : IoEvent) :
    Tracks stunsocket (s.logged event) (a.logged event) :=
  { h with
    log := by rw [Session.logged, StreamServer.logged, h.log] }

theorem Session.ASSERT_of {expr : Bool} (h : expr = true) (hs : s.assertsHeld = true) :
    s.ASSERT expr = s := by
  rw [Session.ASSERT, h, hs, Bool.and_true]
  cases s
  cases hs
  rfl

theorem Session.assertTransmitting_of (hs : s.assertsHeld = true)
    (hstate : s.conn.state = .transmitting) (hleft : s.conn.txCount < s.conn.spOutputBuffer.getSize) :
    s.assertTransmitting = s := by
  rw [Session.assertTransmitting, Session.ASSERT_of (decide_eq_true hstate) hs,
    Session.ASSERT_of (decide_eq_true hleft) hs]

/-- The last byte is out. -/
theorem Tracks.finishWrite (h : Tracks stunsocket s a) (hin : a.inbox = []) (hout : a.outbox = []) :
    Refines stunsocket (s.finishWrite call) (if call.fReadEventSet then a else a.close) := by
  have hreset : Refines stunsocket { s with conn := s.conn.resetConnection } a :=
    { h with
      fit := h.fit.resetConnection.1
      phase := fun _ => h.fit.inPhase_reset hin hout }
  rw [Session.finishWrite]
  split_ifs
  · exact hreset
  · exact hreset.toTracks.close

/-- The bytes `send` takes are the next ones of the response. -/
theorem slice_output {conn : StunConnection} {outbox : List UInt8} {k : ℕ}
    (hout : outbox = conn.spOutputBuffer.bytes.drop conn.txCount)
    (hk : k ≤ conn.spOutputBuffer.getSize - conn.txCount) :
    slice conn.spOutputBuffer.data conn.txCount k = outbox.take k := by
  have hle : conn.txCount + k ≤ conn.spOutputBuffer.size ∨ k = 0 := by
    rw [CBuffer.getSize] at hk
    omega
  rw [hout, CBuffer.bytes]
  rcases hle with hle | rfl
  · exact (slice_take hle).symm
  · rfl

theorem refines_write (results : List IoResult) (h : Refines stunsocket s a)
    (hopen : s.fClosed = false) (hout : a.outbox ≠ []) :
    Refines stunsocket (s.writeBytesForConnection call results) (a.write call results) := by
  have hphase := (h.phase hopen).of_outbox_ne hout
  induction results generalizing s a with
  | nil =>
    obtain ⟨state, -, -, -, left⟩ := hphase
    rw [Session.writeBytesForConnection.eq_def, Session.assertTransmitting_of h.assertsHeld state left]
    exact h
  | cons r results ih =>
    obtain ⟨state, inbox, outbox, size, left⟩ := hphase
    rw [Session.writeBytesForConnection.eq_def, Session.assertTransmitting_of h.assertsHeld state left]
    cases r with
    | wouldBlock => exact h
    | failed => exact h.toTracks.close
    | count n =>
      have hlen : a.outbox.length = s.conn.spOutputBuffer.getSize - s.conn.txCount := by
        rw [outbox, List.length_drop, size]
      dsimp only
      rw [StreamServer.write, hlen]
      set k := min (max n 1) (s.conn.spOutputBuffer.getSize - s.conn.txCount)
      have hk : 0 < k ∧ k ≤ s.conn.spOutputBuffer.getSize - s.conn.txCount := by omega
      rw [if_neg hk.1.ne', slice_output outbox hk.2]
      have hrest : a.outbox.drop k = s.conn.spOutputBuffer.bytes.drop (s.conn.txCount + k) := by
        rw [outbox, List.drop_drop]
      have hleft : a.outbox.drop k = [] ↔ s.conn.txCount + k ≥ s.conn.spOutputBuffer.getSize := by
        rw [hrest, List.drop_eq_nil_iff, size]
      -- the session and the server after the bytes are gone
      set s' : Session := { s.logged (.sent (a.outbox.take k)) with
        conn := { s.conn with txCount := s.conn.txCount + k } }
      set a' : StreamServer := { a.logged (.sent (a.outbox.take k)) with outbox := a.outbox.drop k }
      have htracks : Tracks stunsocket s' a' :=
        { h.toTracks.logged (.sent (a.outbox.take k)) with fit := ⟨h.fit.reader, h.fit.output⟩ }
      have hassert : s'.ASSERT (s'.conn.txCount ≤ s.conn.spOutputBuffer.getSize) = s' :=
        Session.ASSERT_of (decide_eq_true (by show s.conn.txCount + k ≤ _; omega)) h.assertsHeld
      change Refines stunsocket (let s := s'.ASSERT (s'.conn.txCount ≤ s.conn.spOutputBuffer.getSize)
        if s.conn.txCount ≥ _ then s.finishWrite call else s.writeBytesForConnection call results)
        (if a'.outbox = [] then if call.fReadEventSet then a' else a'.close else a'.write call results)
      rw [hassert]
      dsimp only
      by_cases hdone : a.outbox.drop k = []
      · rw [if_pos (hleft.mp hdone), if_pos hdone]
        exact htracks.finishWrite inbox hdone
      · rw [if_neg (mt hleft.mpr hdone), if_neg hdone]
        have hlt := not_le.mp (mt hleft.mpr hdone)
        exact ih { htracks with phase := fun _ => .transmitting state inbox hrest size hlt } hopen hdone
          ⟨state, inbox, hrest, size, hlt⟩

/-! ### Answering -/

variable {D : Digests} {tsa : TransportAddressSet} {spAuth : Option IStunAuth}

theorem refines_respond (results : List IoResult) (h : Tracks stunsocket s a)
    (hopen : s.fClosed = false) (hfed : Fed true s.conn.reader a.inbox) (htx : s.conn.txCount = 0) :
    Refines stunsocket (s.respond call D tsa spAuth results)
      (a.respond call D (stunsocket.arrival tsa spAuth) results) := by
  have hlogged := h.logged (.rateChecked stunsocket.addrremote)
  rw [Session.respond, StreamServer.respond, h.stunsocket]
  dsimp only
  by_cases hallowed : call.allowed_to_pass = false
  · rw [if_pos hallowed, if_pos hallowed]
    exact hlogged.close
  rw [if_neg hallowed, if_neg hallowed]
  set res := processRequest D ⟨stunsocket.role, stunsocket.addrlocal, stunsocket.addrremote,
    some s.conn.reader, true⟩ ⟨.rolePP, .create, some s.conn.spOutputBuffer⟩ (some tsa) spAuth
  have hout : (⟨.rolePP, .create, some s.conn.spOutputBuffer⟩ : StunMessageOut).spBufferOut =
      some s.conn.spOutputBuffer := rfl
  obtain ⟨hpacket, buf, hbuf, halloc⟩ := packetOf_processRequest (D := D)
    (x := (stunsocket.arrival tsa spAuth).withReader s.conn.reader) hfed rfl hout h.fit.output
  change packetOf res = _ at hpacket
  change res.2.spBufferOut = some buf at hbuf
  rw [Arrival.withReader_answer] at hpacket
  rw [show (a.logged (.rateChecked (stunsocket.arrival tsa spAuth).msgIn.addrRemote)).inbox =
    a.inbox from rfl, ← hpacket, hbuf, Option.getD_some, packetOf]
  by_cases hfailed : FAILED res.1 = true
  · rw [if_pos hfailed, if_pos hfailed]
    exact Tracks.close { hlogged with fit := ⟨h.fit.reader, halloc ▸ h.fit.output⟩ }
  rw [if_neg hfailed, if_neg hfailed]
  dsimp only
  have hanswer : (stunsocket.arrival tsa spAuth).answer D a.inbox = some ⟨res.2.socketrole,
      res.2.addrDest, res.2.spBufferOut.elim [] CBuffer.bytes⟩ := by
    rw [← hpacket, packetOf, if_neg hfailed]
  obtain ⟨buf', hbuf', hbytes, hlen, hsize⟩ := buffer_of_answer (D := D)
    (x := (stunsocket.arrival tsa spAuth).withReader s.conn.reader) hfed rfl hout h.fit.output
    (Arrival.withReader_answer.trans hanswer)
  obtain rfl : buf = buf' := Option.some.inj (hbuf.symm.trans hbuf')
  rw [hbuf, Option.elim_some]
  -- the session and the server with the response to send
  set s' : Session := { s.logged (.rateChecked stunsocket.addrremote) with
    conn := { s.conn with spOutputBuffer := buf, state := .transmitting } }
  set a' : StreamServer := { a.logged (.rateChecked stunsocket.addrremote) with
    inbox := [], outbox := buf.bytes }
  have htracks : Tracks stunsocket s' a' :=
    { hlogged with fit := ⟨h.fit.reader, halloc ▸ h.fit.output⟩ }
  have hpos : s'.conn.txCount < buf.getSize := by
    show s.conn.txCount < _
    omega
  have hrefines : Refines stunsocket s' a' :=
    { htracks with
      phase := fun _ => .transmitting rfl rfl (by show _ = buf.bytes.drop s.conn.txCount; rw [htx]; rfl)
        hlen hpos }
  have hne : a'.outbox ≠ [] := fun hc => by
    have hzero : buf.bytes.length = 0 := by rw [show buf.bytes = [] from hc]; rfl
    omega
  by_cases hset : call.fWriteEventSet = true
  · rw [if_pos hset, if_pos hset]
    exact refines_write results hrefines hopen hne
  · rw [if_neg hset, if_neg hset]
    exact htracks.close

theorem Session.assertReceiving_of (hs : s.assertsHeld = true) (hstate : s.conn.state = .receiving)
    (hw : s.conn.reader.IsWaiting) (hneeded : s.conn.reader.howManyBytesNeeded ≠ 0) :
    s.assertReceiving = s := by
  have hne : s.conn.reader.getState ≠ .parseError ∧ s.conn.reader.getState ≠ .bodyValidated := by
    rcases hw with hw | hw <;> rw [CStunMessageReader.getState, hw] <;> decide
  rw [Session.assertReceiving, Session.ASSERT_of (decide_eq_true hstate) hs,
    Session.ASSERT_of (decide_eq_true hne.1) hs, Session.ASSERT_of (decide_eq_true hne.2) hs,
    Session.ASSERT_of (decide_eq_true hneeded) hs]

/-- The assertions hold, and the reader asks for the bytes the server needs. -/
theorem receiveBytes_eq (results : List IoResult) (h : Refines stunsocket s a)
    (hopen : s.fClosed = false) (hout : a.outbox = []) :
    s.receiveBytesForConnection call D tsa spAuth results =
      match results with
      | [] => s
      | .wouldBlock :: _ => s
      | .failed :: _ => s.close
      | .count n :: results =>
        let buffer := a.incoming.take (min (max n 1) (StreamServer.needed a.inbox))
        if buffer = [] then s
        else
          let s' : Session := { s.logged (.received buffer) with
            incoming := a.incoming.drop buffer.length, conn := (s.conn.addBytes buffer).2 }
          if (s.conn.addBytes buffer).1 = .parseError then s'.close
          else if (s.conn.addBytes buffer).1 = .bodyValidated then s'.respond call D tsa spAuth results
          else s'.receiveBytesForConnection call D tsa spAuth results := by
  obtain ⟨state, fed, waiting, txCount⟩ := (h.phase hopen).of_outbox_nil hout
  obtain ⟨hneeded, hpos⟩ := howManyBytesNeeded_eq fed waiting
  have hne : s.conn.reader.howManyBytesNeeded ≠ 0 := fun hc => by
    rw [hc] at hneeded
    exact hpos.ne hneeded
  rw [Session.receiveBytesForConnection.eq_def,
    Session.assertReceiving_of h.assertsHeld state waiting hne]
  dsimp only
  rw [hneeded, if_neg hpos.ne', ← h.incoming]
  rfl

theorem refines_read (results : List IoResult) (h : Refines stunsocket s a)
    (hopen : s.fClosed = false) (hout : a.outbox = []) :
    Refines stunsocket (s.receiveBytesForConnection call D tsa spAuth results)
      (a.read call D (stunsocket.arrival tsa spAuth) results) := by
  induction results generalizing s a with
  | nil =>
    rw [receiveBytes_eq [] h hopen hout]
    exact h
  | cons r results ih =>
    rw [receiveBytes_eq (r :: results) h hopen hout]
    cases r with
    | wouldBlock => exact h
    | failed => exact h.toTracks.close
    | count n =>
      obtain ⟨state, fed, -, txCount⟩ := (h.phase hopen).of_outbox_nil hout
      dsimp only
      rw [StreamServer.read]
      dsimp only
      set buffer := a.incoming.take (min (max n 1) (StreamServer.needed a.inbox))
      by_cases hnothing : buffer = []
      · rw [if_pos hnothing, if_pos hnothing]
        exact h
      rw [if_neg hnothing, if_neg hnothing]
      have hlen : buffer.length < 2 ^ 32 := by
        have hlt := StreamServer.needed_lt a.inbox
        have hle : buffer.length ≤ min (max n 1) (StreamServer.needed a.inbox) := List.length_take_le _ _
        omega
      obtain ⟨hfit, hstate, hfed⟩ := h.fit.addBytes fed hlen
      obtain ⟨haccepted, hshort, hheader, hrejected⟩ := hfed.state_iff
      -- the session and the server after the bytes are in
      set s' : Session := { s.logged (.received buffer) with
        incoming := a.incoming.drop buffer.length, conn := (s.conn.addBytes buffer).2 }
      set a' : StreamServer := { a.logged (.received buffer) with
        inbox := a.inbox ++ buffer, incoming := a.incoming.drop buffer.length }
      have htracks : Tracks stunsocket s' a' :=
        { h.toTracks.logged (.received buffer) with fit := hfit, incoming := rfl }
      rw [hstate]
      cases hs : (s.conn.addBytes buffer).2.reader.state with
      | headerNotRead =>
        have hnot : ¬Accepted true a'.inbox := fun hc => by
          cases hs.symm.trans (haccepted.mpr hc)
        rw [if_neg (by decide), if_neg (by decide), if_neg hnot, if_pos (Or.inl (hshort.mp hs))]
        exact ih { htracks with phase := fun _ => .receiving state hout hfed (Or.inl hs) txCount } hopen hout
      | headerValidated =>
        have hnot : ¬Accepted true a'.inbox := fun hc => by
          cases hs.symm.trans (haccepted.mpr hc)
        rw [if_neg (by decide), if_neg (by decide), if_neg hnot, if_pos (Or.inr (hheader.mp hs))]
        exact ih { htracks with phase := fun _ => .receiving state hout hfed (Or.inr hs) txCount } hopen hout
      | bodyValidated =>
        rw [if_neg (by decide), if_pos rfl, if_pos (haccepted.mp hs)]
        exact refines_respond results htracks hopen hfed txCount
      | parseError =>
        obtain ⟨hlong, hno, hnot⟩ := hrejected.mp hs
        rw [if_pos rfl, if_neg hnot, if_neg (not_or.mpr ⟨not_lt.mpr hlong, hno⟩)]
        exact htracks.close

/-! ### Runs -/

theorem refines_event (h : Refines stunsocket s a) :
    Refines stunsocket (s.event call D tsa spAuth)
      (a.event call D (stunsocket.arrival tsa spAuth)) := by
  rw [Session.event, StreamServer.event, ← h.closed]
  cases hc : s.fClosed with
  | true => exact h
  | false =>
    rw [if_neg Bool.false_ne_true, if_neg Bool.false_ne_true, Session.processConnectionEvent]
    by_cases hout : a.outbox = []
    · rw [if_pos hout, ((h.phase hc).of_outbox_nil hout).1]
      exact refines_read _ h hc hout
    · rw [if_neg hout, ((h.phase hc).of_outbox_ne hout).1]
      exact refines_write _ h hc hout

/-- A session does to the outside what a stream server does, and no assertion fails. -/
theorem refines_run (calls : List ConnectionCall) (h : Refines stunsocket s a) :
    Refines stunsocket (s.run D tsa spAuth calls)
      (a.run D (stunsocket.arrival tsa spAuth) calls) := by
  induction calls generalizing s a with
  | nil => exact h
  | cons call calls ih => exact ih (refines_event h)

/-! ### Connections from the pool -/

open CConnectionPool

theorem StunConnection.Fit.prepConnection {conn : StunConnection} (h : conn.Fit) (sock : Int)
    (role : SocketRole) (names : CStunSocket.Names) :
    (prepConnection sock role names conn).Fit ∧
      Fed true (prepConnection sock role names conn).reader [] :=
  ⟨⟨(h.reader.fed_reset _).1, h.output⟩, (h.reader.fed_reset _).2⟩

/-- A connection just taken from the pool starts like a stream server. -/
theorem refines_start {conn : StunConnection} (h : conn.Fit) (sock : Int) (role : SocketRole)
    (names : CStunSocket.Names) (incoming : List UInt8) :
    Refines (prepConnection sock role names conn).stunsocket
      (.create (prepConnection sock role names conn) incoming) (.start incoming) where
  fit := (h.prepConnection sock role names).1
  stunsocket := rfl
  log := rfl
  incoming := rfl
  closed := rfl
  assertsHeld := rfl
  phase _ := .receiving rfl rfl (h.prepConnection sock role names).2
    (isWaiting_of_fed_nil (h.prepConnection sock role names).2) rfl

/-- The life of a connection object: it was used for one socket after the other, each of
which was closed in the end. -/
inductive Pooled (D : Digests) (tsa : TransportAddressSet) (spAuth : Option IStunAuth) :
    StunConnection → Prop where
  | created (pNext : Option ℕ) : Pooled D tsa spAuth { StunConnection.create with pNext := pNext }
  | used {conn : StunConnection} (h : Pooled D tsa spAuth conn) (sock : Int) (role : SocketRole)
      (names : CStunSocket.Names) (incoming : List UInt8) (calls : List ConnectionCall)
      (idHashTable : Int) (pNext : Option ℕ) :
      Pooled D tsa spAuth
        { ((Session.create (prepConnection sock role names conn) incoming).run D tsa spAuth
            calls).conn with stunsocket := .reset, idHashTable := idHashTable, pNext := pNext }

theorem Pooled.fit {conn : StunConnection} (h : Pooled D tsa spAuth conn) :
    conn.Fit ∧ conn.stunsocket = .reset := by
  induction h with
  | created pNext => exact ⟨⟨.create, List.length_replicate.ge⟩, rfl⟩
  | used h sock role names incoming calls idHashTable pNext ih =>
    have hrun : Refines _ (Session.run D tsa spAuth calls _) _ :=
      refines_run calls (refines_start ih.1 sock role names incoming)
    exact ⟨⟨hrun.fit.reader, hrun.fit.output⟩, rfl⟩

/-- The ends of the socket are those of the names, whatever the object was used for. -/
theorem Pooled.arrival_prepConnection {conn : StunConnection} (h : Pooled D tsa spAuth conn)
    {sock : Int} (hsock : sock ≠ -1) (role : SocketRole) (names : CStunSocket.Names) :
    (prepConnection sock role names conn).stunsocket.arrival tsa spAuth =
      ⟨⟨role, names.sockname.getD (.ofHostOrder 0 0), names.peername.getD (.ofHostOrder 0 0), none,
        true⟩, tsa, spAuth⟩ := by
  have hsocket : (prepConnection sock role names conn).stunsocket =
      { conn.stunsocket.attach sock names with role := role } := rfl
  have hne : sock ≠ CStunSocket.reset.sock := hsock
  rw [hsocket, h.fit.2, CStunSocket.attach, if_neg hsock, if_pos hne]
  rfl

/-! ### Between two messages -/

/-- Nothing of a message is received, and nothing of a response is left to send. -/
structure Session.AtBoundary (s : Session) : Prop where
  isOpen : s.fClosed = false
  state : s.conn.state = .receiving
  empty : s.conn.reader.stream.getSize = 0

theorem CStunMessageReader.fed_getSize {r : CStunMessageReader} {b : List UInt8} (h : Fed true r b)
    (hw : r.IsWaiting) : r.stream.getSize = b.length := by
  have hne : r.state ≠ .parseError := by
    rcases hw with hw | hw <;> rw [hw] <;> decide
  exact (h.stored hne).getSize

/-- A connection between two messages goes on like one just taken from the pool. -/
theorem Refines.restart (h : Refines stunsocket s a) (hb : s.AtBoundary) (incoming : List UInt8) :
    Refines stunsocket (.create s.conn incoming) (.start incoming) where
  fit := h.fit
  stunsocket := h.stunsocket
  log := rfl
  incoming := rfl
  closed := rfl
  assertsHeld := rfl
  phase _ := by
    have hstate := hb.state
    cases h.phase hb.isOpen with
    | receiving state outbox fed waiting txCount =>
      have hnil : a.inbox = [] := by
        rw [← List.length_eq_zero_iff, ← fed_getSize fed waiting, hb.empty]
      rw [hnil] at fed
      exact .receiving state rfl fed waiting txCount
    | transmitting state =>
      rw [hstate] at state
      cases state

end

end StunServer

import StunServer.Proofs.Answer

/-! What one turn of `CStunSocketThread::Run` does: which address it charges, what it sends,
and that it leaves the objects it uses again as `Init` set them up. -/

namespace StunServer

open Bytes CStunMessageReader CStunRequestHandler

/-- The address a datagram comes from. -/
def RecvMsg.source : RecvMsg → Option CSocketAddress
  | failed => none
  | datagram _ addrRemote _ => some addrRemote

/-- The remote address after a receive, given the one before. -/
def RecvMsg.keptAddress (addrRemote : CSocketAddress) : RecvMsg → CSocketAddress
  | failed => addrRemote
  | datagram data addr _ => if data = [] then addrRemote else addr

theorem take_eq_nil_iff_of_pos (data : List UInt8) {n : ℕ} (hn : 0 < n) :
    data.take n = [] ↔ data = [] := by
  rw [List.take_eq_nil_iff]
  constructor
  · rintro (rfl | h)
    · exact absurd hn (Nat.lt_irrefl 0)
    · exact h
  · exact Or.inr

namespace CStunSocketThread

/-- The objects a thread uses again and again are as large as `Init` made them. -/
structure Prepared (tsa : TransportAddressSet) (spAuth : Option IStunAuth)
    (thread : CStunSocketThread) : Prop where
  tsa : thread.tsa = tsa
  spAuth : thread.spAuth = spAuth
  reader : Reachable thread.reader
  bufferIn : thread.spBufferIn.getAllocatedSize = MAX_STUN_MESSAGE_SIZE
  bufferOut : ∃ buf, thread.msgOut.spBufferOut = some buf ∧ 800 ≤ buf.getAllocatedSize
  datagrams : thread.msgIn.fConnectionOriented = false

theorem prepared_initWith (tsa : TransportAddressSet) (spAuth : Option IStunAuth)
    (spLimiter : Option RateLimiter) : Prepared tsa spAuth (initWith tsa spAuth spLimiter) where
  tsa := rfl
  spAuth := rfl
  reader := .attachStream .create rfl _
  bufferIn := List.length_replicate
  bufferOut := ⟨_, rfl, List.length_replicate.ge⟩
  datagrams := rfl

section

variable {D : Digests} {tsa : TransportAddressSet} {spAuth : Option IStunAuth}
  {thread : CStunSocketThread}

/-! ### Receiving -/

/-- The remote address is overwritten by a datagram with at least one byte only. -/
theorem receive_addrRemote (h : thread.Prepared tsa spAuth) (turn : Turn) :
    (thread.receive turn).2.msgIn.addrRemote = turn.msg.keptAddress thread.msgIn.addrRemote := by
  have hlen : 0 < thread.spBufferIn.getAllocatedSize := by
    rw [h.bufferIn]
    decide
  simp only [receive, CBuffer.setSize_snd]
  cases turn.msg with
  | failed => rfl
  | datagram data addr pktinfo =>
    have hempty := take_eq_nil_iff_of_pos data hlen
    rw [RecvMsg.keptAddress, recvfromex]
    by_cases hd : data = []
    · rw [if_neg, if_pos hd]
      subst hd
      simp
    · rw [if_pos, if_neg hd]
      exact List.length_pos_iff.mpr fun hc => hd (hempty.mp hc)

theorem recvfromex_length_le (len : ℕ) (msg : RecvMsg) (srcAddr dstAddr : CSocketAddress) :
    (recvfromex len msg srcAddr dstAddr).data.length ≤ len := by
  cases msg with
  | failed => exact Nat.zero_le _
  | datagram data addr pktinfo =>
    rw [recvfromex]
    split_ifs
    · exact List.length_take_le _ _
    · exact Nat.zero_le _

theorem receive_prepared (h : thread.Prepared tsa spAuth) (turn : Turn) :
    (thread.receive turn).2.Prepared tsa spAuth where
  tsa := h.tsa
  spAuth := h.spAuth
  reader := h.reader
  bufferIn := by
    simp only [receive, CBuffer.setSize_snd, CBuffer.getAllocatedSize]
    rw [overwrite_length]
    · exact h.bufferIn
    · rw [Nat.zero_add]
      exact recvfromex_length_le _ _ _ _
  bufferOut := h.bufferOut
  datagrams := h.datagrams

theorem rateCheck_prepared (h : thread.Prepared tsa spAuth) (currentTime : ℤ) :
    (thread.rateCheck currentTime).2.Prepared tsa spAuth := by
  rw [rateCheck]
  cases thread.spLimiter with
  | none => exact h
  | some limiter => exact ⟨h.tsa, h.spAuth, h.reader, h.bufferIn, h.bufferOut, h.datagrams⟩

/-- The check changes nothing but the limiter. -/
theorem rateCheck_frame (currentTime : ℤ) :
    (thread.rateCheck currentTime).2.msgIn = thread.msgIn ∧
      (thread.rateCheck currentTime).2.spBufferIn = thread.spBufferIn ∧
      (thread.rateCheck currentTime).2.spLimiter.isSome = thread.spLimiter.isSome := by
  rw [rateCheck]
  cases hl : thread.spLimiter with
  | none => exact ⟨rfl, rfl, by rw [hl]⟩
  | some limiter => exact ⟨rfl, rfl, rfl⟩

/-! ### Answering -/

/-- Whatever was read before, the reader holds the datagram and nothing else. -/
theorem readDatagram_fed (h : Reachable thread.reader)
    (hlen : thread.spBufferIn.bytes.length = thread.spBufferIn.size)
    (hsize : thread.spBufferIn.size < 2 ^ 32) :
    Reachable thread.readDatagram.reader ∧
      Fed true thread.readDatagram.reader thread.spBufferIn.bytes := by
  obtain ⟨hreset, hempty⟩ := h.fed_reset (thread.spBufferReader.setSize 0).2
  obtain ⟨hreachable, -, hfed⟩ := hreset.fed_addBytes hempty (c := thread.spBufferIn.bytes)
    (by rw [hlen]; exact hsize)
  rw [List.nil_append, hlen] at hfed
  rw [hlen] at hreachable
  exact ⟨hreachable, hfed⟩

/-- What is sent is the answer to the datagram. -/
theorem processRequestAndSendResponse_answer (h : thread.Prepared tsa spAuth)
    (hlen : thread.spBufferIn.bytes.length = thread.spBufferIn.size) :
    (thread.processRequestAndSendResponse D).1 =
        Arrival.answer D ⟨thread.msgIn, tsa, spAuth⟩ thread.spBufferIn.bytes ∧
      (thread.processRequestAndSendResponse D).2.Prepared tsa spAuth ∧
      (thread.processRequestAndSendResponse D).2.msgIn = thread.msgIn ∧
      (thread.processRequestAndSendResponse D).2.spLimiter = thread.spLimiter := by
  have hsize : thread.spBufferIn.size < 2 ^ 32 := by
    rw [← hlen, CBuffer.bytes]
    refine (List.length_take_le' _ _).trans_lt ?_
    rw [show thread.spBufferIn.data.length = 800 from h.bufferIn]
    decide
  obtain ⟨hreachable, hfed⟩ := readDatagram_fed h.reader hlen hsize
  obtain ⟨buf, hbuf, hcap⟩ := h.bufferOut
  have hread : thread.readDatagram.Prepared tsa spAuth :=
    ⟨h.tsa, h.spAuth, hreachable, h.bufferIn, h.bufferOut, h.datagrams⟩
  have hpacket := packetOf_processRequest (D := D)
    (x := Arrival.withReader ⟨thread.msgIn, tsa, spAuth⟩ thread.readDatagram.reader) hfed rfl hbuf hcap
  rw [Arrival.withReader_answer, ← h.tsa, ← h.spAuth] at hpacket
  rw [← h.tsa, ← h.spAuth] at hread ⊢
  unfold processRequestAndSendResponse
  dsimp only
  by_cases hstate : thread.readDatagram.reader.getState ≠ .bodyValidated
  · rw [if_pos hstate]
    rw [processRequest_invalid rfl hbuf hcap hstate] at hpacket
    exact ⟨hpacket.1, hread, rfl, rfl⟩
  · rw [if_neg hstate]
    obtain ⟨hsent, buf', hbuf', halloc⟩ := hpacket
    set res := processRequest D { thread.msgIn with pReader := some thread.readDatagram.reader }
      thread.msgOut (some thread.tsa) thread.spAuth
    have hafter : Prepared thread.tsa thread.spAuth { thread.readDatagram with msgOut := res.2 } :=
      ⟨rfl, rfl, hreachable, h.bufferIn, ⟨buf', hbuf', halloc ▸ hcap⟩, h.datagrams⟩
    have hrun : processRequest D { thread.readDatagram.msgIn with pReader := some thread.readDatagram.reader }
        thread.readDatagram.msgOut (some thread.readDatagram.tsa) thread.readDatagram.spAuth =
        (res.1, res.2) := rfl
    have hpacket : packetOf res = if FAILED res.1 then none
        else some ⟨res.2.socketrole, res.2.addrDest, res.2.spBufferOut.elim [] CBuffer.bytes⟩ := rfl
    rw [hrun, ← hsent]
    change _ = packetOf res ∧ _
    rw [hpacket]
    dsimp only
    split_ifs
    · exact ⟨rfl, hafter, rfl, rfl⟩
    · exact ⟨rfl, hafter, rfl, rfl⟩

/-! ### A turn -/

/-- The buffer and the addresses after a datagram. -/
theorem receive_datagram (h : thread.Prepared tsa spAuth) {turn : Turn} {data : List UInt8}
    {addrRemote : CSocketAddress} {pktinfo : Option CSocketAddress}
    (hmsg : turn.msg = .datagram data addrRemote pktinfo) :
    (thread.receive turn).1 = (data.take 800).length ∧
      ((thread.receive turn).2.spBufferIn.data.take (data.take 800).length = data.take 800) ∧
      (data ≠ [] → (thread.receive turn).2.msgIn.addrLocal =
        ((pktinfo.map (CSocketAddress.setPort 0)).getD (initSocketAddress addrRemote)).setPort
          turn.pSocket.addrlocal.getPort) := by
  have hlen : thread.spBufferIn.data.length = 800 := h.bufferIn
  have hempty := take_eq_nil_iff_of_pos data (n := 800) (by decide)
  have hover : (overwrite thread.spBufferIn.data 0 (data.take 800)).take (data.take 800).length =
      data.take 800 := by
    have htake : (overwrite thread.spBufferIn.data 0 (data.take 800)).take _ = _ :=
      take_overwrite (Nat.zero_le _)
    rwa [Nat.zero_add, List.take_zero, List.nil_append] at htake
  simp only [receive, CBuffer.setSize_snd, CBuffer.getAllocatedSize, hlen, hmsg, recvfromex]
  by_cases hd : data = []
  · subst hd
    exact ⟨rfl, rfl, fun hc => absurd rfl hc⟩
  · rw [if_pos (List.length_pos_iff.mpr fun hc => hd (hempty.mp hc))]
    exact ⟨rfl, hover, fun _ => if_pos (Int.natCast_nonneg _)⟩

/-- The thread just before the datagram is looked at. -/
def accept (thread : CStunSocketThread) (turn : Turn) (ret : Int) : CStunSocketThread :=
  { thread with
    spBufferIn := (thread.spBufferIn.setSize ret.toNat).2
    msgIn := { thread.msgIn with socketrole := turn.pSocket.role } }

theorem runOnce_eq (turn : Turn) :
    thread.runOnce D turn =
      let received := (thread.receive turn).2
      let checked := (received.rateCheck turn.currentTime).2
      let charged := received.spLimiter.map fun _ => received.msgIn.addrRemote
      let allowed_to_pass := (received.rateCheck turn.currentTime).1
      if ((thread.receive turn).1 < 0 ∨ allowed_to_pass = false) ∨ turn.fNeedToExit = true then
        (⟨charged, allowed_to_pass, none⟩, checked)
      else
        let res := (checked.accept turn (thread.receive turn).1).processRequestAndSendResponse D
        (⟨charged, allowed_to_pass, res.1⟩, res.2) := by
  rw [runOnce]
  dsimp only
  by_cases hblocked : (thread.receive turn).1 < 0 ∨
      ((thread.receive turn).2.rateCheck turn.currentTime).1 = false
  · rw [if_pos hblocked, if_pos (Or.inl hblocked)]
  · rw [if_neg hblocked]
    by_cases hexit : turn.fNeedToExit = true
    · rw [if_pos hexit, if_pos (Or.inr hexit)]
    · rw [if_neg hexit, if_neg (not_or.mpr ⟨hblocked, hexit⟩)]
      rfl

/-- A datagram that is let pass is answered. -/
theorem accept_answer (h : thread.Prepared tsa spAuth) {turn : Turn}
    (hret : ¬(thread.receive turn).1 < 0) :
    let checked := ((thread.receive turn).2.rateCheck turn.currentTime).2
    let res := (checked.accept turn (thread.receive turn).1).processRequestAndSendResponse D
    res.1 = turn.answer D tsa spAuth ∧ res.2.Prepared tsa spAuth ∧
      res.2.msgIn.addrRemote = checked.msgIn.addrRemote ∧ res.2.spLimiter = checked.spLimiter := by
  dsimp only
  have hchecked := rateCheck_prepared (receive_prepared h turn) turn.currentTime
  obtain ⟨hmsgIn, hbufferIn, -⟩ := @rateCheck_frame (thread.receive turn).2 turn.currentTime
  cases hmsg : turn.msg with
  | failed =>
    refine absurd ?_ hret
    simp [receive, hmsg, recvfromex]
  | datagram data addrRemote pktinfo =>
    obtain ⟨hlen, hdata, hlocal⟩ := receive_datagram h hmsg
    have haddr := receive_addrRemote h turn
    set checked := ((thread.receive turn).2.rateCheck turn.currentTime).2
    set accepted := checked.accept turn (thread.receive turn).1
    have hbytes : accepted.spBufferIn.bytes = data.take 800 := by
      simp only [accepted, accept, CBuffer.setSize_snd, CBuffer.bytes, hlen, hbufferIn, Int.toNat_natCast]
      exact hdata
    have hsize : accepted.spBufferIn.bytes.length = accepted.spBufferIn.size := by
      rw [hbytes]
      simp only [accepted, accept, CBuffer.setSize_snd, hlen, Int.toNat_natCast]
    have haccepted : accepted.Prepared tsa spAuth :=
      ⟨hchecked.tsa, hchecked.spAuth, hchecked.reader, by
        simp only [accepted, accept, CBuffer.setSize_snd]
        exact hchecked.bufferIn, hchecked.bufferOut, hchecked.datagrams⟩
    obtain ⟨hsent, hafter, hmsg', hlimiter⟩ :=
      processRequestAndSendResponse_answer (D := D) haccepted hsize
    refine ⟨?_, hafter, by rw [hmsg']; rfl, by rw [hlimiter]; rfl⟩
    rw [hsent, hbytes, Turn.answer, hmsg]
    dsimp only
    by_cases hd : data = []
    · subst hd
      rw [List.take_nil, List.take_nil, Arrival.answer_nil, Arrival.answer_nil]
    · have hin : accepted.msgIn = { (thread.receive turn).2.msgIn with socketrole := turn.pSocket.role } := by
        simp only [accepted, accept, hmsgIn]
      have hfConnectionOriented := (receive_prepared h turn).datagrams
      refine Arrival.answer_congr (r := thread.reader) ?_
      rw [hin]
      simp only [Arrival.withReader, hlocal hd, haddr, hmsg, RecvMsg.keptAddress, if_neg hd,
        hfConnectionOriented]

/-- Everything a turn does: it charges the address that is kept, and it sends the answer to
the datagram if the check lets it pass. -/
theorem runOnce_spec (h : thread.Prepared tsa spAuth) (turn : Turn) :
    (thread.runOnce D turn).1.charged =
        thread.spLimiter.map (fun _ => turn.msg.keptAddress thread.msgIn.addrRemote) ∧
      (thread.runOnce D turn).1.sent =
        (if (thread.runOnce D turn).1.allowed_to_pass = true ∧ turn.fNeedToExit = false then
          turn.answer D tsa spAuth else none) ∧
      (thread.runOnce D turn).2.Prepared tsa spAuth ∧
      (thread.runOnce D turn).2.msgIn.addrRemote = turn.msg.keptAddress thread.msgIn.addrRemote ∧
      (thread.runOnce D turn).2.spLimiter.isSome = thread.spLimiter.isSome := by
  have haddr := receive_addrRemote h turn
  have hchecked := rateCheck_prepared (receive_prepared h turn) turn.currentTime
  obtain ⟨hmsgIn, -, hsome⟩ := @rateCheck_frame (thread.receive turn).2 turn.currentTime
  have hcharged : (thread.receive turn).2.spLimiter.map
      (fun _ => (thread.receive turn).2.msgIn.addrRemote) =
      thread.spLimiter.map fun _ => turn.msg.keptAddress thread.msgIn.addrRemote := by
    rw [haddr]
    rfl
  have haddr' : ((thread.receive turn).2.rateCheck turn.currentTime).2.msgIn.addrRemote =
      turn.msg.keptAddress thread.msgIn.addrRemote := by rw [hmsgIn, haddr]
  rw [runOnce_eq]
  dsimp only
  by_cases hret : (thread.receive turn).1 < 0
  · have hfailed : turn.answer D tsa spAuth = none := by
      cases hmsg : turn.msg with
      | failed => rw [Turn.answer, hmsg]
      | datagram data addrRemote pktinfo =>
        obtain ⟨hlen, -, -⟩ := receive_datagram h hmsg
        omega
    rw [if_pos (Or.inl (Or.inl hret)), hfailed, ite_self]
    exact ⟨hcharged, rfl, hchecked, haddr', hsome⟩
  · obtain ⟨hsent, hprepared, hremote, hlimiter⟩ := accept_answer (D := D) h hret
    by_cases hpass : ((thread.receive turn).2.rateCheck turn.currentTime).1 = true ∧
        turn.fNeedToExit = false
    · have hgo : ¬(((thread.receive turn).1 < 0 ∨
          ((thread.receive turn).2.rateCheck turn.currentTime).1 = false) ∨ turn.fNeedToExit = true) := by
        rw [hpass.1, hpass.2]
        simpa using hret
      rw [if_neg hgo]
      refine ⟨hcharged, ?_, hprepared, hremote.trans haddr', ?_⟩
      · rw [if_pos hpass, hsent]
      · rw [hlimiter, hsome]
        rfl
    · have hstop : ((thread.receive turn).1 < 0 ∨
          ((thread.receive turn).2.rateCheck turn.currentTime).1 = false) ∨ turn.fNeedToExit = true := by
        rw [not_and_or, Bool.not_eq_true, Bool.not_eq_false] at hpass
        exact hpass.imp_left Or.inr
      rw [if_pos hstop, if_neg hpass]
      exact ⟨hcharged, rfl, hchecked, haddr', hsome⟩

/-- Without a limiter everything is let pass. -/
theorem runOnce_allowed (hl : thread.spLimiter = none) (turn : Turn) :
    (thread.runOnce D turn).1.allowed_to_pass = true := by
  have hchecked : ((thread.receive turn).2.rateCheck turn.currentTime).1 = true := by
    rw [rateCheck, show (thread.receive turn).2.spLimiter = none from hl]
  rw [runOnce_eq]
  dsimp only
  split_ifs
  · exact hchecked
  · exact hchecked

/-- A thread stays prepared over every run. -/
theorem prepared_after (h : thread.Prepared tsa spAuth) (turns : List Turn) :
    (Machine.after (runOnce D) thread turns).Prepared tsa spAuth := by
  induction turns generalizing thread with
  | nil => exact h
  | cons turn turns ih => exact ih (runOnce_spec h turn).2.2.1

end

end CStunSocketThread
end StunServer

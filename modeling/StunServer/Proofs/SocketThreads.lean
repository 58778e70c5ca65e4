import StunServer.Spec.Turns

/-! A turn done at one go is `runOnce` on the shared limiter. -/

namespace StunServer.CStunSocketThread

variable {D : Digests} {tsa : TransportAddressSet} {spAuth : Option IStunAuth}

theorem Prepared.withLimiter {thread : CStunSocketThread} (h : thread.Prepared tsa spAuth)
    (spLimiter : Option RateLimiter) : (thread.withLimiter spLimiter).Prepared tsa spAuth :=
  ⟨h.tsa, h.spAuth, h.reader, h.bufferIn, h.bufferOut, h.datagrams⟩

theorem processRequestAndSendResponse_eq (thread : CStunSocketThread) :
    thread.processRequestAndSendResponse D =
      let read := thread.readDatagram
      let res := CStunRequestHandler.processRequest D
        { read.msgIn with pReader := some read.reader } read.msgOut (some read.tsa) read.spAuth
      if read.reader.getState ≠ .bodyValidated then (none, read)
      else (CStunRequestHandler.packetOf res, { read with msgOut := res.2 }) := by
  unfold processRequestAndSendResponse
  dsimp only
  by_cases hstate : thread.readDatagram.reader.getState ≠ .bodyValidated
  · rw [if_pos hstate, if_pos hstate]
  · rw [if_neg hstate, if_neg hstate]
    set res := CStunRequestHandler.processRequest D
      { thread.readDatagram.msgIn with pReader := some thread.readDatagram.reader }
      thread.readDatagram.msgOut (some thread.readDatagram.tsa) thread.readDatagram.spAuth
    have hpacket : CStunRequestHandler.packetOf res = if FAILED res.1 then none
        else some ⟨res.2.socketrole, res.2.addrDest, res.2.spBufferOut.elim [] CBuffer.bytes⟩ := rfl
    rw [hpacket]
    by_cases hfailed : FAILED res.1 = true
    · rw [if_pos hfailed, if_pos hfailed]
    · rw [if_neg hfailed, if_neg hfailed]

/-- Nothing is asked of the limiter while a datagram is dealt with. -/
theorem processRequestAndSendResponse_withLimiter (thread : CStunSocketThread)
    (spLimiter : Option RateLimiter) :
    (thread.withLimiter spLimiter).processRequestAndSendResponse D =
      ((thread.processRequestAndSendResponse D).1,
        (thread.processRequestAndSendResponse D).2.withLimiter spLimiter) := by
  rw [processRequestAndSendResponse_eq, processRequestAndSendResponse_eq]
  dsimp only
  have hread : (thread.withLimiter spLimiter).readDatagram =
      thread.readDatagram.withLimiter spLimiter := rfl
  rw [hread]
  by_cases hstate : thread.readDatagram.reader.getState ≠ .bodyValidated
  · rw [if_pos hstate]
    exact if_pos hstate
  · rw [if_neg hstate]
    exact if_neg hstate

/-- The check asks the limiter for the kept address, and changes nothing else. -/
theorem rateCheck_eq (thread : CStunSocketThread) (currentTime : ℤ) :
    thread.rateCheck currentTime =
      (thread.spLimiter.elim true fun l => (l.rateCheck ⟨thread.msgIn.addrRemote, currentTime⟩).1,
        thread.withLimiter (thread.spLimiter.map fun l =>
          (l.rateCheck ⟨thread.msgIn.addrRemote, currentTime⟩).2)) := by
  obtain ⟨_, _, _, _, _, _, _, spLimiter⟩ := thread
  cases spLimiter <;> rfl

/-- A turn, all of it. -/
theorem runOnce_effect {thread : CStunSocketThread} (h : thread.Prepared tsa spAuth) (turn : Turn) :
    (thread.runOnce D turn).1 = turn.effect D tsa spAuth thread.msgIn.addrRemote thread.spLimiter ∧
      (thread.runOnce D turn).2.Prepared tsa spAuth ∧
      (thread.runOnce D turn).2.msgIn.addrRemote = (turn.rateCall thread.msgIn.addrRemote).addr ∧
      (thread.runOnce D turn).2.spLimiter =
        turn.limiter thread.msgIn.addrRemote thread.spLimiter := by
  obtain ⟨hcharged, hsent, hafter, hkept, -⟩ := runOnce_spec (D := D) h turn
  have haddr := receive_addrRemote h turn
  have hsame : (thread.receive turn).2.spLimiter = thread.spLimiter := rfl
  have hchecked := rateCheck_eq (thread.receive turn).2 turn.currentTime
  rw [haddr, hsame] at hchecked
  have hlimiter : (thread.runOnce D turn).1.allowed_to_pass =
        thread.spLimiter.elim true
          (fun l => (l.rateCheck (turn.rateCall thread.msgIn.addrRemote)).1) ∧
      (thread.runOnce D turn).2.spLimiter =
        turn.limiter thread.msgIn.addrRemote thread.spLimiter := by
    rw [runOnce_eq]
    dsimp only
    by_cases hstop : ((thread.receive turn).1 < 0 ∨
        ((thread.receive turn).2.rateCheck turn.currentTime).1 = false) ∨ turn.fNeedToExit = true
    · rw [if_pos hstop, hchecked]
      exact ⟨rfl, rfl⟩
    · rw [if_neg hstop]
      obtain ⟨-, -, -, hprocess⟩ := accept_answer (D := D) h fun hret => hstop (Or.inl (Or.inl hret))
      refine ⟨by rw [hchecked]; rfl, ?_⟩
      rw [hprocess, hchecked]
      rfl
  refine ⟨?_, hafter, hkept, hlimiter.2⟩
  cases heffect : (thread.runOnce D turn).1 with
  | mk charged allowed_to_pass sent =>
    rw [heffect] at hcharged hsent hlimiter
    obtain ⟨rfl, -⟩ := hlimiter
    rw [Turn.effect]
    exact congrArg₂ (fun c s => Effect.mk c _ s) hcharged hsent

theorem receive_withLimiter (thread : CStunSocketThread) (spLimiter : Option RateLimiter)
    (turn : Turn) : (thread.withLimiter spLimiter).receive turn =
      ((thread.receive turn).1, (thread.receive turn).2.withLimiter spLimiter) := rfl

/-- The last part of a turn. -/
theorem ends_eq (checked : Checked) (turn : Turn) :
    (threadWork D).ends checked turn =
      if (checked.ret < 0 ∨ checked.allowed_to_pass = false) ∨ turn.fNeedToExit = true then
        (⟨checked.charged, checked.allowed_to_pass, none⟩, checked.thread)
      else
        let res := (checked.thread.accept turn checked.ret).processRequestAndSendResponse D
        (⟨checked.charged, checked.allowed_to_pass, res.1⟩, res.2) := by
  rw [threadWork]
  dsimp only
  by_cases hblocked : checked.ret < 0 ∨ checked.allowed_to_pass = false
  · rw [if_pos hblocked, if_pos (Or.inl hblocked)]
  · rw [if_neg hblocked]
    by_cases hexit : turn.fNeedToExit = true
    · rw [if_pos hexit, if_pos (Or.inr hexit)]
    · rw [if_neg hexit, if_neg (not_or.mpr ⟨hblocked, hexit⟩)]
      rfl

/-- The three parts of a turn one after the other. -/
theorem whole_eq (m : SocketRole → CStunSocketThread) (spLimiter : Option RateLimiter)
    (job : SocketRole × Turn) :
    (threadWork D).whole (m, spLimiter) job =
      let res := ((m job.1).withLimiter spLimiter).runOnce D job.2
      (res.1, (Function.update m job.1 (res.2.withLimiter none), res.2.spLimiter)) := by
  obtain ⟨role, turn⟩ := job
  set received := ((m role).receive turn).2.withLimiter spLimiter with hreceived
  set checked := ((threadWork D).shares ((threadWork D).begins (m role) turn) turn spLimiter).1
    with hchecked
  have hrun := @runOnce_eq D ((m role).withLimiter spLimiter) turn
  rw [receive_withLimiter, ← hreceived] at hrun
  have hends := @ends_eq D checked turn
  rw [Interleave.Work.whole]
  dsimp only at hrun ⊢
  rw [← hchecked]
  by_cases hstop : (((m role).receive turn).1 < 0 ∨ (received.rateCheck turn.currentTime).1 = false) ∨
      turn.fNeedToExit = true
  · rw [hrun.trans (if_pos hstop), hends.trans (if_pos hstop)]
    rfl
  · rw [hrun.trans (if_neg hstop), hends.trans (if_neg hstop)]
    -- what is done with the datagram is the same with the limiter and without
    set accepted := checked.thread.accept turn checked.ret
    have haccept : (received.rateCheck turn.currentTime).2.accept turn ((m role).receive turn).1 =
        accepted.withLimiter (received.rateCheck turn.currentTime).2.spLimiter := rfl
    have hnone : (accepted.processRequestAndSendResponse D).2.withLimiter none =
        (accepted.processRequestAndSendResponse D).2 :=
      (congrArg Prod.snd (@processRequestAndSendResponse_withLimiter D accepted none)).symm
    rw [haccept, processRequestAndSendResponse_withLimiter]
    generalize accepted.processRequestAndSendResponse D = res at hnone ⊢
    obtain ⟨sent, thread⟩ := res
    have hthread : (thread.withLimiter (received.rateCheck turn.currentTime).2.spLimiter).withLimiter
        none = thread := hnone
    dsimp only
    rw [hthread]
    rfl

end StunServer.CStunSocketThread

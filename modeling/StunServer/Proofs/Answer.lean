import StunServer.Proofs.HandlerReply
import StunServer.Spec.Answer

/-! `ProcessRequest` refines `Arrival.answer`: the packet it leaves for its caller to send
depends on the bytes the reader was fed, and on nothing else the caller's objects held. -/

namespace StunServer.CStunRequestHandler

open Bytes CStunMessageReader

/-- The packet a caller sends after `ProcessRequest`. -/
def packetOf (res : HRESULT × StunMessageOut) : Option SentPacket :=
  if FAILED res.1 then none
  else some ⟨res.2.socketrole, res.2.addrDest, res.2.spBufferOut.elim [] CBuffer.bytes⟩

theorem packetOf_ok (out : StunMessageOut) :
    packetOf (S_OK, out) =
      some ⟨out.socketrole, out.addrDest, out.spBufferOut.elim [] CBuffer.bytes⟩ := rfl

theorem packetOf_failed {hr : HRESULT} (h : FAILED hr = true) (out : StunMessageOut) :
    packetOf (hr, out) = none := if_pos h

/-- The caller's buffer is still there after the call, as large as it was. -/
def KeepsBuffer (buf : CBuffer) (out : StunMessageOut) : Prop :=
  ∃ buf', out.spBufferOut = some buf' ∧ buf'.getAllocatedSize = buf.getAllocatedSize

section

variable {D : Digests} {x : Arrival} {r : CStunMessageReader} {out : StunMessageOut} {buf : CBuffer}

theorem processRequest_invalid (hin : x.msgIn.pReader = some r) (hout : out.spBufferOut = some buf)
    (hcap : 800 ≤ buf.getAllocatedSize) (hstate : r.getState ≠ .bodyValidated) :
    processRequest D x.msgIn out (some x.addrSet) x.pAuth = (E_UNEXPECTED, out) := by
  have hsmall : ¬buf.getAllocatedSize < MAX_STUN_MESSAGE_SIZE := Nat.not_lt.mpr hcap
  unfold processRequest
  simp only [hin, hout]
  rw [if_neg hsmall, if_pos hstate]

theorem processRequest_ignored (hin : x.msgIn.pReader = some r) (hout : out.spBufferOut = some buf)
    (hcap : 800 ≤ buf.getAllocatedSize) (hstate : r.getState = .bodyValidated)
    (hcls : r.getMessageClass ≠ .request) :
    processRequest D x.msgIn out (some x.addrSet) x.pAuth =
      (E_FAIL, ⟨x.msgIn.socketrole, x.msgIn.addrRemote, some (buf.setSize 0).2⟩) := by
  have hsmall : ¬buf.getAllocatedSize < MAX_STUN_MESSAGE_SIZE := Nat.not_lt.mpr hcap
  have himpl : processRequestImpl D (create x.pAuth x.addrSet x.msgIn r
      ⟨x.msgIn.socketrole, x.msgIn.addrRemote, some (buf.setSize 0).2⟩) =
      .error E_FAIL (create x.pAuth x.addrSet x.msgIn r
        ⟨x.msgIn.socketrole, x.msgIn.addrRemote, some (buf.setSize 0).2⟩) := by
    rw [processRequestImpl, Hr.bind_ok (Hr.get_apply _)]
    exact Hr.bind_error (Hr.chkIf_true hcls E_FAIL _)
  unfold processRequest
  simp only [hin, hout]
  rw [if_neg hsmall, if_neg (not_not_intro hstate), himpl]
  rfl

/-- What is sent after `ProcessRequest` is the answer to the bytes fed to the reader. -/
theorem packetOf_processRequest {b : List UInt8} (hfed : Fed true r b)
    (hin : x.msgIn.pReader = some r) (hout : out.spBufferOut = some buf)
    (hcap : 800 ≤ buf.getAllocatedSize) :
    packetOf (processRequest D x.msgIn out (some x.addrSet) x.pAuth) = x.answer D b ∧
      KeepsBuffer buf (processRequest D x.msgIn out (some x.addrSet) x.pAuth).2 := by
  by_cases hstate : r.getState = .bodyValidated
  · obtain ⟨m, rfl, -, hm⟩ := hfed.parsed hstate
    by_cases hcls : m.cls = .request
    · obtain ⟨out', hrun, hanswered⟩ := processRequest_answered (D := D) hm hin hcls hout hcap
      obtain ⟨-, buf', -, -, -, hbuf', halloc, hbytes, -⟩ := hanswered.exists_buffer
      rw [hrun, Arrival.answer_encode hcls]
      refine ⟨?_, buf', hbuf', halloc⟩
      rw [packetOf_ok, hanswered.role, hanswered.dest, hbuf', Option.elim_some, hbytes]
    · have hnone : x.answer D m.encode = none := Arrival.answer_eq_none fun m' hm' => by
        rw [Message.encode_inj hm']
        exact hcls
      have hclass : r.getMessageClass ≠ .request := by
        rw [getMessageClass, hm.cls]
        exact hcls
      rw [processRequest_ignored hin hout hcap hstate hclass, hnone]
      exact ⟨packetOf_failed (by decide) _, _, rfl, by simp [CBuffer.getAllocatedSize]⟩
  · have hnone : x.answer D b = none := by
      refine Arrival.answer_eq_none fun m hm _ => hstate ?_
      rw [← hm] at hfed
      exact hfed.state_iff.1.mpr m.accepted
    rw [processRequest_invalid hin hout hcap hstate, hnone]
    exact ⟨packetOf_failed (by decide) _, buf, hout, rfl⟩

/-- An answer is in the caller's buffer, and fills it up to its size. -/
theorem buffer_of_answer {b : List UInt8} {packet : SentPacket} (hfed : Fed true r b)
    (hin : x.msgIn.pReader = some r) (hout : out.spBufferOut = some buf)
    (hcap : 800 ≤ buf.getAllocatedSize) (hanswer : x.answer D b = some packet) :
    ∃ buf', (processRequest D x.msgIn out (some x.addrSet) x.pAuth).2.spBufferOut = some buf' ∧
      buf'.bytes = packet.data ∧ buf'.bytes.length = buf'.getSize ∧ 20 ≤ buf'.getSize := by
  obtain ⟨m, rfl, hcls, hdata⟩ := Arrival.of_answer hanswer
  obtain ⟨m', hm', -, hparsed⟩ := hfed.parsed (hfed.state_iff.1.mpr m.accepted)
  obtain rfl := Message.encode_inj hm'
  obtain ⟨out', hrun, hanswered⟩ := processRequest_answered (D := D) hparsed hin hcls hout hcap
  obtain ⟨-, buf', -, -, -, hbuf', -, hbytes, hlen⟩ := hanswered.exists_buffer
  refine ⟨buf', by rw [hrun, hbuf'], hbytes.trans hdata.symm, hlen, ?_⟩
  rw [CBuffer.getSize, ← hlen, hbytes, Message.encode_length]
  exact Nat.le_add_right _ _

end

end StunServer.CStunRequestHandler

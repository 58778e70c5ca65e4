import StunServer.Core.ClientMain
import StunServer.Proofs.ClientSchedule

/-! A pass of `TcpClientLoop`: the request and the response share a buffer, whose size is that of
the request until the first byte of the response has been stored. -/

namespace StunServer

open Bytes CStunMessageBuilder

/-! ### The request -/

namespace CStunClientLogic

variable {entropy : Entropy} {spMsg : CBuffer} {time : UInt32} {c c' : CStunClientLogic}
  {msg : CBuffer × CSocketAddress}

/-- A message that `GetNextMessage` fetches is one of a test. -/
theorem getNextMessage_message (hcall : getNextMessage entropy spMsg time c = .ok msg c') :
    800 ≤ spMsg.getAllocatedSize ∧ ∃ (t : IStunClientTest) (test : CStunClientTestBase),
      msg.1 = (test.getMessage t.change entropy spMsg).1 := by
  have hcap : 800 ≤ spMsg.getAllocatedSize := by
    by_contra hsmall
    obtain ⟨hr, herror, -⟩ := getNextMessage_small entropy time c (not_le.mp hsmall)
    rw [herror] at hcall
    cases hcall
  have hinit : c.fInitialized = true := by
    by_contra hnew
    rw [getNextMessage, Hr.bind_ok (Hr.get_apply c),
      Hr.bind_error (Hr.chkIf_true (by simpa using hnew) _ _)] at hcall
    cases hcall
  rw [getNextMessage_eq hinit hcap] at hcall
  cases hrun : Loop.run (pass entropy spMsg time) (2 * c.testlist.length + 2) c with
  | none =>
    rw [hrun] at hcall
    cases hcall
  | some r =>
    rw [hrun] at hcall
    have hleaves : ∀ s r, True → pass entropy spMsg time s = .inl r → ∀ msg c', r = .ok msg c' →
        ∃ (t : IStunClientTest) (test : CStunClientTestBase),
          msg.1 = (test.getMessage t.change entropy spMsg).1 := by
      rintro s r - hpass msg c' rfl
      have hpasses := passes entropy spMsg time s
      rw [hpass] at hpasses
      cases hpasses with
      | @sends s₁ t _ same more due sent =>
        cases sent
        exact ⟨t, s₁.test t, rfl⟩
    exact ⟨hcap, Loop.of_run hleaves (fun _ _ _ _ => trivial) trivial hrun msg c' hcall⟩

/-- It takes the place of what was in the buffer. -/
theorem getNextMessage_buffer (hcall : getNextMessage entropy spMsg time c = .ok msg c') :
    800 ≤ spMsg.getAllocatedSize ∧ msg.1.getAllocatedSize = spMsg.getAllocatedSize ∧
      msg.1.bytes ≠ [] := by
  obtain ⟨hcap, t, test, hmsg⟩ := getNextMessage_message hcall
  obtain ⟨hbytes, hsize⟩ := test.getMessage_buffer t.change entropy hcap
  refine ⟨hcap, hmsg ▸ hsize, fun hnil => ?_⟩
  rw [hmsg, hbytes] at hnil
  have hlen := congrArg List.length hnil
  rw [Message.encode_length, List.length_nil] at hlen
  omega

end CStunClientLogic

/-! ### The response -/

namespace TcpClient

namespace Receiving

/-- What has been stored so far is at the front of the buffer, which is otherwise as it was. -/
structure Stores (request : CBuffer) (s : Receiving) : Prop where
  allocated : s.spMsg.getAllocatedSize = request.getAllocatedSize
  count : s.bytes_recv = s.received.length
  count_le : s.bytes_recv ≤ request.getAllocatedSize
  front : s.spMsg.data.take s.bytes_recv = s.received
  untouched : s.received = [] → s.spMsg = request
  size : s.received ≠ [] → s.spMsg.getSize = s.received.length

variable {request : CBuffer} {s s' : Receiving}

theorem Stores.start (reader : CStunMessageReader) (request : CBuffer) :
    Stores request ⟨reader, request, 0, []⟩ :=
  ⟨rfl, rfl, Nat.zero_le _, rfl, fun _ => rfl, fun h => absurd rfl h⟩

theorem readsize_some {n : ℕ} (h : s.readsize = some n) :
    0 < n ∧ n ≤ s.spMsg.getAllocatedSize - s.bytes_recv := by
  rw [readsize] at h
  by_cases hasks : s.spMsg.getAllocatedSize - s.bytes_recv > 0 ∧
    s.reader.howManyBytesNeeded.toNat ≠ 0 ∧
      s.reader.howManyBytesNeeded.toNat ≤ s.spMsg.getAllocatedSize - s.bytes_recv
  · rw [if_pos hasks] at h
    cases h
    exact ⟨Nat.pos_of_ne_zero hasks.2.1, hasks.2.2⟩
  · rw [if_neg hasks] at h
    cases h

theorem store_spMsg (data : List UInt8) (s : Receiving) : (s.store data).spMsg =
    { CDataStream.poke s.spMsg s.bytes_recv data with size := s.bytes_recv + data.length } :=
  CBuffer.setSize_snd _ _

/-- The step lemma. -/
theorem Stores.store (h : Stores request s) {data : List UInt8} (hdata : data ≠ [])
    (hroom : data.length ≤ s.spMsg.getAllocatedSize - s.bytes_recv) :
    Stores request (s.store data) := by
  have hle := h.count_le
  have hal := h.allocated
  have hfits : s.bytes_recv + data.length ≤ s.spMsg.data.length := by
    change s.bytes_recv + data.length ≤ s.spMsg.getAllocatedSize
    omega
  have hmsg := store_spMsg data s
  refine ⟨?_, ?_, by rw [← hal]; exact hfits, ?_, fun hnil => ?_, fun _ => ?_⟩
  · rw [hmsg]
    exact (overwrite_length hfits).trans hal
  · rw [Receiving.store, List.length_append, h.count]
  · rw [hmsg]
    change (overwrite s.spMsg.data s.bytes_recv data).take (s.bytes_recv + data.length) = _
    rw [take_overwrite (by omega), h.front]
    rfl
  · exact absurd (List.append_eq_nil_iff.mp hnil).2 hdata
  · rw [hmsg]
    change s.bytes_recv + data.length = (s.received ++ data).length
    rw [List.length_append, h.count]

theorem take_ne_nil {data : List UInt8} {n : ℕ} (hdata : data ≠ []) (hn : 0 < n) :
    data.take n ≠ [] := by
  rw [Ne, List.take_eq_nil_iff, not_or]
  exact ⟨hn.ne', hdata⟩

/-- The run lemma. -/
theorem Stores.loop (h : Stores request s) {recvs : List TcpRecv} (hloop : loop recvs s = .ok s') :
    Stores request s' := by
  induction recvs generalizing s with
  | nil =>
    cases hloop
    exact h
  | cons ret recvs ih =>
    rw [Receiving.loop] at hloop
    cases hsize : s.readsize with
    | none =>
      rw [hsize] at hloop
      cases hloop
      exact h
    | some n =>
      obtain ⟨hpos, hroom⟩ := readsize_some hsize
      rw [hsize] at hloop
      cases ret with
      | failed hr => cases hloop
      | received data =>
        dsimp only at hloop
        split_ifs at hloop with hdata
        · cases hloop
          exact h
        · exact ih (h.store (take_ne_nil hdata hpos)
            ((List.length_take_le _ _).trans hroom)) hloop

/-- What is there stays. -/
theorem received_prefix {recvs : List TcpRecv} (hloop : loop recvs s = .ok s') :
    s.received <+: s'.received := by
  induction recvs generalizing s with
  | nil =>
    cases hloop
    exact List.prefix_refl _
  | cons ret recvs ih =>
    rw [Receiving.loop] at hloop
    cases hsize : s.readsize with
    | none =>
      rw [hsize] at hloop
      cases hloop
      exact List.prefix_refl _
    | some n =>
      rw [hsize] at hloop
      cases ret with
      | failed hr => cases hloop
      | received data =>
        dsimp only at hloop
        split_ifs at hloop with hdata
        · cases hloop
          exact List.prefix_refl _
        · exact (List.prefix_append _ _).trans (ih hloop)

end Receiving

end TcpClient

/-- The first thing that `recv` finds out is that the peer has closed the connection. -/
def TcpTurn.closesAtOnce (turn : TcpTurn) : Bool :=
  match turn.recvs with
  | [] => true
  | .received data :: _ => data = []
  | .failed _ :: _ => false

namespace TcpClient

variable {client : TcpClient}

theorem howManyBytesNeeded_attached (client : TcpClient) :
    (client.reader.reset.attachStream client.spMsgReader).howManyBytesNeeded = 20 := by
  have hsize : (client.reader.reset.attachStream client.spMsgReader).stream.getSize = 0 := by
    rw [CStunMessageReader.attachStream, CDataStream.attach, if_pos rfl, CBuffer.setSize_snd]
    rfl
  rw [CStunMessageReader.howManyBytesNeeded, hsize]
  rfl

/-- Nothing is received just if the peer closes at once. -/
theorem received_eq_nil_iff {turn : TcpTurn} {s : Receiving}
    (hcap : 800 ≤ client.spMsg.getAllocatedSize) (h : client.receive turn.recvs = .ok s) :
    s.received = [] ↔ turn.closesAtOnce = true := by
  rw [receive] at h
  rw [TcpTurn.closesAtOnce]
  cases hrecvs : turn.recvs with
  | nil =>
    rw [hrecvs] at h
    cases h
    exact iff_of_true rfl rfl
  | cons ret recvs =>
    rw [hrecvs, Receiving.loop] at h
    have hsize : Receiving.readsize
        ⟨client.reader.reset.attachStream client.spMsgReader, client.spMsg, 0, []⟩ = some 20 := by
      rw [Receiving.readsize, howManyBytesNeeded_attached]
      have hroom : 20 ≤ client.spMsg.getAllocatedSize - 0 := by omega
      exact if_pos ⟨Nat.lt_of_lt_of_le (by decide) hroom, by decide, hroom⟩
    rw [hsize] at h
    cases ret with
    | failed hr => cases h
    | received data =>
      dsimp only at h
      split_ifs at h with hdata
      · cases h
        exact iff_of_true rfl (decide_eq_true hdata)
      · refine iff_of_false (fun hnil => ?_) (by simpa using hdata)
        have hprefix := Receiving.received_prefix h
        rw [hnil] at hprefix
        exact Receiving.take_ne_nil hdata (by decide) (List.prefix_nil.mp hprefix)

/-! ### A pass -/

theorem exchange_ok {turn : TcpTurn} {addrDest : CSocketAddress} {fed : TcpFed}
    {client' : TcpClient} (h : client.exchange turn addrDest = .ok (fed, client')) :
    ∃ s, client.receive turn.recvs = .ok s ∧ fed.received = s.received ∧ fed.spMsg = s.spMsg ∧
      client'.spMsg = s.spMsg ∧
      fed.accepted = (CStunClientLogic.processResponse s.spMsg addrDest turn.addrLocal).succeeds
        client.clientlogic ∧
      client'.clientlogic = (CStunClientLogic.processResponse s.spMsg addrDest
        turn.addrLocal).after client.clientlogic := by
  rw [exchange] at h
  split_ifs at h with hconnect
  · cases h
  cases hsend : sendAll client.spMsg.getSize 0 turn.sends with
  | error hr =>
    rw [hsend] at h
    cases h
  | ok _ =>
    rw [hsend] at h
    cases hreceive : client.receive turn.recvs with
    | error hr =>
      rw [hreceive] at h
      cases h
    | ok s =>
      rw [hreceive] at h
      cases h
      exact ⟨s, rfl, rfl, rfl, rfl, rfl, rfl⟩

/-- A pass after which the loop goes on. -/
theorem pass_ok {turn : TcpTurn} {hrRet : Option HRESULT} {fed : TcpFed} {client' : TcpClient}
    (h : client.pass turn = (hrRet, .ok (fed, client'))) :
    hrRet = some S_OK ∧ ∃ spMsg addrDest clientlogic,
      CStunClientLogic.getNextMessage turn.entropy client.spMsg turn.timeCurrentMilliseconds
        client.clientlogic = .ok (spMsg, addrDest) clientlogic ∧
      exchange turn { client with clientlogic := clientlogic, spMsg := spMsg } addrDest =
        .ok (fed, client') := by
  rw [pass] at h
  split_ifs at h with hinit
  · cases h
  cases hcall : CStunClientLogic.getNextMessage turn.entropy client.spMsg
      turn.timeCurrentMilliseconds client.clientlogic with
  | error hr clientlogic =>
    rw [hcall] at h
    cases h
  | ok msg clientlogic =>
    rw [hcall] at h
    obtain ⟨hret, hexchange⟩ := Prod.mk.inj h
    exact ⟨hret.symm, msg.1, msg.2, clientlogic, rfl, hexchange⟩

end TcpClient
end StunServer

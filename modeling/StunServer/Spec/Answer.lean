import StunServer.Core.StunSocketThread
import StunServer.Spec.Reply

/-! The whole of a server seen from outside: received bytes, and the packet that answers
them. -/

namespace StunServer

namespace Arrival

variable (D : Digests) (x : Arrival)

open Classical in
/-- A request is answered with its reply, nothing else is answered. -/
noncomputable def answer (b : List UInt8) : Option SentPacket :=
  if h : ∃ m : Message, m.encode = b ∧ m.cls = .request then
    some ⟨x.replyRole D h.choose, x.dest h.choose, (x.reply D h.choose).encode⟩
  else none

variable {D x}

theorem answer_encode {m : Message} (hcls : m.cls = .request) :
    x.answer D m.encode = some ⟨x.replyRole D m, x.dest m, (x.reply D m).encode⟩ := by
  have h : ∃ m' : Message, m'.encode = m.encode ∧ m'.cls = .request := ⟨m, rfl, hcls⟩
  have hm : h.choose = m := Message.encode_inj h.choose_spec.1
  rw [answer, dif_pos h, hm]

theorem answer_eq_none {b : List UInt8} (h : ∀ m : Message, m.encode = b → m.cls ≠ .request) :
    x.answer D b = none :=
  dif_neg fun ⟨m, hm, hcls⟩ => h m hm hcls

theorem of_answer {b : List UInt8} {packet : SentPacket} (h : x.answer D b = some packet) :
    ∃ m : Message, m.encode = b ∧ m.cls = .request ∧ packet.data = (x.reply D m).encode := by
  by_cases hm : ∃ m : Message, m.encode = b ∧ m.cls = .request
  · obtain ⟨m, rfl, hcls⟩ := hm
    rw [answer_encode hcls, Option.some.injEq] at h
    exact ⟨m, rfl, hcls, by rw [← h]⟩
  · rw [answer, dif_neg hm] at h
    cases h

/-- The answer does not depend on the reader. -/
theorem withReader_answer {r : CStunMessageReader} {b : List UInt8} :
    (x.withReader r).answer D b = x.answer D b := by
  by_cases hm : ∃ m : Message, m.encode = b ∧ m.cls = .request
  · obtain ⟨m, rfl, hcls⟩ := hm
    obtain ⟨hreply, hrole⟩ := withReader_reply (D := D) (x := x) (m := m) (r := r)
    rw [answer_encode hcls, answer_encode hcls, hreply, hrole]
    rfl
  · have hnone : ∀ m : Message, m.encode = b → m.cls ≠ .request := fun m hb hcls => hm ⟨m, hb, hcls⟩
    rw [answer_eq_none hnone, answer_eq_none hnone]

theorem answer_congr {y : Arrival} {r : CStunMessageReader} {b : List UInt8}
    (h : x.withReader r = y.withReader r) : x.answer D b = y.answer D b := by
  rw [← withReader_answer (x := x) (r := r), h, withReader_answer]

theorem answer_nil : x.answer D [] = none := by
  refine answer_eq_none fun m hm _ => ?_
  have hlen := m.encode_length
  rw [hm, List.length_nil] at hlen
  omega

/-- A reply is not a request. -/
theorem reply_cls (m : Message) :
    (x.reply D m).cls = .successResponse ∨ (x.reply D m).cls = .failureResponse := by
  rw [reply]
  cases x.verdict D m with
  | ok c => exact Or.inl rfl
  | error e => exact Or.inr rfl

/-- No server answers a reply. -/
theorem answer_reply {y : Arrival} (m : Message) : y.answer D (x.reply D m).encode = none := by
  refine answer_eq_none fun m' hm' hcls => ?_
  rw [Message.encode_inj hm'] at hcls
  rcases reply_cls (D := D) (x := x) m with h | h
  · rw [h] at hcls
    cases hcls
  · rw [h] at hcls
    cases hcls

end Arrival

/-! ### Datagrams -/

namespace CStunSocketThread

/-- The answer to the datagram of a turn, as far as it fits the buffer. -/
noncomputable def Turn.answer (D : Digests) (tsa : TransportAddressSet) (spAuth : Option IStunAuth)
    (turn : Turn) : Option SentPacket :=
  match turn.msg with
  | .failed => none
  | .datagram data addrRemote pktinfo =>
    let dstAddr := (pktinfo.map (CSocketAddress.setPort 0)).getD (initSocketAddress addrRemote)
    Arrival.answer D ⟨⟨turn.pSocket.role, dstAddr.setPort turn.pSocket.addrlocal.getPort, addrRemote,
      none, false⟩, tsa, spAuth⟩ (data.take MAX_STUN_MESSAGE_SIZE)

end CStunSocketThread
end StunServer

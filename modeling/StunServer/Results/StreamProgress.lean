import StunServer.Proofs.StreamProgress
import StunServer.Results.Isolation

/-! Requests on a connection are all answered in the end. -/

namespace StunServer

open Bytes CConnectionPool

/-- However the bytes are cut on their way in and out: once there were as many events that
found something to do as there are bytes to receive and to send, every request is received
and answered, and the connection waits for the next one. -/
theorem tcp_requests_all_answered (D : Digests) (tsa : TransportAddressSet)
    (spAuth : Option IStunAuth) {conn : StunConnection} (hconn : Pooled D tsa spAuth conn) (sock : Int)
    (role : SocketRole) (names : CStunSocket.Names) {ms : List Message}
    (hms : ∀ m ∈ ms, m.cls = .request) {calls : List ConnectionCall}
    (hcalls : ∀ call ∈ calls, call.Smooth) :
    let opened := prepConnection sock role names conn
    let x := opened.stunsocket.arrival tsa spAuth
    let s := (Session.create opened (stream ms)).run D tsa spAuth calls
    (stream ms).length + (responsesTo D x ms).length ≤ calls.countP (·.Eager) →
      receivedBytes s.log = stream ms ∧ sentBytes s.log = responsesTo D x ms ∧ s.AtBoundary := by
  intro opened x s henough
  rw [responsesTo_eq hms] at henough ⊢
  exact session_answered hconn sock role names hms hcalls rfl henough rfl

/-- The sample request, read and answered a byte at a time. -/
theorem tcp_requests_all_answered_bytewise :
    ((Session.create (prepConnection 7 .rolePP ⟨none, none⟩ { StunConnection.create with pNext := none })
      (stream [sampleRequest])).run sampleDigests sampleArrival.addrSet none
        (List.replicate 820 ⟨[.count 1], true, true, true⟩)).AtBoundary := by
  have hms : ∀ m ∈ [sampleRequest], m.cls = .request := by
    intro m hm
    rw [List.mem_singleton.mp hm]
    rfl
  refine (tcp_requests_all_answered sampleDigests sampleArrival.addrSet none (.created none) 7 .rolePP
    ⟨none, none⟩ hms ?_ ?_).2.2
  · intro call hcall
    rw [List.eq_of_mem_replicate hcall]
    exact ⟨by simp, rfl, rfl, rfl⟩
  · rw [responsesTo_eq hms, stream_cons, stream_nil, List.append_nil, replies_singleton,
      List.countP_replicate, if_pos (decide_eq_true ⟨1, [], rfl⟩)]
    have hreply := reply_length_le (D := sampleDigests) ((prepConnection 7 .rolePP ⟨none, none⟩
      { StunConnection.create with pNext := none }).stunsocket.arrival sampleArrival.addrSet none)
      sampleRequest
    have hrequest : sampleRequest.encode.length = 20 := sampleRequest.encode_length
    omega

end StunServer

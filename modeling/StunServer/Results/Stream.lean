import StunServer.Proofs.StreamServer
import StunServer.Proofs.TcpConnection
import StunServer.Results.Coverage

/-! Requests on a connection: each is answered before the next one is read, however the
bytes are cut on their way in and out. -/

namespace StunServer

open Bytes CStunMessageReader CStunRequestHandler CConnectionPool

/-- What `ProcessRequest` makes of the bytes of one message, in a buffer of its own. -/
def responseTo (D : Digests) (x : Arrival) (b : List UInt8) : List UInt8 :=
  responseBytes (serve D (x.withReader (readBack b))
    ⟨.rolePP, .create, some (CBuffer.initWithAllocation MAX_STUN_MESSAGE_SIZE)⟩).2

/-- The responses to messages, one behind the other. -/
def responsesTo (D : Digests) (x : Arrival) (ms : List Message) : List UInt8 :=
  ms.flatMap fun m => responseTo D x m.encode

section

variable {D : Digests} {x : Arrival}

theorem responseTo_eq {m : Message} (hcls : m.cls = .request) :
    responseTo D x m.encode = (x.reply D m).encode := by
  have hcap : 800 ≤ (CBuffer.initWithAllocation MAX_STUN_MESSAGE_SIZE).getAllocatedSize :=
    List.length_replicate.ge
  have hout : (⟨.rolePP, .create, some (CBuffer.initWithAllocation MAX_STUN_MESSAGE_SIZE)⟩ :
      StunMessageOut).spBufferOut = some (CBuffer.initWithAllocation MAX_STUN_MESSAGE_SIZE) := rfl
  obtain ⟨m', hm', hserved⟩ := served D (holdsRequest_encode hcls)
    (x := x.withReader (readBack m.encode)) rfl hout hcap
  obtain rfl := (parsed_encode m).unique hm'
  rw [responseTo, hserved.answer.1, Arrival.withReader_reply.1]

theorem responsesTo_eq {ms : List Message} (hms : ∀ m ∈ ms, m.cls = .request) :
    responsesTo D x ms = replies D x ms :=
  List.flatMap_congr fun m hm => responseTo_eq (hms m hm)

/-- Once a byte behind a message is received, the response to the message is out. -/
theorem InStep.replied {log : List IoEvent} {ms before after : List Message} {rest : List UInt8}
    {m : Message} (h : InStep D x log ms rest)
    (hin : receivedBytes log <+: stream (before ++ m :: after))
    (hlen : (stream (before ++ [m])).length < (receivedBytes log).length) :
    replies D x (before ++ [m]) <+: sentBytes log := by
  rw [h.received] at hin hlen
  obtain ⟨later, hsplit, hrest⟩ := stream_prefix hin
  have hall : before ++ m :: after = (before ++ [m]) ++ after := by simp
  have hms : ms <+: (before ++ [m]) ++ after := ⟨later, by rw [← hsplit, hall]⟩
  rcases lt_trichotomy ms.length (before ++ [m]).length with hlt | heq | hgt
  · -- more than one message would be waiting for its response
    obtain ⟨mid, hmid⟩ := List.prefix_of_prefix_length_le hms (List.prefix_append _ after) hlt.le
    rw [hall, ← hmid, List.append_assoc, List.append_cancel_left_eq] at hsplit
    cases mid with
    | nil =>
      rw [← hmid, List.append_nil] at hlt
      exact absurd hlt (lt_irrefl _)
    | cons m₁ mid =>
      rw [← hmid, stream_append, stream_cons, List.length_append, List.length_append,
        List.length_append] at hlen
      rw [← hsplit, List.cons_append, stream_cons] at hrest
      have hfirst : m₁.encode <+: rest :=
        List.prefix_of_prefix_length_le (List.prefix_append _ _) hrest (by omega)
      have hwhole := congrArg List.length (h.unanswered m₁ hfirst)
      omega
  · obtain rfl : ms = before ++ [m] :=
      (List.prefix_of_prefix_length_le hms (List.prefix_append _ after) heq.le).eq_of_length heq
    rw [List.length_append] at hlen
    rw [h.complete (by rintro rfl; simp at hlen)]
  · obtain ⟨mid, hmid⟩ :=
      List.prefix_of_prefix_length_le (List.prefix_append _ after) hms hgt.le
    rw [← hmid] at hgt
    rcases List.eq_nil_or_concat mid with rfl | ⟨mid, m₁, rfl⟩
    · rw [List.append_nil] at hgt
      exact absurd hgt (lt_irrefl _)
    · have hbefore := h.before
      rw [← hmid, List.concat_eq_append, ← List.append_assoc, List.dropLast_concat,
        replies_append] at hbefore
      exact (List.prefix_append _ _).trans hbefore

end

/-- Whatever pieces requests arrive in and responses leave in, the connection stays open, no
assertion fails, the bytes sent are the responses one behind the other, and no byte behind a
request is received before its response is out. -/
theorem tcp_stream (D : Digests) (tsa : TransportAddressSet) (spAuth : Option IStunAuth)
    {conn : StunConnection} (hconn : Pooled D tsa spAuth conn) (sock : Int) (role : SocketRole)
    (names : CStunSocket.Names) {ms : List Message} (hms : ∀ m ∈ ms, m.cls = .request)
    {incoming : List UInt8} (hin : incoming <+: stream ms) {calls : List ConnectionCall}
    (hcalls : ∀ call ∈ calls, call.Smooth) :
    let opened := prepConnection sock role names conn
    let x := opened.stunsocket.arrival tsa spAuth
    let s := (Session.create opened incoming).run D tsa spAuth calls
    s.fClosed = false ∧ s.assertsHeld = true ∧ sentBytes s.log <+: responsesTo D x ms ∧
      ∀ p, p <+: s.log → ∀ before m after, ms = before ++ m :: after →
        (stream (before ++ [m])).length < (receivedBytes p).length →
          responsesTo D x (before ++ [m]) <+: sentBytes p := by
  intro opened x s
  have hrun : Refines opened.stunsocket s ((StreamServer.start incoming).run D x calls) :=
    refines_run calls (refines_start hconn.fit.1 sock role names incoming)
  have horderly : Orderly D x ((StreamServer.start incoming).run D x calls) :=
    orderly_run calls (orderly_start incoming)
  have hfluent : Fluent ((StreamServer.start incoming).run D x calls) :=
    fluent_run hcalls ⟨rfl, fun _ => needed_pos (Or.inl (Nat.zero_lt_succ _)), fun _ => rfl, ms, hms, hin⟩
  have hflow : receivedBytes s.log <+: stream ms := by
    have hflow : ((StreamServer.start incoming).run D x calls).flow = incoming := flow_run calls
    rw [hrun.log]
    exact List.IsPrefix.trans ⟨_, hflow⟩ hin
  -- at every moment the messages answered are the first ones of the stream
  have hfronts : ∀ p, p <+: s.log → receivedBytes p <+: stream ms := by
    rintro p ⟨log, hlog⟩
    refine List.IsPrefix.trans ?_ hflow
    rw [← hlog, receivedBytes_append]
    exact List.prefix_append _ _
  refine ⟨hrun.closed.trans hfluent.isOpen, hrun.assertsHeld, ?_, ?_⟩
  · obtain ⟨ms', rest, hstep⟩ := horderly.log s.log (by rw [hrun.log])
    have hfront := hfronts s.log List.prefix_rfl
    rw [hstep.received] at hfront
    obtain ⟨later, rfl, -⟩ := stream_prefix hfront
    rw [responsesTo_eq hms, replies_append]
    exact hstep.sent.trans (List.prefix_append _ _)
  · rintro p hp before m after rfl hlen
    obtain ⟨ms', rest, hstep⟩ := horderly.log p (by rw [← hrun.log]; exact hp)
    have hbefore : ∀ m' ∈ before ++ [m], m'.cls = .request := by
      intro m' hm'
      refine hms m' ?_
      rw [List.append_cons]
      exact List.mem_append_left _ hm'
    rw [responsesTo_eq hbefore]
    exact hstep.replied (hfronts p hp) hlen

/-- The sample request in pieces, on a connection just made. -/
theorem tcp_stream_pieces :
    ((Session.create (prepConnection 7 .rolePP ⟨none, none⟩ { StunConnection.create with pNext := none })
      sampleRequest.encode).run sampleDigests sampleArrival.addrSet none
        [⟨[.count 3, .wouldBlock], true, true, true⟩, ⟨[.count 40, .count 1], true, true, true⟩]).fClosed =
      false := by
  have hms : ∀ m ∈ [sampleRequest], m.cls = .request := by
    intro m hm
    rw [List.mem_singleton.mp hm]
    rfl
  refine (tcp_stream sampleDigests sampleArrival.addrSet none (.created none) 7 .rolePP ⟨none, none⟩
    hms ?_ ?_).1
  · rw [stream_cons]
    exact List.prefix_append _ _
  · intro call hcall
    simp only [List.mem_cons, List.not_mem_nil, or_false] at hcall
    rcases hcall with rfl | rfl
    · exact ⟨by simp, rfl, rfl, rfl⟩
    · exact ⟨by simp, rfl, rfl, rfl⟩

end StunServer

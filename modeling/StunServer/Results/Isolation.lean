import StunServer.Proofs.StunSocketThread
import StunServer.Results.Stream

/-! What a server sends is determined by the message it answers: no response is answered
again, and no message shows in the response to another. -/

namespace StunServer

open Bytes CStunMessageReader CStunRequestHandler CConnectionPool CStunSocketThread

/-- A byte string that `ProcessRequest` produces, on whatever server. -/
def IsResponse (D : Digests) (b : List UInt8) : Prop :=
  ∃ (r : CStunMessageReader) (x : Arrival) (out : StunMessageOut) (buf : CBuffer),
    HoldsRequest r ∧ x.msgIn.pReader = some r ∧ out.spBufferOut = some buf ∧
      800 ≤ buf.getAllocatedSize ∧ b = responseBytes (serve D x out).2

section

variable {D : Digests} {tsa : TransportAddressSet} {spAuth : Option IStunAuth}

theorem IsResponse.exists_reply {b : List UInt8} (h : IsResponse D b) :
    ∃ (x : Arrival) (m : Message), b = (x.reply D m).encode := by
  obtain ⟨r, x, out, buf, hr, hin, hout, hcap, rfl⟩ := h
  obtain ⟨m, -, hserved⟩ := served D hr hin hout hcap
  exact ⟨x, m, hserved.answer.1⟩

theorem reply_length_le (x : Arrival) (m : Message) : (x.reply D m).encode.length ≤ 800 := by
  have hle := reply_size D x m
  rw [Message.encode_length]
  omega

/-! ### Datagrams -/

/-- What is sent answers a request that was received, or at least as much of it as fits. -/
theorem datagram_sent {thread : CStunSocketThread} (h : thread.Prepared tsa spAuth) {turn : Turn}
    {packet : SentPacket} (hsent : (thread.runOnce D turn).1.sent = some packet) :
    ∃ data addrRemote pktinfo, turn.msg = .datagram data addrRemote pktinfo ∧
      (readBack (data.take 800)).getState = .bodyValidated ∧
      (readBack (data.take 800)).getMessageClass = .request := by
  rw [(runOnce_spec h turn).2.1] at hsent
  split_ifs at hsent
  rw [Turn.answer] at hsent
  cases hmsg : turn.msg with
  | failed => simp [hmsg] at hsent
  | datagram data addrRemote pktinfo =>
    rw [hmsg] at hsent
    obtain ⟨m, hm, hcls, -⟩ := Arrival.of_answer hsent
    have hdata : data.take 800 = m.encode := hm.symm
    refine ⟨data, addrRemote, pktinfo, rfl, ?_⟩
    rw [hdata]
    exact ⟨(parsed_encode m).state, (parsed_encode m).cls.trans hcls⟩

theorem datagram_response {thread : CStunSocketThread} (h : thread.Prepared tsa spAuth) {turn : Turn}
    {b : List UInt8} (hb : IsResponse D b) {addrRemote : CSocketAddress}
    {pktinfo : Option CSocketAddress} (hmsg : turn.msg = .datagram b addrRemote pktinfo) :
    (thread.runOnce D turn).1.sent = none := by
  obtain ⟨x, m, rfl⟩ := hb.exists_reply
  have hfits : (x.reply D m).encode.take MAX_STUN_MESSAGE_SIZE = (x.reply D m).encode :=
    List.take_of_length_le (reply_length_le x m)
  rw [(runOnce_spec h turn).2.1, Turn.answer, hmsg]
  dsimp only
  rw [hfits, Arrival.answer_reply, ite_self]

/-! ### Connections -/

/-- The bytes sent answer requests that were received, at every moment. -/
theorem stream_sent {s : Session} {a : StreamServer} {stunsocket : CStunSocket} {incoming : List UInt8}
    (h : Refines stunsocket s a) (ha : a = .start incoming) (calls : List ConnectionCall)
    {p : List IoEvent} (hp : p <+: (s.run D tsa spAuth calls).log) :
    ∃ ms rest, InStep D (stunsocket.arrival tsa spAuth) p ms rest ∧
      receivedBytes p <+: incoming := by
  subst ha
  have hrun : Refines stunsocket (s.run D tsa spAuth calls) _ := refines_run calls h
  have horderly := orderly_run (D := D) (x := stunsocket.arrival tsa spAuth) calls
    (orderly_start incoming)
  rw [hrun.log] at hp
  obtain ⟨ms, rest, hstep⟩ := horderly.log p hp
  refine ⟨ms, rest, hstep, ?_⟩
  have hflow : ((StreamServer.start incoming).run D (stunsocket.arrival tsa spAuth) calls).flow =
    incoming := flow_run calls
  rw [← hflow, StreamServer.flow]
  obtain ⟨later, hlater⟩ := hp
  rw [← hlater, receivedBytes_append, List.append_assoc]
  exact List.prefix_append _ _

/-- A connection on which a response arrives sends nothing, whatever follows. -/
theorem stream_response {s : Session} {stunsocket : CStunSocket} {b later : List UInt8}
    (h : Refines stunsocket s (.start (b ++ later))) (hb : IsResponse D b)
    (calls : List ConnectionCall) : sentBytes (s.run D tsa spAuth calls).log = [] := by
  obtain ⟨x, m, rfl⟩ := hb.exists_reply
  have hlog : (s.run D tsa spAuth calls).log <+: (s.run D tsa spAuth calls).log := List.prefix_rfl
  obtain ⟨ms, rest, hstep, hin⟩ := stream_sent h rfl calls hlog
  cases ms with
  | nil => exact List.prefix_nil.mp hstep.sent
  | cons m' ms =>
    rw [hstep.received, stream_cons] at hin
    obtain ⟨c, hc⟩ := hin
    rw [List.append_assoc, List.append_assoc] at hc
    obtain ⟨rfl, -⟩ := encode_append_inj hc
    have hcls := hstep.requests _ (List.mem_cons_self ..)
    rcases Arrival.reply_cls (D := D) (x := x) m with hr | hr <;> rw [hr] at hcls <;> cases hcls

end

/-- A server answers requests only, and what it sends is a response to every reader, so that
no server answers it, whoever seems to have sent it. -/
theorem no_reflection (D : Digests) (tsa : TransportAddressSet) (spAuth : Option IStunAuth) :
    (∀ spLimiter turns turn packet,
      let thread := Machine.after (runOnce D) (initWith tsa spAuth spLimiter) turns
      (thread.runOnce D turn).1.sent = some packet →
        ∃ data addrRemote pktinfo, turn.msg = .datagram data addrRemote pktinfo ∧
          (readBack (data.take 800)).getState = .bodyValidated ∧
          (readBack (data.take 800)).getMessageClass = .request) ∧
    (∀ conn, Pooled D tsa spAuth conn → ∀ sock role names incoming calls,
      let opened := prepConnection sock role names conn
      let x := opened.stunsocket.arrival tsa spAuth
      ∀ p, p <+: ((Session.create opened incoming).run D tsa spAuth calls).log →
        ∃ ms rest, (∀ m : Message, m ∈ ms → m.cls = .request) ∧
          receivedBytes p = stream ms ++ rest ∧ sentBytes p <+: responsesTo D x ms) ∧
    (∀ b, IsResponse D b → (readBack b).getState = .bodyValidated ∧
      ((readBack b).getMessageClass = .successResponse ∨
        (readBack b).getMessageClass = .failureResponse)) ∧
    (∀ b, IsResponse D b →
      (∀ spLimiter turns turn addrRemote pktinfo,
        let thread := Machine.after (runOnce D) (initWith tsa spAuth spLimiter) turns
        turn.msg = .datagram b addrRemote pktinfo → (thread.runOnce D turn).1.sent = none) ∧
      ∀ conn, Pooled D tsa spAuth conn → ∀ sock role names later calls,
        sentBytes ((Session.create (prepConnection sock role names conn) (b ++ later)).run D tsa
          spAuth calls).log = []) := by
  refine ⟨?_, ?_, ?_, ?_⟩
  · intro spLimiter turns turn packet thread hsent
    exact datagram_sent (prepared_after (prepared_initWith tsa spAuth spLimiter) turns) hsent
  · intro conn hconn sock role names incoming calls opened x p hp
    obtain ⟨ms, rest, hstep, -⟩ := stream_sent (refines_start hconn.fit.1 sock role names incoming)
      rfl calls hp
    refine ⟨ms, rest, hstep.requests, hstep.received, ?_⟩
    rw [responsesTo_eq hstep.requests]
    exact hstep.sent
  · intro b hb
    obtain ⟨x, m, rfl⟩ := hb.exists_reply
    refine ⟨(parsed_encode _).state, ?_⟩
    have hcls : (readBack (x.reply D m).encode).getMessageClass = (x.reply D m).cls :=
      (parsed_encode _).cls
    rw [hcls]
    exact Arrival.reply_cls m
  · intro b hb
    refine ⟨?_, ?_⟩
    · intro spLimiter turns turn addrRemote pktinfo thread hmsg
      exact datagram_response (prepared_after (prepared_initWith tsa spAuth spLimiter) turns) hb hmsg
    · intro conn hconn sock role names later calls
      exact stream_response (refines_start hconn.fit.1 sock role names _) hb calls

/-- The response to the sample request, sent to a server by whoever it is. -/
theorem no_reflection_sample :
    ((initWith sampleArrival.addrSet none none).runOnce sampleDigests
      ⟨⟨.rolePP, .create⟩, .datagram (responseBytes (serve sampleDigests sampleArrival sampleOut).2)
        .create none, 0, false⟩).1.sent = none := by
  have hb : IsResponse sampleDigests (responseBytes (serve sampleDigests sampleArrival sampleOut).2) :=
    ⟨_, _, _, _, holdsRequest_sample, rfl, rfl, sampleBuffer_capacity, rfl⟩
  generalize responseBytes (serve sampleDigests sampleArrival sampleOut).2 = b at hb ⊢
  have hnone := ((no_reflection sampleDigests sampleArrival.addrSet none).2.2.2 b hb).1 none []
    ⟨⟨.rolePP, .create⟩, .datagram b .create none, 0, false⟩ .create none rfl
  rwa [Machine.after] at hnone

/-- Requests do not show in each other's responses. On a datagram socket the answer depends
on the datagram and the socket alone; on a connection it makes no difference what the
connection object, or the connection itself, was used for before. -/
theorem requests_isolated (D : Digests) (tsa : TransportAddressSet) (spAuth : Option IStunAuth) :
    (∀ spLimiter spLimiter' turns turns' turn turn',
      let thread := Machine.after (runOnce D) (initWith tsa spAuth spLimiter) turns
      let thread' := Machine.after (runOnce D) (initWith tsa spAuth spLimiter') turns'
      turn.msg = turn'.msg → turn.pSocket = turn'.pSocket → turn.fNeedToExit = turn'.fNeedToExit →
        (thread.runOnce D turn).1.allowed_to_pass = (thread'.runOnce D turn').1.allowed_to_pass →
          (thread.runOnce D turn).1.sent = (thread'.runOnce D turn').1.sent) ∧
    ∀ conn conn', Pooled D tsa spAuth conn → Pooled D tsa spAuth conn' →
      ∀ sock sock' role names past past' calls calls', sock ≠ -1 → sock' ≠ -1 →
        let s := (Session.create (prepConnection sock role names conn) past).run D tsa spAuth calls
        let s' := (Session.create (prepConnection sock' role names conn') past').run D tsa spAuth calls'
        s.AtBoundary → s'.AtBoundary →
          (∀ incoming next,
            let t := (Session.create s.conn incoming).run D tsa spAuth next
            let t' := (Session.create s'.conn incoming).run D tsa spAuth next
            t.log = t'.log ∧ t.fClosed = t'.fClosed) ∧
          ∀ (m : Message) next,
            sentBytes ((Session.create s.conn m.encode).run D tsa spAuth next).log <+:
              if m.cls = .request then
                responseTo D ⟨⟨role, names.sockname.getD (.ofHostOrder 0 0),
                  names.peername.getD (.ofHostOrder 0 0), none, true⟩, tsa, spAuth⟩ m.encode
              else [] := by
  refine ⟨?_, ?_⟩
  · intro spLimiter spLimiter' turns turns' turn turn' thread thread' hmsg hsocket hexit hallowed
    have h : thread.Prepared tsa spAuth := prepared_after (prepared_initWith tsa spAuth _) turns
    have h' : thread'.Prepared tsa spAuth := prepared_after (prepared_initWith tsa spAuth _) turns'
    have hanswer : turn.answer D tsa spAuth = turn'.answer D tsa spAuth := by
      rw [Turn.answer, Turn.answer, hmsg, hsocket]
    rw [(runOnce_spec h turn).2.1, (runOnce_spec h' turn').2.1, hallowed, hexit, hanswer]
  · intro conn conn' hconn hconn' sock sock' role names past past' calls calls' hsock hsock' s s' hb hb'
    have harrival := hconn.arrival_prepConnection hsock role names
    have harrival' := hconn'.arrival_prepConnection hsock' role names
    have hs : Refines _ s _ := refines_run calls (refines_start hconn.fit.1 sock role names past)
    have hs' : Refines _ s' _ := refines_run calls' (refines_start hconn'.fit.1 sock' role names past')
    refine ⟨?_, ?_⟩
    · intro incoming next t t'
      have ht : Refines _ t _ := refines_run next (hs.restart hb incoming)
      have ht' : Refines _ t' _ := refines_run next (hs'.restart hb' incoming)
      rw [harrival] at ht
      rw [harrival'] at ht'
      exact ⟨ht.log.trans ht'.log.symm, ht.closed.trans ht'.closed.symm⟩
    · intro m next
      have hlog : ((Session.create s.conn m.encode).run D tsa spAuth next).log <+:
          ((Session.create s.conn m.encode).run D tsa spAuth next).log := List.prefix_rfl
      obtain ⟨ms, rest, hstep, hin⟩ := stream_sent (hs.restart hb m.encode) rfl next hlog
      rw [harrival] at hstep
      rw [hstep.received, ← List.append_nil m.encode, ← stream_nil, ← stream_cons] at hin
      obtain ⟨later, hms, -⟩ := stream_prefix hin
      cases ms with
      | nil =>
        rw [List.prefix_nil.mp hstep.sent]
        exact List.nil_prefix
      | cons m' ms =>
        obtain ⟨rfl, hnil⟩ := List.cons.inj hms
        obtain ⟨rfl, -⟩ := List.append_eq_nil_iff.mp hnil.symm
        have hcls := hstep.requests m (List.mem_singleton_self m)
        rw [if_pos hcls, responseTo_eq hcls, ← replies_singleton]
        exact hstep.sent

/-- The sample request, to a thread that has received another datagram before and to one that
has not, and on two connections just made. -/
theorem requests_isolated_sample :
    (((initWith sampleArrival.addrSet none none).runOnce sampleDigests
        ⟨⟨.rolePP, .create⟩, .datagram [1, 2, 3] (.addr4 2 3) none, 0, false⟩).2.runOnce sampleDigests
      ⟨⟨.rolePP, .create⟩, .datagram sampleRequest.encode .create none, 1, false⟩).1.sent =
      ((initWith sampleArrival.addrSet none none).runOnce sampleDigests
        ⟨⟨.rolePP, .create⟩, .datagram sampleRequest.encode .create none, 1, false⟩).1.sent ∧
    ((Session.create (prepConnection 5 .rolePP ⟨none, none⟩ { StunConnection.create with pNext := none })
        sampleRequest.encode).run sampleDigests sampleArrival.addrSet none
          [⟨[.count 30], true, true, true⟩]).log =
      ((Session.create (prepConnection 6 .rolePP ⟨none, none⟩ { StunConnection.create with pNext := some 1 })
        sampleRequest.encode).run sampleDigests sampleArrival.addrSet none
          [⟨[.count 30], true, true, true⟩]).log := by
  have hboundary : ∀ sock pNext, (Session.create (prepConnection sock .rolePP ⟨none, none⟩
      { StunConnection.create with pNext := pNext }) []).AtBoundary := fun _ _ => ⟨rfl, rfl, rfl⟩
  have hprepared := prepared_initWith sampleArrival.addrSet none none
  set before : Turn := ⟨⟨.rolePP, .create⟩, .datagram [1, 2, 3] (.addr4 2 3) none, 0, false⟩
  generalize hbytes : sampleRequest.encode = b
  refine ⟨?_, ?_⟩
  · have hsame := (requests_isolated sampleDigests sampleArrival.addrSet none).1 none none [before] []
      ⟨⟨.rolePP, .create⟩, .datagram b .create none, 1, false⟩
      ⟨⟨.rolePP, .create⟩, .datagram b .create none, 1, false⟩ rfl rfl rfl
    rw [Machine.after, Machine.after, Machine.after] at hsame
    have hlimiter := (runOnce_spec (D := sampleDigests) hprepared before).2.2.2.2
    have hnone : ((initWith sampleArrival.addrSet none none).runOnce sampleDigests before).2.spLimiter =
        none := Option.not_isSome_iff_eq_none.mp (by rw [hlimiter]; exact Bool.false_ne_true)
    exact hsame (by rw [runOnce_allowed hnone, runOnce_allowed rfl])
  · exact ((requests_isolated sampleDigests sampleArrival.addrSet none).2 _ _ (.created none)
      (.created (some 1)) 5 6 .rolePP ⟨none, none⟩ [] [] [] [] (by decide) (by decide)
      (hboundary 5 none) (hboundary 6 (some 1))).1 b [⟨[.count 30], true, true, true⟩] |>.1

end StunServer

import StunServer.Proofs.StreamServer
import StunServer.Proofs.TcpConnection

/-! A stream server gets on: every event that finds something to receive or room to send moves a
byte, so that after enough of them every request is answered. -/

namespace StunServer

open Bytes CStunMessageReader StreamServer

/-- The requests `ms` are still to be answered, and all that is sent in the end is `total`. -/
structure Owes (D : Digests) (x : Arrival) (total : List UInt8) (ms : List Message)
    (a : StreamServer) : Prop where
  isOpen : a.closed = false
  waiting : a.outbox = [] → 0 < needed a.inbox
  idle : a.outbox ≠ [] → a.inbox = []
  requests : ∀ m ∈ ms, m.cls = .request
  front : a.inbox ++ a.incoming = stream ms
  sent : sentBytes a.log ++ a.outbox ++ replies D x ms = total

/-- The bytes that are still to be received, and those that are still to be sent. -/
def StreamServer.left (total : List UInt8) (a : StreamServer) : ℕ :=
  a.incoming.length + (total.length - (sentBytes a.log).length)

variable {D : Digests} {x : Arrival} {call : ConnectionCall} {a : StreamServer}
  {total : List UInt8} {ms : List Message}

theorem Owes.length_eq (h : Owes D x total ms a) :
    (sentBytes a.log).length + a.outbox.length + (replies D x ms).length = total.length := by
  rw [← h.sent, List.length_append, List.length_append]

/-- Nothing is left when everything is received and sent. -/
theorem Owes.ended (h : Owes D x total ms a) (hleft : a.left total = 0) :
    a.incoming = [] ∧ sentBytes a.log = total ∧ a.inbox = [] ∧ a.outbox = [] := by
  have hlen := h.length_eq
  rw [StreamServer.left] at hleft
  have hin : a.incoming = [] := List.length_eq_zero_iff.mp (by omega)
  have hprefix : sentBytes a.log <+: total := by
    rw [← h.sent, List.append_assoc]
    exact List.prefix_append _ _
  refine ⟨hin, hprefix.eq_of_length (by omega), ?_, List.length_eq_zero_iff.mp (by omega)⟩
  have hfront := h.front
  cases ms with
  | nil => rwa [hin, List.append_nil] at hfront
  | cons m ms =>
    have hreply := List.length_pos_iff.mpr (encode_ne_nil (x.reply D m))
    have hlonger : (replies D x (m :: ms)).length =
        (x.reply D m).encode.length + (replies D x ms).length := List.length_append
    omega

/-- With nothing to send and nothing to receive, nothing is left. -/
theorem Owes.left_eq_zero (h : Owes D x total ms a) (hout : a.outbox = [])
    (hin : a.incoming = []) : a.left total = 0 := by
  have hms : ms = [] := by
    cases ms with
    | nil => rfl
    | cons m ms =>
      have hfront := h.front
      rw [hin, List.append_nil, stream_cons] at hfront
      obtain ⟨hinbox, hne⟩ := prefix_of_waiting (c := stream ms) (by rw [hfront]) (h.waiting hout)
      have hlen := congrArg List.length hfront
      rw [List.length_append] at hlen
      exact absurd (hinbox.eq_of_length (by have hle := hinbox.length_le; omega)) hne
  have hlen := h.length_eq
  rw [hout, hms, replies_nil, List.length_nil] at hlen
  rw [StreamServer.left, hin, List.length_nil]
  omega

/-! ### Steps -/

/-- After the results nothing more is left, and less if there was a first count. -/
structure Nears (D : Digests) (x : Arrival) (total : List UInt8) (results : List IoResult)
    (a a' : StreamServer) : Prop where
  owes : ∃ ms, Owes D x total ms a'
  le : a'.left total ≤ a.left total
  lt : a.left total ≠ 0 → ∀ n later, results = .count n :: later → a'.left total < a.left total

theorem owes_write (hcall : call.Smooth) {results : List IoResult}
    (hr : ∀ r ∈ results, r ≠ .failed) (h : Owes D x total ms a) (hout : a.outbox ≠ []) :
    Nears D x total results a (a.write call results) := by
  induction results generalizing a with
  | nil => exact ⟨⟨ms, h⟩, le_rfl, fun _ _ _ he => by cases he⟩
  | cons r results ih =>
    obtain ⟨hfirst, hlater⟩ := List.forall_mem_cons.mp hr
    cases r with
    | wouldBlock => exact ⟨⟨ms, h⟩, le_rfl, fun _ _ _ he => by cases he⟩
    | failed => exact absurd rfl hfirst
    | count n =>
      have hin := h.idle hout
      rw [StreamServer.write]
      set k := min (max n 1) a.outbox.length with hk
      set a' : StreamServer := { a.logged (.sent (a.outbox.take k)) with outbox := a.outbox.drop k }
      have hlog : sentBytes a'.log = sentBytes a.log ++ a.outbox.take k := by
        change sentBytes (a.log ++ _) = _
        rw [sentBytes_append, sentBytes_sent]
      have howes : Owes D x total ms a' :=
        { isOpen := h.isOpen
          waiting := fun _ => by
            change 0 < needed a.inbox
            rw [hin]
            decide
          idle := fun _ => hin
          requests := h.requests
          front := h.front
          sent := by
            rw [hlog]
            change sentBytes a.log ++ a.outbox.take k ++ a.outbox.drop k ++ _ = _
            rw [List.append_assoc (sentBytes a.log), List.take_append_drop, h.sent] }
      have hless : a'.left total < a.left total := by
        have hpos : 0 < a.outbox.length := List.length_pos_iff.mpr hout
        have hlen := h.length_eq
        have htake : (a.outbox.take k).length = k := List.length_take_of_le (Nat.min_le_right _ _)
        have hin' : a'.incoming = a.incoming := rfl
        rw [StreamServer.left, StreamServer.left, hlog, List.length_append, htake, hin']
        omega
      change Nears D x total _ a (if a'.outbox = [] then if call.fReadEventSet then a' else a'.close
        else a'.write call results)
      by_cases hdone : a'.outbox = []
      · rw [if_pos hdone, if_pos hcall.readEvents]
        exact ⟨⟨ms, howes⟩, hless.le, fun _ _ _ _ => hless⟩
      · rw [if_neg hdone]
        have hrest := ih hlater howes hdone
        exact ⟨hrest.owes, hrest.le.trans hless.le, fun _ _ _ _ => hrest.le.trans_lt hless⟩

/-- A request is answered; what is left stays the same, but for what is sent at once. -/
theorem owes_respond (hcall : call.Smooth) {results : List IoResult}
    (hr : ∀ r ∈ results, r ≠ .failed) {m : Message} (hm : a.inbox = m.encode)
    (hopen : a.closed = false) (hms : ∀ m' ∈ m :: ms, m'.cls = .request)
    (hin : a.incoming = stream ms) (hsent : sentBytes a.log ++ replies D x (m :: ms) = total) :
    (∃ ms', Owes D x total ms' (a.respond call D x results)) ∧
      (a.respond call D x results).left total ≤ a.left total := by
  obtain ⟨hcls, hlater⟩ := List.forall_mem_cons.mp hms
  have hanswer : x.answer D (a.logged (.rateChecked x.msgIn.addrRemote)).inbox =
      some ⟨x.replyRole D m, x.dest m, (x.reply D m).encode⟩ := by
    change x.answer D a.inbox = _
    rw [hm, Arrival.answer_encode hcls]
  have hlog : sentBytes (a.log ++ [.rateChecked x.msgIn.addrRemote]) = sentBytes a.log := by
    rw [sentBytes_append, sentBytes_rateChecked, List.append_nil]
  rw [StreamServer.respond]
  dsimp only
  rw [if_neg (by rw [hcall.allowed]; decide), hanswer]
  dsimp only
  rw [if_pos hcall.writeEvents]
  set a' : StreamServer := { a.logged (.rateChecked x.msgIn.addrRemote) with
    inbox := [], outbox := (x.reply D m).encode }
  have howes : Owes D x total ms a' :=
    { isOpen := hopen
      waiting := fun hc => absurd hc (encode_ne_nil _)
      idle := fun _ => rfl
      requests := hlater
      front := hin
      sent := by
        change sentBytes (a.log ++ _) ++ (x.reply D m).encode ++ replies D x ms = _
        rw [hlog, List.append_assoc, ← hsent]
        rfl }
  have hsame : a'.left total = a.left total := by
    change a.incoming.length + (total.length - (sentBytes (a.log ++ _)).length) = _
    rw [hlog]
    rfl
  have hwrite := owes_write hcall hr howes (encode_ne_nil _)
  exact ⟨hwrite.owes, hwrite.le.trans hsame.le⟩

theorem owes_read (hcall : call.Smooth) {results : List IoResult}
    (hr : ∀ r ∈ results, r ≠ .failed) (h : Owes D x total ms a) (hout : a.outbox = []) :
    Nears D x total results a (a.read call D x results) := by
  induction results generalizing a with
  | nil => exact ⟨⟨ms, h⟩, le_rfl, fun _ _ _ he => by cases he⟩
  | cons r results ih =>
    obtain ⟨hfirst, hlater⟩ := List.forall_mem_cons.mp hr
    cases r with
    | wouldBlock => exact ⟨⟨ms, h⟩, le_rfl, fun _ _ _ he => by cases he⟩
    | failed => exact absurd rfl hfirst
    | count n =>
      rw [StreamServer.read]
      dsimp only
      have hpos := h.waiting hout
      have hlength : (a.incoming.take (min (max n 1) (needed a.inbox))).length =
          min (min (max n 1) (needed a.inbox)) a.incoming.length := List.length_take
      have hfront : a.incoming.take (min (max n 1) (needed a.inbox)) <+: a.incoming :=
        List.take_prefix _ _
      set buffer := a.incoming.take (min (max n 1) (needed a.inbox))
      by_cases hnothing : buffer = []
      · rw [if_pos hnothing]
        refine ⟨⟨ms, h⟩, le_rfl, fun hmore => absurd (h.left_eq_zero hout ?_) hmore⟩
        rw [hnothing, List.length_nil] at hlength
        exact List.length_eq_zero_iff.mp (by omega)
      rw [if_neg hnothing]
      set a' : StreamServer := { a.logged (.received buffer) with
        inbox := a.inbox ++ buffer, incoming := a.incoming.drop buffer.length }
      have hsplit : buffer ++ a'.incoming = a.incoming := List.prefix_iff_eq_append.mp hfront
      have hlog : sentBytes a'.log = sentBytes a.log := by
        change sentBytes (a.log ++ _) = _
        rw [sentBytes_append, sentBytes_received, List.append_nil]
      have hless : a'.left total < a.left total := by
        have hbytes := List.length_pos_iff.mpr hnothing
        have hsize := congrArg List.length hsplit
        rw [List.length_append] at hsize
        rw [StreamServer.left, StreamServer.left, hlog]
        omega
      have htotal : a'.inbox ++ a'.incoming = stream ms := by
        change a.inbox ++ buffer ++ a'.incoming = _
        rw [List.append_assoc, hsplit, h.front]
      cases ms with
      | nil =>
        have hnil := List.append_eq_nil_iff.mp htotal
        exact absurd (List.append_eq_nil_iff.mp hnil.1).2 hnothing
      | cons m ms =>
        have hfronts := h.front
        rw [stream_cons] at hfronts htotal
        obtain ⟨hinbox, hne⟩ := prefix_of_waiting ⟨_, hfronts⟩ hpos
        obtain ⟨-, hle⟩ := needed_of_front hinbox hne
        have hinbox' : a'.inbox <+: m.encode := by
          refine List.prefix_of_prefix_length_le ⟨_, htotal⟩ (List.prefix_append _ _) ?_
          change (a.inbox ++ buffer).length ≤ _
          rw [List.length_append]
          omega
        by_cases hcomplete : a'.inbox = m.encode
        · have haccepted : Accepted true a'.inbox := by
            rw [hcomplete]
            exact m.accepted
          rw [if_pos haccepted]
          rw [hcomplete, List.append_cancel_left_eq] at htotal
          have hsent := h.sent
          rw [hout, List.append_nil, ← hlog] at hsent
          obtain ⟨howes, hrest⟩ := owes_respond (a := a') hcall hlater hcomplete h.isOpen h.requests
            htotal hsent
          exact ⟨howes, hrest.trans hless.le, fun _ _ _ _ => hrest.trans_lt hless⟩
        · obtain ⟨hnot, hpartial⟩ := incomplete_of_prefix hinbox' hcomplete
          rw [if_neg hnot, if_pos hpartial]
          have hrest := ih (a := a') hlater
            { isOpen := h.isOpen
              waiting := fun _ => (needed_of_front hinbox' hcomplete).1
              idle := fun hc => absurd hout hc
              requests := h.requests
              front := by rw [htotal, stream_cons]
              sent := by
                rw [hlog]
                exact h.sent } hout
          exact ⟨hrest.owes, hrest.le.trans hless.le, fun _ _ _ _ => hrest.le.trans_lt hless⟩

theorem owes_event (hcall : call.Smooth) (h : Owes D x total ms a) :
    Nears D x total call.results a (a.event call D x) := by
  rw [StreamServer.event, if_neg (by rw [h.isOpen]; decide)]
  by_cases hout : a.outbox = []
  · rw [if_pos hout]
    exact owes_read hcall hcall.results h hout
  · rw [if_neg hout]
    exact owes_write hcall hcall.results h hout

/-- Every event that finds something to do brings the end nearer. -/
theorem owes_run {calls : List ConnectionCall} (hcalls : ∀ call ∈ calls, call.Smooth)
    (h : Owes D x total ms a) : ∃ ms', Owes D x total ms' (a.run D x calls) ∧
      (a.run D x calls).left total ≤ a.left total - calls.countP (·.Eager) := by
  induction calls generalizing a ms with
  | nil => exact ⟨ms, h, le_rfl⟩
  | cons call calls ih =>
    obtain ⟨hcall, hlater⟩ := List.forall_mem_cons.mp hcalls
    have hnears := owes_event hcall h
    obtain ⟨ms₁, howes⟩ := hnears.owes
    obtain ⟨ms', hrun, hle⟩ := ih hlater howes
    refine ⟨ms', hrun, hle.trans ?_⟩
    rw [List.countP_cons]
    by_cases heager : call.Eager
    · rw [if_pos (decide_eq_true heager)]
      obtain ⟨n, later, hresults⟩ := heager
      by_cases hmore : a.left total = 0
      · have hfirst := hnears.le
        omega
      · have hfirst := hnears.lt hmore n later hresults
        omega
    · rw [if_neg (by simpa using heager)]
      have hfirst := hnears.le
      omega

/-- A server that has received nothing owes the replies to all that arrives. -/
theorem owes_start (hms : ∀ m ∈ ms, m.cls = .request) :
    Owes D x (replies D x ms) ms (.start (stream ms)) where
  isOpen := rfl
  waiting _ := needed_pos (Or.inl (Nat.zero_lt_succ _))
  idle hc := absurd rfl hc
  requests := hms
  front := rfl
  sent := rfl

/-- After enough events all requests are received and all replies are sent. -/
theorem all_answered {calls : List ConnectionCall} (hcalls : ∀ call ∈ calls, call.Smooth)
    (hms : ∀ m ∈ ms, m.cls = .request)
    (henough : (stream ms).length + (replies D x ms).length ≤ calls.countP (·.Eager))
    (ha : a = (StreamServer.start (stream ms)).run D x calls) :
    a.closed = false ∧ a.incoming = [] ∧ sentBytes a.log = replies D x ms ∧ a.inbox = [] ∧
      a.outbox = [] := by
  obtain ⟨ms', howes, hle⟩ := owes_run hcalls (owes_start (D := D) (x := x) hms)
  have hstart : (StreamServer.start (stream ms)).left (replies D x ms) =
      (stream ms).length + (replies D x ms).length := rfl
  rw [ha]
  exact ⟨howes.isOpen, howes.ended (by omega)⟩

/-- A session whose stream server has nothing in its boxes stands between two messages. -/
theorem Refines.atBoundary {stunsocket : CStunSocket} {s : Session} (h : Refines stunsocket s a)
    (hopen : a.closed = false) (hin : a.inbox = []) (hout : a.outbox = []) : s.AtBoundary := by
  have hsession : s.fClosed = false := h.closed.trans hopen
  cases h.phase hsession with
  | receiving state outbox fed waiting txCount =>
    exact ⟨hsession, state, by rw [fed_getSize fed waiting, hin, List.length_nil]⟩
  | transmitting state inbox outbox size left =>
    rw [hout] at outbox
    have hlen := congrArg List.length outbox
    rw [List.length_nil, List.length_drop] at hlen
    omega

/-- A session on a connection from the pool gets through with its requests. -/
theorem session_answered {tsa : TransportAddressSet} {spAuth : Option IStunAuth} {conn : StunConnection}
    (hconn : Pooled D tsa spAuth conn) (sock : Int) (role : SocketRole) (names : CStunSocket.Names)
    (hms : ∀ m ∈ ms, m.cls = .request) {calls : List ConnectionCall}
    (hcalls : ∀ call ∈ calls, call.Smooth) {opened : StunConnection}
    (hopened : opened = CConnectionPool.prepConnection sock role names conn)
    (henough : (stream ms).length + (replies D (opened.stunsocket.arrival tsa spAuth) ms).length ≤
      calls.countP (·.Eager)) {s : Session}
    (hs : s = (Session.create opened (stream ms)).run D tsa spAuth calls) :
    receivedBytes s.log = stream ms ∧
      sentBytes s.log = replies D (opened.stunsocket.arrival tsa spAuth) ms ∧ s.AtBoundary := by
  subst hopened hs
  set opened := CConnectionPool.prepConnection sock role names conn
  set x := opened.stunsocket.arrival tsa spAuth
  have hrun : Refines opened.stunsocket ((Session.create opened (stream ms)).run D tsa spAuth calls)
      ((StreamServer.start (stream ms)).run D x calls) :=
    refines_run calls (refines_start hconn.fit.1 sock role names (stream ms))
  obtain ⟨hopen, hincoming, hsent, hin, hout⟩ := all_answered hcalls hms henough rfl
  have hflow : ((StreamServer.start (stream ms)).run D x calls).flow = stream ms := flow_run calls
  rw [StreamServer.flow, hincoming, List.append_nil] at hflow
  exact ⟨by rw [hrun.log, hflow], by rw [hrun.log, hsent], hrun.atBoundary hopen hin hout⟩

end StunServer

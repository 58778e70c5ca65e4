import StunServer.Proofs.StreamProgress
import StunServer.Proofs.UdpNetwork
import StunServer.Results.TcpClient
import StunServer.Spec.TcpNetwork

/-! The loop over TCP gets a response to each of its requests, and so follows the world that
the server makes. -/

namespace StunServer

open Bytes CStunClientLogic CStunMessageBuilder CStunMessageReader StreamServer Tlv

/-! ### Receiving a message -/

namespace TcpClient.Receiving

variable {request : CBuffer} {s : Receiving}

/-- The reader has seen what is stored. -/
structure Reads (request : CBuffer) (s : Receiving) : Prop extends Stores request s where
  reachable : Reachable s.reader
  fed : Fed true s.reader s.received

theorem Reads.store (h : Reads request s) {data : List UInt8} (hdata : data ≠ [])
    (hroom : data.length ≤ s.spMsg.getAllocatedSize - s.bytes_recv) (hlen : data.length < 2 ^ 32) :
    Reads request (s.store data) := by
  obtain ⟨hreachable, -, hfed⟩ := h.reachable.fed_addBytes h.fed hlen
  exact ⟨h.toStores.store hdata hroom, hreachable, hfed⟩

/-- The loop asks for nothing behind a message. -/
theorem Reads.readsize_done (h : Reads request s) {m : Message} (hm : s.received = m.encode) :
    s.readsize = none := by
  have hstate : s.reader.state = .bodyValidated := by
    rw [h.fed.state_iff.1, hm]
    exact m.accepted
  have hneeded : s.reader.howManyBytesNeeded = 0 := by
    rw [howManyBytesNeeded, hstate]
  rw [readsize, hneeded]
  exact if_neg fun hasks => hasks.2.1 rfl

/-- Before its end it asks for what ends the header or the message. -/
theorem Reads.readsize_more (h : Reads request s) {m : Message} (hm : s.received <+: m.encode)
    (hne : s.received ≠ m.encode) (hroom : m.encode.length ≤ request.getAllocatedSize) :
    s.readsize = some (needed s.received) ∧ 0 < needed s.received ∧
      s.received.length + needed s.received ≤ m.encode.length := by
  obtain ⟨hpos, hle⟩ := needed_of_front hm hne
  obtain ⟨-, hpartial⟩ := incomplete_of_prefix hm hne
  have hwaits : s.reader.IsWaiting := hpartial.imp h.fed.state_iff.2.1.mpr h.fed.state_iff.2.2.1.mpr
  obtain ⟨hneeded, -⟩ := howManyBytesNeeded_eq h.fed hwaits
  have hcount := h.count
  have hsize := h.allocated
  refine ⟨?_, hpos, hle⟩
  rw [readsize, hneeded]
  exact if_pos (by omega)

/-- A message is received as it was sent, whatever the pieces. -/
theorem Reads.loop_pieces {m : Message} (hroom : m.encode.length ≤ request.getAllocatedSize)
    (recvs : List ℕ) {bytes : List UInt8} (h : Reads request s) (hm : s.received ++ bytes = m.encode)
    (henough : bytes.length ≤ recvs.length) :
    ∃ s', loop (pieces recvs bytes s) s = .ok s' ∧ Reads request s' ∧ s'.received = m.encode := by
  induction recvs generalizing bytes s with
  | nil =>
    have hnil : bytes = [] := List.length_eq_zero_iff.mp (Nat.le_zero.mp henough)
    rw [hnil, List.append_nil] at hm
    exact ⟨s, rfl, h, hm⟩
  | cons n recvs ih =>
    rw [pieces]
    by_cases hdone : s.received = m.encode
    · rw [h.readsize_done hdone]
      exact ⟨s, rfl, h, hdone⟩
    · obtain ⟨hsize, hpos, hle⟩ := h.readsize_more ⟨bytes, hm⟩ hdone hroom
      have hlen := congrArg List.length hm
      rw [List.length_append] at hlen
      have hmlen := m.encode_length_le
      have hcount := h.count
      have hallocated := h.allocated
      rw [hsize]
      dsimp only
      have hlength : (bytes.take (min (max n 1) (needed s.received))).length =
          min (min (max n 1) (needed s.received)) bytes.length := List.length_take
      have hfront : bytes.take (min (max n 1) (needed s.received)) <+: bytes := List.take_prefix _ _
      set data := bytes.take (min (max n 1) (needed s.received))
      have hdata : data ≠ [] := List.ne_nil_of_length_pos (by omega)
      have htake : data.take (needed s.received) = data := List.take_of_length_le (by omega)
      have hsplit : data ++ bytes.drop data.length = bytes := List.prefix_iff_eq_append.mp hfront
      rw [loop, hsize]
      dsimp only
      rw [if_neg hdata, htake]
      refine ih (h.store hdata (by omega) (by omega)) ?_ ?_
      · change s.received ++ data ++ bytes.drop data.length = m.encode
        rw [List.append_assoc, hsplit, hm]
      · rw [List.length_drop]
        rw [List.length_cons] at henough
        omega

end TcpClient.Receiving

/-! ### The server -/

section

open CConnectionPool

variable {site : Site} {exchange : TcpExchange}

theorem verdict_connection {role : SocketRole} {change : StunChangeRequestAttribute}
    (hplain : change = ⟨false, false⟩) (tid : StunTransactionId) {x : Arrival}
    (hx : x = ⟨⟨role, site.grid.endpoint role, site.mapped role, none, true⟩, site.grid.addrSet,
      none⟩) : x.verdict site.D (bindingRequest change tid) = .ok none := by
  have hport := Site.responsePort_bindingRequest change tid
  have hnone : ¬(bindingRequest change tid).AsksChange := by
    rw [Message.AsksChange, bindingRequest_change, hplain]
    decide
  subst hx
  exact verdict_eq_ok.mpr ⟨⟨rfl, fun hp => absurd hport hp⟩, rfl,
    ⟨fun hp => absurd hport hp, fun hasks => absurd hasks hnone, fun hasks => absurd hasks hnone⟩⟩

/-- On a connection the server answers as it does a datagram, to requests that want no change. -/
theorem TcpExchange.Succeeds.served (h : exchange.Succeeds site) (role : SocketRole)
    {change : StunChangeRequestAttribute} (hplain : change = ⟨false, false⟩) (tid : StunTransactionId) :
    site.served exchange (site.grid.endpoint role) (bindingRequest change tid).encode =
      (site.response role change tid).encode := by
  set m := bindingRequest change tid with hm
  set names : CStunSocket.Names :=
    ⟨some (site.grid.endpoint role), some (site.map (site.grid.endpoint role))⟩
  set opened := prepConnection exchange.sock role names exchange.conn with hopened
  have hx := h.pooled.arrival_prepConnection h.socket role names
  have hreply : (opened.stunsocket.arrival site.grid.addrSet none).reply site.D m =
      site.response role change tid := by
    rw [Arrival.reply, verdict_connection hplain tid hx, hx]
    rfl
  have hms : ∀ m' ∈ [m], m'.cls = .request := fun m' hm' => by
    rw [List.mem_singleton.mp hm']
    rfl
  have hrequest : (stream [m]).length ≤ MAX_STUN_MESSAGE_SIZE := by
    have hattrs : sizeAll m.attrs ≤ 8 := by
      rw [hm, bindingRequest, sizeAll_cons, sizeAll_nil, record_size, be32_length]
      decide
    rw [stream_cons, stream_nil, List.append_nil, Message.encode_length]
    exact (Nat.add_le_add_left hattrs 20).trans (by decide)
  have hresponse : (replies site.D (opened.stunsocket.arrival site.grid.addrSet none) [m]).length ≤
      MAX_STUN_MESSAGE_SIZE := by
    rw [replies_singleton, hreply]
    exact site.response_length_le role change tid
  have henough := (Nat.add_le_add hrequest hresponse).trans
    ((Nat.two_mul MAX_STUN_MESSAGE_SIZE).ge.trans h.events)
  have hanswered := session_answered h.pooled exchange.sock role names hms h.smooth hopened henough rfl
  rw [stream_cons, stream_nil, List.append_nil, replies_singleton, hreply] at hanswered
  rw [Site.served, site.grid.roleAt_endpoint]
  exact hanswered.2.1

end

/-! ### A pass -/

namespace TcpClient

variable {client : TcpClient} {turn : TcpTurn} {c : CStunClientLogic}

theorem pass_of_error {hr : HRESULT} (hinit : FAILED turn.tcpInit = false)
    (hcall : CStunClientLogic.getNextMessage turn.entropy client.spMsg turn.timeCurrentMilliseconds
      client.clientlogic = .error hr c) : client.pass turn =
        (some hr, .error (if hr = E_STUNCLIENT_RESULTS_READY then .prints c.getResults else .stops hr)) := by
  rw [pass, if_neg (by rw [hinit]; decide), hcall]

theorem pass_of_ok {msg : CBuffer × CSocketAddress} (hinit : FAILED turn.tcpInit = false)
    (hcall : CStunClientLogic.getNextMessage turn.entropy client.spMsg turn.timeCurrentMilliseconds
      client.clientlogic = .ok msg c) : client.pass turn =
        (some S_OK, exchange turn { client with clientlogic := c, spMsg := msg.1 } msg.2) := by
  rw [pass, if_neg (by rw [hinit]; decide), hcall]

theorem sendAll_ok (size sent : ℕ) (sends : List ℕ) :
    sendAll size sent (sends.map .ok) = .ok () := by
  induction sends generalizing sent with
  | nil => rfl
  | cons n sends ih =>
    rw [List.map_cons, sendAll]
    split_ifs
    · exact ih _
    · rfl

/-- What a pass comes to in which the calls succeed. -/
theorem exchange_of_receive (client : TcpClient) (turn : TcpTurn) (addrDest : CSocketAddress)
    {s : Receiving} {sends : List ℕ} (hconnect : FAILED turn.connect = false)
    (hsends : turn.sends = sends.map .ok) (hreceive : client.receive turn.recvs = .ok s) :
    ∃ fed client', client.exchange turn addrDest = .ok (fed, client') ∧
      client'.clientlogic = (CStunClientLogic.processResponse s.spMsg addrDest turn.addrLocal).after
        client.clientlogic ∧ client'.spMsg = s.spMsg ∧ client'.reader = s.reader := by
  rw [exchange, if_neg (by rw [hconnect]; decide), hsends, sendAll_ok, hreceive]
  exact ⟨_, _, rfl, rfl, rfl, rfl⟩

end TcpClient

/-! ### The loop -/

namespace Site

variable {site : Site} {w : World} {past : List Entry} {phase : Phase}
  {rest : List IStunClientTest} {client : TcpClient} {exchange : TcpExchange}

theorem change_of_mem (hplain : site.config.fFilteringTest = false) {t : IStunClientTest}
    (ht : t ∈ testsOf (configure site.config)) : t.change = ⟨false, false⟩ ∧ site.LetsThrough t := by
  have hno : (configure site.config).fFilteringTest = false := hplain
  cases t with
  | binding => exact ⟨rfl, site.letsThrough_binding⟩
  | behavior fIsTest3 => exact ⟨rfl, site.letsThrough_behavior fIsTest3⟩
  | filtering fIsTest3 =>
    rw [testsOf, hno] at ht
    simp at ht

/-- A client between two tests, in a world that knows its past. -/
structure Goes (site : Site) (w : World) (past : List Entry) (phase : Phase)
    (rest : List IStunClientTest) (client : TcpClient) : Prop where
  tracks : site.Tracks w past phase rest
  clientlogic : client.clientlogic = w.client
  settled : ∀ t, phase ≠ .waiting t
  due : w.NothingDue
  reader : Reachable client.reader
  room : 800 ≤ client.spMsg.getAllocatedSize

/-- There are fewer tests left behind the one that is sent. -/
theorem length_lt_of_adds {config : StunClientLogicConfig} {c c' : CStunClientLogic}
    {past' : List Entry} {t : IStunClientTest} {rest' : List IStunClientTest}
    (h : Follows config past phase rest c) (hsettled : ∀ t, phase ≠ .waiting t)
    (h' : Follows config past' (.waiting t) rest' c') (hadds : Adds past phase past' (.waiting t)) :
    rest'.length < rest.length := by
  obtain ⟨more, hmore, -⟩ := hadds
  have hpast := congrArg List.length hmore
  have hsplit := congrArg List.length (h.split.symm.trans h'.split)
  have hentry : phase.entry.length = phase.current.length := by
    cases phase with
    | unsent => rfl
    | waiting t => exact absurd rfl (hsettled t)
    | finished e => rfl
  have hnow : (Phase.waiting t).current.length = 1 := rfl
  rw [show (Phase.waiting t).entry = [] from rfl, List.append_nil] at hpast
  simp only [List.length_append, List.length_map] at hpast hsplit
  omega

/-- A pass that sends a request gets the response to it, whole. -/
theorem pass_answered (hreader : Reachable client.reader) (hexchange : exchange.Succeeds site)
    {c : CStunClientLogic} {t : IStunClientTest} {msg : CBuffer × CSocketAddress}
    (hcall : CStunClientLogic.getNextMessage exchange.entropy client.spMsg
      exchange.timeCurrentMilliseconds client.clientlogic = .ok msg c)
    (hasks : site.Asks c ⟨t, msg.2, msg.1.bytes⟩) (hchange : t.change = ⟨false, false⟩) :
    ∃ fed client', client.pass (site.tcpTurn client exchange) = (some S_OK, .ok (fed, client')) ∧
      client'.clientlogic = (CStunClientLogic.processResponse (.initNoAlloc
        (site.response (site.roleOf t) t.change (c.test t).transid).encode) msg.2
          site.addrLocal).after c ∧
      Reachable client'.reader ∧ 800 ≤ client'.spMsg.getAllocatedSize := by
  obtain ⟨hcap, hsize, -⟩ := getNextMessage_buffer hcall
  set response := site.response (site.roleOf t) t.change (c.test t).transid with hresponse
  have hrecvs : (site.tcpTurn client exchange).recvs =
      (client.attached msg.1).pieces exchange.recvs response.encode := by
    have hserved := hexchange.served (site.roleOf t) hchange (c.test t).transid
    rw [← hasks.dest, ← hasks.data, ← hresponse] at hserved
    rw [Site.tcpTurn, hcall, ← hserved]
  have hlength : response.encode.length ≤ MAX_STUN_MESSAGE_SIZE := site.response_length_le _ _ _
  obtain ⟨hreachable, hfed⟩ := hreader.fed_reset client.spMsgReader
  have hstart : TcpClient.Receiving.Reads msg.1 (client.attached msg.1) :=
    ⟨.start _ _, hreachable, hfed⟩
  obtain ⟨s, hloop, hreads, hreceived⟩ := hstart.loop_pieces
    (hlength.trans (hsize.ge.trans' hcap)) exchange.recvs rfl (hlength.trans hexchange.recvs)
  obtain ⟨fed, client', hdone, hlogic, hmsg, hkept⟩ := TcpClient.exchange_of_receive
    { client with clientlogic := c, spMsg := msg.1 } (site.tcpTurn client exchange) msg.2 rfl rfl
    (by rw [hrecvs]; exact hloop)
  have hpass : client.pass (site.tcpTurn client exchange) = _ := TcpClient.pass_of_ok rfl hcall
  rw [hdone] at hpass
  -- the client logic looks at the bytes of the buffer alone
  have hsome : s.received ≠ [] := by
    rw [hreceived]
    exact encode_ne_nil _
  obtain ⟨hbytes, hcount⟩ := hreads.toStores.isExact hsome
  refine ⟨fed, client', hpass, ?_, hkept ▸ hreads.reachable, ?_⟩
  · rw [hlogic, processResponse_bytes (by rw [hbytes, hcount]), hbytes, hreceived]
    rfl
  · rw [hmsg, hreads.allocated, hsize]
    exact hcap

/-- A pass prints the right results, or gets the next test answered. -/
theorem Goes.pass (h : site.Goes w past phase rest client)
    (hplain : site.config.fFilteringTest = false) (hexchange : exchange.Succeeds site) :
    (∃ hrRet results, client.pass (site.tcpTurn client exchange) = (hrRet, .error (.prints results)) ∧
      site.Classified results) ∨
    ∃ hrRet fed client' w' past' phase' rest', client.pass (site.tcpTurn client exchange) =
      (hrRet, .ok (fed, client')) ∧ site.Goes w' past' phase' rest' client' ∧
        rest'.length < rest.length := by
  have hpolled := h.tracks.follows.getNextMessage exchange.entropy exchange.timeCurrentMilliseconds
    h.room
  rw [← h.clientlogic] at hpolled
  generalize hcall : CStunClientLogic.getNextMessage exchange.entropy client.spMsg
    exchange.timeCurrentMilliseconds client.clientlogic = result at hpolled
  cases hpolled with
  | stillWaiting waiting => exact absurd waiting (h.settled _)
  | @ready past' c' follows adds ids =>
    rw [h.clientlogic] at ids
    have hpass : client.pass (site.tcpTurn client exchange) = _ := TcpClient.pass_of_error rfl hcall
    rw [if_pos rfl] at hpass
    exact Or.inl ⟨_, _, hpass, (h.tracks.ready follows adds ids).classified rfl h.due⟩
  | @sent past' t rest' msg c' follows adds sends =>
    rw [h.clientlogic] at sends
    have htracks := h.tracks.sent follows adds sends
    have htest : t ∈ testsOf (configure site.config) := by
      rw [follows.split]
      exact List.mem_append_right _ (List.mem_cons_self ..)
    obtain ⟨hchange, hlets⟩ := change_of_mem hplain htest
    obtain ⟨fed, client', hpass, hlogic, hreader, hroom⟩ := pass_answered h.reader hexchange hcall
      (htracks.asks _ (List.mem_append_right _ (List.mem_singleton_self _))) hchange
    refine Or.inr ⟨_, fed, client', _, past', _, rest', hpass,
      ⟨htracks.answered hlets msg.2, hlogic, ?_, ?_, hreader, hroom⟩,
      length_lt_of_adds h.tracks.follows h.settled follows adds⟩
    · intro t' ht'
      cases ht'
    · intro t' ht'
      rw [send] at ht'
      dsimp only at ht'
      split_ifs at ht'
      · rcases List.mem_cons.mp ht' with rfl | hold
        · exact List.mem_cons_self ..
        · exact List.mem_cons_of_mem _ (h.due t' hold)
      · exact List.mem_cons_of_mem _ (h.due t' ht')

/-- The loop takes no more passes than there are tests, and one to print. -/
theorem Goes.loop (h : site.Goes w past phase rest client)
    (hplain : site.config.fFilteringTest = false) {exchanges : List TcpExchange}
    (hexchanges : ∀ exchange ∈ exchanges, exchange.Succeeds site)
    (henough : rest.length < exchanges.length) :
    ∃ results, (TcpClient.loop (site.tcpTurns exchanges client) client).ending =
      some (.prints results) ∧ site.Classified results := by
  induction exchanges generalizing w past phase rest client with
  | nil => cases henough
  | cons exchange exchanges ih =>
    obtain ⟨hexchange, hlater⟩ := List.forall_mem_cons.mp hexchanges
    rw [tcpTurns, TcpClient.loop]
    rcases h.pass hplain hexchange with ⟨hrRet, results, hpass, hclassified⟩ |
      ⟨hrRet, fed, client', w', past', phase', rest', hpass, hgoes, hless⟩
    · rw [hpass]
      exact ⟨results, rfl, hclassified⟩
    · rw [hpass]
      rw [List.length_cons] at henough
      exact ih hgoes hlater (by omega)

theorem goes_start (site : Site) (socketconfig : ClientSocketConfig) :
    site.Goes site.start [] .unsent (testsOf (configure site.config))
      (.start site.start.client socketconfig) where
  tracks := site.tracks_start
  clientlogic := rfl
  settled := fun t ht => by cases ht
  due := fun t ht => by cases ht
  reader := .create
  room := (List.length_replicate ..).ge.trans' (by decide)

end Site

end StunServer

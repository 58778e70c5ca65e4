import StunServer.Proofs.Network
import StunServer.Proofs.TcpSchedule
import StunServer.Spec.UdpClient

/-! The loop over UDP, pass by pass: the calls that it comes to, and the time that it takes. -/

namespace StunServer

open Bytes

namespace CStunClientLogic

variable {c c' : CStunClientLogic} {entropy : CStunMessageBuilder.Entropy} {spMsg spMsg' : CBuffer}
  {time : UInt32}

/-! ### Buffers do not matter -/

/-- What `GetNextMessage` comes to, but for the buffer. -/
def fetched : MessageResult → Except HRESULT (List UInt8 × CSocketAddress) × CStunClientLogic
  | .ok msg c => (.ok (msg.1.bytes, msg.2), c)
  | .error hr c => (.error hr, c)

theorem fetched_sendMessage (hcap : 800 ≤ spMsg.getAllocatedSize)
    (hcap' : 800 ≤ spMsg'.getAllocatedSize) (t : IStunClientTest) (c : CStunClientLogic) :
    fetched (sendMessage entropy spMsg time t c) = fetched (sendMessage entropy spMsg' time t c) := by
  obtain ⟨hbytes, -⟩ := (c.test t).getMessage_buffer t.change entropy hcap
  obtain ⟨hbytes', -⟩ := (c.test t).getMessage_buffer t.change entropy hcap'
  have hsame : ((c.test t).getMessage t.change entropy spMsg).1.bytes =
      ((c.test t).getMessage t.change entropy spMsg').1.bytes := hbytes.trans hbytes'.symm
  exact congrArg (fun bytes => (Except.ok (bytes, t.addrDest c.config c.results),
    c.sent entropy time t)) hsame

theorem fetched_pass (hcap : 800 ≤ spMsg.getAllocatedSize)
    (hcap' : 800 ≤ spMsg'.getAllocatedSize) (c : CStunClientLogic) :
    (pass entropy spMsg time c).map fetched id = (pass entropy spMsg' time c).map fetched id := by
  rw [pass, pass]
  cases c.currentTest with
  | none => rfl
  | some t =>
    dsimp only
    rw [serveTest, serveTest]
    split_ifs
    · rfl
    · rfl
    · rfl
    · exact congrArg Sum.inl (fetched_sendMessage hcap hcap' t _)

theorem fetched_getNextMessage (hinit : c.fInitialized = true)
    (hcap : 800 ≤ spMsg.getAllocatedSize) (hcap' : 800 ≤ spMsg'.getAllocatedSize) :
    fetched (getNextMessage entropy spMsg time c) =
      fetched (getNextMessage entropy spMsg' time c) := by
  have hrun := Loop.run_map (@fetched_pass entropy spMsg spMsg' time hcap hcap')
    (2 * c.testlist.length + 2) c
  rw [getNextMessage_eq hinit hcap, getNextMessage_eq hinit hcap']
  cases h : Loop.run (pass entropy spMsg time) (2 * c.testlist.length + 2) c with
  | none =>
    rw [h, Option.map_none, eq_comm, Option.map_eq_none_iff] at hrun
    rw [hrun]
  | some r =>
    rw [h, Option.map_some] at hrun
    obtain ⟨r', hr', hsame⟩ := Option.map_eq_some_iff.mp hrun.symm
    rw [hr']
    exact hsame.symm

/-- Nothing but the bytes of a message is looked at. -/
theorem processResponse_bytes (h : spMsg.bytes.length = spMsg.getSize)
    (addrRemote addrLocal : CSocketAddress) : processResponse spMsg addrRemote addrLocal =
      processResponse (.initNoAlloc spMsg.bytes) addrRemote addrLocal := by
  have hsize : (CBuffer.initNoAlloc spMsg.bytes).getSize = spMsg.getSize := h
  have hvalid : ∀ test : CStunClientTestBase, test.basicReaderValidation spMsg =
      test.basicReaderValidation (.initNoAlloc spMsg.bytes) := by
    intro test
    have hreader := readerOf_bytes h
    rw [readerOf, readerOf] at hreader
    rw [CStunClientTestBase.basicReaderValidation, CStunClientTestBase.basicReaderValidation,
      hreader]
  have htest : ∀ (t : IStunClientTest) config, t.processResponse config spMsg addrRemote addrLocal =
      t.processResponse config (.initNoAlloc spMsg.bytes) addrRemote addrLocal := by
    intro t config
    funext s
    rw [IStunClientTest.processResponse, IStunClientTest.processResponse, hvalid]
  rw [processResponse, processResponse, hsize]
  simp only [htest]

theorem call_processResponse (c : CStunClientLogic) (spMsg : CBuffer)
    (addrRemote addrLocal : CSocketAddress) :
    (c.call (.processResponse spMsg addrRemote addrLocal)).2 =
      (processResponse spMsg addrRemote addrLocal).after c := by
  rw [call, Hr.after]
  cases processResponse spMsg addrRemote addrLocal c <;> rfl

end CStunClientLogic

theorem newBuffer_room : 800 ≤ (CBuffer.initWithAllocation MAX_STUN_MESSAGE_SIZE).getAllocatedSize :=
  (List.length_replicate ..).ge

namespace UdpClient

open CStunClientLogic

variable {stunSocket : CStunSocket} {client client' : UdpClient} {turn : UdpTurn} {wait : UdpWait}
  {passed : UdpPassed} {ending : UdpEnd}

/-! ### A response -/

theorem setPort_pktinfo (pktinfo : Option CSocketAddress) (addr : CSocketAddress) (p : UInt16) :
    ((pktinfo.map (CSocketAddress.setPort 0)).getD addr).setPort p = (pktinfo.getD addr).setPort p := by
  cases pktinfo with
  | none => rfl
  | some dst => exact setPort_setPort dst 0 p

theorem receive_ready {msg : RecvMsg} {res : RecvResult}
    (hrecv : recvfromex client.spMsg.getAllocatedSize msg client.addrRemote client.addrLocal = res) :
    let spMsg (size : ℕ) : CBuffer :=
      ⟨overwrite client.spMsg.data 0 res.data, size, client.spMsg.backing⟩
    let addrLocal := res.dstAddr.setPort stunSocket.addrlocal.getPort
    client.receive stunSocket (.ready msg) =
      if res.ret > 0 then
        (some ⟨spMsg res.ret.toNat, res.srcAddr, addrLocal⟩,
          ⟨(processResponse (spMsg res.ret.toNat) res.srcAddr addrLocal).after client.clientlogic,
            spMsg res.ret.toNat, res.srcAddr, addrLocal⟩)
      else (none, ⟨client.clientlogic, spMsg 0, res.srcAddr, res.dstAddr⟩) := by
  have hsize : (client.spMsg.setSize 0).2.getAllocatedSize = client.spMsg.getAllocatedSize := by
    rw [CBuffer.setSize_snd]
    rfl
  intro spMsg addrLocal
  unfold receive
  dsimp only
  rw [hsize, hrecv, CBuffer.setSize_snd, CBuffer.setSize_snd]

/-- A receive that brings nothing leaves a buffer of the same size, and no call. -/
theorem receive_nothing (hcall : wait.call stunSocket = none) :
    (client.receive stunSocket wait).1 = none ∧
      (client.receive stunSocket wait).2.clientlogic = client.clientlogic ∧
      (client.receive stunSocket wait).2.spMsg.getAllocatedSize = client.spMsg.getAllocatedSize := by
  have hwrite : (overwrite client.spMsg.data 0 []).length = client.spMsg.data.length :=
    overwrite_length (Nat.zero_le _)
  have hidle : ∀ w : UdpWait, (w = .timedOut ∨ w = .failed) →
      client.receive stunSocket w = (none, { client with spMsg := { client.spMsg with size := 0 } }) := by
    rintro w (rfl | rfl) <;> (unfold receive; dsimp only; rw [CBuffer.setSize_snd])
  cases wait with
  | timedOut =>
    rw [hidle _ (Or.inl rfl)]
    exact ⟨rfl, rfl, rfl⟩
  | failed =>
    rw [hidle _ (Or.inr rfl)]
    exact ⟨rfl, rfl, rfl⟩
  | ready msg =>
    have hrecv : ∃ ret, ¬ret > 0 ∧ recvfromex client.spMsg.getAllocatedSize msg client.addrRemote
        client.addrLocal = ⟨ret, [], client.addrRemote, client.addrLocal⟩ := by
      cases msg with
      | failed => exact ⟨-1, by decide, rfl⟩
      | datagram data addrRemote pktinfo =>
        have hdata : data = [] := by
          by_contra hne
          rw [UdpWait.call, if_neg hne] at hcall
          cases hcall
        subst hdata
        refine ⟨0, by decide, ?_⟩
        rw [recvfromex, List.take_nil]
        rfl
    obtain ⟨ret, hret, hrecv⟩ := hrecv
    rw [receive_ready hrecv, if_neg hret]
    exact ⟨rfl, rfl, hwrite⟩

/-- A datagram, as it comes to the buffer. -/
theorem receive_datagram {data : List UInt8} (hdata : data ≠ [])
    (hroom : 0 < client.spMsg.getAllocatedSize) (addrRemote : CSocketAddress)
    (pktinfo : Option CSocketAddress) :
    let received := data.take client.spMsg.getAllocatedSize
    let spMsg : CBuffer := { client.spMsg with
      data := overwrite client.spMsg.data 0 received
      size := received.length }
    let addrLocal := (pktinfo.getD (initSocketAddress addrRemote)).setPort
      stunSocket.addrlocal.getPort
    client.receive stunSocket (.ready (.datagram data addrRemote pktinfo)) =
      (some ⟨spMsg, addrRemote, addrLocal⟩,
        ⟨(processResponse spMsg addrRemote addrLocal).after client.clientlogic, spMsg, addrRemote,
          addrLocal⟩) := by
  intro received spMsg addrLocal
  have hlen : 0 < received.length := by
    rw [List.length_take]
    exact Nat.lt_min.mpr ⟨hroom, List.length_pos_iff.mpr hdata⟩
  have hrecv : recvfromex client.spMsg.getAllocatedSize (.datagram data addrRemote pktinfo)
      client.addrRemote client.addrLocal =
        ⟨received.length, received, addrRemote,
          (pktinfo.map (CSocketAddress.setPort 0)).getD (initSocketAddress addrRemote)⟩ := by
    rw [recvfromex]
    exact if_pos hlen
  have hpos : (received.length : Int) > 0 := Int.natCast_pos.mpr hlen
  rw [receive_ready hrecv, if_pos hpos, setPort_pktinfo, Int.toNat_natCast]

/-- What the wait leaves: the call that it comes to, and a buffer that is no smaller. -/
theorem receive_spec (hroom : client.spMsg.getAllocatedSize = MAX_STUN_MESSAGE_SIZE) :
    let res := client.receive stunSocket wait
    res.1.map UdpFed.call = wait.call stunSocket ∧
      res.2.clientlogic = client.clientlogic.afterCalls (wait.call stunSocket).toList ∧
      res.2.spMsg.getAllocatedSize = MAX_STUN_MESSAGE_SIZE := by
  intro res
  cases hcall : wait.call stunSocket with
  | none =>
    obtain ⟨hfed, hlogic, hsize⟩ := @receive_nothing stunSocket client wait hcall
    exact ⟨congrArg (Option.map UdpFed.call) hfed, hlogic, hsize.trans hroom⟩
  | some i =>
    have hwait : ∃ data addrRemote pktinfo, data ≠ [] ∧
        wait = .ready (.datagram data addrRemote pktinfo) := by
      cases wait with
      | timedOut => cases hcall
      | failed => cases hcall
      | ready msg =>
        cases msg with
        | failed => cases hcall
        | datagram data addrRemote pktinfo =>
          refine ⟨data, addrRemote, pktinfo, fun hdata => ?_, rfl⟩
          rw [UdpWait.call, if_pos hdata] at hcall
          cases hcall
    obtain ⟨data, addrRemote, pktinfo, hdata, rfl⟩ := hwait
    have hres := @receive_datagram stunSocket client data hdata
      (by rw [hroom]; decide) addrRemote pktinfo
    rw [hroom] at hres
    rw [UdpWait.call, if_neg hdata] at hcall
    have hle : (data.take MAX_STUN_MESSAGE_SIZE).length ≤ client.spMsg.data.length :=
      (List.length_take_le _ _).trans hroom.ge
    have hbytes : { client.spMsg with
        data := overwrite client.spMsg.data 0 (data.take MAX_STUN_MESSAGE_SIZE)
        size := (data.take MAX_STUN_MESSAGE_SIZE).length }.bytes =
          data.take MAX_STUN_MESSAGE_SIZE := by
      simp [CBuffer.bytes, overwrite]
    change (client.receive stunSocket _).1.map UdpFed.call = _ ∧
      (client.receive stunSocket _).2.clientlogic = _ ∧
      (client.receive stunSocket _).2.spMsg.getAllocatedSize = _
    rw [hres]
    refine ⟨?_, ?_, ?_⟩
    · rw [Option.map_some, UdpFed.call, hbytes]
      exact hcall
    · rw [← Option.some.inj hcall]
      dsimp only
      rw [processResponse_bytes (congrArg List.length hbytes), hbytes]
      exact (call_processResponse _ _ _ _).symm
    · exact (overwrite_length (by rwa [Nat.zero_add])).trans hroom

/-! ### A pass -/

/-- What `GetNextMessage` comes to, in the buffer of the loop as in another. -/
theorem poll_spec (hinit : client.clientlogic.fInitialized = true)
    (hroom : client.spMsg.getAllocatedSize = MAX_STUN_MESSAGE_SIZE) (turn : UdpTurn) :
    let called := client.clientlogic.call turn.poll
    (∃ msg, getNextMessage turn.entropy (client.spMsg.setSize 0).2
        (getMillisecondCounter turn.milliseconds) client.clientlogic = .ok msg called.2 ∧
      msg.1.getAllocatedSize = MAX_STUN_MESSAGE_SIZE ∧ called.1.hr = S_OK ∧
      called.1.request = some (msg.1.bytes, msg.2)) ∨
    (∃ hr, getNextMessage turn.entropy (client.spMsg.setSize 0).2
        (getMillisecondCounter turn.milliseconds) client.clientlogic = .error hr called.2 ∧
      called.1.hr = hr ∧ called.1.request = none) := by
  have hsize : (client.spMsg.setSize 0).2.getAllocatedSize = MAX_STUN_MESSAGE_SIZE := by
    rw [CBuffer.setSize_snd]
    exact hroom
  have hnew : (CBuffer.initWithAllocation MAX_STUN_MESSAGE_SIZE).getAllocatedSize =
      MAX_STUN_MESSAGE_SIZE := List.length_replicate ..
  have hsame := @fetched_getNextMessage client.clientlogic turn.entropy (client.spMsg.setSize 0).2
    (.initWithAllocation MAX_STUN_MESSAGE_SIZE) (getMillisecondCounter turn.milliseconds) hinit
    hsize.ge hnew.ge
  dsimp only
  rw [UdpTurn.poll, CStunClientLogic.call]
  cases hcall : getNextMessage turn.entropy (client.spMsg.setSize 0).2
      (getMillisecondCounter turn.milliseconds) client.clientlogic with
  | ok msg c =>
    obtain ⟨-, hkept, -⟩ := getNextMessage_buffer hcall
    rw [hcall] at hsame
    cases hcall' : getNextMessage turn.entropy (.initWithAllocation MAX_STUN_MESSAGE_SIZE)
        (getMillisecondCounter turn.milliseconds) client.clientlogic with
    | ok msg' c' =>
      rw [hcall'] at hsame
      obtain ⟨hmsg, rfl⟩ := Prod.mk.inj hsame
      exact Or.inl ⟨msg, rfl, hkept.trans hsize, rfl, congrArg some (Except.ok.inj hmsg).symm⟩
    | error hr c' =>
      rw [hcall'] at hsame
      cases hsame
  | error hr c =>
    rw [hcall] at hsame
    cases hcall' : getNextMessage turn.entropy (.initWithAllocation MAX_STUN_MESSAGE_SIZE)
        (getMillisecondCounter turn.milliseconds) client.clientlogic with
    | ok msg' c' =>
      rw [hcall'] at hsame
      cases hsame
    | error hr' c' =>
      rw [hcall'] at hsame
      obtain ⟨hhr, rfl⟩ := Prod.mk.inj hsame
      exact Or.inr ⟨hr, rfl, (Except.error.inj hhr).symm, rfl⟩

/-- The ways a pass can go. -/
inductive Passes (stunSocket : CStunSocket) (turn : UdpTurn) (c : CStunClientLogic) :
    Except UdpEnd (UdpPassed × UdpClient) → Prop
  | goesOn {passed : UdpPassed} {client' : UdpClient}
      (hr : (c.call turn.poll).1.hr = S_OK ∨
        (c.call turn.poll).1.hr = E_STUNCLIENT_STILL_WAITING)
      (sent : passed.sent = (c.call turn.poll).1.request)
      (fed : passed.fed.map UdpFed.call = turn.wait.call stunSocket)
      (clientlogic : client'.clientlogic = c.afterCalls (turn.calls stunSocket))
      (room : client'.spMsg.getAllocatedSize = MAX_STUN_MESSAGE_SIZE) :
      Passes stunSocket turn c (.ok (passed, client'))
  | prints (hr : (c.call turn.poll).1.hr = E_STUNCLIENT_RESULTS_READY) :
      Passes stunSocket turn c (.error (.prints (c.call turn.poll).2.getResults))
  | stops {hr : HRESULT} (code : (c.call turn.poll).1.hr = hr)
      (nothing : (c.call turn.poll).1.request = none)
      (waits : hr ≠ E_STUNCLIENT_STILL_WAITING) (ready : hr ≠ E_STUNCLIENT_RESULTS_READY) :
      Passes stunSocket turn c (.error (.stops hr))

/-- The step lemma. -/
theorem passes (hinit : client.clientlogic.fInitialized = true)
    (hroom : client.spMsg.getAllocatedSize = MAX_STUN_MESSAGE_SIZE) (turn : UdpTurn) :
    Passes stunSocket turn client.clientlogic (client.pass stunSocket turn) := by
  have hpoll := poll_spec hinit hroom turn
  have hsize : (client.spMsg.setSize 0).2.getAllocatedSize = MAX_STUN_MESSAGE_SIZE := by
    rw [CBuffer.setSize_snd]
    exact hroom
  set called := client.clientlogic.call turn.poll with hcalled
  have hgoes : ∀ (spMsg : CBuffer) (sent : Option (List UInt8 × CSocketAddress)),
      spMsg.getAllocatedSize = MAX_STUN_MESSAGE_SIZE → sent = called.1.request →
      (called.1.hr = S_OK ∨ called.1.hr = E_STUNCLIENT_STILL_WAITING) →
        let res := receive stunSocket turn.wait
          { client with clientlogic := called.2, spMsg := spMsg }
        Passes stunSocket turn client.clientlogic (.ok (⟨sent, res.1⟩, res.2)) := by
    intro spMsg sent hspMsg hsent hcode res
    obtain ⟨hfed, hlogic, hkept⟩ := @receive_spec stunSocket
      { client with clientlogic := called.2, spMsg := spMsg } turn.wait hspMsg
    exact .goesOn hcode hsent hfed hlogic hkept
  rw [pass]
  rcases hpoll with ⟨msg, hcall, hmsg, hcode, hrequest⟩ | ⟨hr, hcall, hcode, hrequest⟩
  · dsimp only
    rw [hcall]
    exact hgoes msg.1 _ hmsg hrequest.symm (Or.inl hcode)
  · dsimp only
    rw [hcall]
    dsimp only
    split_ifs with hwaits hready
    · exact hgoes _ _ hsize hrequest.symm (Or.inr (hcode.trans hwaits))
    · exact .prints (hcode.trans hready)
    · exact .stops hcode hrequest hwaits hready

/-- A client that is initialized has no other code, in a buffer that is large enough. -/
theorem not_stops {config : StunClientLogicConfig} {past : List Entry} {phase : Phase}
    {rest : List IStunClientTest} {c : CStunClientLogic} (h : Follows config past phase rest c)
    {hr : HRESULT} (code : (c.call turn.poll).1.hr = hr)
    (nothing : (c.call turn.poll).1.request = none) (waits : hr ≠ E_STUNCLIENT_STILL_WAITING) :
    hr = E_STUNCLIENT_RESULTS_READY := by
  have hpolled := h.getNextMessage turn.entropy (getMillisecondCounter turn.milliseconds)
    newBuffer_room
  rw [UdpTurn.poll, CStunClientLogic.call] at code nothing
  generalize getNextMessage turn.entropy _ _ c = result at hpolled code nothing
  cases hpolled with
  | stillWaiting waiting => exact absurd code.symm waits
  | ready follows adds ids => exact code.symm
  | sent follows adds sends => cases nothing

/-! ### The loop -/

/-- What each pass comes to, and the end: the passes are calls on the client logic. -/
theorem loop_calls {config : StunClientLogicConfig} {c : CStunClientLogic}
    (h : IsInitialized config c) (turns : List UdpTurn) (before : List ClientCall)
    (hclient : client.clientlogic = c.afterCalls before)
    (hroom : client.spMsg.getAllocatedSize = MAX_STUN_MESSAGE_SIZE) :
    let run := loop stunSocket turns client
    (∀ front e back, run.passes = front ++ e :: back →
      e.2.sent = ((c.afterCalls (before ++ UdpTurn.callsOf stunSocket front)).call
        e.1.poll).1.request ∧
      e.2.fed.map UdpFed.call = e.1.wait.call stunSocket) ∧
    (run.ending = none → run.passes.map Prod.fst = turns) ∧
    ∀ ending, run.ending = some ending → ∃ turn later,
      turns = run.passes.map Prod.fst ++ turn :: later ∧
      let last := (c.afterCalls (before ++ UdpTurn.callsOf stunSocket run.passes)).call turn.poll
      last.1.hr = E_STUNCLIENT_RESULTS_READY ∧ ending = .prints last.2.getResults := by
  induction turns generalizing client before with
  | nil =>
    refine ⟨fun front e back hpasses => ?_, fun _ => rfl, fun ending hending => ?_⟩
    · exact absurd hpasses (by simp [loop])
    · cases hending
  | cons turn turns ih =>
    obtain ⟨past, phase, rest, -, hlogged, -⟩ := h.logged.afterCalls before
    rw [← hclient] at hlogged
    have hpass := @passes stunSocket client hlogged.fInitialized hroom turn
    have hnone : before ++ UdpTurn.callsOf stunSocket [] = before := List.append_nil _
    intro run
    have hrun : run = loop stunSocket (turn :: turns) client := rfl
    rw [loop] at hrun
    generalize client.pass stunSocket turn = result at hpass hrun
    cases hpass with
    | @goesOn passed client' hr sent fed clientlogic room =>
      have hnext : client'.clientlogic = c.afterCalls (before ++ turn.calls stunSocket) := by
        rw [clientlogic, hclient, afterCalls_append]
      have hmore : ∀ front, before ++ UdpTurn.callsOf stunSocket ((turn, passed) :: front) =
          before ++ turn.calls stunSocket ++ UdpTurn.callsOf stunSocket front := fun front =>
        (List.append_assoc before _ _).symm
      obtain ⟨hsteps, hgoes, hend⟩ := ih (before ++ turn.calls stunSocket) hnext room
      rw [hrun]
      dsimp only
      refine ⟨?_, fun hending => congrArg (turn :: ·) (hgoes hending), fun ending hending => ?_⟩
      · rintro (_ | ⟨first, front⟩) e back hpasses
        · obtain ⟨rfl, -⟩ := List.cons.inj hpasses
          rw [hnone, ← hclient]
          exact ⟨sent, fed⟩
        · obtain ⟨rfl, hrest⟩ := List.cons.inj hpasses
          rw [hmore]
          exact hsteps front e back hrest
      · obtain ⟨last, later, hturns, hready⟩ := hend ending hending
        rw [hmore]
        exact ⟨last, later, congrArg (turn :: ·) hturns, hready⟩
    | prints hr =>
      rw [hrun]
      dsimp only
      rw [hnone, ← hclient]
      refine ⟨fun front e back hpasses => absurd hpasses (by simp), fun hending => ?_,
        fun ending hending => ⟨turn, turns, rfl, hr, (Option.some.inj hending).symm⟩⟩
      cases hending
    | stops code nothing waits ready =>
      exact absurd (not_stops hlogged.toFollows code nothing waits) ready

/-! ### The clock -/

section

variable {config : StunClientLogicConfig} {c : CStunClientLogic} {log : List SentRequest}
  {since : Option UInt32}

/-- The counter tells how long it has been, within one round. -/
theorem lt_of_isEarly {sent now : ℕ} (hle : sent ≤ now) (hround : now < sent + 2 ^ 32)
    (h : IsEarly (configure config) (some (getMillisecondCounter sent)) (getMillisecondCounter now)) :
    now < sent + UdpTurn.limit config := by
  obtain ⟨_, hmem, hlt⟩ := h
  obtain rfl := Option.some.inj hmem
  have hdiff : (getMillisecondCounter now - getMillisecondCounter sent).toNat = now - sent := by
    rw [getMillisecondCounter, getMillisecondCounter, UInt32.toNat_sub, UInt32.toNat_ofNat',
      UInt32.toNat_ofNat']
    omega
  have hlt' := UInt32.lt_iff_toNat_lt.mp hlt
  rw [UInt32.toNat_div, hdiff] at hlt'
  change (now - sent) / 1000 < _ at hlt'
  rw [UdpTurn.limit]
  omega

/-- What a poll does to a client that waits, and to one that does not. -/
theorem stands_poll (h : Stands (configure config) log c since) (turn : UdpTurn) :
    ((c.call turn.poll).1.request = none ∧ (c.call turn.poll).2 = c ∧
      IsEarly (configure config) since (getMillisecondCounter turn.milliseconds)) ∨
    (c.call turn.poll).1.hr = E_STUNCLIENT_RESULTS_READY ∨
    ((c.call turn.poll).1.request.isSome = true ∧
      ∃ s, Stands (configure config) (log ++ [s]) (c.call turn.poll).2
        (some (getMillisecondCounter turn.milliseconds))) := by
  rw [UdpTurn.poll, CStunClientLogic.call]
  by_cases hearly : IsEarly (configure config) since (getMillisecondCounter turn.milliseconds)
  · rw [h.early newBuffer_room hearly]
    exact Or.inl ⟨rfl, rfl, hearly⟩
  · rcases h.getNextMessage turn.entropy newBuffer_room hearly with
      ⟨c', hcall⟩ | ⟨msg, c', s, hcall, hstands⟩
    · rw [hcall]
      exact Or.inr (Or.inl rfl)
    · rw [hcall]
      exact Or.inr (Or.inr ⟨rfl, s, hstands⟩)

/-- A response ends the wait, or changes nothing about it. -/
theorem stands_response (h : Stands (configure config) log c since) (stunSocket : CStunSocket)
    (wait : UdpWait) : ∃ since', (since' = since ∨ since' = none) ∧ Stands (configure config) log
      (c.afterCalls (wait.call stunSocket).toList) since' := by
  cases hcall : wait.call stunSocket with
  | none => exact ⟨since, Or.inl rfl, h⟩
  | some i =>
    obtain ⟨spMsg, addrRemote, addrLocal, rfl⟩ : ∃ spMsg addrRemote addrLocal,
        i = .processResponse spMsg addrRemote addrLocal := by
      rcases wait with _ | _ | _ | ⟨data, addrRemote, pktinfo⟩
      · cases hcall
      · cases hcall
      · cases hcall
      · rw [UdpWait.call] at hcall
        split_ifs at hcall
        exact ⟨_, _, _, (Option.some.inj hcall).symm⟩
    have hstands := h.processResponse spMsg addrRemote addrLocal
    rw [← call_processResponse] at hstands
    refine ⟨_, ?_, hstands⟩
    split_ifs
    · exact Or.inr rfl
    · exact Or.inl rfl

/-- The run lemma, for the time: the passes keep to the timer that the requests start. -/
theorem loop_keeps (turns : List UdpTurn) {since : Option UInt32} {log : List SentRequest}
    {prev : UdpTurn} {s : ℕ} (hstands : Stands (configure config) log client.clientlogic since)
    (hroom : client.spMsg.getAllocatedSize = MAX_STUN_MESSAGE_SIZE)
    (hsince : ∀ sent ∈ since, sent = getMillisecondCounter s) (hle : s ≤ prev.milliseconds)
    (hprev : prev.milliseconds ≤ s + UdpTurn.limit config)
    (hchain : (prev :: turns).IsChain (UdpTurn.Precedes config)) :
    let run := loop stunSocket turns client
    Deadline.Keeps (UdpTurn.limit config) (UdpTurn.delay config) s
      (if prev.wait = .timedOut then prev.milliseconds + UdpTurn.delay config
        else prev.milliseconds) (run.passes.map UdpPassed.timed) ∧
    log.length + run.passes.countP (fun e => e.2.sent.isSome) ≤
      5 * (configure config).uMaxAttempts.toNat := by
  induction turns generalizing client since log prev s with
  | nil =>
    obtain ⟨past, phase, rest, hlogged⟩ := hstands.logged
    exact ⟨trivial, hlogged.length_le⟩
  | cons turn turns ih =>
    obtain ⟨hprecedes, hchain⟩ := List.isChain_cons_cons.mp hchain
    have hearliest : (if prev.wait = .timedOut then prev.milliseconds + UdpTurn.delay config
        else prev.milliseconds) ≤ turn.milliseconds := by
      split_ifs with hwait
      · exact hprecedes.waited hwait
      · exact hprecedes.clock
    have hwindow := hprecedes.window
    have hclock := hprecedes.clock
    obtain ⟨past, phase, rest, hlogged⟩ := hstands.logged
    have hpass := @passes stunSocket client hlogged.fInitialized hroom turn
    have hpolled := stands_poll hstands turn
    intro run
    have hrun : run = loop stunSocket (turn :: turns) client := rfl
    rw [loop] at hrun
    generalize client.pass stunSocket turn = result at hpass hrun
    cases hpass with
    | prints hr =>
      rw [hrun]
      exact ⟨trivial, hlogged.length_le⟩
    | stops code nothing waits ready =>
      rw [hrun]
      exact ⟨trivial, hlogged.length_le⟩
    | @goesOn passed client' hr sent fed clientlogic room =>
      have hafter : client'.clientlogic = (client.clientlogic.call turn.poll).2.afterCalls
          (turn.wait.call stunSocket).toList := clientlogic
      rw [hrun]
      dsimp only
      rw [List.map_cons, List.countP_cons]
      rcases hpolled with ⟨hnone, hsame, hearly⟩ | hready | ⟨hsome, request, hsent⟩
      · -- the request of before is still waited for
        obtain ⟨since', hsince', hstands'⟩ := stands_response hstands stunSocket turn.wait
        rw [hsame] at hafter
        rw [← hafter] at hstands'
        obtain ⟨sent', hmem, hlt⟩ := hearly
        obtain rfl := hsince sent' hmem
        have hintime : turn.milliseconds < s + UdpTurn.limit config :=
          lt_of_isEarly (by omega) (by omega) ⟨_, rfl, hlt⟩
        have hquiet : passed.sent.isSome = false := by rw [sent, hnone]; rfl
        obtain ⟨hkeeps, hcount⟩ := @ih client' since' log turn s hstands' room
          (by
            rcases hsince' with rfl | rfl
            · exact hsince
            · exact fun _ hm => by cases hm)
          (by omega) (by omega) hchain
        refine ⟨⟨hearliest, fun _ => hintime, ?_⟩, ?_⟩
        · simpa only [UdpPassed.timed, hquiet, Bool.false_eq_true, if_false, decide_eq_true_eq]
            using hkeeps
        · rw [if_neg (by rw [hquiet]; decide)]
          exact hcount
      · rcases hr with hr | hr <;> rw [hready] at hr <;> exact absurd hr (by decide)
      · obtain ⟨since', hsince', hstands'⟩ := stands_response hsent stunSocket turn.wait
        rw [← hafter] at hstands'
        have hloud : passed.sent.isSome = true := by rw [sent, hsome]
        obtain ⟨hkeeps, hcount⟩ := @ih client' since' (log ++ [request]) turn turn.milliseconds
          hstands' room
          (by
            rcases hsince' with rfl | rfl
            · exact fun _ hm => (Option.some.inj hm).symm
            · exact fun _ hm => by cases hm)
          (Nat.le_refl _) (Nat.le_add_right _ _) hchain
        refine ⟨⟨hearliest, fun hno => ?_, ?_⟩, ?_⟩
        · exact absurd (hloud.symm.trans hno) (by decide)
        · simpa only [UdpPassed.timed, hloud, if_true, decide_eq_true_eq] using hkeeps
        · rw [List.length_append, List.length_singleton] at hcount
          rw [if_pos hloud]
          omega

theorem allowance_timed (limit delay : ℕ) (passes : List (UdpTurn × UdpPassed)) :
    Deadline.allowance limit delay (passes.map UdpPassed.timed) =
      passes.countP (fun e => e.1.wait ≠ .timedOut) +
        passes.countP (fun e => e.2.sent.isSome) * Deadline.waitsPerStart limit delay := by
  have hwaits : (passes.map UdpPassed.timed).countP (fun p => p.waits = false) =
      passes.countP (fun e => e.1.wait ≠ .timedOut) := by
    rw [List.countP_map]
    refine List.countP_congr fun e _ => ?_
    simp [UdpPassed.timed]
  rw [Deadline.allowance, hwaits, List.countP_map]
  rfl

/-- The waits that time out are paid for by the requests. -/
theorem loop_length (h : IsInitialized config c) (turns : List UdpTurn)
    (hchain : turns.IsChain (UdpTurn.Precedes config)) :
    let run := loop stunSocket turns (.start c)
    run.passes.length ≤ run.passes.countP (fun e => e.1.wait ≠ .timedOut) +
      5 * (configure config).uMaxAttempts.toNat *
        Deadline.waitsPerStart (UdpTurn.limit config) (UdpTurn.delay config) := by
  cases turns with
  | nil => exact Nat.zero_le _
  | cons turn turns =>
    have hstands : Stands (configure config) [] c none := .settled h.logged nofun
    have hroom : (start c).spMsg.getAllocatedSize = MAX_STUN_MESSAGE_SIZE := List.length_replicate ..
    have hpass := @passes stunSocket (start c) h.logged.fInitialized hroom turn
    have hpolled := stands_poll hstands turn
    intro run
    have hrun : run = loop stunSocket (turn :: turns) (.start c) := rfl
    rw [loop] at hrun
    generalize (start c).pass stunSocket turn = result at hpass hrun
    cases hpass with
    | prints hr =>
      rw [hrun]
      exact Nat.zero_le _
    | stops code nothing waits ready =>
      rw [hrun]
      exact Nat.zero_le _
    | @goesOn passed client' hr sent fed clientlogic room =>
      have hafter : client'.clientlogic = (c.call turn.poll).2.afterCalls
          (turn.wait.call stunSocket).toList := clientlogic
      rcases hpolled with ⟨-, -, _, hmem, -⟩ | hready | ⟨hsome, request, hsent⟩
      · cases hmem
      · have hcode : (c.call turn.poll).1.hr = S_OK ∨
            (c.call turn.poll).1.hr = E_STUNCLIENT_STILL_WAITING := hr
        rcases hcode with hcode | hcode <;> rw [hready] at hcode <;> exact absurd hcode (by decide)
      · have hloud : passed.sent.isSome = true := (congrArg Option.isSome sent).trans hsome
        obtain ⟨since', hsince', hstands'⟩ := stands_response hsent stunSocket turn.wait
        rw [← hafter] at hstands'
        obtain ⟨hkeeps, hcount⟩ := @loop_keeps stunSocket client' config turns since' [request] turn
          turn.milliseconds hstands' room
          (by
            rcases hsince' with rfl | rfl
            · exact fun _ hm => (Option.some.inj hm).symm
            · exact fun _ hm => by cases hm)
          (Nat.le_refl _) (Nat.le_add_right _ _) hchain
        have hall : Deadline.Keeps (UdpTurn.limit config) (UdpTurn.delay config) 0 0
            (run.passes.map UdpPassed.timed) := by
          rw [hrun]
          refine ⟨Nat.zero_le _, fun hno => absurd (hloud.symm.trans hno) (by decide), ?_⟩
          simpa only [UdpPassed.timed, hloud, if_true, decide_eq_true_eq] using hkeeps
        have hcounts : run.passes.countP (fun e => e.2.sent.isSome) ≤
            5 * (configure config).uMaxAttempts.toNat := by
          rw [hrun]
          dsimp only
          rw [List.countP_cons, if_pos hloud]
          rwa [List.length_singleton, Nat.add_comm] at hcount
        have hle : (run.passes.map UdpPassed.timed).length ≤
            Deadline.allowance (UdpTurn.limit config) (UdpTurn.delay config)
              (run.passes.map UdpPassed.timed) := by
          rw [hrun] at hall ⊢
          exact Deadline.length_le (Nat.succ_pos _) hall hloud
        rw [List.length_map, allowance_timed] at hle
        exact hle.trans (Nat.add_le_add_left (Nat.mul_le_mul_right _ hcounts) _)

end

end UdpClient
end StunServer

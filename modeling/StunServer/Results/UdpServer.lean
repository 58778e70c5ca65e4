import StunServer.Proofs.UdpServer

/-! The UDP server as a whole, through any calls in any order, whatever the system refuses: the
phases it goes through, what it has open, and by which sockets it answers. -/

namespace StunServer

open UdpServer

/-! ### Phases -/

/-- The result code, if a call has returned one. -/
def UdpServer.Outcome.code : UdpServer.Outcome → Option HRESULT
  | returned hr => some hr
  | passed _ => none
  | nothing => none

section

variable {D : Digests} {rest : Finset ℕ} {s : UdpServer} {phase : ServerPhase}

theorem inPhase_create (rest : Finset ℕ) : (create rest).InPhase rest .down := ⟨rfl, rfl, rfl⟩

theorem code_step (h : s.InPhase rest phase) (e : UdpServer.Event) :
    (s.step D e).1.code = (phase.step e).1 := by
  obtain ⟨-, hcode⟩ := inPhase_step (D := D) h e
  cases e with
  | initializeWith config spAuth calls => rw [hcode _ rfl]; rfl
  | start errs => rw [hcode _ rfl]; rfl
  | stop => rfl
  | shutdown => rfl
  | pass index p =>
    rcases runThread_spec (D := D) h index p with hnothing | ⟨_, _, _, _, -, -, hpassed, -⟩
    · rw [step, hnothing]
      rfl
    · rw [step, hpassed]
      rfl

theorem inPhase_after (h : s.InPhase rest phase) (events : List UdpServer.Event) :
    (Machine.after (step D) s events).InPhase rest (Machine.after ServerPhase.step phase events) := by
  induction events generalizing s phase with
  | nil => exact h
  | cons e events ih => exact ih (inPhase_step h e).1

end

/-- Through any calls and passes the server goes through its four phases: what it has open, what
its threads are and what its calls return is what the phases say. -/
theorem server_phases (D : Digests) (rest : Finset ℕ) (events : List UdpServer.Event) :
    (Machine.after (step D) (create rest) events).InPhase rest
      (Machine.after ServerPhase.step .down events) ∧
    (Machine.trace (step D) (create rest) events).map (fun e => e.2.code) =
      (Machine.trace ServerPhase.step .down events).map Prod.snd := by
  refine ⟨inPhase_after (inPhase_create rest) events, ?_⟩
  have hcodes : ∀ (s : UdpServer) phase, s.InPhase rest phase →
      (Machine.trace (step D) s events).map (fun e => e.2.code) =
        (Machine.trace ServerPhase.step phase events).map Prod.snd := by
    induction events with
    | nil => exact fun _ _ _ => rfl
    | cons e events ih =>
      intro s phase h
      rw [Machine.trace, Machine.trace, List.map_cons, List.map_cons, code_step h,
        ih _ _ (inPhase_step h e).1]
  exact hcodes _ _ (inPhase_create rest)

/-! ### The pointers to a provider -/

/-- What `AddSocket` comes back with. -/
def CStunServerConfig.addSocketResult (config : CStunServerConfig)
    (calls : SocketRole → SocketCalls) (role : SocketRole) : HRESULT :=
  ((calls role).failure config.fReuseAddr).elim S_OK Polling.ERRNOHR

section

variable {config : CStunServerConfig}

theorem addSockets_firstFailure (calls : SocketRole → SocketCalls) (roles : List SocketRole) :
    CStunServer.addSockets config (config.addSocketResult calls) roles =
      ((config.firstFailure calls roles).map Polling.ERRNOHR).elim (.ok ()) .error := by
  induction roles with
  | nil => rfl
  | cons role roles ih =>
    rw [CStunServer.addSockets, firstFailure_cons, ih]
    by_cases hhas : config.fHas role = true
    · rw [if_pos hhas]
      cases hfailure : (calls role).failure config.fReuseAddr with
      | none =>
        have hresult : config.addSocketResult calls role = S_OK := by
          rw [CStunServerConfig.addSocketResult, hfailure, Option.elim_none]
        have hcheck : chkIf (config.fHas role = true ∧ FAILED S_OK = true) S_OK = .ok () :=
          if_neg fun h => absurd h.2 (by decide)
        rw [hresult, hcheck, Option.none_or]
        rfl
      | some errno =>
        have hresult : config.addSocketResult calls role = Polling.ERRNOHR errno := by
          rw [CStunServerConfig.addSocketResult, hfailure, Option.elim_some]
        have hcheck : chkIf (config.fHas role = true ∧ FAILED (Polling.ERRNOHR errno) = true)
            (Polling.ERRNOHR errno) = .error (Polling.ERRNOHR errno) :=
          if_pos ⟨hhas, Polling.CPoll.failed_ERRNOHR errno⟩
        rw [hresult, hcheck, Option.some_or]
        rfl
    · have hcheck : chkIf (config.fHas role = true ∧
          FAILED (config.addSocketResult calls role) = true) (config.addSocketResult calls role) =
            .ok () := if_neg fun h => hhas h.1
      rw [hcheck, if_neg hhas, Option.none_or]
      rfl

theorem openSockets_setUpFailure (calls : SocketRole → SocketCalls) :
    CStunServer.openSockets config (config.addSocketResult calls) =
      (setUpFailure config calls).elim (.ok ()) .error := by
  rw [CStunServer.openSockets, addSockets_firstFailure, setUpFailure]
  cases config.firstFailure calls CTCPStunThread.roles with
  | some errno => rfl
  | none =>
    simp only [chkIf, Option.map_none, Option.none_or]
    split_ifs <;> rfl

theorem length_initThreads (config : CStunServerConfig) :
    (CStunServer.initThreads config CStunServer.created).threads.length =
      config.listeners.length := by
  have hone (pAuth : Bool) (s : AuthState) :
      (s.attachThread pAuth).threads.length = s.threads.length + 1 := List.length_append
  have hall (roles : List SocketRole) (s : AuthState) :
      (roles.foldl (fun s _ => s.attachThread s.spAuthLocal.m_ptr) s).threads.length =
        s.threads.length + roles.length := by
    induction roles generalizing s with
    | nil => rfl
    | cons role roles ih =>
      rw [List.foldl_cons, ih, hone, List.length_cons]
      omega
  rw [CStunServer.initThreads, CStunServerConfig.listeners]
  split_ifs
  · exact hone _ _
  · rw [hall, List.length_map]
    exact Nat.zero_add _

/-- The pointers to a provider see what `Initialize` does: it comes to the same code, and each
thread object has one. -/
theorem initializeWith_pointers {rest : Finset ℕ} {s : UdpServer}
    (h : Descriptors.Accounts rest s.fds s.table) (config : CStunServerConfig)
    (spAuth : Option IStunAuth) (calls : SocketRole → SocketCalls) :
    let addSocket := config.addSocketResult calls
    let initialized := s.initializeWith config spAuth calls
    (CStunServer.openSockets config addSocket = .ok () → initialized.1 = S_OK) ∧
      (∀ hr, CStunServer.openSockets config addSocket = .error hr → initialized.1 = hr) ∧
      (CStunServer.initializeWith config addSocket CStunServer.created).threads.length =
        initialized.2.threads.length := by
  intro addSocket initialized
  obtain ⟨hcode, hphase⟩ := initializeWith_spec h config spAuth calls
  have hopen : CStunServer.openSockets config addSocket = _ := openSockets_setUpFailure calls
  rcases @setUpFailure_cases config calls with ⟨hnone, hok⟩ | ⟨hr, hsome, hfails, hfailed⟩
  · rw [hok] at hcode hphase
    rw [hnone, Option.elim_none] at hopen
    refine ⟨fun _ => hcode, fun hr herror => ?_, ?_⟩
    · rw [hopen] at herror
      cases herror
    · obtain ⟨-, hthreads⟩ := hphase
      rw [CStunServer.initializeWith, hopen, hthreads, List.length_map]
      exact length_initThreads config
  · rw [hfails] at hcode hphase
    rw [hsome, Option.elim_some] at hopen
    refine ⟨fun hok => ?_, fun hr' herror => ?_, ?_⟩
    · rw [hopen] at hok
      cases hok
    · rw [hopen] at herror
      cases herror
      exact hcode
    · rw [if_pos hfailed] at hphase
      obtain ⟨-, -, hthreads⟩ := hphase
      rw [CStunServer.initializeWith, hopen, hthreads]
      rfl

end

/-! ### Packets -/

/-- The socket that an answer leaves from is in use, if the one it came in on is. -/
theorem Arrival.answer_role {D : Digests} {x : Arrival} {b : List UInt8} {packet : SentPacket}
    (h : x.answer D b = some packet)
    (hvalid : (x.addrSet.set x.msgIn.socketrole).fValid = true) :
    (x.addrSet.set packet.socketrole).fValid = true := by
  by_cases hm : ∃ m : Message, m.encode = b ∧ m.cls = .request
  · obtain ⟨m, rfl, hcls⟩ := hm
    rw [answer_encode hcls, Option.some.injEq] at h
    rw [← h]
    change (x.addrSet.set (x.replyRole D m)).fValid = true
    rw [replyRole]
    cases hv : x.verdict D m with
    | ok c => exact outputRole_valid hvalid (verdict_eq_ok.mp hv).2.2
    | error e => exact hvalid
  · rw [answer, dif_neg hm] at h
    cases h

theorem answer_role_of_turn {D : Digests} {tsa : TransportAddressSet} {spAuth : Option IStunAuth}
    {turn : CStunSocketThread.Turn} {packet : SentPacket} (h : turn.answer D tsa spAuth = some packet)
    (hvalid : (tsa.set turn.pSocket.role).fValid = true) :
    (tsa.set packet.socketrole).fValid = true := by
  rw [CStunSocketThread.Turn.answer] at h
  cases hmsg : turn.msg with
  | failed => simp [hmsg] at h
  | datagram data addrRemote pktinfo =>
    rw [hmsg] at h
    exact Arrival.answer_role h hvalid

theorem addrSet_valid {config : CStunServerConfig} {role : SocketRole} :
    (config.addrSet.set role).fValid = true ↔ config.fHas role = true := by
  rw [CStunServerConfig.addrSet]
  dsimp only
  by_cases h : config.fHas role = true
  · rw [if_pos h]
    exact iff_of_true rfl h
  · rw [if_neg h]
    exact iff_of_false Bool.false_ne_true h

/-- A socket of the server that is open in the process. -/
def UdpServer.IsOpen (s : UdpServer) (role : SocketRole) : Prop :=
  ∃ fd ∈ s.fds, s.table role = some fd

theorem isOpen_of_up {rest : Finset ℕ} {config : CStunServerConfig} {s : UdpServer}
    (h : Up rest config s) {role : SocketRole} (hrole : config.fHas role = true) : s.IsOpen role := by
  have hvalid : (s.arrSockets role).isValid = true := (h.isValid role).trans hrole
  cases hfd : s.table role with
  | none =>
    rw [CStunSocket.descriptor_eq_none.mp hfd] at hvalid
    cases hvalid
  | some fd => exact ⟨fd, h.accounts.isOpen hfd, hfd⟩

/-- Something is received only while the server is running, from an open socket of the thread
that receives; what is sent is the answer to it, and leaves from an open socket too. -/
theorem packets_by_open_sockets (D : Digests) (rest : Finset ℕ) (events : List UdpServer.Event)
    (index : ℕ) (p : Pass) (pSocket : BoundSocket) (effect : CStunSocketThread.Effect) (fExit : Bool) :
    let s := Machine.after (step D) (create rest) events
    (s.step D (.pass index p)).1 = .passed ⟨some (pSocket, effect), fExit⟩ →
      ∃ config spAuth listened,
        Machine.after ServerPhase.step .down events = .running config spAuth ∧
        config.listeners[index]? = some listened ∧
        pSocket.role ∈ listened ∧ s.IsOpen pSocket.role ∧
        (1 < listened.length → p.ready pSocket.role = true) ∧
        effect.sent = (if effect.allowed_to_pass = true ∧ p.fNeedToExitReceived = false then
          CStunSocketThread.Turn.answer D config.addrSet spAuth
            ⟨pSocket, p.msg, p.currentTime, p.fNeedToExitReceived⟩ else none) ∧
        ∀ packet, effect.sent = some packet →
          (config.addrSet.set packet.socketrole).fValid = true ∧ s.IsOpen packet.socketrole := by
  intro s hpass
  have hphase : s.InPhase rest _ := inPhase_after (inPhase_create rest) events
  rcases runThread_spec (D := D) hphase index p with
    hnothing | ⟨config, spAuth, listened, passed, hrunning, hlistened, hpassed, -, hanswers⟩
  · rw [step, hnothing] at hpass
    cases hpass
  · rw [step, hpassed, UdpServer.Outcome.passed.injEq] at hpass
    obtain ⟨⟨role, hrole, rfl, hready⟩, hsent⟩ := hanswers pSocket effect (by rw [hpass])
    rw [hrunning] at hphase
    obtain ⟨hup, -⟩ := hphase
    have hhas : config.fHas role = true := by
      obtain ⟨-, hlisteners⟩ := listeners_spec hup.sockets_ne
      exact (hlisteners listened (List.mem_of_getElem? hlistened)).2 role hrole
    have hrole' : (s.arrSockets role).boundSocket.role = role := hup.role role hhas
    refine ⟨config, spAuth, listened, hrunning, hlistened, ?_, ?_, ?_, hsent, fun packet hpacket => ?_⟩
    · rwa [hrole']
    · rw [hrole']
      exact isOpen_of_up hup hhas
    · rwa [hrole']
    · rw [hpacket] at hsent
      split_ifs at hsent
      have hvalid := answer_role_of_turn hsent.symm (by rw [hrole']; exact addrSet_valid.mpr hhas)
      exact ⟨hvalid, isOpen_of_up hup (addrSet_valid.mp hvalid)⟩

/-- A server with both ports of its address, set up and started. -/
def startedServer : List UdpServer.Event :=
  [.initializeWith { CStunServerConfig.create with fHasPP := true, fHasPA := true } none
      fun _ => ⟨none, none, none, ⟨none, none⟩, none⟩,
    .start []]

/-- The sample request, sent to the second of two sockets, is answered. -/
theorem packets_by_open_sockets_sample :
    let s := Machine.after (step sampleDigests) (create {0, 1, 2}) startedServer
    ∃ addrlocal effect packet,
      (s.step sampleDigests (.pass 0 ⟨false, false, false, fun role => role = .rolePA,
        .datagram sampleRequest.encode (.addr4 1 0x7f000001) none, 0⟩)).1 =
          .passed ⟨some (⟨.rolePA, addrlocal⟩, effect), false⟩ ∧
        effect.sent = some packet ∧ s.IsOpen packet.socketrole := by
  intro s
  set p : Pass := ⟨false, false, false, fun role => role = .rolePA,
    .datagram sampleRequest.encode (.addr4 1 0x7f000001) none, 0⟩
  obtain ⟨addrlocal, effect, hpass, hallowed⟩ : ∃ addrlocal effect,
      (s.step sampleDigests (.pass 0 p)).1 = .passed ⟨some (⟨.rolePA, addrlocal⟩, effect), false⟩ ∧
        effect.allowed_to_pass = true :=
    ⟨_, _, rfl, CStunSocketThread.runOnce_allowed rfl _⟩
  obtain ⟨config, spAuth, -, -, -, -, -, -, hsent, hopen⟩ :=
    packets_by_open_sockets sampleDigests {0, 1, 2} startedServer 0 p _ _ _ hpass
  have hfits : sampleRequest.encode.take MAX_STUN_MESSAGE_SIZE = sampleRequest.encode :=
    List.take_of_length_le (by rw [Message.encode_length]; decide)
  obtain ⟨packet, hpacket⟩ : ∃ packet, effect.sent = some packet := by
    rw [hsent, if_pos ⟨hallowed, rfl⟩, CStunSocketThread.Turn.answer]
    dsimp only [p]
    rw [hfits, Arrival.answer_encode rfl]
    exact ⟨_, rfl⟩
  exact ⟨addrlocal, effect, packet, hpass, hpacket, (hopen packet hpacket).2⟩

/-! ### Taking turns -/

/-- The role of the socket that something was received from. -/
def UdpServer.Outcome.role : UdpServer.Outcome → Option SocketRole
  | returned _ => none
  | passed p => p.received.map fun r => r.1.role
  | nothing => none

/-- The exit flag is not seen. -/
structure Pass.GoesOn (p : Pass) : Prop where
  head : p.fNeedToExit = false
  waited : p.fNeedToExitWaited = false
  received : p.fNeedToExitReceived = false

section

variable {D : Digests} {rest : Finset ℕ} {s : UdpServer} {config : CStunServerConfig}
  {spAuth : Option IStunAuth} {listened : List SocketRole} {thread : UdpThread}

theorem receiveFrom_role (h : Started config spAuth listened thread) (spLimiter : Option RateLimiter)
    (pSocket : BoundSocket) {p : Pass} (hp : p.GoesOn) :
    (thread.receiveFrom D spLimiter pSocket p).1.fExit = false ∧
      (thread.receiveFrom D spLimiter pSocket p).1.received.map (fun r => r.1.role) =
        some pSocket.role ∧
      (thread.receiveFrom D spLimiter pSocket p).2.1.rotation = thread.rotation := by
  obtain ⟨work, hwork, -⟩ := h.work
  rw [UdpThread.receiveFrom, hwork]
  exact ⟨hp.received, rfl, rfl⟩

/-- A thread with one socket receives from it in every pass. -/
theorem pass_role_single (hup : Up rest config s) {role : SocketRole}
    (h : Started config spAuth [role] thread) (hhas : config.fHas role = true) {p : Pass}
    (hp : p.GoesOn) :
    (thread.pass D s.arrSockets s.spLimiter p).1.fExit = false ∧
      (thread.pass D s.arrSockets s.spLimiter p).1.received.map (fun r => r.1.role) = some role := by
  have hlen : ¬thread.socks.length > 1 := by
    rw [h.socks]
    exact Nat.lt_irrefl 1
  obtain ⟨hexit, hrole, -⟩ := receiveFrom_role (D := D) h s.spLimiter (s.arrSockets role).boundSocket hp
  rw [UdpThread.pass, hp.head, if_neg Bool.false_ne_true, if_neg hlen, h.socks]
  exact ⟨hexit, hrole.trans (congrArg some (hup.role role hhas))⟩

/-- A thread with more of them takes turns. -/
theorem pass_role_multi (hup : Up rest config s) (h : Started config spAuth listened thread)
    (hhas : ∀ role ∈ listened, config.fHas role = true) (hlen : listened.length > 1) {p : Pass}
    (hp : p.GoesOn) :
    let res := thread.pass D s.arrSockets s.spLimiter p
    let turn := RoundRobin.step listened.length thread.rotation fun index =>
      listened[index]?.any p.ready
    res.1.fExit = false ∧ res.2.1.rotation = turn.2 ∧
      res.1.received.map (fun r => r.1.role) = turn.1.bind (listened[·]?) := by
  dsimp only
  rw [UdpThread.pass, hp.head, if_neg Bool.false_ne_true, h.socks, if_pos hlen]
  have hwaited : thread.waitForSocketData p.ready =
      ((RoundRobin.step listened.length thread.rotation fun index =>
          listened[index]?.any p.ready).1.bind (listened[·]?),
        { thread with rotation := (thread.rotation + 1) % listened.length }) := by
    rw [UdpThread.waitForSocketData, h.socks]
    rfl
  rw [hwaited]
  dsimp only
  rw [hp.waited, if_neg Bool.false_ne_true]
  set pSocket := (RoundRobin.step listened.length thread.rotation fun index =>
    listened[index]?.any p.ready).1.bind (listened[·]?) with hsocket
  clear_value pSocket
  cases pSocket with
  | none => exact ⟨rfl, rfl, rfl⟩
  | some role =>
    obtain ⟨index, -, hindex⟩ := Option.bind_eq_some_iff.mp hsocket.symm
    have hafter : Started config spAuth listened
        { thread with rotation := (thread.rotation + 1) % listened.length } :=
      ⟨h.socks, h.fThreadIsValid, Nat.mod_lt _ (by omega), h.work⟩
    obtain ⟨hexit, hrole, hrotation⟩ := receiveFrom_role (D := D) hafter s.spLimiter
      (s.arrSockets role).boundSocket hp
    exact ⟨hexit, hrotation, hrole.trans
      (congrArg some (hup.role role (hhas role (List.mem_of_getElem? hindex))))⟩

/-- The thread at `index` is in its loop. -/
structure InLoop (rest : Finset ℕ) (config : CStunServerConfig) (spAuth : Option IStunAuth)
    (listened : List SocketRole) (index : ℕ) (thread : UdpThread) (s : UdpServer) : Prop where
  up : Up rest config s
  fRunning : thread.fRunning = true
  started : Started config spAuth listened thread
  thread : s.threads[index]? = some thread

theorem step_inLoop {index : ℕ} (h : InLoop rest config spAuth listened index thread s) (p : Pass)
    (hexit : (thread.pass D s.arrSockets s.spLimiter p).1.fExit = false) :
    let res := thread.pass D s.arrSockets s.spLimiter p
    (s.step D (.pass index p)).1.role = res.1.received.map (fun r => r.1.role) ∧
      InLoop rest config spAuth listened index { res.2.1 with fRunning := true }
        (s.step D (.pass index p)).2 := by
  obtain ⟨hafter, -⟩ := started_pass (D := D) h.started s p
  have hstep : s.step D (.pass index p) =
      (.passed (thread.pass D s.arrSockets s.spLimiter p).1,
        { s with
          threads := s.threads.set index
            { (thread.pass D s.arrSockets s.spLimiter p).2.1 with fRunning := true }
          spLimiter := (thread.pass D s.arrSockets s.spLimiter p).2.2 }) := by
    rw [step, runThread, h.thread]
    dsimp only
    rw [h.fRunning, if_neg Bool.false_ne_true.symm, hexit]
    rfl
  have hlt : index < s.threads.length := (List.getElem?_eq_some_iff.mp h.thread).1
  rw [hstep]
  exact ⟨rfl, up_threads h.up _ _, rfl,
    ⟨hafter.socks, hafter.fThreadIsValid, hafter.rotation, hafter.work⟩, List.getElem?_set_self hlt⟩

/-- The passes of a thread with several sockets are the turns of a round robin. -/
theorem roles_of_passes {index : ℕ} (h : InLoop rest config spAuth listened index thread s)
    (hhas : ∀ role ∈ listened, config.fHas role = true) (hlen : listened.length > 1)
    {passes : List Pass} (hgoes : ∀ p ∈ passes, p.GoesOn) :
    (Machine.trace (step D) s (passes.map (.pass index))).map (fun e => e.2.role) =
      (Machine.trace (RoundRobin.step listened.length) thread.rotation
        (passes.map fun p index => listened[index]?.any p.ready)).map
          fun e => e.2.bind (listened[·]?) := by
  induction passes generalizing s thread with
  | nil => rfl
  | cons p passes ih =>
    obtain ⟨hp, hrest⟩ := List.forall_mem_cons.mp hgoes
    obtain ⟨hexit, hrotation, hrole⟩ := pass_role_multi (D := D) h.up h.started hhas hlen hp
    obtain ⟨hfirst, hnext⟩ := step_inLoop (D := D) h p hexit
    have hlater := ih hnext hrest
    rw [hrotation] at hlater
    rw [List.map_cons, List.map_cons, Machine.trace, Machine.trace, List.map_cons, List.map_cons,
      hlater, hfirst, hrole]

theorem roles_of_single {index : ℕ} {role : SocketRole}
    (h : InLoop rest config spAuth [role] index thread s) (hhas : config.fHas role = true)
    {passes : List Pass} (hgoes : ∀ p ∈ passes, p.GoesOn) :
    (Machine.trace (step D) s (passes.map (.pass index))).map (fun e => e.2.role) =
      passes.map fun _ => some role := by
  induction passes generalizing s thread with
  | nil => rfl
  | cons p passes ih =>
    obtain ⟨hp, hrest⟩ := List.forall_mem_cons.mp hgoes
    obtain ⟨hexit, hrole⟩ := pass_role_single (D := D) h.up h.started hhas hp
    obtain ⟨hfirst, hnext⟩ := step_inLoop (D := D) h p hexit
    rw [List.map_cons, Machine.trace, List.map_cons, ih hnext hrest, hfirst, hrole, List.map_cons]

theorem inLoop_of_running {index : ℕ} (h : s.InPhase rest (.running config spAuth))
    (hlistened : config.listeners[index]? = some listened)
    (hloop : s.threads[index]?.any UdpThread.fRunning = true) :
    ∃ thread, InLoop rest config spAuth listened index thread s := by
  obtain ⟨hup, hforall⟩ := h
  cases hthread : s.threads[index]? with
  | none =>
    rw [hthread] at hloop
    cases hloop
  | some thread =>
    rw [hthread] at hloop
    obtain ⟨listened', hl, hstarted, -⟩ := forall₂_set hforall hthread
    rw [hlistened, Option.some.injEq] at hl
    subst hl
    exact ⟨thread, hup, hloop, hstarted, hthread⟩

/-- Among the roles that a run has received from, one role. -/
theorem countP_role (run : List (UdpServer.Event × UdpServer.Outcome)) (role : SocketRole) :
    run.countP (fun e => e.2.role = some role) =
      (run.map fun e => e.2.role).countP (· = some role) := by
  rw [List.countP_map]
  rfl

end

/-- No socket is passed over: at any time in any run, one that stays ready through so many rounds
of passes of its thread is received from at least as often. -/
theorem sockets_take_turns (D : Digests) (rest : Finset ℕ) (events : List UdpServer.Event)
    (config : CStunServerConfig) (spAuth : Option IStunAuth) (index : ℕ) (listened : List SocketRole)
    (hrunning : Machine.after ServerPhase.step .down events = .running config spAuth)
    (hlistened : config.listeners[index]? = some listened) :
    let s := Machine.after (step D) (create rest) events
    s.threads[index]?.any UdpThread.fRunning = true →
      ∀ (passes : List Pass) (role : SocketRole) (rounds : ℕ),
        (∀ p ∈ passes, p.GoesOn ∧ p.ready role = true) → role ∈ listened →
        rounds * listened.length ≤ passes.length →
        rounds ≤ (Machine.trace (step D) s (passes.map (.pass index))).countP
          fun e => e.2.role = some role := by
  intro s hloop passes role rounds hpasses hrole hlen
  have hphase : s.InPhase rest (.running config spAuth) :=
    hrunning ▸ inPhase_after (inPhase_create rest) events
  obtain ⟨thread, h⟩ := inLoop_of_running hphase hlistened hloop
  obtain ⟨hne, hhas⟩ := (listeners_spec h.up.sockets_ne).2 listened (List.mem_of_getElem? hlistened)
  have hgoes : ∀ p ∈ passes, p.GoesOn := fun p hp => (hpasses p hp).1
  rw [countP_role]
  by_cases hmulti : listened.length > 1
  · obtain ⟨k, hk⟩ := List.mem_iff_getElem?.mp hrole
    have hlt : k < listened.length := (List.getElem?_eq_some_iff.mp hk).1
    have hshare : rounds ≤ RoundRobin.share k (Machine.trace (RoundRobin.step listened.length)
        thread.rotation (passes.map fun p index => listened[index]?.any p.ready)) := by
      refine RoundRobin.le_share hlt rounds h.started.rotation (by rwa [List.length_map]) ?_
      intro ready hready
      obtain ⟨p, hp, rfl⟩ := List.mem_map.mp hready
      dsimp only
      rw [hk]
      exact (hpasses p hp).2
    refine hshare.trans ?_
    rw [roles_of_passes h hhas hmulti hgoes, List.countP_map]
    refine List.countP_mono_left fun e _ he => ?_
    rw [decide_eq_true_eq] at he
    simp [he, hk]
  · -- there is nothing to take turns with
    obtain ⟨first, rfl⟩ : ∃ first, listened = [first] :=
      List.length_eq_one_iff.mp (by have := List.length_pos_iff.mpr hne; omega)
    obtain rfl := List.mem_singleton.mp hrole
    rw [roles_of_single h (hhas role (List.mem_singleton_self _)) hgoes]
    simpa [List.countP_replicate] using hlen

/-- Four passes in which both sockets are ready, and the second is received from twice. -/
theorem sockets_take_turns_sample :
    let s := Machine.after (step sampleDigests) (create {0, 1, 2}) startedServer
    2 ≤ (Machine.trace (step sampleDigests) s
      ((List.replicate 4 (⟨false, false, false, fun _ => true, .failed, 0⟩ : Pass)).map
        (.pass 0))).countP fun e => e.2.role = some .rolePA :=
  sockets_take_turns sampleDigests {0, 1, 2} startedServer _ none 0 [.rolePP, .rolePA] rfl rfl rfl _
    .rolePA 2 (fun p hp => by
      rw [List.eq_of_mem_replicate hp]
      exact ⟨⟨rfl, rfl, rfl⟩, rfl⟩) (by simp) (Nat.le_refl 4)

end StunServer

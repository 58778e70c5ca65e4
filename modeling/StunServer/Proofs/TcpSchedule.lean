import StunServer.Proofs.TcpClient

/-! A client that asks for one message after the other, with one response in between: it is
told to wait just if the response was rejected and there is time left. -/

namespace StunServer

namespace CStunClientLogic

variable {config : StunClientLogicConfig} {c : CStunClientLogic} {log : List SentRequest}
  {entropy : CStunMessageBuilder.Entropy} {spMsg : CBuffer} {time : UInt32}
  {since : Option UInt32}

theorem Follows.getNextMessage_early {past : List Entry} {t : IStunClientTest}
    {rest : List IStunClientTest} (h : Follows config past (.waiting t) rest c)
    (hcap : 800 ≤ spMsg.getAllocatedSize) (hearly : c.diff time < config.timeoutSeconds) :
    CStunClientLogic.getNextMessage entropy spMsg time c = .error E_STUNCLIENT_STILL_WAITING c := by
  rw [getNextMessage_eq h.fInitialized hcap, Loop.run, h.pass_early hearly]
  rfl

/-- Where the client stands: nothing is open, or a request is, since it was sent. -/
inductive Stands (config : StunClientLogicConfig) (log : List SentRequest)
    (c : CStunClientLogic) : Option UInt32 → Prop
  | settled {past : List Entry} {phase : Phase} {rest : List IStunClientTest}
      (logged : Logged config past phase rest c log) (settled : ∀ t, phase ≠ .waiting t) :
      Stands config log c none
  | waits {past : List Entry} {t : IStunClientTest} {rest : List IStunClientTest}
      (logged : Logged config past (.waiting t) rest c log) :
      Stands config log c (some c.timeLastMessageSent)

theorem Stands.logged (h : Stands config log c since) :
    ∃ past phase rest, Logged config past phase rest c log := by
  cases h with
  | settled logged => exact ⟨_, _, _, logged⟩
  | waits logged => exact ⟨_, _, _, logged⟩

/-- There is time left for the request that is open. -/
def IsEarly (config : StunClientLogicConfig) (since : Option UInt32) (time : UInt32) : Prop :=
  ∃ sent ∈ since, (time - sent) / 1000 < config.timeoutSeconds

theorem Stands.early (h : Stands config log c since) (hcap : 800 ≤ spMsg.getAllocatedSize)
    (hearly : IsEarly config since time) :
    getNextMessage entropy spMsg time c = .error E_STUNCLIENT_STILL_WAITING c := by
  obtain ⟨sent, hmem, hlt⟩ := hearly
  cases h with
  | settled => cases hmem
  | waits logged =>
    obtain rfl := Option.some.inj hmem
    exact logged.getNextMessage_early hcap hlt

theorem Stands.not_stillWaiting (h : Stands config log c since)
    (entropy : CStunMessageBuilder.Entropy)
    (hcap : 800 ≤ spMsg.getAllocatedSize) (hdue : ¬IsEarly config since time) :
    getNextMessage entropy spMsg time c ≠ .error E_STUNCLIENT_STILL_WAITING c := by
  intro hcall
  cases h with
  | settled logged settled =>
    have hpolled := logged.getNextMessage entropy time hcap
    rw [hcall] at hpolled
    generalize hcode : E_STUNCLIENT_STILL_WAITING = code at hpolled
    cases hpolled with
    | stillWaiting waiting => exact settled _ waiting
    | ready => exact absurd hcode (by decide)
  | waits logged =>
    refine hdue ⟨_, rfl, ?_⟩
    have hlt := getNextMessage_stillWaiting logged.fInitialized hcap hcall
    rwa [logged.config_eq] at hlt

/-- What a client in time is told. -/
theorem Stands.getNextMessage (h : Stands config log c since)
    (entropy : CStunMessageBuilder.Entropy)
    (hcap : 800 ≤ spMsg.getAllocatedSize) (hdue : ¬IsEarly config since time) :
    (∃ c', CStunClientLogic.getNextMessage entropy spMsg time c =
      .error E_STUNCLIENT_RESULTS_READY c') ∨
    ∃ msg c' s, CStunClientLogic.getNextMessage entropy spMsg time c = .ok msg c' ∧
      Stands config (log ++ [s]) c' (some time) := by
  have hnot := h.not_stillWaiting entropy hcap hdue
  obtain ⟨past, phase, rest, hlogged⟩ := h.logged
  have hpolled := hlogged.getNextMessage entropy time hcap
  have hpaced : ∀ msg c', CStunClientLogic.getNextMessage entropy spMsg time c = .ok msg c' →
      Paced time c c' := fun _ _ hcall => getNextMessage_paced hlogged.fInitialized hcap hcall
  generalize CStunClientLogic.getNextMessage entropy spMsg time c = result at hpolled hpaced hnot ⊢
  cases hpolled with
  | stillWaiting waiting => exact absurd rfl hnot
  | ready follows adds ids => exact Or.inl ⟨_, rfl⟩
  | @sent past' t rest' msg c' follows adds sends =>
    have hpace := hpaced msg c' rfl
    have hwaits := Stands.waits (hlogged.request follows adds sends hpace)
    rw [hpace.sentAt] at hwaits
    exact Or.inr ⟨msg, c', _, rfl, hwaits⟩

/-- What a response comes to. -/
theorem Stands.processResponse (h : Stands config log c since) (spMsg : CBuffer)
    (addrRemote addrLocal : CSocketAddress) :
    Stands config log ((CStunClientLogic.processResponse spMsg addrRemote addrLocal).after c)
      (if (CStunClientLogic.processResponse spMsg addrRemote addrLocal).succeeds c then none
        else since) := by
  rcases c.processResponse_cases spMsg addrRemote addrLocal with
    ⟨hr, hcall⟩ | ⟨t, reader, answer, ht, hopen, -, -, -, hcall⟩
  · obtain ⟨hafter, hfails⟩ := Hr.after_error hcall
    rw [hafter, hfails]
    exact h
  · obtain ⟨hafter, hsucceeds⟩ := Hr.after_ok hcall
    obtain ⟨past, phase, rest, hlogged⟩ := h.logged
    obtain ⟨rest', -, hanswered⟩ := hlogged.answered ht hopen answer
    rw [hafter, hsucceeds]
    exact .settled hanswered nofun

end CStunClientLogic

/-! ### The loop -/

namespace TcpClient

open CStunClientLogic

variable {config : StunClientLogicConfig} {log : List SentRequest} {since : Option UInt32}
  {client : TcpClient} {turn : TcpTurn}

/-- The ways a pass can go. -/
inductive Passed (config : StunClientLogicConfig) (log : List SentRequest)
    (since : Option UInt32) (turn : TcpTurn) :
    Option HRESULT × Except TcpEnd (TcpFed × TcpClient) → Prop
  | noSocket (failed : FAILED turn.tcpInit = true) :
      Passed config log since turn (none, .error (.socketFails turn.tcpInit))
  | waits (init : FAILED turn.tcpInit = false)
      (early : IsEarly config since turn.timeCurrentMilliseconds) :
      Passed config log since turn
        (some E_STUNCLIENT_STILL_WAITING, .error (.stops E_STUNCLIENT_STILL_WAITING))
  | prints {results : StunClientResults}
      (due : ¬IsEarly config since turn.timeCurrentMilliseconds) :
      Passed config log since turn (some E_STUNCLIENT_RESULTS_READY, .error (.prints results))
  | socketFails {hr : HRESULT} (due : ¬IsEarly config since turn.timeCurrentMilliseconds) :
      Passed config log since turn (some S_OK, .error (.socketFails hr))
  | goesOn {fed : TcpFed} {client' : TcpClient} {s : SentRequest}
      (due : ¬IsEarly config since turn.timeCurrentMilliseconds)
      (room : 800 ≤ client'.spMsg.getAllocatedSize)
      (stands : Stands config (log ++ [s]) client'.clientlogic
        (if fed.accepted then none else some turn.timeCurrentMilliseconds)) :
      Passed config log since turn (some S_OK, .ok (fed, client'))

theorem exchange_cases (client : TcpClient) (turn : TcpTurn) (addrDest : CSocketAddress) :
    (∃ hr, client.exchange turn addrDest = .error (.socketFails hr)) ∨
    ∃ fed client', client.exchange turn addrDest = .ok (fed, client') := by
  rw [exchange]
  split_ifs with hconnect
  · exact Or.inl ⟨_, rfl⟩
  cases sendAll client.spMsg.getSize 0 turn.sends with
  | error hr => exact Or.inl ⟨hr, rfl⟩
  | ok _ =>
    cases client.receive turn.recvs with
    | error hr => exact Or.inl ⟨hr, rfl⟩
    | ok s => exact Or.inr ⟨_, _, rfl⟩

/-- The step lemma. -/
theorem passed (h : Stands config log client.clientlogic since)
    (hroom : 800 ≤ client.spMsg.getAllocatedSize) (turn : TcpTurn) :
    Passed config log since turn (client.pass turn) := by
  cases hinit : FAILED turn.tcpInit with
  | true =>
    rw [pass, if_pos hinit]
    exact .noSocket hinit
  | false =>
    rw [pass, if_neg (by rw [hinit]; decide)]
    by_cases hearly : IsEarly config since turn.timeCurrentMilliseconds
    · rw [h.early hroom hearly]
      exact .waits hinit hearly
    rcases h.getNextMessage turn.entropy hroom hearly with
      ⟨c', hcall⟩ | ⟨msg, c', s, hcall, hstands⟩
    · rw [hcall]
      exact .prints hearly
    · obtain ⟨-, hsame, -⟩ := getNextMessage_buffer hcall
      rw [hcall]
      rcases exchange_cases { client with clientlogic := c', spMsg := msg.1 } turn msg.2 with
        ⟨hr, hfails⟩ | ⟨fed, client', hdone⟩
      · dsimp only
        rw [hfails]
        exact .socketFails hearly
      · obtain ⟨s', hreceive, -, -, hkept, haccepted, hlogic⟩ := exchange_ok hdone
        have hstores := (Receiving.Stores.start _ msg.1).loop hreceive
        dsimp only
        rw [hdone]
        refine .goesOn hearly ?_ (s := s) ?_
        · rw [hkept, hstores.allocated, hsame]
          exact hroom
        · rw [hlogic, haccepted]
          exact hstands.processResponse _ _ _

/-- The run lemma, for the end: each pass that goes on takes a request. -/
theorem loop_ends (turns : List TcpTurn) (h : Stands config log client.clientlogic since)
    (hroom : 800 ≤ client.spMsg.getAllocatedSize) (hnone : (loop turns client).ending = none) :
    log.length + turns.length ≤ 5 * config.uMaxAttempts.toNat := by
  induction turns generalizing client log since with
  | nil =>
    obtain ⟨past, phase, rest, hlogged⟩ := h.logged
    exact hlogged.length_le
  | cons turn turns ih =>
    have hpassed := passed h hroom turn
    rw [loop] at hnone
    generalize client.pass turn = result at hpassed hnone
    cases hpassed with
    | noSocket | waits | prints | socketFails => cases hnone
    | goesOn due room stands =>
      have hle := ih stands room hnone
      rw [List.length_append, List.length_singleton] at hle
      rw [List.length_cons]
      omega

end TcpClient
end StunServer

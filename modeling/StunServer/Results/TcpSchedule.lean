import StunServer.Proofs.TcpSchedule
import StunServer.Results.TcpClient

/-! When `TcpClientLoop` is told to wait. The timeout of zero seconds is not kept: `Initialize`
takes it for the default of three. -/

namespace StunServer

open CStunClientLogic

namespace TcpRun

/-- `GetNextMessage` never says to wait, and no pass stops with its result code: a loop that
ends prints its results, unless it has no socket or no server to begin with. -/
def NeverWaits (run : TcpRun) : Prop :=
  E_STUNCLIENT_STILL_WAITING ∉ run.polls ∧ ∀ hr, run.ending ≠ some (.stops hr)

/-- After a response that was rejected, the time has run out before the client asks again. -/
def IsTimely (limit : UInt32) (run : TcpRun) (turns : List TcpTurn) : Prop :=
  ∀ p ∈ run.fed.zip turns.tail, FAILED p.2.tcpInit = true ∨ p.1.2.accepted = true ∨
    limit ≤ (p.2.timeCurrentMilliseconds - p.1.1.timeCurrentMilliseconds) / 1000

instance (limit : UInt32) (run : TcpRun) (turns : List TcpTurn) :
    Decidable (run.IsTimely limit turns) :=
  inferInstanceAs (Decidable (∀ p ∈ run.fed.zip turns.tail, _ ∨ _ ∨ _))

end TcpRun

namespace TcpClient

variable {config : StunClientLogicConfig} {log : List SentRequest} {since : Option UInt32}
  {client : TcpClient}

theorem not_isEarly_iff {accepted : Bool} {sent time : UInt32} :
    ¬IsEarly config (if accepted then none else some sent) time ↔
      accepted = true ∨ config.timeoutSeconds ≤ (time - sent) / 1000 := by
  cases accepted with
  | true => exact iff_of_true (fun h => nomatch h.choose_spec.1) (Or.inl rfl)
  | false => simp [IsEarly]

theorem isTimely_cons {limit : UInt32} {turn : TcpTurn} {turns : List TcpTurn} {fed : TcpFed}
    {polls : List HRESULT} {client' : TcpClient} :
    TcpRun.IsTimely limit ⟨polls, (turn, fed) :: (loop turns client').fed,
        (loop turns client').ending⟩ (turn :: turns) ↔
      (∀ next ∈ turns.head?, FAILED next.tcpInit = true ∨ fed.accepted = true ∨
        limit ≤ (next.timeCurrentMilliseconds - turn.timeCurrentMilliseconds) / 1000) ∧
      (loop turns client').IsTimely limit turns := by
  cases turns with
  | nil => exact iff_of_true nofun ⟨nofun, nofun⟩
  | cons next turns => simp [TcpRun.IsTimely]

/-- The run lemma. -/
theorem loop_neverWaits_iff (turns : List TcpTurn)
    (h : Stands config log client.clientlogic since)
    (hroom : 800 ≤ client.spMsg.getAllocatedSize) :
    (loop turns client).NeverWaits ↔
      (∀ turn ∈ turns.head?, FAILED turn.tcpInit = true ∨
        ¬IsEarly config since turn.timeCurrentMilliseconds) ∧
      (loop turns client).IsTimely config.timeoutSeconds turns := by
  induction turns generalizing client log since with
  | nil =>
    exact iff_of_true ⟨List.not_mem_nil, fun _ h => (by cases h)⟩
      ⟨fun _ h => (by cases h), List.forall_mem_nil _⟩
  | cons turn turns ih =>
    have hpassed := passed h hroom turn
    rw [loop]
    generalize client.pass turn = result at hpassed ⊢
    cases hpassed with
    | noSocket failed =>
      exact iff_of_true ⟨List.not_mem_nil, fun _ h => (by cases h)⟩
        ⟨by simpa using Or.inl failed, List.forall_mem_nil _⟩
    | waits init early =>
      refine iff_of_false (fun hnever => hnever.2 _ rfl) (fun htimely => ?_)
      rcases htimely.1 turn rfl with hfailed | hdue
      · rw [init] at hfailed
        cases hfailed
      · exact hdue early
    | prints due =>
      have hcode : E_STUNCLIENT_STILL_WAITING ∉ [E_STUNCLIENT_RESULTS_READY] := by decide
      exact iff_of_true ⟨hcode, fun _ h => (by cases h)⟩
        ⟨by simpa using Or.inr due, List.forall_mem_nil _⟩
    | socketFails due =>
      have hcode : E_STUNCLIENT_STILL_WAITING ∉ [S_OK] := by decide
      exact iff_of_true ⟨hcode, fun _ h => (by cases h)⟩
        ⟨by simpa using Or.inr due, List.forall_mem_nil _⟩
    | @goesOn fed client' s due room stands =>
      have hnext := ih stands room
      simp only [not_isEarly_iff] at hnext
      have hhead : ∀ turn' ∈ (turn :: turns).head?, FAILED turn'.tcpInit = true ∨
          ¬IsEarly config since turn'.timeCurrentMilliseconds := by
        simpa using Or.inr due
      have hpolls : TcpRun.NeverWaits ⟨S_OK :: (loop turns client').polls,
          (turn, fed) :: (loop turns client').fed, (loop turns client').ending⟩ ↔
            (loop turns client').NeverWaits := by
        have hcode : E_STUNCLIENT_STILL_WAITING ≠ S_OK := by decide
        rw [TcpRun.NeverWaits, TcpRun.NeverWaits, List.mem_cons, or_iff_right hcode]
      calc _ ↔ (loop turns client').NeverWaits := hpolls
        _ ↔ _ := hnext
        _ ↔ _ := isTimely_cons.symm
        _ ↔ _ := (and_iff_right hhead).symm

end TcpClient

/-! ### The command line -/

namespace ClientCmdLineArgs

theorem createConfigFromCommandLine_ok {host : Host} {args : ClientCmdLineArgs}
    {config : StunClientLogicConfig} {socketconfig : ClientSocketConfig}
    (h : args.createConfigFromCommandLine host = .ok (config, socketconfig)) :
    config.fTimeoutIsInstant = false ∧ config.timeoutSeconds = 0 ∧
      (socketconfig.socktype = .sockStream → config.uMaxAttempts = 1) := by
  obtain ⟨family, -, h⟩ := bind_eq_ok.mp h
  obtain ⟨fTCP, -, h⟩ := bind_eq_ok.mp h
  obtain ⟨remoteport, -, h⟩ := bind_eq_ok.mp h
  obtain ⟨_, -, h⟩ := bind_eq_ok.mp h
  obtain ⟨addrServer, -, h⟩ := bind_eq_ok.mp h
  obtain ⟨localport, -, h⟩ := bind_eq_ok.mp h
  obtain ⟨addrLocal, -, h⟩ := bind_eq_ok.mp h
  cases h
  refine ⟨rfl, rfl, fun hstream => ?_⟩
  cases fTCP with
  | true => rfl
  | false => cases hstream

end ClientCmdLineArgs

/-- Over TCP the loop ends within six passes. It is never told to wait just if three seconds
go by after each response that is rejected. -/
theorem tcp_never_waits_iff {host : Host} {args : ClientCmdLineArgs}
    {config : StunClientLogicConfig} {socketconfig : ClientSocketConfig}
    (hconfig : args.createConfigFromCommandLine host = .ok (config, socketconfig))
    (htcp : socketconfig.socktype = .sockStream) (turns : List TcpTurn) :
    (6 ≤ turns.length → (tcpClientLoop config socketconfig turns).ending ≠ none) ∧
      ((tcpClientLoop config socketconfig turns).NeverWaits ↔
        (tcpClientLoop config socketconfig turns).IsTimely 3 turns) := by
  obtain ⟨hinstant, htimeout, hattempts⟩ :=
    ClientCmdLineArgs.createConfigFromCommandLine_ok hconfig
  rw [tcpClientLoop]
  cases hinit : initializeWith config .create with
  | error hr c =>
    exact ⟨fun _ h => (by cases h),
      iff_of_true ⟨List.not_mem_nil, fun _ h => (by cases h)⟩ (List.forall_mem_nil _)⟩
  | ok _ clientlogic =>
    have hinitialized : IsInitialized config clientlogic := hinit
    have hstands : Stands (configure config) [] clientlogic none :=
      .settled hinitialized.logged fun _ h => (by cases h)
    have hlimit : (configure config).timeoutSeconds = 3 := by
      rw [configure, hinstant, htimeout]
      rfl
    have hmost : (configure config).uMaxAttempts = 1 := by
      rw [configure, hattempts htcp]
      rfl
    have hroom : 800 ≤ (CBuffer.initWithAllocation 1500).getAllocatedSize := by
      rw [CBuffer.initWithAllocation, CBuffer.getAllocatedSize, List.length_replicate]
      decide
    constructor
    · intro hlen hnone
      have hle := TcpClient.loop_ends turns hstands hroom hnone
      rw [hmost] at hle
      change 0 + turns.length ≤ 5 at hle
      omega
    · rw [TcpClient.loop_neverWaits_iff turns hstands hroom, hlimit]
      exact and_iff_right fun turn _ => Or.inr fun hearly => by
        cases hearly.choose_spec.1

/-- A host without adapters that finds each name at one address. -/
def sampleHost : Host where
  getifaddrs := .ok []
  getaddrinfo := fun _ _ _ => .ok (some (.addr4 0 0x04030201))
  inet_pton4 := fun _ => none
  inet_pton6 := fun _ => none

/-- `--protocol tcp` and the name of the server. -/
def sampleClientArgs : ClientCmdLineArgs where
  strRemoteServer := chars "stun"
  strRemotePort := []
  strLocalAddr := []
  strLocalPort := []
  strMode := []
  strFamily := []
  strProtocol := chars "tcp"

theorem sampleClientArgs_config :
    sampleClientArgs.createConfigFromCommandLine sampleHost =
      .ok (sampleTcpConfig, sampleSocketConfig) := rfl

/-- Both responses are rejected, but not too soon. -/
theorem tcp_never_waits_inTime :
    (tcpClientLoop sampleTcpConfig sampleSocketConfig
      [closedTurn 1000, closedTurn 4000]).NeverWaits :=
  (tcp_never_waits_iff sampleClientArgs_config rfl _).2.mpr (by decide +kernel)

theorem closed_polls :
    (tcpClientLoop sampleTcpConfig sampleSocketConfig [closedTurn 1000, closedTurn 1000]).polls =
      [S_OK, E_STUNCLIENT_STILL_WAITING] := by
  decide +kernel

/-- The server closes the connection, and the client, which is told to wait, stops. -/
theorem tcp_told_to_wait :
    sampleClientArgs.createConfigFromCommandLine sampleHost =
        .ok (sampleTcpConfig, sampleSocketConfig) ∧ sampleSocketConfig.socktype = .sockStream ∧
      ¬(tcpClientLoop sampleTcpConfig sampleSocketConfig
        [closedTurn 1000, closedTurn 1000]).NeverWaits := by
  refine ⟨sampleClientArgs_config, rfl, fun hnever => hnever.1 ?_⟩
  rw [closed_polls]
  exact List.mem_cons_of_mem _ List.mem_cons_self

end StunServer

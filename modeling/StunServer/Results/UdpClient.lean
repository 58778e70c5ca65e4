import StunServer.Proofs.UdpNetwork

/-! The client over UDP: its loop does what its calls on the client logic come to, it ends, and
behind a NAT it finds what there is to be found. -/

namespace StunServer

open CStunClientLogic

theorem udpClientLoop_cases (config : StunClientLogicConfig) (calls : SocketCalls) (fds : Finset ℕ)
    (turns : List UdpTurn) :
    (∃ ending, udpClientLoop config calls fds turns = ⟨[], some ending⟩ ∧
      ∃ hr, ending = .notInitialized hr ∨ ending = .noSocket hr) ∨
    ∃ c, IsInitialized config c ∧ udpClientLoop config calls fds turns =
      UdpClient.loop (CStunSocket.initCommon .rolePP false calls fds .reset).2.2 turns (.start c) := by
  rw [udpClientLoop]
  cases hinit : initializeWith config .create with
  | error hr c => exact Or.inl ⟨_, rfl, hr, Or.inl rfl⟩
  | ok u c =>
    dsimp only
    split_ifs with hsocket
    · exact Or.inl ⟨_, rfl, _, Or.inr rfl⟩
    · exact Or.inr ⟨c, hinit, rfl⟩

/-- The loop is a run of calls, each with a buffer of its own and with the bytes of one datagram,
and it ends when the results are there. -/
theorem udp_loop_calls (config : StunClientLogicConfig) (calls : SocketCalls) (fds : Finset ℕ)
    (turns : List UdpTurn) :
    let run := udpClientLoop config calls fds turns
    let c := (initializeWith config).after .create
    let stunSocket := (CStunSocket.initCommon .rolePP false calls fds .reset).2.2
    (∀ front e back, run.passes = front ++ e :: back →
      e.2.sent = ((c.afterCalls (UdpTurn.callsOf stunSocket front)).call e.1.poll).1.request ∧
      e.2.fed.map UdpFed.call = e.1.wait.call stunSocket) ∧
    (run.ending = none → run.passes.map Prod.fst = turns) ∧
    ∀ ending, run.ending = some ending →
      (run.passes = [] ∧ ∃ hr, ending = .notInitialized hr ∨ ending = .noSocket hr) ∨
      ∃ turn later, turns = run.passes.map Prod.fst ++ turn :: later ∧
        let last := (c.afterCalls (UdpTurn.callsOf stunSocket run.passes)).call turn.poll
        last.1.hr = E_STUNCLIENT_RESULTS_READY ∧ ending = .prints last.2.getResults := by
  intro run c stunSocket
  rcases udpClientLoop_cases config calls fds turns with ⟨ending, hrun, hend⟩ | ⟨c', hinit, hrun⟩
  · have hrun' : run = ⟨[], some ending⟩ := hrun
    rw [hrun']
    refine ⟨fun front e back hpasses => absurd hpasses (by simp),
      fun hnone => absurd hnone (Option.some_ne_none _), fun ending' hending => Or.inl ⟨rfl, ?_⟩⟩
    rwa [← Option.some.inj hending]
  · have hrun' : run = UdpClient.loop stunSocket turns (.start c') := hrun
    have hc : c = c' := by
      change (initializeWith config).after .create = c'
      rw [Hr.after, hinit]
    obtain ⟨hsteps, hnone, hend⟩ := @UdpClient.loop_calls stunSocket (.start c') config c' hinit
      turns [] rfl (List.length_replicate ..)
    rw [hc, hrun']
    exact ⟨hsteps, hnone, fun ending hending => Or.inr (hend ending hending)⟩

/-- As long as the clock goes on, the passes are bounded: some have not waited in vain, and the
others are paid for by the requests, each with the waits that fit in its time. -/
theorem udp_loop_ends (config : StunClientLogicConfig) (calls : SocketCalls) (fds : Finset ℕ)
    (turns : List UdpTurn) (hclock : turns.IsChain (UdpTurn.Precedes config)) :
    let run := udpClientLoop config calls fds turns
    run.passes.length ≤ run.passes.countP (fun e => e.1.wait ≠ .timedOut) +
        5 * (configure config).uMaxAttempts.toNat *
          Deadline.waitsPerStart (UdpTurn.limit config) (UdpTurn.delay config) ∧
      (run.ending = none → run.passes.length = turns.length) := by
  intro run
  rcases udpClientLoop_cases config calls fds turns with ⟨ending, hrun, -⟩ | ⟨c, hinit, hrun⟩
  · have hrun' : run = ⟨[], some ending⟩ := hrun
    rw [hrun']
    exact ⟨Nat.zero_le _, fun hnone => absurd hnone (Option.some_ne_none _)⟩
  · have hrun' : run = UdpClient.loop _ turns (.start c) := hrun
    obtain ⟨-, hnone, -⟩ := @UdpClient.loop_calls
      (CStunSocket.initCommon .rolePP false calls fds .reset).2.2 (.start c) config c hinit turns []
      rfl (List.length_replicate ..)
    rw [hrun']
    refine ⟨UdpClient.loop_length hinit turns hclock, fun hending => ?_⟩
    rw [← List.length_map Prod.fst, hnone hending]

/-- A client that nobody answers, and that has just asked a second time. -/
def unansweredTurns : List UdpTurn :=
  [0, 500, 1000, 1500, 2000, 2500, 3000].map fun milliseconds =>
    ⟨⟨List.Vector.replicate 8 1, List.Vector.replicate 16 0⟩, milliseconds, .timedOut⟩

theorem udp_loop_ends_unanswered :
    let config : StunClientLogicConfig := ⟨.addr4 3478 1, false, 0, 0, true, true⟩
    let run := udpClientLoop config ⟨none, none, none, ⟨none, none⟩, none⟩ ∅ unansweredTurns
    run.passes.length ≤ run.passes.countP (fun e => e.1.wait ≠ .timedOut) +
        5 * (configure config).uMaxAttempts.toNat *
          Deadline.waitsPerStart (UdpTurn.limit config) (UdpTurn.delay config) ∧
      (run.ending = none → run.passes.length = unansweredTurns.length) := by
  intro config
  have hclock : unansweredTurns.IsChain (UdpTurn.Precedes config) := by
    rw [unansweredTurns, List.isChain_map]
    refine List.IsChain.imp (R := fun a b : ℕ => a + 500 = b ∧ b ≤ 3000) ?_ (by decide)
    rintro a b ⟨rfl, hb⟩
    exact ⟨Nat.le_add_right _ _, fun _ => Nat.le_refl _, by
      change a + 500 + 3000 < a + 2 ^ 32
      omega⟩
  exact udp_loop_ends config ⟨none, none, none, ⟨none, none⟩, none⟩ ∅ unansweredTurns hclock

/-! ### Behind a NAT -/

/-- Passes far enough apart follow on each other, whatever they receive. -/
theorem Site.precedes_udpTurns {config : StunClientLogicConfig} (site : Site) (w : World)
    (turns : List NetTurn)
    (h : turns.IsChain fun turn next =>
      turn.milliseconds + UdpTurn.delay config ≤ next.milliseconds ∧
        next.milliseconds + UdpTurn.limit config < turn.milliseconds + 2 ^ 32) :
    (site.udpTurns w turns).IsChain (UdpTurn.Precedes config) := by
  induction turns generalizing w with
  | nil => exact .nil
  | cons turn turns ih =>
    cases turns with
    | nil => exact .singleton _
    | cons next turns =>
      obtain ⟨⟨hdelay, hround⟩, hrest⟩ := List.isChain_cons_cons.mp h
      exact List.isChain_cons_cons.mpr ⟨⟨(Nat.le_add_right _ _).trans hdelay, fun _ => hdelay, hround⟩,
        ih (site.passed w turn) hrest⟩

theorem Site.length_udpTurns (site : Site) (w : World) (turns : List NetTurn) :
    (site.udpTurns w turns).length = turns.length := by
  induction turns generalizing w with
  | nil => rfl
  | cons turn turns ih => exact congrArg (· + 1) (ih _)

/-- Where each test gets a response, if the NAT lets one through, before it is given up, the client
ends with the right results, once there have been passes enough. -/
theorem udp_client_classifies (site : Site) (calls : SocketCalls) (fds : Finset ℕ)
    (turns : List NetTurn)
    (hsocket : FAILED (CStunSocket.initCommon .rolePP false calls fds .reset).1 = false)
    (hport : (CStunSocket.initCommon .rolePP false calls fds .reset).2.2.addrlocal.getPort =
      site.addrLocal.getPort)
    (hids : (site.afterPasses site.start turns).client.DistinctIds)
    (hdue : (site.afterPasses site.start turns).NothingDue)
    (hclock : (site.udpTurns site.start turns).IsChain (UdpTurn.Precedes site.config))
    (henough : (site.udpTurns site.start turns).countP (fun turn => turn.wait ≠ .timedOut) +
      5 * (configure site.config).uMaxAttempts.toNat *
        Deadline.waitsPerStart (UdpTurn.limit site.config) (UdpTurn.delay site.config) <
          turns.length) :
    ∃ results, (udpClientLoop site.config calls fds (site.udpTurns site.start turns)).ending =
      some (.prints results) ∧ site.Classified results := by
  have hinit : IsInitialized site.config site.start.client := site.isInitialized_start
  set stunSocket := (CStunSocket.initCommon .rolePP false calls fds .reset).2.2
  set passes := site.udpTurns site.start turns with hpasses
  have hrun : udpClientLoop site.config calls fds passes =
      UdpClient.loop stunSocket passes (.start site.start.client) := by
    have hopen : ¬FAILED (CStunSocket.initCommon .rolePP false calls fds .reset).1 = true := by
      rw [hsocket]
      decide
    rw [udpClientLoop, hinit]
    exact if_neg hopen
  have hroom : (UdpClient.start site.start.client).spMsg.getAllocatedSize = MAX_STUN_MESSAGE_SIZE :=
    List.length_replicate ..
  rw [hrun]
  cases hending : (UdpClient.loop stunSocket passes (.start site.start.client)).ending with
  | none =>
    have hle := @UdpClient.loop_length stunSocket site.config _ hinit passes hclock
    obtain ⟨-, hall, -⟩ := @UdpClient.loop_calls stunSocket (.start site.start.client) site.config
      _ hinit passes [] rfl hroom
    dsimp only at hle
    have hcount : (UdpClient.loop stunSocket passes (.start site.start.client)).passes.countP
        (fun e => e.1.wait ≠ .timedOut) = passes.countP fun turn => turn.wait ≠ .timedOut := by
      have hcounts := congrArg (List.countP fun turn : UdpTurn => turn.wait ≠ .timedOut) (hall hending)
      rw [List.countP_map] at hcounts
      exact hcounts
    have hlength : (UdpClient.loop stunSocket passes (.start site.start.client)).passes.length =
        turns.length := by
      rw [← List.length_map Prod.fst, hall hending, hpasses, site.length_udpTurns]
    omega
  | some ending =>
    obtain ⟨results, rfl, hclassified⟩ := Site.loop_classified hport turns site.tracks_start rfl hroom
      hids hdue hending
    exact ⟨results, rfl, hclassified⟩

/-! ### A NAT whose answers come in time -/

/-- The same NAT and server, for a client that waits three seconds for a response. -/
def patientSite : Site :=
  { sampleSite with
    config := ⟨sampleGrid.endpoint .rolePP, false, 0, 1, true, true⟩
    addrServer := rfl }

/-- The response to the first request is late and comes again later on. That to the second request
does not pass. -/
def sampleDelivered : List (Option ℕ) :=
  [none, some 0, some 0, some 1, some 2, some 0, none, some 2, none, none, some 3, none, some 4] ++
    List.replicate 24 none

/-- Two passes in a second or so. -/
def sampleTurns : List NetTurn :=
  (sampleDelivered.zipIdx 1).map fun turn =>
    ⟨⟨List.Vector.replicate 8 (UInt8.ofNat turn.2), List.Vector.replicate 16 0⟩, 600 * turn.2,
      turn.1⟩

/-- The socket is bound to the port that the client has behind the NAT. -/
def sampleCalls : SocketCalls := ⟨none, none, none, ⟨some (.addr4 1 0), none⟩, none⟩

theorem sample_precedes : (patientSite.udpTurns patientSite.start sampleTurns).IsChain
    (UdpTurn.Precedes patientSite.config) :=
  patientSite.precedes_udpTurns patientSite.start sampleTurns (by decide)

def allTests : List IStunClientTest :=
  [.binding, .behavior false, .behavior true, .filtering false, .filtering true]

theorem distinctIds_of_allTests {c : CStunClientLogic}
    (h : ∀ t ∈ allTests, ∀ t' ∈ allTests, t ≠ t' →
      isTransactionIdValid (c.test t).transid = true → (c.test t).transid ≠ (c.test t').transid) :
    c.DistinctIds := by
  have hmem : ∀ t, t ∈ allTests := by
    intro t
    cases t with
    | binding => decide
    | behavior b => cases b <;> decide
    | filtering b => cases b <;> decide
  exact fun t t' => h t (hmem t) t' (hmem t')

theorem udp_client_classifies_sample : ∃ results,
    (udpClientLoop patientSite.config sampleCalls ∅
      (patientSite.udpTurns patientSite.start sampleTurns)).ending = some (.prints results) ∧
    patientSite.Classified results :=
  udp_client_classifies patientSite sampleCalls ∅ sampleTurns (by decide) (by decide)
    (distinctIds_of_allTests (by decide +kernel)) (by decide +kernel) sample_precedes (by decide +kernel)

end StunServer

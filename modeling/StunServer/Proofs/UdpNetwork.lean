import StunServer.Proofs.StreamServer
import StunServer.Proofs.UdpClient
import StunServer.Results.Classification
import StunServer.Spec.UdpNetwork

/-! The loop over UDP behind a NAT follows the world that the NAT makes. -/

namespace StunServer.Site

open CStunClientLogic

variable {site : Site} {w : World} {turn : NetTurn} {past : List Entry} {phase : Phase}
  {rest : List IStunClientTest} {stunSocket : CStunSocket}

/-! ### The start -/

theorem isInitialized_start (site : Site) : IsInitialized site.config site.start.client := by
  have haddr : site.config.addrServer.isIPAddressZero = false := by
    rw [site.addrServer]
    exact site.grid.isIPAddressZero_endpoint _
  have hport : site.config.addrServer.getPort ≠ 0 := by
    rw [site.addrServer]
    exact site.grid.getPort_endpoint_ne _
  have hok : ∃ c, initializeWith site.config .create = .ok () c := by
    rw [initializeWith, Hr.bind_ok (Hr.get_apply create),
      Hr.bind_ok (Hr.chkIf_false (by decide) _ _),
      Hr.bind_ok (Hr.chkIf_false (by rw [haddr]; decide) _ _),
      Hr.bind_ok (Hr.chkIf_false hport _ _)]
    exact ⟨_, rfl⟩
  obtain ⟨c, hc⟩ := hok
  rw [IsInitialized, Site.start, Hr.after, hc]

/-! ### The world -/

theorem keepsDrawn_passed (site : Site) (w : World) (turn : NetTurn) :
    KeepsDrawn w.client (site.passed w turn).client := by
  have hpolled : KeepsDrawn w.client (site.polled w turn).client := site.keepsDrawn_step w _
  unfold passed
  cases turn.deliver with
  | none => exact hpolled
  | some index =>
    exact hpolled.trans (site.keepsDrawn_step (site.polled w turn) (.deliver index))

theorem keepsDrawn_afterPasses (site : Site) (w : World) (turns : List NetTurn) :
    KeepsDrawn w.client (site.afterPasses w turns).client := by
  induction turns generalizing w with
  | nil => exact fun _ _ => rfl
  | cons turn turns ih => exact (site.keepsDrawn_passed w turn).trans (ih _)

theorem Tracks.passed (h : site.Tracks w past phase rest) (turn : NetTurn)
    (hids : (site.passed w turn).client.DistinctIds) :
    (∃ past' phase' rest', site.Tracks (site.polled w turn) past' phase' rest') ∧
      ∃ past' phase' rest', site.Tracks (site.passed w turn) past' phase' rest' := by
  obtain ⟨past', phase', rest', hpolled⟩ := h.poll turn.entropy
    (.initWithAllocation MAX_STUN_MESSAGE_SIZE) (getMillisecondCounter turn.milliseconds)
  have hpolled' : site.Tracks (site.polled w turn) past' phase' rest' := hpolled
  refine ⟨⟨past', phase', rest', hpolled'⟩, ?_⟩
  unfold Site.passed at hids ⊢
  cases hdeliver : turn.deliver with
  | none => exact ⟨past', phase', rest', hpolled'⟩
  | some index =>
    rw [hdeliver] at hids
    exact hpolled'.deliver
      (distinctIds_of_keepsDrawn (site.keepsDrawn_step (site.polled w turn) (.deliver index)) hids)
      index

/-- The client is asked for a message. -/
theorem polled_client (site : Site) (w : World) (turn : NetTurn) (wait : UdpWait) :
    let called := w.client.call (UdpTurn.poll ⟨turn.entropy, turn.milliseconds, wait⟩)
    (site.polled w turn).client = called.2 ∧ (site.polled w turn).polled = called.1.hr := by
  rw [polled, step, UdpTurn.poll, CStunClientLogic.call]
  dsimp only
  cases w.client.getNextMessage turn.entropy (.initWithAllocation MAX_STUN_MESSAGE_SIZE)
    (getMillisecondCounter turn.milliseconds) with
  | error hr client => exact ⟨rfl, rfl⟩
  | ok msg client =>
    dsimp only
    cases client.currentTest with
    | none => exact ⟨rfl, rfl⟩
    | some test => exact ⟨rfl, rfl⟩

theorem response_length_le (site : Site) (role : SocketRole) (change : StunChangeRequestAttribute)
    (tid : StunTransactionId) :
    (site.response role change tid).encode.length ≤ MAX_STUN_MESSAGE_SIZE := by
  have hreply : site.response role change tid =
      (site.arrival role (bindingRequest change tid).encode).reply site.D
        (bindingRequest change tid) := by
    rw [Arrival.reply, site.verdict_bindingRequest]
    rfl
  have hsize := reply_size site.D (site.arrival role (bindingRequest change tid).encode)
    (bindingRequest change tid)
  rw [Message.encode_length, hreply]
  exact (Nat.add_le_add_left hsize 20).trans (by decide)

/-- A response, as it arrives. -/
theorem Tracks.incoming (h : site.Tracks w past phase rest) {requests : List Request}
    {r : Request} (hr : r ∈ w.requests) {packet : SentPacket}
    (harriving : site.arriving requests r = some packet) :
    packet.data ≠ [] ∧ packet.data.take MAX_STUN_MESSAGE_SIZE = packet.data := by
  obtain ⟨hrespond, -⟩ := Option.filter_eq_some_iff.mp harriving
  rw [respond_eq (h.asks r hr), Option.some.injEq] at hrespond
  have hdata : packet.data = (site.response (site.roleOf r.test) r.test.change
      (w.client.test r.test).transid).encode := by rw [← hrespond]
  rw [hdata]
  exact ⟨encode_ne_nil _, List.take_of_length_le (site.response_length_le _ _ _)⟩

theorem setPort_getPort {a : CSocketAddress} {port : UInt16} (h : port = a.getPort) :
    a.setPort port = a := by
  rw [h]
  cases a <;> simp [CSocketAddress.setPort, CSocketAddress.getPort, CSocketAddress.getPort_NBO]

/-- What the loop makes of a pass is what the world makes of it. -/
theorem passed_client (h : site.Tracks (site.polled w turn) past phase rest)
    (hport : stunSocket.addrlocal.getPort = site.addrLocal.getPort) :
    (site.passed w turn).client = w.client.afterCalls
      (UdpTurn.calls stunSocket ⟨turn.entropy, turn.milliseconds, site.waitOf w turn⟩) := by
  obtain ⟨hclient, -⟩ := site.polled_client w turn (site.waitOf w turn)
  have hcalls : w.client.afterCalls
      (UdpTurn.calls stunSocket ⟨turn.entropy, turn.milliseconds, site.waitOf w turn⟩) =
        (site.polled w turn).client.afterCalls ((site.waitOf w turn).call stunSocket).toList := by
    rw [hclient]
    rfl
  rw [hcalls, waitOf]
  unfold passed Site.incoming
  cases turn.deliver with
  | none => rfl
  | some index =>
    rw [Option.bind_some]
    change (site.step (site.polled w turn) (.deliver index)).client = _
    rw [step]
    cases hr : (site.polled w turn).requests[index]? with
    | none => rfl
    | some r =>
      rw [Option.bind_some]
      dsimp only
      cases harriving : site.arriving (site.polled w turn).requests r with
      | none => rfl
      | some packet =>
        obtain ⟨hdata, htake⟩ := h.incoming (List.mem_of_getElem? hr) harriving
        rw [Option.elim_some, UdpWait.call, if_neg hdata, htake, Option.getD_some,
          setPort_getPort hport]
        exact (call_processResponse _ _ _ _).symm

/-! ### When all tests are done -/

/-- Nothing more is sent, and what comes in is for no test. -/
theorem step_done (h : Follows (configure site.config) past .unsent [] w.client) (event : Event) :
    (site.step w event).client = w.client ∧ (site.step w event).due = w.due ∧
      (site.step w event).reached = w.reached := by
  cases event with
  | poll entropy spMsg time =>
    rw [step]
    by_cases hcap : 800 ≤ spMsg.getAllocatedSize
    · rw [h.getNextMessage_done entropy time hcap]
      exact ⟨rfl, rfl, rfl⟩
    · obtain ⟨hr, hcall, -⟩ := getNextMessage_small entropy time w.client (not_le.mp hcap)
      rw [hcall]
      exact ⟨rfl, rfl, rfl⟩
  | deliver index =>
    rw [step]
    cases w.requests[index]? with
    | none => exact ⟨rfl, rfl, rfl⟩
    | some r =>
      dsimp only
      cases site.arriving w.requests r with
      | none => exact ⟨rfl, rfl, rfl⟩
      | some packet =>
        have hnone : w.client.currentTest = none := h.currentTest
        refine ⟨processResponse_idle fun t ht => ?_, rfl, if_neg ?_⟩
        · rw [hnone] at ht
          cases ht
        · rw [hnone]
          exact Option.some_ne_none _ ∘ Eq.symm

theorem passed_done (h : Follows (configure site.config) past .unsent [] (site.polled w turn).client) :
    (site.passed w turn).client = (site.polled w turn).client ∧
      (site.passed w turn).due = (site.polled w turn).due ∧
      (site.passed w turn).reached = (site.polled w turn).reached := by
  unfold passed
  cases turn.deliver with
  | none => exact ⟨rfl, rfl, rfl⟩
  | some index => exact step_done h (.deliver index)

theorem afterPasses_done (turns : List NetTurn)
    (h : Follows (configure site.config) past .unsent [] w.client) :
    (site.afterPasses w turns).due = w.due ∧ (site.afterPasses w turns).reached = w.reached := by
  induction turns generalizing w with
  | nil => exact ⟨rfl, rfl⟩
  | cons turn turns ih =>
    obtain ⟨hclient, hdue, hreached⟩ := step_done h (.poll turn.entropy
      (.initWithAllocation MAX_STUN_MESSAGE_SIZE) (getMillisecondCounter turn.milliseconds))
    have hpolled : Follows (configure site.config) past .unsent [] (site.polled w turn).client :=
      hclient ▸ h
    obtain ⟨hclient', hdue', hreached'⟩ := passed_done hpolled
    obtain ⟨hdue'', hreached''⟩ := ih (hclient' ▸ hpolled)
    exact ⟨hdue''.trans (hdue'.trans hdue), hreached''.trans (hreached'.trans hreached)⟩

/-- What has not come in by the time the tests are done never does. -/
theorem nothingDue_polled {turns : List NetTurn}
    (h : Follows (configure site.config) past .unsent [] (site.polled w turn).client)
    (hdue : (site.afterPasses (site.passed w turn) turns).NothingDue) :
    (site.polled w turn).NothingDue := by
  obtain ⟨hclient, hdue', hreached'⟩ := passed_done h
  obtain ⟨hdue'', hreached''⟩ := afterPasses_done turns (hclient ▸ h)
  intro t ht
  rw [← hreached', ← hreached'']
  refine hdue t ?_
  rwa [hdue'', hdue']

/-! ### The loop -/

/-- As long as the responses come in time, the loop is left with the right results. -/
theorem loop_classified (hport : stunSocket.addrlocal.getPort = site.addrLocal.getPort)
    (turns : List NetTurn) {client : UdpClient} (h : site.Tracks w past phase rest)
    (hclient : client.clientlogic = w.client)
    (hroom : client.spMsg.getAllocatedSize = MAX_STUN_MESSAGE_SIZE)
    (hids : (site.afterPasses w turns).client.DistinctIds)
    (hdue : (site.afterPasses w turns).NothingDue) {ending : UdpEnd}
    (hending : (UdpClient.loop stunSocket (site.udpTurns w turns) client).ending = some ending) :
    ∃ results, ending = .prints results ∧ site.Classified results := by
  induction turns generalizing w past phase rest client with
  | nil => cases hending
  | cons turn turns ih =>
    have hids' : (site.passed w turn).client.DistinctIds :=
      distinctIds_of_keepsDrawn (site.keepsDrawn_afterPasses _ turns) hids
    obtain ⟨⟨past₁, phase₁, rest₁, hpolled⟩, past₂, phase₂, rest₂, hpassed⟩ := h.passed turn hids'
    set udpTurn : UdpTurn := ⟨turn.entropy, turn.milliseconds, site.waitOf w turn⟩ with hturn
    have hfollows : Follows (configure site.config) past phase rest client.clientlogic := by
      rw [hclient]
      exact h.follows
    obtain ⟨hcalled, hcode⟩ := site.polled_client w turn (site.waitOf w turn)
    have hpasses := @UdpClient.passes stunSocket client hfollows.fInitialized hroom udpTurn
    rw [udpTurns, UdpClient.loop, ← hturn] at hending
    rw [hclient] at hpasses
    generalize client.pass stunSocket udpTurn = result at hpasses hending
    cases hpasses with
    | @goesOn passed client' hr sent fed clientlogic room =>
      have hnext : client'.clientlogic = (site.passed w turn).client := by
        rw [clientlogic, passed_client hpolled hport]
      exact ih hpassed hnext room hids hdue hending
    | prints hr =>
      obtain rfl := Option.some.inj hending
      have hready : (site.polled w turn).polled = E_STUNCLIENT_RESULTS_READY := hcode.trans hr
      obtain ⟨rfl, rfl⟩ := hpolled.polled hready
      have hfound := hpolled.classified hready (nothingDue_polled hpolled.follows hdue)
      rw [hcalled] at hfound
      exact ⟨_, rfl, hfound⟩
    | stops code nothing waits ready =>
      exact absurd (UdpClient.not_stops h.follows code nothing waits) ready

end StunServer.Site

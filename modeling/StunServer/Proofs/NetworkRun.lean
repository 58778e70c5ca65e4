import StunServer.Proofs.Network

/-! The runs of a client, its NAT and its server: which of the client's tests were answered,
with what, and which were given up. -/

namespace StunServer.Site

open CStunClientLogic

section

variable (site : Site) (w : World)

/-- A request is the one that its test sends. -/
structure Asks (c : CStunClientLogic) (r : Request) : Prop where
  dest : r.addrDest = site.grid.endpoint (site.roleOf r.test)
  data : r.data = (bindingRequest r.test.change (c.test r.test).transid).encode
  drawn : isTransactionIdValid (c.test r.test).transid = true

/-- No response to the test has come in. If there can be one, there should be one. -/
def Awaits (t : IStunClientTest) : Prop := (site.LetsThrough t → t ∈ w.due) ∧ t ∉ w.reached

/-- What became of a test has its reason in the NAT. -/
def Explains : Entry → Prop
  | (_, .skipped) => True
  | (t, .answered answer) => answer = site.answerOf t ∧ site.LetsThrough t
  | (t, .timedOut) => site.Awaits w t

/-- The client has the tests of `past` behind it, and the world knows why. -/
structure Tracks (past : List Entry) (phase : Phase) (rest : List IStunClientTest) : Prop where
  follows : Follows (configure site.config) past phase rest w.client
  asks : ∀ r ∈ w.requests, site.Asks w.client r
  asked : ∀ r ∈ w.requests, r.test ∈ past.map Prod.fst ++ phase.current
  reached : ∀ t ∈ w.reached, t ∈ past.map Prod.fst ++ phase.current
  explains : ∀ e ∈ past ++ phase.entry, site.Explains w e
  waiting : ∀ t, phase = .waiting t → site.Awaits w t
  finished : ∀ e, phase = .finished e → ∃ answer, e.2 = .answered answer
  polled : w.polled = E_STUNCLIENT_RESULTS_READY → phase = .unsent ∧ rest = []

end

variable {site : Site} {w : World} {past : List Entry} {phase : Phase}
  {rest : List IStunClientTest} {c c' : CStunClientLogic} {t : IStunClientTest}

/-! ### The addresses that the client knows -/

/-- Only an answer to the first test tells the client an address of the server. -/
theorem replayStep_addresses (config : StunClientLogicConfig) {e : Entry}
    (h : ∀ answer, e ≠ (.binding, .answered answer)) (r : StunClientResults) :
    let r' := replayStep config r e
    r'.fHasOtherAddress = r.fHasOtherAddress ∧ r'.addrPA = r.addrPA ∧ r'.addrAP = r.addrAP ∧
      r'.addrAA = r.addrAA := by
  obtain ⟨t, outcome⟩ := e
  cases t with
  | binding =>
    cases outcome with
    | skipped => exact ⟨rfl, rfl, rfl, rfl⟩
    | answered answer => exact absurd rfl (h answer)
    | timedOut => exact ⟨rfl, rfl, rfl, rfl⟩
  | behavior fIsTest3 =>
    cases outcome with
    | skipped =>
      simp only [replayStep, IStunClientTest.checked, IStunClientTest.preRunCheck,
        CBehaviorTest.preRunCheck]
      split_ifs <;> exact ⟨rfl, rfl, rfl, rfl⟩
    | answered answer =>
      simp only [replayStep, IStunClientTest.succeed, CBehaviorTest.succeed]
      split_ifs <;> exact ⟨rfl, rfl, rfl, rfl⟩
    | timedOut => exact ⟨rfl, rfl, rfl, rfl⟩
  | filtering fIsTest3 =>
    cases outcome with
    | skipped => exact ⟨rfl, rfl, rfl, rfl⟩
    | answered answer =>
      simp only [replayStep, IStunClientTest.succeed, CFilteringTest.succeed]
      split_ifs <;> exact ⟨rfl, rfl, rfl, rfl⟩
    | timedOut =>
      simp only [replayStep, IStunClientTest.notifyTimeout, CFilteringTest.notifyTimeout]
      split_ifs <;> exact ⟨rfl, rfl, rfl, rfl⟩

theorem replay_addresses
    (h : ∀ t answer, (t, .answered answer) ∈ past → answer = site.answerOf t) :
    let r := replay (configure site.config) past
    r.fHasOtherAddress = true → r.addrPA = site.grid.endpoint site.rolePA ∧
      r.addrAP = site.grid.endpoint site.roleAP ∧ r.addrAA = site.grid.endpoint site.roleAA := by
  induction past using List.reverseRecOn with
  | nil => exact nofun
  | append_singleton past e ih =>
    have hpast : ∀ t answer, (t, Outcome.answered answer) ∈ past → answer = site.answerOf t :=
      fun t answer hmem => h t answer (List.mem_append_left _ hmem)
    dsimp only
    rw [replay_snoc]
    by_cases he : ∃ answer, e = (.binding, .answered answer)
    · obtain ⟨answer, rfl⟩ := he
      obtain rfl : answer = site.answerOf .binding := h _ _ (by simp)
      intro _
      obtain ⟨hport, haddr⟩ := site.grid.setPort_endpoint site.target
      have hserver : (configure site.config).addrServer = site.grid.endpoint site.target :=
        site.addrServer
      refine ⟨?_, ?_, rfl⟩
      · change (configure site.config).addrServer.setPort _ = _
        rw [hserver]
        exact hport
      · change CSocketAddress.setPort (configure site.config).addrServer.getPort _ = _
        rw [hserver]
        exact haddr
    · obtain ⟨hhas, hpa, hap, haa⟩ := replayStep_addresses (configure site.config)
        (fun answer heq => he ⟨answer, heq⟩) (replay (configure site.config) past)
      rw [hhas, hpa, hap, haa]
      exact ih hpast

/-- A request goes to its socket. -/
theorem addrDest_eq (h : ∀ t answer, (t, .answered answer) ∈ past → answer = site.answerOf t)
    (hruns : t.Runs (replay (configure site.config) past)) :
    t.addrDest (configure site.config) (replay (configure site.config) past) =
      site.grid.endpoint (site.roleOf t) := by
  cases t with
  | binding => exact site.addrServer
  | behavior fIsTest3 =>
    have hhas : (replay (configure site.config) past).fHasOtherAddress = true := by
      have hready := hruns.2
      rw [hruns.checked_eq, IStunClientTest.isReadyToRun, CBehaviorTest.isReadyToRun] at hready
      cases fIsTest3 <;> simp at hready <;> simp [hready]
    obtain ⟨-, hap, haa⟩ := replay_addresses h hhas
    cases fIsTest3 with
    | false => exact hap
    | true => exact haa
  | filtering fIsTest3 => exact site.addrServer

/-! ### What comes in -/

/-- The filtering tests come before the other server address is sent to. -/
theorem roleOf_of_before (h : Follows (configure site.config) past phase rest c) {b : Bool}
    (hphase : phase.current = [.filtering b]) (t : IStunClientTest)
    (ht : t ∈ past.map Prod.fst ++ phase.current) : site.roleOf t = site.target := by
  have horder : (testsOf site.config).Pairwise fun t t' =>
      ∀ b b', t' = .filtering b → t ≠ .behavior b' := by
    cases hf : site.config.fFilteringTest <;> cases hb : site.config.fBehaviorTest <;>
      simp [testsOf, hf, hb]
  have hsplit : testsOf site.config = past.map Prod.fst ++ (phase.current ++ rest) := h.split
  rw [hsplit, hphase] at horder
  have hne : ∀ b', t ≠ .behavior b' := by
    intro b'
    rcases List.mem_append.mp ht with hold | hnow
    · exact (List.pairwise_append.mp horder).2.2 t hold (.filtering b) (by simp) b b' rfl
    · rw [hphase, List.mem_singleton] at hnow
      rw [hnow]
      intro heq
      cases heq
  cases t with
  | binding => rfl
  | behavior b' => exact absurd rfl (hne b')
  | filtering b' => rfl

/-- The server answers the request of a test. -/
theorem respond_eq {r : Request} (hasks : site.Asks c r) :
    site.respond r = some ⟨site.roleBack r.test, site.mapped (site.roleOf r.test),
      (site.response (site.roleOf r.test) r.test.change (c.test r.test).transid).encode⟩ := by
  obtain ⟨test, addrDest, data⟩ := r
  have hdest : addrDest = site.grid.endpoint (site.roleOf test) := hasks.dest
  have hdata : data = (bindingRequest test.change (c.test test).transid).encode := hasks.data
  rw [hdest, hdata]
  exact site.respond_bindingRequest _ _ _ _

/-- A response to a test's request passes the NAT just when the rule lets it, as long as no
filtering test is under way after the other address was sent to. -/
theorem arriving_eq (requests : List Request) {r : Request} (hasks : site.Asks c r)
    (hmem : r ∈ requests)
    (hfiltering : ∀ b, r.test = .filtering b → ∀ r' ∈ requests,
      r'.addrDest = site.grid.endpoint site.target) :
    site.arriving requests r =
      if site.LetsThrough r.test then some ⟨site.roleBack r.test, site.mapped (site.roleOf r.test),
        (site.response (site.roleOf r.test) r.test.change (c.test r.test).transid).encode⟩
      else none := by
  have hrespond := respond_eq hasks
  have hmapped : (requests.any fun r' => decide (site.map r'.addrDest =
      site.mapped (site.roleOf r.test))) = true := by
    refine List.any_eq_true.mpr ⟨r, hmem, decide_eq_true ?_⟩
    rw [hasks.dest]
    rfl
  have hdest : site.grid.endpoint (site.roleOf r.test) ∈ requests.map Request.addrDest := by
    rw [← hasks.dest]
    exact List.mem_map_of_mem hmem
  have hpasses : site.rule.passes (requests.map Request.addrDest)
      (site.grid.endpoint (site.roleBack r.test)) =
      site.rule.passes [site.grid.endpoint (site.roleOf r.test)]
        (site.grid.endpoint (site.roleBack r.test)) := by
    have hsame : site.roleBack r.test = site.roleOf r.test →
        site.rule.passes (requests.map Request.addrDest)
          (site.grid.endpoint (site.roleBack r.test)) =
        site.rule.passes [site.grid.endpoint (site.roleOf r.test)]
          (site.grid.endpoint (site.roleBack r.test)) := by
      intro heq
      rw [heq, site.rule.passes_contacted hdest,
        site.rule.passes_contacted (List.mem_singleton_self _)]
    cases ht : r.test with
    | binding =>
      rw [ht] at hsame
      exact hsame rfl
    | behavior fIsTest3 =>
      rw [ht] at hsame
      exact hsame rfl
    | filtering b =>
      rw [ht] at hdest
      refine site.rule.passes_of_forall hdest fun a ha => ?_
      obtain ⟨r', hr', rfl⟩ := List.mem_map.mp ha
      exact hfiltering b ht r' hr'
  rw [arriving, hrespond]
  by_cases hlets : site.LetsThrough r.test
  · rw [if_pos hlets, Option.filter_some, hmapped, hpasses, hlets]
    rfl
  · have hno : site.rule.passes [site.grid.endpoint (site.roleOf r.test)]
        (site.grid.endpoint (site.roleBack r.test)) = false := by
      simpa [LetsThrough] using hlets
    rw [if_neg hlets, Option.filter_some, hmapped, hpasses, hno]
    rfl

/-! ### A poll -/

theorem Asks.congr {r : Request} (h : site.Asks c r)
    (hid : (c'.test r.test).transid = (c.test r.test).transid) : site.Asks c' r where
  dest := h.dest
  data := by rw [hid, h.data]
  drawn := by rw [hid]; exact h.drawn

theorem Explains.mono {w' : World} {e : Entry} (h : site.Explains w e)
    (hdue : ∀ t ∈ w.due, t ∈ w'.due) (hreached : e.1 ∈ w'.reached → e.1 ∈ w.reached) :
    site.Explains w' e := by
  obtain ⟨t, outcome⟩ := e
  cases outcome with
  | skipped => trivial
  | answered answer => exact h
  | timedOut => exact ⟨fun hlets => hdue t (h.1 hlets), fun hr => h.2 (hreached hr)⟩

/-- What a poll adds to the history can be explained, too. -/
theorem Tracks.explains_adds (h : site.Tracks w past phase rest) (w' : World)
    {past' : List Entry} {phase' : Phase} (hadds : Adds past phase past' phase')
    (hdue : ∀ t ∈ w.due, t ∈ w'.due) (hreached : w'.reached = w.reached) :
    ∀ e ∈ past' ++ phase'.entry, site.Explains w' e := by
  obtain ⟨more, hmore, hnew⟩ := hadds
  have hmono : ∀ e, site.Explains w e → site.Explains w' e := fun e he =>
    Explains.mono he hdue fun hr => by rwa [← hreached]
  rw [hmore]
  intro e he
  rcases List.mem_append.mp he with hold | hmem
  · exact hmono e (h.explains e hold)
  · obtain ⟨t, outcome⟩ := e
    rcases hnew _ hmem with hskip | ⟨hwait, hout⟩
    · obtain rfl : outcome = .skipped := hskip
      trivial
    · obtain rfl : outcome = .timedOut := hout
      exact hmono (t, .timedOut) (h.waiting t hwait)

/-- The client has come to the end of its tests. -/
theorem Tracks.ready (h : site.Tracks w past phase rest) {past' : List Entry}
    (hfollows : Follows (configure site.config) past' .unsent [] c')
    (hadds : Adds past phase past' .unsent) (hids : KeepsIds w.client c') :
    site.Tracks { w with client := c', polled := E_STUNCLIENT_RESULTS_READY } past' .unsent [] := by
  have hall : ∀ t ∈ past.map Prod.fst ++ phase.current,
      t ∈ past'.map Prod.fst ++ Phase.current .unsent := by
    intro t ht
    have hmem : t ∈ testsOf (configure site.config) := by
      rw [h.follows.split, ← List.append_assoc]
      exact List.mem_append_left _ ht
    rw [hfollows.split] at hmem
    simpa using hmem
  exact
    { follows := hfollows
      asks := fun r hr => (h.asks r hr).congr (hids r.test)
      asked := fun r hr => hall r.test (h.asked r hr)
      reached := fun t ht => hall t (h.reached t ht)
      explains := h.explains_adds _ hadds (fun _ ht => ht) rfl
      waiting := nofun
      finished := by
        intro e he
        cases he
      polled := fun _ => ⟨rfl, rfl⟩ }

/-- The current test has had no response before it was sent. -/
theorem Tracks.not_reached (h : site.Tracks w past phase rest) {past' : List Entry}
    {rest' : List IStunClientTest}
    (hfollows : Follows (configure site.config) past' (.waiting t) rest' c')
    (hadds : Adds past phase past' (.waiting t)) : t ∉ w.reached := by
  intro hr
  have hold : t ∉ (past ++ phase.entry).map Prod.fst := by
    obtain ⟨more, hmore, -⟩ := hadds
    rw [Phase.entry, List.append_nil] at hmore
    intro hmem
    have hnodup := hfollows.nodup
    rw [hmore, List.map_append, Phase.current] at hnodup
    exact (List.nodup_append.mp hnodup).2.2 t (List.mem_append_left _ hmem) t (by simp) rfl
  rw [List.map_append] at hold
  rcases List.mem_append.mp (h.reached t hr) with hpast | hnow
  · exact hold (List.mem_append_left _ hpast)
  · cases phase with
    | unsent => cases hnow
    | waiting t' =>
      obtain rfl := List.mem_singleton.mp hnow
      exact (h.waiting t rfl).2 hr
    | finished e =>
      exact hold (List.mem_append_right _ (List.mem_map.mpr
        ⟨e, List.mem_singleton_self e, (List.mem_singleton.mp hnow).symm⟩))

/-- The client has sent a request. -/
theorem Tracks.sent (h : site.Tracks w past phase rest) {past' : List Entry}
    {rest' : List IStunClientTest} {msg : CBuffer × CSocketAddress}
    (hfollows : Follows (configure site.config) past' (.waiting t) rest' c')
    (hadds : Adds past phase past' (.waiting t)) (hsends : Sends t w.client c' msg) :
    site.Tracks (site.send w c' ⟨t, msg.2, msg.1.bytes⟩) past' (.waiting t) rest' := by
  set r : Request := ⟨t, msg.2, msg.1.bytes⟩
  have hdue : ∀ t' ∈ w.due, t' ∈ (site.send w c' r).due := by
    intro t' ht'
    rw [send]
    dsimp only
    split_ifs
    · exact List.mem_cons_of_mem _ ht'
    · exact ht'
  have hexplains := h.explains_adds (site.send w c' r) hadds hdue rfl
  have hanswers : ∀ t' answer, (t', Outcome.answered answer) ∈ past' →
      answer = site.answerOf t' := fun t' answer hmem =>
    (hexplains _ (List.mem_append_left _ hmem)).1
  have hresults : c'.results = replay (configure site.config) past' := by
    rw [hfollows.results, Phase.entry, List.append_nil]
  have hasks : site.Asks c' r :=
    { dest := by
        rw [show r.addrDest = msg.2 from rfl, hsends.dest, hfollows.config_eq, hresults]
        exact addrDest_eq hanswers hfollows.phase.2.2.1
      data := hsends.bytes
      drawn := hfollows.phase.2.2.2.2 }
  have hall : ∀ r' ∈ w.requests ++ [r], site.Asks c' r' := by
    intro r' hr'
    rcases List.mem_append.mp hr' with hold | hnew
    · have hask := h.asks r' hold
      refine hask.congr ?_
      by_cases ht : r'.test = t
      · rw [ht]
        exact hsends.drawn (ht ▸ hask.drawn)
      · exact hsends.others r'.test ht
    · rw [List.mem_singleton.mp hnew]
      exact hasks
  have hmem := h.follows.mem_of_adds hfollows hadds
  have hasked : ∀ r' ∈ w.requests ++ [r], r'.test ∈ past'.map Prod.fst ++ [t] := by
    intro r' hr'
    rcases List.mem_append.mp hr' with hold | hnew
    · exact hmem r'.test (h.asked r' hold)
    · rw [List.mem_singleton.mp hnew]
      exact List.mem_append_right _ (List.mem_singleton_self t)
  have harriving := arriving_eq (w.requests ++ [r]) hasks (by simp)
    fun b hb r' hr' => by
      rw [(hall r' hr').dest, roleOf_of_before hfollows
        (congrArg (fun t => [t]) (hb : t = .filtering b)) r'.test (hasked r' hr')]
  exact
    { follows := hfollows
      asks := hall
      asked := hasked
      reached := fun t' ht' => hmem t' (h.reached t' ht')
      explains := hexplains
      waiting := by
        rintro t' ht'
        obtain rfl : t = t' := Phase.waiting.inj ht'
        refine ⟨fun hlets => ?_, fun hr => ?_⟩
        · rw [send]
          dsimp only
          rw [harriving, if_pos hlets]
          exact List.mem_cons_self ..
        · exact h.not_reached hfollows hadds hr
      finished := by
        intro e he
        cases he
      polled := fun hp => absurd hp (show S_OK ≠ E_STUNCLIENT_RESULTS_READY by decide) }

theorem Tracks.poll (h : site.Tracks w past phase rest) (entropy : CStunMessageBuilder.Entropy)
    (spMsg : CBuffer) (time : UInt32) : ∃ past' phase' rest',
      site.Tracks (site.step w (.poll entropy spMsg time)) past' phase' rest' := by
  by_cases hcap : 800 ≤ spMsg.getAllocatedSize
  · have hpolled := h.follows.getNextMessage entropy time hcap
    rw [step]
    generalize CStunClientLogic.getNextMessage entropy spMsg time w.client = res at hpolled ⊢
    cases hpolled with
    | stillWaiting hwait =>
      have hne : E_STUNCLIENT_STILL_WAITING ≠ E_STUNCLIENT_RESULTS_READY := by decide
      exact ⟨past, phase, rest, { h with polled := fun hp => absurd hp hne }⟩
    | ready hfollows hadds hids => exact ⟨_, _, _, h.ready hfollows hadds hids⟩
    | sent hfollows hadds hsends =>
      dsimp only
      rw [hfollows.currentTest]
      exact ⟨_, _, _, h.sent hfollows hadds hsends⟩
  · obtain ⟨hr, hcall, hne⟩ := getNextMessage_small entropy time w.client (not_le.mp hcap)
    rw [step, hcall]
    exact ⟨past, phase, rest, { h with polled := fun hp => absurd hp hne }⟩

/-! ### A response -/

/-- The reasons stay, when a response to another test comes in. -/
theorem Tracks.explains_reached (h : site.Tracks w past phase rest)
    (ht : t ∉ past.map Prod.fst) (c' : CStunClientLogic) :
    ∀ e ∈ past, site.Explains { w with client := c', reached := t :: w.reached } e := by
  intro e he
  refine Explains.mono (h.explains e (List.mem_append_left _ he)) (fun _ hd => hd) fun hr => ?_
  refine (List.mem_cons.mp hr).resolve_left fun heq => ht ?_
  rw [← heq]
  exact List.mem_map_of_mem he

/-- An answer to the current test. -/
theorem Tracks.answered (h : site.Tracks w past (.waiting t) rest) (hlets : site.LetsThrough t)
    (source : CSocketAddress) :
    site.Tracks
      { w with
        client := (CStunClientLogic.processResponse (.initNoAlloc
          (site.response (site.roleOf t) t.change (w.client.test t).transid).encode) source
          site.addrLocal).after w.client
        reached := t :: w.reached }
      past (.finished (t, .answered (site.answerOf t))) rest := by
  obtain ⟨hmapped, hother⟩ := site.response_reads (site.roleOf t) t.change (w.client.test t).transid
  obtain ⟨hfollows, hids⟩ := h.follows.processResponse (site.answerOf t) source rfl hmapped
    (congrArg Except.toOption hother)
  have hnodup := h.follows.nodup
  have hnew : t ∉ past.map Prod.fst := fun hmem =>
    (List.nodup_append.mp hnodup).2.2 t hmem t (List.mem_cons_self ..) rfl
  exact
    { follows := hfollows
      asks := fun r hr => (h.asks r hr).congr (hids r.test)
      asked := h.asked
      reached := fun t' ht' => by
        rcases List.mem_cons.mp ht' with rfl | hold
        · exact List.mem_append_right _ (List.mem_singleton_self _)
        · exact h.reached t' hold
      explains := fun e he => by
        rcases List.mem_append.mp he with hold | hnow
        · exact h.explains_reached hnew _ e hold
        · rw [List.mem_singleton.mp hnow]
          exact ⟨rfl, hlets⟩
      waiting := nofun
      finished := fun e he => ⟨site.answerOf t, by rw [← Phase.finished.inj he]⟩
      polled := fun hp => absurd (h.polled hp).1 nofun }

/-- A response that the client does not wait for leaves it as it is. -/
theorem Tracks.unmoved (h : site.Tracks w past phase rest) (hids : w.client.DistinctIds)
    {r : Request} (hr : r ∈ w.requests) (hwait : phase ≠ .waiting r.test)
    (source : CSocketAddress) :
    (CStunClientLogic.processResponse (.initNoAlloc (site.response (site.roleOf r.test)
      r.test.change (w.client.test r.test).transid).encode) source site.addrLocal).after w.client =
        w.client := by
  have hdrawn := (h.asks r hr).drawn
  have hcurrent := h.follows.currentTest
  cases phase with
  | unsent =>
    cases rest with
    | nil =>
      refine processResponse_idle fun t ht => ?_
      rw [hcurrent] at ht
      cases ht
    | cons t rest =>
      refine processResponse_other hcurrent fun hid => ?_
      have hid' : (w.client.test r.test).transid = (w.client.test t).transid := hid
      rw [hid', h.follows.rest t (List.mem_cons_self ..)] at hdrawn
      exact absurd hdrawn (by decide)
  | waiting t =>
    refine processResponse_other hcurrent fun hid => ?_
    refine hids r.test t (fun heq => hwait ?_) hdrawn hid
    rw [heq]
  | finished e =>
    refine processResponse_idle fun t ht => ?_
    rw [hcurrent] at ht
    rw [← Option.some.inj ht]
    exact h.follows.phase.2

/-- A response that the client does not wait for. -/
theorem Tracks.dropped (h : site.Tracks w past phase rest) {r : Request} (hr : r ∈ w.requests)
    (hwait : phase ≠ .waiting r.test) :
    site.Tracks
      { w with
        reached := if w.client.currentTest = some r.test then r.test :: w.reached else w.reached }
      past phase rest := by
  have hasked := h.asked r hr
  have hnodup := h.follows.nodup
  split_ifs with hcurrent
  · rw [h.follows.currentTest] at hcurrent
    cases phase with
    | unsent =>
      rw [Phase.current, List.append_nil] at hasked
      exact absurd rfl ((List.nodup_append.mp hnodup).2.2 r.test hasked r.test
        (List.mem_of_mem_head? hcurrent))
    | waiting t => exact absurd (congrArg Phase.waiting (Option.some.inj hcurrent)) hwait
    | finished e =>
      obtain ⟨answer, hanswer⟩ := h.finished e rfl
      have htest : e.1 = r.test := Option.some.inj hcurrent
      have hnew : r.test ∉ past.map Prod.fst := fun hmem =>
        (List.nodup_append.mp hnodup).2.2 r.test hmem e.1 (List.mem_cons_self ..) htest.symm
      exact
        { h with
          reached := fun t ht => by
            rcases List.mem_cons.mp ht with rfl | hold
            · exact hasked
            · exact h.reached t hold
          explains := fun e' he' => by
            rcases List.mem_append.mp he' with hold | hnow
            · exact h.explains_reached hnew w.client e' hold
            · have hexplains := h.explains e' he'
              obtain ⟨t, outcome⟩ := e'
              obtain rfl : e = (t, outcome) := (List.mem_singleton.mp hnow).symm
              obtain rfl : outcome = .answered answer := hanswer
              exact hexplains
          waiting := by
            intro t ht
            cases ht }
  · exact h

theorem Tracks.deliver (h : site.Tracks w past phase rest) (hids : w.client.DistinctIds)
    (index : ℕ) : ∃ past' phase' rest',
      site.Tracks (site.step w (.deliver index)) past' phase' rest' := by
  rw [step]
  cases hr : w.requests[index]? with
  | none => exact ⟨past, phase, rest, h⟩
  | some r =>
    dsimp only
    have hmem : r ∈ w.requests := List.mem_of_getElem? hr
    cases harriving : site.arriving w.requests r with
    | none => exact ⟨past, phase, rest, h⟩
    | some packet =>
      obtain ⟨hrespond, -⟩ := Option.filter_eq_some_iff.mp harriving
      rw [respond_eq (h.asks r hmem), Option.some.injEq] at hrespond
      dsimp only
      rw [receive, ← hrespond]
      dsimp only
      by_cases hwait : phase = .waiting r.test
      · subst hwait
        have hfilter := arriving_eq w.requests (h.asks r hmem) hmem fun b hb r' hr' => by
          rw [(h.asks r' hr').dest, roleOf_of_before h.follows
            (congrArg (fun t => [t]) hb) r'.test (h.asked r' hr')]
        have hlets : site.LetsThrough r.test := by
          by_contra hno
          rw [hfilter, if_neg hno] at harriving
          cases harriving
        have hcurrent : w.client.currentTest = some r.test := h.follows.currentTest
        rw [if_pos hcurrent]
        exact ⟨_, _, _, h.answered hlets _⟩
      · rw [h.unmoved hids hmem hwait]
        exact ⟨past, phase, rest, h.dropped hmem hwait⟩

/-! ### Runs -/

theorem tracks_start (site : Site) :
    site.Tracks site.start [] .unsent (testsOf (configure site.config)) where
  follows := by
    refine follows_initializeWith ?_ ?_
    · rw [site.addrServer]
      exact site.grid.isIPAddressZero_endpoint _
    · rw [site.addrServer]
      exact site.grid.getPort_endpoint_ne _
  asks := nofun
  asked := nofun
  reached := nofun
  explains := nofun
  waiting := nofun
  finished := nofun
  polled := fun hp => absurd hp (show S_OK ≠ E_STUNCLIENT_RESULTS_READY by decide)

/-- A step keeps the ids that have been drawn. -/
theorem keepsDrawn_step (site : Site) (w : World) (event : Event) :
    KeepsDrawn w.client (site.step w event).client := by
  cases event with
  | poll entropy spMsg time =>
    have hkeeps := keepsDrawn_getNextMessage entropy spMsg time w.client
    rw [Hr.after] at hkeeps
    rw [step]
    cases hcall : w.client.getNextMessage entropy spMsg time with
    | error hr client =>
      rw [hcall] at hkeeps
      exact hkeeps
    | ok msg client =>
      rw [hcall] at hkeeps
      dsimp only
      cases client.currentTest <;> exact hkeeps
  | deliver index =>
    rw [step]
    cases w.requests[index]? with
    | none => exact fun _ _ => rfl
    | some r =>
      dsimp only
      cases site.arriving w.requests r with
      | none => exact fun _ _ => rfl
      | some packet => exact keepsDrawn_processResponse _ _ _ _

/-- Ids that are distinct at the end were so all the time. -/
theorem distinctIds_of_keepsDrawn (hkeeps : KeepsDrawn c c') (h : c'.DistinctIds) :
    c.DistinctIds := by
  intro t t' hne hdrawn heq
  refine h t t' hne (by rwa [hkeeps t hdrawn]) ?_
  rw [hkeeps t hdrawn, heq, hkeeps t' (heq ▸ hdrawn)]

theorem run_tracks (events : List Event) (hids : (site.run events).client.DistinctIds) :
    ∃ past phase rest, site.Tracks (site.run events) past phase rest := by
  induction events using List.reverseRecOn with
  | nil => exact ⟨_, _, _, site.tracks_start⟩
  | append_singleton events event ih =>
    have hrun : site.run (events ++ [event]) = site.step (site.run events) event :=
      List.foldl_concat ..
    rw [hrun] at hids ⊢
    have hids' := distinctIds_of_keepsDrawn (site.keepsDrawn_step (site.run events) event) hids
    obtain ⟨past, phase, rest, h⟩ := ih hids'
    cases event with
    | poll entropy spMsg time => exact h.poll entropy spMsg time
    | deliver index => exact h.deliver hids' index

end StunServer.Site

import StunServer.Proofs.ClientTests

/-! The client follows its history: each pass of the loop in `GetNextMessage`, a whole call,
and each message passed on to `ProcessResponse`. -/

namespace StunServer

open Bytes CStunMessageBuilder

/-! ### What a test looks at -/

namespace IStunClientTest

variable {t : IStunClientTest} {s s' : ClientTestState}

theorem preRunCheck_transid (t : IStunClientTest) (s : ClientTestState) :
    (t.preRunCheck s).test.transid = s.test.transid := by
  cases t with
  | binding => rfl
  | behavior fIsTest3 =>
    rw [preRunCheck, CBehaviorTest.preRunCheck]
    split_ifs <;> rfl
  | filtering fIsTest3 => rfl

/-- An early check that leaves the test to be run changes nothing. -/
theorem preRunCheck_eq (h : (t.preRunCheck s).test.fCompleted = false) : t.preRunCheck s = s := by
  cases t with
  | binding => rfl
  | behavior fIsTest3 =>
    rw [preRunCheck, CBehaviorTest.preRunCheck] at h ⊢
    split_ifs at h ⊢ with hc
    rfl
  | filtering fIsTest3 => rfl

/-- Whether a test is ready does not depend on its transaction id. -/
theorem isReadyToRun_congr (htest : s.test.fCompleted = s'.test.fCompleted)
    (hresults : s.results = s'.results) : t.isReadyToRun s = t.isReadyToRun s' := by
  obtain ⟨⟨fCompleted, transid⟩, results⟩ := s
  obtain ⟨⟨fCompleted', transid'⟩, results'⟩ := s'
  obtain rfl : fCompleted = fCompleted' := htest
  obtain rfl : results = results' := hresults
  cases t <;> rfl

theorem notifyTimeout_test (t : IStunClientTest) (s : ClientTestState) :
    (t.notifyTimeout s).test = { s.test with fCompleted := true } := by
  cases t <;> rfl

theorem notifyTimeout_results (hresults : s.results = s'.results) :
    (t.notifyTimeout s).results = (t.notifyTimeout s').results := by
  obtain ⟨test, results⟩ := s
  obtain ⟨test', results'⟩ := s'
  obtain rfl : results = results' := hresults
  cases t <;> rfl

theorem processResponse_transid (config : StunClientLogicConfig) (spMsg : CBuffer)
    (addrRemote addrLocal : CSocketAddress) (t : IStunClientTest) (s : ClientTestState) :
    ((t.processResponse config spMsg addrRemote addrLocal).after s).test.transid =
      s.test.transid := by
  rw [Hr.after, processResponse]
  cases s.test.basicReaderValidation spMsg with
  | error hr => rfl
  | ok reader =>
    dsimp only
    cases t.readResults config reader addrLocal s.results <;> rfl

theorem Runs.checked_eq {r : StunClientResults} (h : t.Runs r) : t.checked r = ⟨.create, r⟩ :=
  preRunCheck_eq h.1

/-- A test that is still to be completed is as ready as it was when it was set up. -/
theorem Runs.isReadyToRun {r : StunClientResults} (h : t.Runs r)
    (htest : s.test.fCompleted = false) (hresults : s.results = r) : t.isReadyToRun s = true := by
  rw [← h.2, h.checked_eq]
  exact isReadyToRun_congr htest hresults

theorem runs_filtering_iff {r : StunClientResults} {fIsTest3 : Bool} : (filtering fIsTest3).Runs r ↔
    r.fBindingTestSuccess = true ∧ r.fHasOtherAddress = true ∧ r.fFilteringTestSuccess = false ∧
      r.fGotTest2Response = false := by
  rw [Runs, checked, preRunCheck, isReadyToRun, CFilteringTest.isReadyToRun]
  simp [CStunClientTestBase.create, and_assoc]

end IStunClientTest

namespace CStunClientLogic

variable {config : StunClientLogicConfig} {past : List Entry} {phase : Phase}
  {rest : List IStunClientTest} {c c' : CStunClientLogic} {t : IStunClientTest}
  {entropy : Entropy} {spMsg : CBuffer} {time : UInt32}

/-- The transaction ids of the tests are as before. -/
def KeepsIds (c c' : CStunClientLogic) : Prop := ∀ t, (c'.test t).transid = (c.test t).transid

/-- The request of `t` is in `msg`, with the address it goes to. -/
structure Sends (t : IStunClientTest) (c c' : CStunClientLogic) (msg : CBuffer × CSocketAddress) :
    Prop where
  bytes : msg.1.bytes = (bindingRequest t.change (c'.test t).transid).encode
  dest : msg.2 = t.addrDest c'.config c'.results
  /-- Nothing but the id of `t` may be new. -/
  others : ∀ t' ≠ t, (c'.test t').transid = (c.test t').transid
  drawn : isTransactionIdValid (c.test t).transid = true →
    (c'.test t).transid = (c.test t).transid

section

theorem setScope_self (t : IStunClientTest) (c : CStunClientLogic) : c.setScope t (c.scope t) = c := by
  rw [setScope, scope, Function.update_eq_self]

theorem setScope_test (t : IStunClientTest) (c : CStunClientLogic) (s : ClientTestState) :
    (c.setScope t s).test t = s.test := by
  simp [setScope]

theorem setScope_test_of_ne {t' : IStunClientTest} (h : t' ≠ t) (c : CStunClientLogic)
    (s : ClientTestState) : (c.setScope t s).test t' = c.test t' := by
  simp [setScope, h]

theorem keepsIds_setScope {s : ClientTestState} (h : s.test.transid = (c.test t).transid) :
    KeepsIds c (c.setScope t s) := by
  intro t'
  by_cases ht : t' = t
  · rw [ht, setScope_test, h]
  · rw [setScope_test_of_ne ht]

end

/-- The client after the request of `t`. -/
def sent (entropy : Entropy) (time : UInt32) (t : IStunClientTest) (c : CStunClientLogic) :
    CStunClientLogic :=
  { c.setScope t ⟨(c.test t).storeTransactionId entropy, c.results⟩ with
    sendCount := c.sendCount + 1
    timeLastMessageSent := time }

theorem sendMessage_eq (entropy : Entropy) (time : UInt32) (hcap : 800 ≤ spMsg.getAllocatedSize)
    (t : IStunClientTest) (c : CStunClientLogic) : ∃ msg,
      sendMessage entropy spMsg time t c = .ok msg (c.sent entropy time t) ∧
        Sends t c (c.sent entropy time t) msg := by
  refine ⟨_, rfl, ?_, rfl, fun t' ht => ?_, fun hid => ?_⟩
  · rw [show (c.sent entropy time t).test t = (c.test t).storeTransactionId entropy from
      setScope_test t c _]
    exact (c.test t).getMessage_bytes t.change entropy hcap
  · exact congrArg CStunClientTestBase.transid (setScope_test_of_ne ht c _)
  · rw [show (c.sent entropy time t).test t = (c.test t).storeTransactionId entropy from
      setScope_test t c _, CStunClientTestBase.storeTransactionId, if_pos hid]

namespace Follows

theorem currentTest (h : Follows config past phase rest c) :
    c.currentTest = (phase.current ++ rest).head? := by
  rw [CStunClientLogic.currentTest, h.testlist, h.split, h.index,
    List.getElem?_append_right (by rw [List.length_map]), List.length_map, Nat.sub_self,
    List.head?_eq_getElem?]

/-- No test is run twice. -/
theorem nodup (h : Follows config past phase rest c) :
    (past.map Prod.fst ++ (phase.current ++ rest)).Nodup := by
  rw [← h.split]
  cases hf : config.fFilteringTest <;> cases hb : config.fBehaviorTest <;> simp [testsOf, hf, hb]

/-! As long as nothing is known of the current test, the history is that of the tests before. -/

theorem history_open (h : Follows config past phase rest c) (hentry : phase.entry = []) :
    IsHistory config past := by
  have hh := h.history
  rwa [hentry, List.append_nil] at hh

theorem results_open (h : Follows config past phase rest c) (hentry : phase.entry = []) :
    c.results = replay config past := by
  rw [h.results, hentry, List.append_nil]

theorem ne_of_mem {rest' : List IStunClientTest} (h : Follows config past phase rest' c)
    (hlist : phase.current ++ rest' = t :: rest) : ∀ t' ∈ rest, t' ≠ t := by
  rintro t' ht' rfl
  have hnodup := h.nodup
  rw [hlist] at hnodup
  exact (List.nodup_cons.mp (List.nodup_append.mp hnodup).2.1).1 ht'

/-- The current test is done, with results that go by what became of it. -/
theorem finish {rest' : List IStunClientTest} (h : Follows config past phase rest' c)
    (outcome : Outcome) (hlist : phase.current ++ rest' = t :: rest) (hentry : phase.entry = [])
    (hrest : ∀ t' ∈ rest, c.test t' = .create)
    (hchecked : c.fPreCheckRunOnTest = true ∨ t = .binding)
    (hfits : Entry.Fits (replay config past) (t, outcome)) {s : ClientTestState}
    (hcompleted : s.test.fCompleted = true)
    (hresults : s.results = replayStep config (replay config past) (t, outcome)) :
    Follows config past (.finished (t, outcome)) rest (c.setScope t s) where
  fInitialized := h.fInitialized
  config_eq := h.config_eq
  attempts := h.attempts
  testlist := h.testlist
  split := h.split.trans (by rw [hlist]; rfl)
  index := h.index
  history := (h.history_open hentry).snoc hfits
  results := by
    rw [Phase.entry, replay_snoc]
    exact hresults
  rest t' ht' := (setScope_test_of_ne (h.ne_of_mem hlist t' ht') c s).trans (hrest t' ht')
  phase := by
    refine ⟨hchecked, ?_⟩
    rw [setScope_test]
    exact hcompleted

/-- The client, once the current test has been checked. -/
theorem preCheck_unsent (h : Follows config past .unsent (t :: rest) c) :
    c.preCheck t = { c.setScope t (t.checked c.results) with fPreCheckRunOnTest := true } := by
  have hscope : c.scope t = ⟨.create, c.results⟩ := by
    rw [scope, h.rest t (List.mem_cons_self ..)]
  rw [preCheck, if_pos h.phase.2, hscope, IStunClientTest.checked]

theorem preCheck_of_checked (h : c.fPreCheckRunOnTest = true) : c.preCheck t = c := by
  rw [preCheck, if_neg (by rw [h]; decide)]

/-- The binding test has no early check. -/
theorem preCheck_binding (c : CStunClientLogic) :
    c.preCheck .binding = { c with fPreCheckRunOnTest := true } := by
  unfold preCheck
  split_ifs with hchecked
  · exact congrArg (fun c : CStunClientLogic => { c with fPreCheckRunOnTest := true })
      (setScope_self .binding c)
  · rw [← eq_true_of_ne_false hchecked]

/-- A test that is not called for is skipped. -/
theorem pass_skip (h : Follows config past .unsent (t :: rest) c) (hn : ¬t.Runs c.results) :
    ∃ c', pass entropy spMsg time c = .inr c' ∧
      Follows config (past ++ [(t, .skipped)]) .unsent rest c' ∧ KeepsIds c c' := by
  set c₁ : CStunClientLogic := { c.setScope t (t.checked c.results) with fPreCheckRunOnTest := true }
  have hpre : c.preCheck t = c₁ := h.preCheck_unsent
  have hcreate : c.test t = .create := h.rest t (List.mem_cons_self ..)
  have htest : c₁.test t = (t.checked c.results).test := setScope_test t c _
  have hscope : c₁.scope t = t.checked c.results := by
    rw [scope, htest]
    rfl
  have hskip : ((c₁.test t).fCompleted || decide (t.isReadyToRun (c₁.scope t) = false)) = true := by
    rw [hscope, htest]
    by_contra hrun
    rw [Bool.or_eq_true, decide_eq_true_eq, not_or, Bool.not_eq_true, Bool.not_eq_false] at hrun
    exact hn hrun
  refine ⟨c₁.nextTest, ?_, ?_, ?_⟩
  · rw [pass, h.currentTest]
    change serveTest entropy spMsg time t (c.preCheck t) = _
    rw [hpre, serveTest, if_pos hskip]
  · have hresults := h.results_open rfl
    exact
      { fInitialized := h.fInitialized
        config_eq := h.config_eq
        attempts := h.attempts
        testlist := h.testlist
        split := by rw [h.split]; simp [Phase.current]
        index := by
          rw [List.length_append, ← h.index]
          rfl
        history := by
          rw [Phase.entry, List.append_nil]
          refine (h.history_open rfl).snoc ?_
          rw [← hresults]
          exact hn
        results := by
          rw [Phase.entry, List.append_nil, replay_snoc, ← hresults]
          rfl
        rest := fun t' ht' => (setScope_test_of_ne (h.ne_of_mem rfl t' ht') c _).trans
          (h.rest t' (List.mem_cons_of_mem _ ht'))
        phase := ⟨rfl, rfl⟩ }
  · refine keepsIds_setScope ?_
    rw [hcreate, IStunClientTest.checked, IStunClientTest.preRunCheck_transid]

/-- The current test is sent, for the first time or once more. -/
theorem send {rest' : List IStunClientTest} (h : Follows config past phase rest' c)
    (entropy : Entropy) (time : UInt32) (hlist : phase.current ++ rest' = t :: rest) (hentry : phase.entry = [])
    (hrest : ∀ t' ∈ rest, c.test t' = .create) (hcount : c.sendCount < config.uMaxAttempts)
    (hruns : t.Runs (replay config past)) (hcompleted : (c.test t).fCompleted = false) :
    Follows config past (.waiting t) rest
      (CStunClientLogic.sent entropy time t { c with fPreCheckRunOnTest := true }) := by
  have htest : (CStunClientLogic.sent entropy time t
      { c with fPreCheckRunOnTest := true }).test t = (c.test t).storeTransactionId entropy :=
    setScope_test t _ _
  exact
    { fInitialized := h.fInitialized
      config_eq := h.config_eq
      attempts := h.attempts
      testlist := h.testlist
      split := h.split.trans (by rw [hlist]; rfl)
      index := h.index
      history := by
        have hh := h.history
        rwa [hentry] at hh
      results := h.results.trans (by rw [hentry]; rfl)
      rest := fun t' ht' =>
        (setScope_test_of_ne (h.ne_of_mem hlist t' ht') _ _).trans (hrest t' ht')
      phase := by
        refine ⟨?_, rfl, hruns, ?_, ?_⟩
        · change c.sendCount + 1 ≠ 0
          rw [UInt32.lt_iff_toNat_lt] at hcount
          have hlt := config.uMaxAttempts.toNat_lt
          rw [← UInt32.toNat_inj.ne, UInt32.toNat_add, Nat.mod_eq_of_lt (by
            rw [UInt32.toNat_one]
            omega)]
          exact Nat.succ_ne_zero _
        · rw [htest, CStunClientTestBase.storeTransactionId]
          split_ifs <;> exact hcompleted
        · rw [htest]
          exact (c.test t).storeTransactionId_valid entropy }

theorem pass_send (hcap : 800 ≤ spMsg.getAllocatedSize)
    (h : Follows config past .unsent (t :: rest) c) (hr : t.Runs c.results) :
    ∃ msg c', pass entropy spMsg time c = .inl (.ok msg c') ∧
      Follows config past (.waiting t) rest c' ∧ Sends t c c' msg := by
  have hresults := h.results_open rfl
  have hcreate : c.test t = .create := h.rest t (List.mem_cons_self ..)
  have hcount : c.sendCount < config.uMaxAttempts := by
    rw [h.phase.1, UInt32.pos_iff_ne_zero]
    exact h.attempts
  set c₁ : CStunClientLogic := { c with fPreCheckRunOnTest := true }
  have hpre : c.preCheck t = c₁ := by
    rw [h.preCheck_unsent, hr.checked_eq, ← hcreate]
    exact congrArg (fun c : CStunClientLogic => { c with fPreCheckRunOnTest := true })
      (setScope_self t c)
  obtain ⟨msg, hmsg, hsends⟩ := sendMessage_eq entropy time hcap t c₁
  refine ⟨msg, _, ?_, h.send entropy time rfl rfl (fun t' ht' => h.rest t' (List.mem_cons_of_mem _ ht')) hcount
    (hresults ▸ hr) (by rw [hcreate]; rfl), ⟨hsends.bytes, hsends.dest, hsends.others, hsends.drawn⟩⟩
  have hcompleted : (c₁.test t).fCompleted = false := congrArg CStunClientTestBase.fCompleted hcreate
  have hready : ¬((c₁.test t).fCompleted || decide (t.isReadyToRun (c₁.scope t) = false)) = true := by
    rw [hr.isReadyToRun (s := c₁.scope t) hcompleted rfl, hcompleted]
    decide
  have hfirst : ¬(c₁.diff time < c₁.config.timeoutSeconds ∧ c₁.sendCount ≠ 0) :=
    fun hw => hw.2 h.phase.1
  have hmore : ¬c₁.sendCount ≥ c₁.config.uMaxAttempts := by
    rw [show c₁.config = config from h.config_eq]
    exact UInt32.not_le.mpr hcount
  rw [pass, h.currentTest]
  change serveTest entropy spMsg time t (c.preCheck t) = _
  rw [hpre, serveTest, if_neg hready, if_neg hfirst, if_neg hmore, hmsg]

/-- A pass on a test that has been sent and not answered. -/
theorem pass_serves (h : Follows config past (.waiting t) rest c) (entropy : Entropy)
    (spMsg : CBuffer) (time : UInt32) :
    pass entropy spMsg time c = serveTest entropy spMsg time t c ∧
      ¬((c.test t).fCompleted || decide (t.isReadyToRun (c.scope t) = false)) = true := by
  obtain ⟨-, hchecked, hruns, hcompleted, -⟩ := h.phase
  constructor
  · rw [pass, h.currentTest]
    change serveTest entropy spMsg time t (c.preCheck t) = _
    rw [preCheck_of_checked hchecked]
  · rw [hruns.isReadyToRun (s := c.scope t) hcompleted (h.results_open rfl), hcompleted]
    decide

/-- There is time left. -/
theorem pass_early (h : Follows config past (.waiting t) rest c)
    (hearly : c.diff time < config.timeoutSeconds) :
    pass entropy spMsg time c = .inl (.error E_STUNCLIENT_STILL_WAITING c) := by
  obtain ⟨hpass, hready⟩ := h.pass_serves entropy spMsg time
  rw [← h.config_eq] at hearly
  rw [hpass, serveTest, if_neg hready, if_pos ⟨hearly, h.phase.1⟩]

/-- There is time left, or the test is given up, or it is sent once more. -/
theorem pass_waiting (hcap : 800 ≤ spMsg.getAllocatedSize)
    (h : Follows config past (.waiting t) rest c) :
    pass entropy spMsg time c = .inl (.error E_STUNCLIENT_STILL_WAITING c) ∨
    (∃ c', pass entropy spMsg time c = .inr c' ∧
      Follows config past (.finished (t, .timedOut)) rest c' ∧ KeepsIds c c') ∨
    ∃ msg c', pass entropy spMsg time c = .inl (.ok msg c') ∧
      Follows config past (.waiting t) rest c' ∧ Sends t c c' msg := by
  obtain ⟨hpass, hready⟩ := h.pass_serves entropy spMsg time
  obtain ⟨hsent, hchecked, hruns, hcompleted, hid⟩ := h.phase
  have hresults := h.results_open rfl
  rw [hpass, serveTest, if_neg hready]
  by_cases hwait : c.diff time < c.config.timeoutSeconds ∧ c.sendCount ≠ 0
  · rw [if_pos hwait]
    exact Or.inl rfl
  rw [if_neg hwait]
  by_cases hcount : c.sendCount ≥ c.config.uMaxAttempts
  · rw [if_pos hcount]
    refine Or.inr (Or.inl ⟨_, rfl, ?_, ?_⟩)
    · refine h.finish .timedOut rfl rfl h.rest (Or.inl hchecked) hruns ?_
        (IStunClientTest.notifyTimeout_results hresults)
      rw [IStunClientTest.notifyTimeout_test]
    · refine keepsIds_setScope ?_
      rw [IStunClientTest.notifyTimeout_test]
      rfl
  · rw [if_neg hcount]
    obtain ⟨msg, hmsg, hsends⟩ := sendMessage_eq entropy time hcap t c
    have hsame : { c with fPreCheckRunOnTest := true } = c := by
      rw [← hchecked]
    have hfollows := h.send entropy time rfl rfl h.rest
      (by rw [← h.config_eq]; exact UInt32.not_le.mp hcount) hruns hcompleted
    rw [hsame] at hfollows
    refine Or.inr (Or.inr ⟨msg, _, ?_, hfollows, hsends⟩)
    rw [hmsg]

theorem pass_finished {e : Entry} (h : Follows config past (.finished e) rest c) :
    ∃ c', pass entropy spMsg time c = .inr c' ∧
      Follows config (past ++ [e]) .unsent rest c' ∧ KeepsIds c c' := by
  obtain ⟨t, outcome⟩ := e
  obtain ⟨hchecked, hcompleted⟩ := h.phase
  have hpre : c.preCheck t = { c with fPreCheckRunOnTest := true } := by
    rcases hchecked with hchecked | rfl
    · rw [preCheck_of_checked hchecked, ← hchecked]
    · exact preCheck_binding c
  refine ⟨c.nextTest, ?_, ?_, fun _ => rfl⟩
  · rw [pass, h.currentTest]
    change serveTest entropy spMsg time t (c.preCheck t) = _
    rw [hpre, serveTest, if_pos (by rw [hcompleted, Bool.true_or])]
    rfl
  · exact
      { fInitialized := h.fInitialized
        config_eq := h.config_eq
        attempts := h.attempts
        testlist := h.testlist
        split := by rw [h.split]; simp [Phase.current]
        index := by
          rw [List.length_append, ← h.index]
          rfl
        history := by
          rw [Phase.entry, List.append_nil]
          exact h.history
        results := by
          rw [Phase.entry, List.append_nil]
          exact h.results
        rest := h.rest
        phase := ⟨rfl, rfl⟩ }

theorem pass_done (h : Follows config past .unsent [] c) :
    pass entropy spMsg time c = .inl (.error E_STUNCLIENT_RESULTS_READY c) := by
  rw [pass, h.currentTest]
  rfl

end Follows

/-! ### A call of `GetNextMessage` -/

/-- What becomes known of the tests: some are skipped, and the one that was sent may have been
given up. -/
def Adds (past : List Entry) (phase : Phase) (past' : List Entry) (phase' : Phase) : Prop :=
  ∃ more, past' ++ phase'.entry = past ++ phase.entry ++ more ∧
    ∀ e ∈ more, e.2 = .skipped ∨ phase = .waiting e.1 ∧ e.2 = .timedOut

theorem Adds.refl (past : List Entry) (phase : Phase) : Adds past phase past phase :=
  ⟨[], (List.append_nil _).symm, nofun⟩

theorem Adds.concat {past' past'' : List Entry} {phase' phase'' : Phase} {e : Entry}
    (h : Adds past phase past' phase')
    (heq : past'' ++ phase''.entry = past' ++ phase'.entry ++ [e])
    (he : e.2 = .skipped ∨ phase = .waiting e.1 ∧ e.2 = .timedOut) :
    Adds past phase past'' phase'' := by
  obtain ⟨more, hmore, hall⟩ := h
  refine ⟨more ++ [e], by rw [heq, hmore, List.append_assoc], fun e' he' => ?_⟩
  rcases List.mem_append.mp he' with hold | hnew
  · exact hall e' hold
  · obtain rfl := List.mem_singleton.mp hnew
    exact he

theorem Adds.congr {past' past'' : List Entry} {phase' phase'' : Phase}
    (h : Adds past phase past' phase')
    (heq : past'' ++ phase''.entry = past' ++ phase'.entry) : Adds past phase past'' phase'' := by
  obtain ⟨more, hmore, hall⟩ := h
  exact ⟨more, heq.trans hmore, hall⟩

/-- The tests known so far are known after a request, too. -/
theorem Follows.mem_of_adds {config : StunClientLogicConfig} {past' : List Entry}
    {rest' : List IStunClientTest} (h : Follows config past phase rest c)
    (h' : Follows config past' (.waiting t) rest' c') (hadds : Adds past phase past' (.waiting t)) :
    ∀ t' ∈ past.map Prod.fst ++ phase.current, t' ∈ past'.map Prod.fst ++ [t] := by
  obtain ⟨more, hmore, -⟩ := hadds
  have hlen := congrArg List.length hmore
  have hle : (past.map Prod.fst ++ phase.current).length ≤ (past'.map Prod.fst ++ [t]).length := by
    cases phase <;> simp [Phase.entry, Phase.current] at hlen ⊢ <;> omega
  have hfront : past.map Prod.fst ++ phase.current <+: testsOf config := by
    rw [h.split, ← List.append_assoc]
    exact List.prefix_append _ _
  have hfront' : past'.map Prod.fst ++ [t] <+: testsOf config := by
    rw [h'.split, ← List.append_assoc]
    exact List.prefix_append _ _
  exact fun t' ht' => (List.prefix_of_prefix_length_le hfront hfront' hle).subset ht'

/-- How a call of `GetNextMessage` ends. -/
inductive Polled (config : StunClientLogicConfig) (past : List Entry) (phase : Phase)
    (c : CStunClientLogic) : MessageResult → Prop where
  | stillWaiting {t : IStunClientTest} (waiting : phase = .waiting t) :
      Polled config past phase c (.error E_STUNCLIENT_STILL_WAITING c)
  | ready {past' : List Entry} {c' : CStunClientLogic}
      (follows : Follows config past' .unsent [] c') (adds : Adds past phase past' .unsent)
      (ids : KeepsIds c c') : Polled config past phase c (.error E_STUNCLIENT_RESULTS_READY c')
  | sent {past' : List Entry} {t : IStunClientTest} {rest' : List IStunClientTest}
      {msg : CBuffer × CSocketAddress} {c' : CStunClientLogic}
      (follows : Follows config past' (.waiting t) rest' c')
      (adds : Adds past phase past' (.waiting t)) (sends : Sends t c c' msg) :
      Polled config past phase c (.ok msg c')

/-- What is left of the loop in `GetNextMessage`: two passes for each test, one of them done
when the test is completed. -/
def passesLeft (c : CStunClientLogic) : ℕ :=
  2 * (c.testlist.length - c.nTestIndex) -
    if c.currentTest.elim false fun t => (c.test t).fCompleted then 1 else 0

theorem Follows.testsLeft (h : Follows config past phase rest c) :
    c.testlist.length - c.nTestIndex = phase.current.length + rest.length := by
  rw [h.testlist, h.split, h.index, List.length_append, List.length_append, List.length_map]
  omega

theorem Follows.passesLeft_unsent (h : Follows config past .unsent rest c) :
    c.passesLeft = 2 * rest.length := by
  have hnone : (c.currentTest.elim false fun t => (c.test t).fCompleted) = false := by
    rw [h.currentTest]
    cases rest with
    | nil => rfl
    | cons t rest => exact congrArg CStunClientTestBase.fCompleted (h.rest t (List.mem_cons_self ..))
  rw [passesLeft, h.testsLeft, hnone]
  simp [Phase.current]

theorem Follows.passesLeft_waiting (h : Follows config past (.waiting t) rest c) :
    c.passesLeft = 2 * rest.length + 2 := by
  have hnone : (c.currentTest.elim false fun t => (c.test t).fCompleted) = false := by
    rw [h.currentTest]
    exact h.phase.2.2.2.1
  rw [passesLeft, h.testsLeft, hnone]
  simp [Phase.current]
  omega

theorem Follows.passesLeft_finished {e : Entry} (h : Follows config past (.finished e) rest c) :
    c.passesLeft = 2 * rest.length + 1 := by
  have hsome : (c.currentTest.elim false fun t => (c.test t).fCompleted) = true := by
    rw [h.currentTest]
    exact h.phase.2
  rw [passesLeft, h.testsLeft, hsome]
  simp [Phase.current]
  omega

theorem KeepsIds.trans {c'' : CStunClientLogic} (h : KeepsIds c c') (h' : KeepsIds c' c'') :
    KeepsIds c c'' := fun t => (h' t).trans (h t)

theorem Sends.of_keepsIds {c'' : CStunClientLogic} {msg : CBuffer × CSocketAddress}
    (h : KeepsIds c c') (h' : Sends t c' c'' msg) : Sends t c c'' msg where
  bytes := h'.bytes
  dest := h'.dest
  others t' ht := (h'.others t' ht).trans (h t')
  drawn hid := by
    rw [← h t] at hid ⊢
    exact h'.drawn hid

theorem getNextMessage_eq (hinit : c.fInitialized = true) (hcap : 800 ≤ spMsg.getAllocatedSize) :
    getNextMessage entropy spMsg time c =
      (Loop.run (pass entropy spMsg time) (2 * c.testlist.length + 2) c).getD
        (.error E_UNEXPECTED c) := by
  have hsmall : ¬spMsg.getAllocatedSize < MAX_STUN_MESSAGE_SIZE := not_lt.mpr hcap
  rw [getNextMessage, Hr.bind_ok (Hr.get_apply c),
    Hr.bind_ok (Hr.chkIf_false (by rw [hinit]; decide) _ _),
    Hr.bind_ok (Hr.chkIf_false (by omega) _ _)]
  exact Hr.bind_ok (Hr.chkIf_false hsmall _ c)

/-- The loop ends, and how. -/
theorem Follows.getNextMessage (h : Follows config past phase rest c) (entropy : Entropy)
    (time : UInt32) (hcap : 800 ≤ spMsg.getAllocatedSize) :
    Polled config past phase c (CStunClientLogic.getNextMessage entropy spMsg time c) := by
  let I := fun s : CStunClientLogic => ∃ past' phase' rest', Follows config past' phase' rest' s ∧
    Adds past phase past' phase' ∧ KeepsIds c s ∧
      ∀ t, phase' = .waiting t → s = c ∧ past' = past ∧ phase' = phase
  have hkeeps : Loop.Keeps (pass entropy spMsg time) I (Polled config past phase c) passesLeft := by
    refine Loop.Keeps.of_pass ?_
    rintro s ⟨past', phase', rest', hfollows, hadds, hids, hwaiting⟩
    cases phase' with
    | unsent =>
      cases rest' with
      | nil => exact Or.inl ⟨_, hfollows.pass_done, .ready hfollows hadds hids⟩
      | cons t rest' =>
        by_cases hruns : t.Runs s.results
        · obtain ⟨msg, s', hpass, hfollows', hsends⟩ := hfollows.pass_send hcap hruns
          exact Or.inl ⟨_, hpass, .sent hfollows' (hadds.congr rfl) (hsends.of_keepsIds hids)⟩
        · obtain ⟨s', hpass, hfollows', hids'⟩ := hfollows.pass_skip hruns
          refine Or.inr ⟨s', hpass, ⟨_, .unsent, rest', hfollows', ?_, hids.trans hids', nofun⟩, ?_⟩
          · exact hadds.concat (e := (t, .skipped)) (by simp [Phase.entry]) (Or.inl rfl)
          · rw [hfollows.passesLeft_unsent, hfollows'.passesLeft_unsent, List.length_cons]
            omega
    | waiting t =>
      obtain ⟨rfl, rfl, rfl⟩ := hwaiting t rfl
      rcases hfollows.pass_waiting hcap with hpass | ⟨s', hpass, hfollows', hids'⟩ |
        ⟨msg, s', hpass, hfollows', hsends⟩
      · exact Or.inl ⟨_, hpass, .stillWaiting rfl⟩
      · refine Or.inr ⟨s', hpass, ⟨_, _, rest', hfollows', ?_, hids', nofun⟩, ?_⟩
        · exact hadds.concat (e := (t, .timedOut)) (by simp [Phase.entry]) (Or.inr ⟨rfl, rfl⟩)
        · rw [hfollows.passesLeft_waiting, hfollows'.passesLeft_finished]
          omega
      · exact Or.inl ⟨_, hpass, .sent hfollows' hadds hsends⟩
    | finished e =>
      obtain ⟨s', hpass, hfollows', hids'⟩ := hfollows.pass_finished
      refine Or.inr ⟨s', hpass, ⟨_, .unsent, rest', hfollows', ?_, hids.trans hids', nofun⟩, ?_⟩
      · exact hadds.congr (by simp [Phase.entry])
      · rw [hfollows.passesLeft_finished, hfollows'.passesLeft_unsent]
        omega
  have hfuel : c.passesLeft < 2 * c.testlist.length + 2 := by
    rw [passesLeft]
    omega
  obtain ⟨r, hrun, hpolled⟩ :=
    hkeeps.run ⟨past, phase, rest, h, .refl past phase, fun _ => rfl, fun _ _ => ⟨rfl, rfl, rfl⟩⟩ hfuel
  rw [getNextMessage_eq h.fInitialized hcap, hrun]
  exact hpolled

/-- A buffer that is too small changes nothing. -/
theorem getNextMessage_small (entropy : Entropy) (time : UInt32) (c : CStunClientLogic)
    (hsmall : spMsg.getAllocatedSize < 800) :
    ∃ hr, getNextMessage entropy spMsg time c = .error hr c ∧ hr ≠ E_STUNCLIENT_RESULTS_READY := by
  by_cases hinit : c.fInitialized = false
  · refine ⟨E_FAIL, ?_, by decide⟩
    rw [getNextMessage, Hr.bind_ok (Hr.get_apply c), Hr.bind_error (Hr.chkIf_true hinit _ _)]
  · refine ⟨E_INVALIDARG, ?_, by decide⟩
    rw [getNextMessage, Hr.bind_ok (Hr.get_apply c), Hr.bind_ok (Hr.chkIf_false hinit _ _)]
    by_cases hzero : spMsg.getAllocatedSize = 0
    · rw [Hr.bind_error (Hr.chkIf_true hzero _ _)]
    · rw [Hr.bind_ok (Hr.chkIf_false hzero _ _)]
      exact Hr.bind_error (Hr.chkIf_true hsmall _ _)

/-! ### Ids once drawn -/

/-- A transaction id that has been drawn stays. -/
def KeepsDrawn (c c' : CStunClientLogic) : Prop :=
  ∀ t, isTransactionIdValid (c.test t).transid = true → (c'.test t).transid = (c.test t).transid

theorem KeepsIds.keepsDrawn (h : KeepsIds c c') : KeepsDrawn c c' := fun t _ => h t

theorem KeepsDrawn.trans {c'' : CStunClientLogic} (h : KeepsDrawn c c') (h' : KeepsDrawn c' c'') :
    KeepsDrawn c c'' := fun t hid => (h' t (by rw [h t hid]; exact hid)).trans (h t hid)

theorem keepsIds_preCheck (t : IStunClientTest) (c : CStunClientLogic) :
    KeepsIds c (c.preCheck t) := by
  unfold preCheck
  split_ifs
  · exact keepsIds_setScope (t.preRunCheck_transid _)
  · exact fun _ => rfl

theorem keepsDrawn_sent (t : IStunClientTest) (c : CStunClientLogic) :
    KeepsDrawn c (c.sent entropy time t) := by
  intro t' hid
  by_cases ht : t' = t
  · subst ht
    rw [show (c.sent entropy time t').test t' = (c.test t').storeTransactionId entropy from
      setScope_test t' c _, CStunClientTestBase.storeTransactionId, if_pos hid]
  · exact congrArg CStunClientTestBase.transid (setScope_test_of_ne ht c _)

/-- The client that the loop leaves behind. -/
def MessageResult.client : MessageResult → CStunClientLogic
  | .ok _ c => c
  | .error _ c => c

theorem keepsDrawn_pass (entropy : Entropy) (spMsg : CBuffer) (time : UInt32)
    (c : CStunClientLogic) :
    KeepsDrawn c ((pass entropy spMsg time c).elim MessageResult.client id) := by
  rw [pass]
  cases c.currentTest with
  | none => exact fun _ _ => rfl
  | some t =>
    refine (keepsIds_preCheck t c).keepsDrawn.trans ?_
    dsimp only
    unfold serveTest
    split_ifs
    · exact fun _ _ => rfl
    · exact fun _ _ => rfl
    · refine (keepsIds_setScope ?_).keepsDrawn
      rw [IStunClientTest.notifyTimeout_test]
      rfl
    · exact keepsDrawn_sent t _

theorem keepsDrawn_getNextMessage (entropy : Entropy) (spMsg : CBuffer) (time : UInt32)
    (c : CStunClientLogic) :
    KeepsDrawn c ((getNextMessage entropy spMsg time).after c) := by
  have hloop : ∀ fuel, KeepsDrawn c (((Loop.run (pass entropy spMsg time) fuel c).getD
      (.error E_UNEXPECTED c)).client) := by
    intro fuel
    cases hrun : Loop.run (pass entropy spMsg time) fuel c with
    | none => exact fun _ _ => rfl
    | some r =>
      refine Loop.of_run (I := KeepsDrawn c) (Q := fun r => KeepsDrawn c r.client) ?_ ?_
        (fun _ _ => rfl) hrun
      · intro s r hs hpass
        have hkeeps := keepsDrawn_pass entropy spMsg time s
        rw [hpass] at hkeeps
        exact hs.trans hkeeps
      · intro s s' hs hpass
        have hkeeps := keepsDrawn_pass entropy spMsg time s
        rw [hpass] at hkeeps
        exact hs.trans hkeeps
  have hafter : (getNextMessage entropy spMsg time).after c =
      MessageResult.client (getNextMessage entropy spMsg time c) := by
    rw [Hr.after]
    cases getNextMessage entropy spMsg time c <;> rfl
  rw [hafter]
  by_cases hsmall : spMsg.getAllocatedSize < 800
  · obtain ⟨hr, hcall, -⟩ := getNextMessage_small entropy time c hsmall
    rw [hcall]
    exact fun _ _ => rfl
  · by_cases hinit : c.fInitialized = true
    · rw [getNextMessage_eq hinit (not_lt.mp hsmall)]
      exact hloop _
    · rw [getNextMessage, Hr.bind_ok (Hr.get_apply c),
        Hr.bind_error (Hr.chkIf_true (by simpa using hinit) _ _)]
      exact fun _ _ => rfl

/-! ### A call of `ProcessResponse` -/

section

variable {m : Message} {answer : Answer} {addrRemote addrLocal : CSocketAddress}

theorem processResponse_open (hinit : c.fInitialized = true) (hsize : spMsg.getSize ≠ 0)
    (ht : c.currentTest = some t) (hcompleted : (c.test t).fCompleted = false) :
    processResponse spMsg addrRemote addrLocal c =
      Hr.on (scope · t) (setScope t) (t.processResponse c.config spMsg addrRemote addrLocal) c := by
  rw [processResponse, Hr.bind_ok (Hr.get_apply c),
    Hr.bind_ok (Hr.chkIf_false (by rw [hinit]; decide) _ _),
    Hr.bind_ok (Hr.chkIf_false hsize _ _)]
  simp only [ht]
  exact Hr.bind_ok (Hr.chkIf_false (by rw [hcompleted]; decide) _ _)

/-- The client after an answer to the current test. -/
def answered (t : IStunClientTest) (answer : Answer) (c : CStunClientLogic) : CStunClientLogic :=
  c.setScope t ⟨{ c.test t with fCompleted := true }, t.succeed c.config answer c.results⟩

/-- A response is taken for an answer to the current test, or the call fails and changes
nothing. -/
theorem processResponse_cases (c : CStunClientLogic) (spMsg : CBuffer)
    (addrRemote addrLocal : CSocketAddress) :
    (∃ hr, processResponse spMsg addrRemote addrLocal c = .error hr c) ∨
    ∃ t reader answer, c.currentTest = some t ∧ (c.test t).fCompleted = false ∧
      readerOf spMsg = (.bodyValidated, reader) ∧
      reader.getTransactionId = (c.test t).transid ∧
      ((∀ fIsTest3, t ≠ .filtering fIsTest3) →
        reader.getAnyMappedAddress = .ok answer.addrMapped) ∧
      processResponse spMsg addrRemote addrLocal c = .ok () (c.answered t answer) := by
  by_cases hinit : c.fInitialized = true
  swap
  · refine Or.inl ⟨E_FAIL, ?_⟩
    rw [processResponse, Hr.bind_ok (Hr.get_apply c),
      Hr.bind_error (Hr.chkIf_true (by simpa using hinit) _ _)]
  by_cases hsize : spMsg.getSize = 0
  · refine Or.inl ⟨E_INVALIDARG, ?_⟩
    rw [processResponse, Hr.bind_ok (Hr.get_apply c),
      Hr.bind_ok (Hr.chkIf_false (by rw [hinit]; decide) _ _),
      Hr.bind_error (Hr.chkIf_true hsize _ _)]
  cases ht : c.currentTest with
  | none =>
    refine Or.inl ⟨E_UNEXPECTED, ?_⟩
    rw [processResponse, Hr.bind_ok (Hr.get_apply c),
      Hr.bind_ok (Hr.chkIf_false (by rw [hinit]; decide) _ _),
      Hr.bind_ok (Hr.chkIf_false hsize _ _)]
    simp only [ht]
    rfl
  | some t =>
    by_cases hcompleted : (c.test t).fCompleted = true
    · refine Or.inl ⟨E_UNEXPECTED, ?_⟩
      rw [processResponse, Hr.bind_ok (Hr.get_apply c),
        Hr.bind_ok (Hr.chkIf_false (by rw [hinit]; decide) _ _),
        Hr.bind_ok (Hr.chkIf_false hsize _ _)]
      simp only [ht]
      rw [Hr.bind_error (Hr.chkIf_true hcompleted _ _)]
    have hopen : (c.test t).fCompleted = false := by simpa using hcompleted
    rw [processResponse_open hinit hsize ht hopen]
    rcases t.processResponse_cases c.config spMsg addrRemote addrLocal (c.scope t) with
      ⟨hr, hdrop⟩ | ⟨reader, answer, hstate, hid, hmapped, hdone⟩
    · have hon : Hr.on (scope · t) (setScope t)
          (t.processResponse c.config spMsg addrRemote addrLocal) c =
            .error hr (c.setScope t (c.scope t)) := Hr.on_error hdrop
      rw [setScope_self] at hon
      exact Or.inl ⟨hr, hon⟩
    · exact Or.inr ⟨t, reader, answer, rfl, hopen, hstate, hid, hmapped, Hr.on_ok hdone⟩

/-- A message that has what the current test looks for is an answer to it. -/
theorem processResponse_answered {reader : CStunMessageReader} (hinit : c.fInitialized = true)
    (ht : c.currentTest = some t) (hcompleted : (c.test t).fCompleted = false)
    (hstate : readerOf spMsg = (.bodyValidated, reader))
    (hid : reader.getTransactionId = (c.test t).transid)
    (hread : t.readResults c.config reader addrLocal c.results =
      .ok (t.succeed c.config answer c.results)) :
    processResponse spMsg addrRemote addrLocal c = .ok () (c.answered t answer) := by
  have hvalid : (c.scope t).test.basicReaderValidation spMsg = .ok reader :=
    CStunClientTestBase.basicReaderValidation_ok.mpr ⟨hstate, hid⟩
  have hread' : t.readResults c.config reader addrLocal (c.scope t).results =
      .ok (t.succeed c.config answer c.results) := hread
  have hdone : t.processResponse c.config spMsg addrRemote addrLocal (c.scope t) =
      .ok () ⟨{ c.test t with fCompleted := true }, t.succeed c.config answer c.results⟩ := by
    rw [IStunClientTest.processResponse]
    simp only [hvalid, hread']
    rfl
  rw [processResponse_open hinit (getSize_ne_zero hstate) ht hcompleted]
  exact Hr.on_ok hdone

/-- Nothing is expected any more. -/
theorem processResponse_idle (h : ∀ t, c.currentTest = some t → (c.test t).fCompleted = true) :
    (processResponse spMsg addrRemote addrLocal).after c = c := by
  rw [Hr.after]
  rcases c.processResponse_cases spMsg addrRemote addrLocal with
    ⟨hr, hcall⟩ | ⟨t, reader, answer, ht, hopen, -⟩
  · rw [hcall]
  · rw [h t ht] at hopen
    cases hopen

/-- A message with another transaction id is dropped. -/
theorem processResponse_other (ht : c.currentTest = some t) (hid : m.tid ≠ (c.test t).transid) :
    (processResponse (.initNoAlloc m.encode) addrRemote addrLocal).after c = c := by
  rw [Hr.after]
  rcases c.processResponse_cases (.initNoAlloc m.encode) addrRemote addrLocal with
    ⟨hr, hcall⟩ | ⟨t', reader, answer, ht', -, hstate, hid', -⟩
  · rw [hcall]
  · obtain rfl := Option.some.inj (ht.symm.trans ht')
    obtain rfl := (Prod.mk.inj ((readerOf_encode m).symm.trans hstate)).2
    exact absurd ((parsed_encode m).tid.symm.trans hid') hid

/-- An answer completes the current test. -/
theorem Follows.answered {rest' : List IStunClientTest} (h : Follows config past phase rest' c)
    (answer : Answer) (hlist : phase.current ++ rest' = t :: rest) (hentry : phase.entry = [])
    (hrest : ∀ t' ∈ rest, c.test t' = .create) (hruns : t.Runs (replay config past))
    (hchecked : c.fPreCheckRunOnTest = true ∨ t = .binding) :
    Follows config past (.finished (t, .answered answer)) rest (c.answered t answer) := by
  refine h.finish (.answered answer) hlist hentry hrest hchecked hruns rfl ?_
  rw [← h.results_open hentry, ← h.config_eq]
  rfl

theorem keepsIds_answered (answer : Answer) (c : CStunClientLogic) :
    KeepsIds c (c.answered t answer) :=
  keepsIds_setScope rfl

/-- An answer to the request that was sent completes the test. -/
theorem Follows.processResponse (h : Follows config past (.waiting t) rest c) (answer : Answer)
    (addrRemote : CSocketAddress)
    (hid : m.tid = (c.test t).transid)
    (hmapped : (readBack m.encode).getAnyMappedAddress = .ok answer.addrMapped)
    (hother : (readBack m.encode).getOtherAddress.toOption = answer.addrOther) :
    let c' := (CStunClientLogic.processResponse (.initNoAlloc m.encode) addrRemote
      answer.addrLocal).after c
    Follows config past (.finished (t, .answered answer)) rest c' ∧ KeepsIds c c' := by
  obtain ⟨hsent, hchecked, hruns, hcompleted, hvalid⟩ := h.phase
  have hafter : (CStunClientLogic.processResponse (.initNoAlloc m.encode) addrRemote
      answer.addrLocal).after c = c.answered t answer := by
    rw [Hr.after, processResponse_answered h.fInitialized h.currentTest hcompleted
      (readerOf_encode m) ((parsed_encode m).tid.trans hid)
      (IStunClientTest.readResults_eq hmapped hother c.config c.results t)]
  dsimp only
  rw [hafter]
  exact ⟨h.answered answer rfl rfl h.rest hruns (Or.inl hchecked), keepsIds_answered answer c⟩

end

theorem keepsDrawn_processResponse (spMsg : CBuffer) (addrRemote addrLocal : CSocketAddress)
    (c : CStunClientLogic) :
    KeepsDrawn c ((processResponse spMsg addrRemote addrLocal).after c) := by
  refine KeepsIds.keepsDrawn ?_
  refine Hr.keeps_get_bind (P := KeepsIds c) (fun s hs => ?_) c (fun _ => rfl)
  refine Hr.keeps_bind (Hr.keeps_chkIf _ _) fun _ => Hr.keeps_bind (Hr.keeps_chkIf _ _) fun _ => ?_
  cases s.currentTest with
  | none => exact fun _ h => h
  | some t =>
    refine Hr.keeps_bind (Hr.keeps_chkIf _ _) fun _ s' hs' => ?_
    rw [Hr.after_on]
    exact hs'.trans (keepsIds_setScope (t.processResponse_transid _ _ _ _ _))

/-! ### The start -/

theorem follows_initializeWith (haddr : config.addrServer.isIPAddressZero = false)
    (hport : config.addrServer.getPort ≠ 0) :
    Follows (configure config) [] .unsent (testsOf config)
      ((initializeWith config).after create) := by
  have hafter : (initializeWith config).after create =
      { create with
        config := configure config
        fInitialized := true
        nTestIndex := 0
        test := fun t => if t ∈ testsOf config then .create else create.test t
        testlist := testsOf config
        fPreCheckRunOnTest := false
        timeLastMessageSent := 0 } := by
    rw [Hr.after, initializeWith, Hr.bind_ok (Hr.get_apply create),
      Hr.bind_ok (Hr.chkIf_false (by decide) _ _),
      Hr.bind_ok (Hr.chkIf_false (by rw [haddr]; decide) _ _),
      Hr.bind_ok (Hr.chkIf_false hport _ _)]
    rfl
  rw [hafter]
  exact
    { fInitialized := rfl
      config_eq := rfl
      attempts := by
        rw [configure]
        dsimp only
        split_ifs with hzero
        · decide
        · exact fun hc => hzero (hc ▸ UInt32.le_refl 0)
      testlist := rfl
      split := rfl
      index := rfl
      history := .nil
      results := rfl
      rest := fun t ht => if_pos ht
      phase := ⟨rfl, rfl⟩ }

end CStunClientLogic
end StunServer

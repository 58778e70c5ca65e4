import StunServer.Proofs.ClientRun

/-! The results of a history: what one more test does to them, then what a whole history
in the order of the tests comes to. -/

namespace StunServer

open CStunClientLogic

/-! ### One more test -/

namespace IStunClientTest

variable {r : StunClientResults} {fIsTest3 : Bool}

theorem Runs.of_behavior (h : (behavior fIsTest3).Runs r) :
    r.fBindingTestSuccess = true ∧ r.fBehaviorTestSuccess = false := by
  have hready : (behavior fIsTest3).isReadyToRun ⟨.create, r⟩ = true := by
    rw [← h.checked_eq]
    exact h.2
  simp only [IStunClientTest.isReadyToRun, CBehaviorTest.isReadyToRun] at hready
  split_ifs at hready
  · simp only [Bool.and_eq_true, decide_eq_true_eq] at hready
    exact ⟨hready.1.1.1.2, hready.1.2⟩
  · simp only [Bool.and_eq_true, decide_eq_true_eq] at hready
    exact ⟨hready.1.1.2, hready.2⟩

end IStunClientTest

namespace StunClientResults

variable {r r' r'' : StunClientResults}

theorem KeepsVerdicts.refl (r : StunClientResults) : KeepsVerdicts r r := ⟨fun _ => rfl, fun _ => rfl⟩

theorem KeepsVerdicts.trans (h : KeepsVerdicts r r') (h' : KeepsVerdicts r' r'') :
    KeepsVerdicts r r'' where
  behavior hne := by
    have heq := h.behavior hne
    rw [h'.behavior (heq ▸ hne), heq]
  filtering hne := by
    have heq := h.filtering hne
    rw [h'.filtering (heq ▸ hne), heq]

theorem consistent_create : Consistent create where
  behavior := by decide
  filtering := by decide
  binding := by decide

/-- Results with the same verdicts, where the first test has succeeded if it had. -/
theorem Consistent.congr (h : Consistent r) (hbehavior : r'.behavior = r.behavior)
    (hsuccess : r'.fBehaviorTestSuccess = r.fBehaviorTestSuccess)
    (hfiltering : r'.filtering = r.filtering)
    (hsuccess' : r'.fFilteringTestSuccess = r.fFilteringTestSuccess)
    (hbinding : r.fBindingTestSuccess = true → r'.fBindingTestSuccess = true) :
    Consistent r' ∧ KeepsVerdicts r r' := by
  refine ⟨⟨?_, ?_, ?_⟩, fun _ => hbehavior, fun _ => hfiltering⟩
  · rw [hbehavior, hsuccess]
    exact h.behavior
  · rw [hfiltering, hsuccess']
    exact h.filtering
  · rw [hsuccess, hsuccess']
    exact fun hany => hbinding (h.binding hany)

/-- A verdict on the mapping where there was none. -/
theorem Consistent.behave (h : Consistent r) (hunknown : r.behavior = .unknownBehavior)
    (hbinding : r.fBindingTestSuccess = true) (hbehavior : r'.behavior ≠ .unknownBehavior)
    (hsuccess : r'.fBehaviorTestSuccess = true) (hfiltering : r'.filtering = r.filtering)
    (hsuccess' : r'.fFilteringTestSuccess = r.fFilteringTestSuccess)
    (hbinding' : r'.fBindingTestSuccess = r.fBindingTestSuccess) :
    Consistent r' ∧ KeepsVerdicts r r' := by
  refine ⟨⟨iff_of_true hsuccess hbehavior, ?_, fun _ => hbinding'.trans hbinding⟩,
    fun hne => absurd hunknown hne, fun _ => hfiltering⟩
  rw [hfiltering, hsuccess']
  exact h.filtering

/-- A verdict on the filter where there was none. -/
theorem Consistent.filter (h : Consistent r) (hunknown : r.filtering = .unknownFiltering)
    (hbinding : r.fBindingTestSuccess = true) (hfiltering : r'.filtering ≠ .unknownFiltering)
    (hsuccess : r'.fFilteringTestSuccess = true) (hbehavior : r'.behavior = r.behavior)
    (hsuccess' : r'.fBehaviorTestSuccess = r.fBehaviorTestSuccess)
    (hbinding' : r'.fBindingTestSuccess = r.fBindingTestSuccess) :
    Consistent r' ∧ KeepsVerdicts r r' := by
  refine ⟨⟨?_, iff_of_true hsuccess hfiltering, fun _ => hbinding'.trans hbinding⟩,
    fun _ => hbehavior, fun hne => absurd hunknown hne⟩
  rw [hbehavior, hsuccess']
  exact h.behavior

theorem Consistent.unknownBehavior (h : Consistent r) (hno : r.fBehaviorTestSuccess = false) :
    r.behavior = .unknownBehavior := by
  by_contra hne
  rw [h.behavior.mpr hne] at hno
  cases hno

theorem Consistent.unknownFiltering (h : Consistent r) (hno : r.fFilteringTestSuccess = false) :
    r.filtering = .unknownFiltering := by
  by_contra hne
  rw [h.filtering.mpr hne] at hno
  cases hno

end StunClientResults

section

open IStunClientTest StunClientResults

variable {config : StunClientLogicConfig} {h : List Entry} {e : Entry} {r : StunClientResults}

theorem consistent_skipped (hr : r.Consistent) {t : IStunClientTest}
    (hfirst : t = .behavior false → r.behavior = .unknownBehavior) :
    (t.checked r).results.Consistent ∧ r.KeepsVerdicts (t.checked r).results := by
  cases t with
  | binding => exact ⟨hr, .refl r⟩
  | filtering fIsTest3 => exact ⟨hr, .refl r⟩
  | behavior fIsTest3 =>
    rw [checked, preRunCheck, CBehaviorTest.preRunCheck]
    split_ifs with hdirect
    · obtain ⟨rfl, hbinding, -⟩ := hdirect
      exact hr.behave (hfirst rfl) hbinding (fun h => by cases h) rfl rfl rfl rfl
    · exact ⟨hr, .refl r⟩

theorem consistent_answered (hr : r.Consistent) {t : IStunClientTest} (hruns : t.Runs r)
    (answer : Answer) :
    (t.succeed config answer r).Consistent ∧ r.KeepsVerdicts (t.succeed config answer r) := by
  cases t with
  | binding =>
    unfold IStunClientTest.succeed CBasicBindingTest.succeed
    cases answer.addrOther with
    | none => exact hr.congr rfl rfl rfl rfl fun _ => rfl
    | some addrOther => exact hr.congr rfl rfl rfl rfl fun _ => rfl
  | filtering fIsTest3 =>
    obtain ⟨hbinding, -, hno, -⟩ := runs_filtering_iff.mp hruns
    have hunknown := hr.unknownFiltering hno
    rw [IStunClientTest.succeed, CFilteringTest.succeed]
    split_ifs
    · exact hr.filter hunknown hbinding (fun h => by cases h) rfl rfl rfl rfl
    · exact hr.filter hunknown hbinding (fun h => by cases h) rfl rfl rfl rfl
  | behavior fIsTest3 =>
    obtain ⟨hbinding, hno⟩ := hruns.of_behavior
    have hunknown := hr.unknownBehavior hno
    rw [IStunClientTest.succeed, CBehaviorTest.succeed]
    dsimp only
    split_ifs
    · exact hr.behave hunknown hbinding (fun h => by cases h) rfl rfl rfl rfl
    · exact hr.behave hunknown hbinding (fun h => by cases h) rfl rfl rfl rfl
    · exact hr.behave hunknown hbinding (fun h => by cases h) rfl rfl rfl rfl
    · exact hr.congr rfl rfl rfl rfl id

theorem consistent_timedOut (hr : r.Consistent) {t : IStunClientTest} (hruns : t.Runs r)
    (hfirst : t = .binding → r = .create) :
    (t.notifyTimeout ⟨.create, r⟩).results.Consistent ∧
      r.KeepsVerdicts (t.notifyTimeout ⟨.create, r⟩).results := by
  cases t with
  | binding =>
    obtain rfl := hfirst rfl
    exact ⟨consistent_create, .refl _⟩
  | filtering fIsTest3 =>
    obtain ⟨hbinding, -, hno, -⟩ := runs_filtering_iff.mp hruns
    rw [IStunClientTest.notifyTimeout, CFilteringTest.notifyTimeout]
    dsimp only
    split_ifs
    · exact hr.filter (hr.unknownFiltering hno) hbinding nofun rfl rfl rfl rfl
    · exact ⟨hr, .refl r⟩
  | behavior fIsTest3 =>
    obtain ⟨-, hno⟩ := hruns.of_behavior
    exact hr.congr rfl hno.symm rfl rfl id

/-! ### Whole histories -/

theorem isHistory_concat :
    IsHistory config (h ++ [e]) ↔ IsHistory config h ∧ e.Fits (replay config h) := by
  constructor
  · intro hh
    generalize heq : h ++ [e] = h' at hh
    cases hh with
    | nil => simp at heq
    | snoc hold hfits =>
      obtain ⟨rfl, he⟩ := List.append_inj' heq rfl
      obtain rfl := List.singleton_inj.mp he
      exact ⟨hold, hfits⟩
  · exact fun hh => hh.1.snoc hh.2

/-- The binding test comes before all others, and behavior test 2 before test 3. -/
theorem testsOf_ordered (config : StunClientLogicConfig) :
    (testsOf config).Pairwise fun t t' =>
      t' ≠ .binding ∧ (t' = .behavior false → ∀ fIsTest3, t ≠ .behavior fIsTest3) := by
  rw [testsOf]
  cases config.fFilteringTest <;> cases config.fBehaviorTest <;> simp

theorem replay_untested (hnone : ∀ e ∈ h, ∀ fIsTest3, e.1 ≠ .behavior fIsTest3) :
    (replay config h).behavior = .unknownBehavior := by
  induction h using List.reverseRecOn with
  | nil => rfl
  | append_singleton h e ih =>
    have hlast : e ∈ h ++ [e] := List.mem_append_right _ (List.mem_singleton_self e)
    have hkept : ∀ r, (replayStep config r e).behavior = r.behavior := by
      intro r
      obtain ⟨t, outcome⟩ := e
      cases t with
      | behavior fIsTest3 => exact absurd rfl (hnone _ hlast fIsTest3)
      | binding =>
        cases outcome with
        | answered answer =>
          obtain ⟨addrMapped, addrOther, addrLocal⟩ := answer
          cases addrOther <;> rfl
        | skipped => rfl
        | timedOut => rfl
      | filtering fIsTest3 =>
        cases outcome with
        | answered answer => cases fIsTest3 <;> rfl
        | skipped => rfl
        | timedOut => cases fIsTest3 <;> rfl
    rw [replay_snoc, hkept]
    exact ih fun e' he' => hnone e' (List.mem_append_left _ he')

theorem consistent_concat (hr : (replay config h).Consistent) (hfits : e.Fits (replay config h))
    (horder : (h ++ [e]).map Prod.fst <+: testsOf config) :
    (replay config (h ++ [e])).Consistent ∧
      (replay config h).KeepsVerdicts (replay config (h ++ [e])) := by
  rw [List.map_append, List.map_singleton] at horder
  have hbefore : ∀ e' ∈ h, e.1 ≠ .binding ∧
      (e.1 = .behavior false → ∀ fIsTest3, e'.1 ≠ .behavior fIsTest3) := by
    intro e' he'
    have hpairs := (testsOf_ordered config).sublist horder.sublist
    exact (List.pairwise_append.mp hpairs).2.2 _ (List.mem_map_of_mem he') _
      (List.mem_singleton_self _)
  rw [replay_snoc]
  obtain ⟨t, outcome⟩ := e
  cases outcome with
  | skipped =>
    exact consistent_skipped hr fun ht => replay_untested fun e' he' => (hbefore e' he').2 ht
  | answered answer => exact consistent_answered hr hfits answer
  | timedOut =>
    refine consistent_timedOut hr hfits fun ht => ?_
    -- nothing comes before the binding test
    cases h with
    | nil => rfl
    | cons e' h => exact absurd ht (hbefore e' (List.mem_cons_self ..)).1

theorem IsHistory.consistent (hh : IsHistory config h) (horder : h.map Prod.fst <+: testsOf config) :
    (replay config h).Consistent := by
  induction hh with
  | nil => exact consistent_create
  | @snoc h e hh hfits ih =>
    have hprior : h.map Prod.fst <+: testsOf config :=
      ((List.prefix_append h [e]).map Prod.fst).trans horder
    exact (consistent_concat (ih hprior) hfits horder).1

/-- A history that goes on keeps its verdicts. -/
theorem IsHistory.keepsVerdicts {more : List Entry} (hh : IsHistory config (h ++ more))
    (horder : (h ++ more).map Prod.fst <+: testsOf config) :
    (replay config h).KeepsVerdicts (replay config (h ++ more)) := by
  induction more using List.reverseRecOn with
  | nil => rw [List.append_nil]; exact .refl _
  | append_singleton more e ih =>
    rw [← List.append_assoc] at hh horder ⊢
    obtain ⟨hold, hfits⟩ := isHistory_concat.mp hh
    have hprior : (h ++ more).map Prod.fst <+: testsOf config :=
      ((List.prefix_append (h ++ more) [e]).map Prod.fst).trans horder
    exact (ih hold hprior).trans (consistent_concat (hold.consistent hprior) hfits horder).2

/-- No verdict comes of a test that is not answered, but that nothing came through. -/
theorem filtering_unanswered (r : StunClientResults) (hquiet : e.2 = .skipped ∨ e.2 = .timedOut) :
    (replayStep config r e).filtering = r.filtering ∨
      (replayStep config r e).filtering = .addressAndPortDependentFiltering := by
  obtain ⟨t, outcome⟩ := e
  rcases hquiet with hskipped | htimedOut
  · obtain rfl : outcome = .skipped := hskipped
    refine Or.inl ?_
    cases t with
    | binding => rfl
    | filtering fIsTest3 => rfl
    | behavior fIsTest3 =>
      rw [replayStep, checked, preRunCheck, CBehaviorTest.preRunCheck]
      split_ifs <;> rfl
  · obtain rfl : outcome = .timedOut := htimedOut
    cases t with
    | binding => exact Or.inl rfl
    | behavior fIsTest3 => exact Or.inl rfl
    | filtering fIsTest3 =>
      cases fIsTest3 with
      | false => exact Or.inl rfl
      | true => exact Or.inr rfl

theorem filtering_replay_unanswered {more : List Entry}
    (hquiet : ∀ e ∈ more, e.2 = .skipped ∨ e.2 = .timedOut) :
    (replay config (h ++ more)).filtering = (replay config h).filtering ∨
      (replay config (h ++ more)).filtering = .addressAndPortDependentFiltering := by
  induction more using List.reverseRecOn with
  | nil => exact Or.inl (by rw [List.append_nil])
  | append_singleton more e ih =>
    rw [← List.append_assoc, replay_snoc]
    have hlast := hquiet e (List.mem_append_right _ (List.mem_singleton_self e))
    rcases filtering_unanswered (replay config (h ++ more)) hlast with hkept | hnone
    · rw [hkept]
      exact ih fun e' he' => hquiet e' (List.mem_append_left _ he')
    · exact Or.inr hnone

end

/-! ### The verdict on the filter -/

theorem CFilteringTest.verdict_injective : Function.Injective verdict := by
  intro fIsTest3 fIsTest3'
  cases fIsTest3 <;> cases fIsTest3' <;> decide

theorem CFilteringTest.verdict_ne (fIsTest3 : Bool) :
    verdict fIsTest3 ≠ .unknownFiltering ∧ verdict fIsTest3 ≠ .addressAndPortDependentFiltering := by
  cases fIsTest3 <;> decide

theorem IStunClientTest.filtering_succeed (config : StunClientLogicConfig) (answer : Answer)
    (r : StunClientResults) (t : IStunClientTest) :
    (t.succeed config answer r).filtering = r.filtering ∨
      ∃ fIsTest3, t = .filtering fIsTest3 ∧
        (t.succeed config answer r).filtering = CFilteringTest.verdict fIsTest3 := by
  cases t with
  | binding =>
    refine Or.inl ?_
    unfold succeed CBasicBindingTest.succeed
    cases answer.addrOther <;> rfl
  | behavior fIsTest3 =>
    refine Or.inl ?_
    rw [succeed, CBehaviorTest.succeed]
    dsimp only
    split_ifs <;> rfl
  | filtering fIsTest3 =>
    refine Or.inr ⟨fIsTest3, rfl, ?_⟩
    cases fIsTest3 <;> rfl

namespace CStunClientLogic

variable {config : StunClientLogicConfig} {past : List Entry} {phase : Phase}
  {rest : List IStunClientTest} {c : CStunClientLogic}

/-- The tests of the history are the first ones of the list. -/
theorem Follows.order (h : Follows config past phase rest c) :
    (past ++ phase.entry).map Prod.fst <+: testsOf config := by
  rw [h.split, List.map_append, List.prefix_append_right_inj]
  cases phase with
  | unsent => exact List.nil_prefix
  | waiting t => exact List.nil_prefix
  | finished e => exact ⟨rest, rfl⟩

/-- As long as a filtering test is open, there is no verdict. -/
theorem BetweenCalls.unknownFiltering {fIsTest3 : Bool} (h : BetweenCalls config past phase rest c)
    (ht : c.currentTest = some (.filtering fIsTest3))
    (hopen : (c.test (.filtering fIsTest3)).fCompleted = false) :
    c.results.filtering = .unknownFiltering := by
  obtain ⟨rest', -, hentry, hanswered⟩ := h.answered ht hopen ⟨.create, none, .create⟩
  obtain ⟨-, hruns⟩ := isHistory_concat.mp hanswered.history
  have horder := h.order
  rw [hentry, List.append_nil] at horder
  rw [h.results_open hentry]
  exact ((h.history_open hentry).consistent horder).unknownFiltering
    (IStunClientTest.runs_filtering_iff.mp hruns).2.2.1

/-- `GetNextMessage` comes to no verdict of an answer. -/
theorem BetweenCalls.filtering_getNextMessage (h : BetweenCalls config past phase rest c)
    (entropy : CStunMessageBuilder.Entropy) (spMsg : CBuffer) (time : UInt32) :
    (c.call (.getNextMessage entropy spMsg time)).2.results.filtering = c.results.filtering ∨
      (c.call (.getNextMessage entropy spMsg time)).2.results.filtering =
        .addressAndPortDependentFiltering := by
  have hadds : ∀ {past' phase' rest' c'}, Follows config past' phase' rest' c' →
      Adds past phase past' phase' → c'.results.filtering = c.results.filtering ∨
        c'.results.filtering = .addressAndPortDependentFiltering := by
    rintro past' phase' rest' c' hfollows ⟨more, hmore, hquiet⟩
    rw [hfollows.results, h.results, hmore]
    exact filtering_replay_unanswered fun e he => (hquiet e he).imp_right And.right
  by_cases hcap : 800 ≤ spMsg.getAllocatedSize
  · have hpolled := h.getNextMessage entropy time hcap
    rw [CStunClientLogic.call]
    generalize CStunClientLogic.getNextMessage entropy spMsg time c = result at hpolled
    cases hpolled with
    | stillWaiting waiting => exact Or.inl rfl
    | ready follows adds ids => exact hadds follows adds
    | sent follows adds sends => exact hadds follows adds
  · obtain ⟨hr, hcall, -⟩ := call_getNextMessage_small entropy time c (not_le.mp hcap)
    rw [hcall]
    exact Or.inl rfl

/-- What is in an answer to a filtering test does not matter. -/
theorem call_processResponse_filtering {fIsTest3 : Bool} {spMsg : CBuffer}
    {reader : CStunMessageReader} (hinit : c.fInitialized = true)
    (ht : c.currentTest = some (.filtering fIsTest3))
    (hopen : (c.test (.filtering fIsTest3)).fCompleted = false)
    (hstate : readerOf spMsg = (.bodyValidated, reader))
    (hid : reader.getTransactionId = (c.test (.filtering fIsTest3)).transid)
    (addrRemote addrLocal : CSocketAddress) :
    (c.call (.processResponse spMsg addrRemote addrLocal)).2 =
      c.answered (.filtering fIsTest3) ⟨.create, none, addrLocal⟩ := by
  have hcall : processResponse spMsg addrRemote addrLocal c =
      .ok () (c.answered (.filtering fIsTest3) ⟨.create, none, addrLocal⟩) :=
    processResponse_answered hinit ht hopen hstate hid rfl
  rw [call, hcall]

/-- A call comes to its verdicts by right if it brings what was asked for, and only then. -/
theorem BetweenCalls.verdictEarned_iff (h : BetweenCalls config past phase rest c)
    (i : ClientCall) : c.VerdictEarned i ↔ c.AnsweredAsAsked i := by
  constructor
  · rintro hearned fIsTest3 spMsg addrRemote addrLocal rfl ht hopen hstate hid
    have hunknown := h.unknownFiltering ht hopen
    have hcall := call_processResponse_filtering h.fInitialized ht hopen
      (Prod.ext hstate rfl) hid addrRemote addrLocal
    have hverdict : (c.call (.processResponse spMsg addrRemote addrLocal)).2.results.filtering =
        CFilteringTest.verdict fIsTest3 := by
      rw [hcall]
      cases fIsTest3 <;> rfl
    obtain ⟨spMsg', addrLocal', hsuccess, hcall'⟩ := hearned fIsTest3
      (by rw [hunknown]; exact (CFilteringTest.verdict_ne fIsTest3).1.symm) hverdict
    obtain ⟨rfl, rfl, rfl⟩ := ClientCall.processResponse.inj hcall'
    exact ⟨hsuccess, rfl⟩
  · intro hasked fIsTest3 hne hverdict
    cases i with
    | getNextMessage entropy spMsg time =>
      rcases h.filtering_getNextMessage entropy spMsg time with hkept | hnone
      · exact absurd (hkept.symm.trans hverdict) hne
      · exact absurd (hverdict.symm.trans hnone) (CFilteringTest.verdict_ne fIsTest3).2
    | processResponse spMsg addrRemote addrLocal =>
      rcases c.call_processResponse_cases spMsg addrRemote addrLocal with
        ⟨hr, hcall⟩ | ⟨t, reader, answer, ht, hopen, hstate, hid, -, hcall⟩
      · rw [hcall] at hverdict
        exact absurd hverdict hne
      · rw [hcall] at hverdict
        rcases t.filtering_succeed c.config answer c.results with hkept | ⟨fIsTest3', rfl, hnew⟩
        · exact absurd (hkept.symm.trans hverdict) hne
        · obtain rfl := CFilteringTest.verdict_injective (hnew.symm.trans hverdict)
          obtain ⟨hsuccess, rfl⟩ := hasked fIsTest3' spMsg addrRemote addrLocal rfl ht hopen
            (congrArg Prod.fst hstate) (by rw [hstate]; exact hid)
          exact ⟨spMsg, addrLocal, hsuccess, rfl⟩

end CStunClientLogic
end StunServer

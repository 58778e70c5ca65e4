import StunServer.Proofs.NetworkRun

/-! The verdicts of the client on the NAT in front of it. -/

namespace StunServer

open CStunClientLogic IStunClientTest

namespace Site

variable {site : Site} {r : StunClientResults}

/-! ### What the filter makes of each test -/

theorem letsThrough_binding : site.LetsThrough .binding :=
  site.rule.passes_contacted (List.mem_singleton_self _)

theorem letsThrough_behavior (fIsTest3 : Bool) : site.LetsThrough (.behavior fIsTest3) :=
  site.rule.passes_contacted (List.mem_singleton_self _)

/-- The answer comes from another address. -/
theorem letsThrough_filtering2 :
    site.LetsThrough (.filtering false) ↔ site.rule = .endpointIndependent := by
  have hip := site.grid.isSameIP_swapIP site.target
  have hback : site.roleBack (.filtering false) =
      socketRoleSwapIP (socketRoleSwapPort site.target) := by
    change socketRoleSwapPort (socketRoleSwapIP site.target) = _
    cases site.target <;> rfl
  rw [LetsThrough, hback, roleOf]
  cases site.rule <;>
    simp [FilterRule.passes, CSocketAddress.isSameIP_and_Port, hip]

/-- The answer comes from another port of the same address. -/
theorem letsThrough_filtering3 :
    site.LetsThrough (.filtering true) ↔ site.rule ≠ .addressAndPortDependent := by
  obtain ⟨hip, hport⟩ := site.grid.endpoint_swapPort site.target
  have hback : site.roleBack (.filtering true) = socketRoleSwapPort site.target := rfl
  rw [LetsThrough, hback, roleOf]
  cases site.rule <;>
    simp [FilterRule.passes, CSocketAddress.isSameIP_and_Port, hip, hport]

/-! ### The results, test by test -/

/-- The results after a test, if the NAT decides what becomes of it. -/
def settle (site : Site) (r : StunClientResults) (t : IStunClientTest) : StunClientResults :=
  if t.Runs r then
    if site.LetsThrough t then t.succeed (configure site.config) (site.answerOf t) r
    else (t.notifyTimeout ⟨.create, r⟩).results
  else (t.checked r).results

/-- The first test, and what it leaves for the others. -/
theorem settle_binding (site : Site) : ∃ r, site.settle .create .binding = r ∧ site.Found r ∧
    r.fBehaviorTestSuccess = false ∧ r.behavior = .unknownBehavior ∧
    r.fFilteringTestSuccess = false ∧ r.filtering = .unknownFiltering ∧
    r.fGotTest2Response = false := by
  have hruns : IStunClientTest.binding.Runs .create := by decide
  have hserver : (configure site.config).addrServer = site.grid.endpoint site.target :=
    site.addrServer
  obtain ⟨hport, haddr⟩ := site.grid.setPort_endpoint site.target
  refine ⟨_, by rw [settle, if_pos hruns, if_pos letsThrough_binding], ?_, rfl, rfl, rfl, rfl, rfl⟩
  exact
    { binding := rfl
      direct := isSameIP_and_Port_iff
      addrLocal := rfl
      addrMapped := rfl
      hasOther := rfl
      addrPA := by
        change (configure site.config).addrServer.setPort _ = _
        rw [hserver]
        exact hport
      addrAP := by
        change CSocketAddress.setPort (configure site.config).addrServer.getPort _ = _
        rw [hserver]
        exact haddr
      addrAA := rfl }

/-- The two filtering tests. -/
theorem settle_filtering (site : Site) (hbinding : r.fBindingTestSuccess = true)
    (hother : r.fHasOtherAddress = true) (hsuccess : r.fFilteringTestSuccess = false)
    (hgot : r.fGotTest2Response = false) :
    ∃ fGotTest2Response fGotTest3Response,
      site.settle (site.settle r (.filtering false)) (.filtering true) =
        { r with
          fFilteringTestSuccess := true
          filtering := site.rule.filtering
          fGotTest2Response := fGotTest2Response
          fGotTest3Response := fGotTest3Response } := by
  have hruns : ∀ b, (filtering b).Runs r := fun _ =>
    runs_filtering_iff.mpr ⟨hbinding, hother, hsuccess, hgot⟩
  by_cases hfirst : site.rule = .endpointIndependent
  · have hrun : site.settle r (.filtering false) =
        { r with
          fGotTest2Response := true
          fFilteringTestSuccess := true
          filtering := .endpointIndependentFiltering } := by
      rw [settle, if_pos (hruns _), if_pos (letsThrough_filtering2.mpr hfirst)]
      rfl
    have hskip : ¬(filtering true).Runs (site.settle r (.filtering false)) := by
      rw [runs_filtering_iff, hrun]
      exact fun hr => Bool.false_ne_true hr.2.2.1.symm
    refine ⟨true, r.fGotTest3Response, ?_⟩
    rw [settle, if_neg hskip, hrun, hfirst]
    rfl
  · have hrun : site.settle r (.filtering false) = r := by
      rw [settle, if_pos (hruns _), if_neg (mt letsThrough_filtering2.mp hfirst)]
      rfl
    rw [hrun, settle, if_pos (hruns _)]
    by_cases hsecond : site.rule = .addressAndPortDependent
    · refine ⟨r.fGotTest2Response, r.fGotTest3Response, ?_⟩
      rw [if_neg fun hlets => letsThrough_filtering3.mp hlets hsecond, hsecond]
      rfl
    · have hrule : site.rule = .addressDependent := by
        cases hr : site.rule with
        | endpointIndependent => exact absurd hr hfirst
        | addressDependent => rfl
        | addressAndPortDependent => exact absurd hr hsecond
      refine ⟨r.fGotTest2Response, true, ?_⟩
      rw [if_pos (letsThrough_filtering3.mpr hsecond), hrule]
      rfl

theorem runs_behavior2_iff (hbinding : r.fBindingTestSuccess = true) :
    (IStunClientTest.behavior false).Runs r ↔
      r.fIsDirect = false ∧ r.fHasOtherAddress = true ∧ r.fBehaviorTestSuccess = false := by
  cases hdirect : r.fIsDirect <;>
    simp [Runs, checked, preRunCheck, CBehaviorTest.preRunCheck, isReadyToRun,
      CBehaviorTest.isReadyToRun, CStunClientTestBase.create, hbinding, hdirect]

theorem runs_behavior3_iff (hbinding : r.fBindingTestSuccess = true) :
    (IStunClientTest.behavior true).Runs r ↔ r.fHasOtherAddress = true ∧ r.fBehaviorTestSuccess = false ∧
      r.addrMappingAP.isIPAddressZero = false := by
  simp [Runs, checked, preRunCheck, CBehaviorTest.preRunCheck, isReadyToRun,
    CBehaviorTest.isReadyToRun, CStunClientTestBase.create, hbinding, and_assoc]

/-- Once there is a verdict, the second behavior test is skipped. -/
theorem settle_behavior3_skip (hbinding : r.fBindingTestSuccess = true)
    (hsuccess : r.fBehaviorTestSuccess = true) : site.settle r (.behavior true) = r := by
  have hskip : ¬(IStunClientTest.behavior true).Runs r := by
    rw [runs_behavior3_iff hbinding, hsuccess]
    exact fun hr => Bool.false_ne_true hr.2.1.symm
  rw [settle, if_neg hskip]
  rfl

/-- The two behavior tests. -/
theorem settle_behavior (site : Site) (hbinding : r.fBindingTestSuccess = true)
    (hother : r.fHasOtherAddress = true) (hsuccess : r.fBehaviorTestSuccess = false)
    (hdirect : r.fIsDirect = true ↔ site.addrLocal = site.mapped site.target)
    (hmapped : r.addrMapped = site.mapped site.target) :
    ∃ addrMappingAP addrMappingAA,
      site.settle (site.settle r (.behavior false)) (.behavior true) =
        { r with
          fBehaviorTestSuccess := true
          behavior := site.behavior
          addrMappingAP := addrMappingAP
          addrMappingAA := addrMappingAA } := by
  by_cases hlocal : site.addrLocal = site.mapped site.target
  · have hrun : site.settle r (.behavior false) =
        { r with behavior := .directMapping, fBehaviorTestSuccess := true } := by
      have hskip : ¬(IStunClientTest.behavior false).Runs r := by
        rw [runs_behavior2_iff hbinding, hdirect.mpr hlocal]
        exact fun hr => Bool.false_ne_true hr.1.symm
      rw [settle, if_neg hskip, checked, preRunCheck, CBehaviorTest.preRunCheck,
        if_pos ⟨rfl, hbinding, hdirect.mpr hlocal⟩]
    refine ⟨r.addrMappingAP, r.addrMappingAA, ?_⟩
    rw [hrun, Site.behavior, if_pos hlocal]
    exact settle_behavior3_skip (by exact hbinding) rfl
  have hruns : (IStunClientTest.behavior false).Runs r := by
    rw [runs_behavior2_iff hbinding]
    exact ⟨Bool.eq_false_iff.mpr (mt hdirect.mp hlocal), hother, hsuccess⟩
  have hrun : site.settle r (.behavior false) =
      CBehaviorTest.succeed false (site.mapped site.roleAP) r := by
    rw [settle, if_pos hruns, if_pos (letsThrough_behavior false)]
    rfl
  by_cases hsame : site.mapped site.roleAP = site.mapped site.target
  · have hfirst : site.settle r (.behavior false) =
        { r with
          addrMappingAP := site.mapped site.roleAP
          fBehaviorTestSuccess := true
          behavior := .endpointIndependentMapping } := by
      rw [hrun, CBehaviorTest.succeed]
      exact if_pos (isSameIP_and_Port_iff.mpr (hsame.trans hmapped.symm))
    refine ⟨site.mapped site.roleAP, r.addrMappingAA, ?_⟩
    rw [hfirst, Site.behavior, if_neg hlocal, if_pos hsame]
    exact settle_behavior3_skip (by exact hbinding) rfl
  · have hfirst : site.settle r (.behavior false) =
        { r with addrMappingAP := site.mapped site.roleAP } := by
      rw [hrun, CBehaviorTest.succeed]
      exact if_neg fun hs => hsame ((isSameIP_and_Port_iff.mp hs).trans hmapped)
    have hruns3 : (IStunClientTest.behavior true).Runs { r with addrMappingAP := site.mapped site.roleAP } :=
      (runs_behavior3_iff (by exact hbinding)).mpr ⟨hother, hsuccess, site.map_ne _⟩
    refine ⟨site.mapped site.roleAP, site.mapped site.roleAA, ?_⟩
    rw [hfirst, settle, if_pos hruns3, if_pos (letsThrough_behavior true), Site.behavior,
      if_neg hlocal, if_neg hsame]
    have hverdict : (site.mapped site.roleAA).isSameIP_and_Port (site.mapped site.roleAP) = true ↔
        site.mapped site.roleAA = site.mapped site.roleAP := isSameIP_and_Port_iff
    change CBehaviorTest.succeed true (site.mapped site.roleAA) _ = _
    rw [CBehaviorTest.succeed, if_pos rfl]
    dsimp only
    simp only [hverdict]

/-- What the results come to when the NAT decides about each test. -/
theorem classified_settle (site : Site) :
    site.Classified ((testsOf site.config).foldl site.settle .create) := by
  obtain ⟨r, hr, hfound, hbehavior, hunknown, hfiltering, hunknown', hgot⟩ :=
    settle_binding site
  -- the filtering tests come first, if they are asked for
  obtain ⟨r', hr', hfound', hbehavior', hsuccess', hverdict'⟩ : ∃ r',
      (if site.config.fFilteringTest then [filtering false, filtering true] else []).foldl
        site.settle r = r' ∧ site.Found r' ∧
      (r'.fBehaviorTestSuccess = false ∧ r'.behavior = .unknownBehavior) ∧
      r'.fFilteringTestSuccess = site.config.fFilteringTest ∧
      r'.filtering =
        if site.config.fFilteringTest then site.rule.filtering else .unknownFiltering := by
    cases site.config.fFilteringTest with
    | false => exact ⟨r, rfl, hfound, ⟨hbehavior, hunknown⟩, hfiltering, hunknown'⟩
    | true =>
      obtain ⟨got2, got3, hrun⟩ := settle_filtering site hfound.binding hfound.hasOther
        hfiltering hgot
      exact ⟨_, hrun, ⟨hfound.binding, hfound.direct, hfound.addrLocal, hfound.addrMapped,
        hfound.hasOther, hfound.addrPA, hfound.addrAP, hfound.addrAA⟩, ⟨hbehavior, hunknown⟩, rfl, rfl⟩
  obtain ⟨hnone, hunknown⟩ := hbehavior'
  rw [testsOf, List.foldl_append, List.foldl_append, List.foldl_cons, List.foldl_nil, hr, hr']
  cases hb : site.config.fBehaviorTest with
  | false =>
    exact ⟨hfound', hnone.trans hb.symm, by rw [hb]; exact hunknown, hsuccess', hverdict'⟩
  | true =>
    obtain ⟨ap, aa, hrun⟩ := settle_behavior site hfound'.binding hfound'.hasOther hnone
      hfound'.direct hfound'.addrMapped
    change site.Classified (site.settle (site.settle r' (.behavior false)) (.behavior true))
    rw [hrun]
    exact ⟨⟨hfound'.binding, hfound'.direct, hfound'.addrLocal, hfound'.addrMapped,
      hfound'.hasOther, hfound'.addrPA, hfound'.addrAP, hfound'.addrAA⟩, hb.symm,
      by rw [hb]; rfl, hsuccess', hverdict'⟩

/-- A history that the NAT decided. -/
theorem replay_eq_settle {past : List Entry} (h : IsHistory (configure site.config) past)
    (hanswered : ∀ t answer, (t, .answered answer) ∈ past →
      answer = site.answerOf t ∧ site.LetsThrough t)
    (htimedOut : ∀ t, (t, .timedOut) ∈ past → ¬site.LetsThrough t) :
    replay (configure site.config) past = (past.map Prod.fst).foldl site.settle .create := by
  induction h with
  | nil => rfl
  | @snoc past e hpast hfits ih =>
    have hold := ih (fun t answer hmem => hanswered t answer (List.mem_append_left _ hmem))
      fun t hmem => htimedOut t (List.mem_append_left _ hmem)
    have hlast : e ∈ past ++ [e] := List.mem_append_right _ (List.mem_singleton_self e)
    rw [replay_snoc, List.map_append, List.foldl_append, ← hold, List.map_singleton,
      List.foldl_cons, List.foldl_nil]
    obtain ⟨t, outcome⟩ := e
    change _ = site.settle (replay (configure site.config) past) t
    cases outcome with
    | skipped => exact (if_neg hfits).symm
    | answered answer =>
      have hruns : t.Runs (replay (configure site.config) past) := hfits
      obtain ⟨rfl, hlets⟩ := hanswered t answer hlast
      rw [settle, if_pos hruns, if_pos hlets]
      rfl
    | timedOut =>
      have hruns : t.Runs (replay (configure site.config) past) := hfits
      rw [settle, if_pos hruns, if_neg (htimedOut t hlast)]
      rfl

/-- What the client has found, once it has its results and nothing is due. -/
theorem Tracks.classified {w : World} {past : List Entry} {phase : Phase}
    {rest : List IStunClientTest} (h : site.Tracks w past phase rest)
    (hready : w.polled = E_STUNCLIENT_RESULTS_READY) (hreached : ∀ t ∈ w.due, t ∈ w.reached) :
    site.Classified w.client.getResults := by
  obtain ⟨rfl, rfl⟩ := h.polled hready
  have hexplains := h.explains
  have hresults := h.follows.results
  have hhistory := h.follows.history
  rw [Phase.entry, List.append_nil] at hexplains hresults hhistory
  have htests : testsOf site.config = past.map Prod.fst := by
    have hsplit := h.follows.split
    rwa [Phase.current, List.append_nil, List.append_nil] at hsplit
  have hreplay := replay_eq_settle hhistory (fun t answer hmem => hexplains _ hmem)
    fun t hmem hlets => by
      obtain ⟨hdue, hnot⟩ : site.Awaits w t := hexplains _ hmem
      exact hnot (hreached t (hdue hlets))
  rw [CStunClientLogic.getResults, hresults, hreplay, ← htests]
  exact site.classified_settle

end Site

/-- When the client has its results, they are those that the NAT deserves, provided that a
response to each test that should get one has come in while it was the current one. -/
theorem nat_classified (site : Site) (events : List Event)
    (hready : (site.run events).polled = E_STUNCLIENT_RESULTS_READY)
    (hids : (site.run events).client.DistinctIds)
    (hreached : ∀ t ∈ (site.run events).due, t ∈ (site.run events).reached) :
    site.Classified (site.run events).client.getResults := by
  obtain ⟨past, phase, rest, h⟩ := Site.run_tracks events hids
  exact h.classified hready hreached

/-! ### A NAT that depends on the address, in its mapping and in its filter -/

def sampleGrid : Grid where
  addrP := .addr4 0 1
  addrA := .addr4 0 2
  portP := 3478
  portA := 3479
  family := rfl
  distinct := by decide
  addrP_ne := by decide
  addrA_ne := by decide
  ports := by decide
  portP_ne := by decide
  portA_ne := by decide

/-- The client sends each request once, and gives up at the next poll. -/
def sampleSite : Site where
  D := sampleDigests
  grid := sampleGrid
  target := .rolePP
  config := ⟨sampleGrid.endpoint .rolePP, true, 0, 1, true, true⟩
  addrServer := rfl
  addrLocal := .addr4 1 7
  map addr := if addr.isSameIP sampleGrid.addrP then .addr4 1 8 else .addr4 2 8
  map_ne addr := by
    split_ifs <;> decide
  rule := .addressDependent

def samplePoll (n : UInt8) : Event :=
  .poll ⟨List.Vector.replicate 8 n, List.Vector.replicate 16 0⟩ (.initWithAllocation 800) 0

/-- The response to the second request does not pass. -/
def sampleEvents : List Event :=
  [samplePoll 1, .deliver 0, samplePoll 2, .deliver 1, samplePoll 3, .deliver 2, samplePoll 4,
    .deliver 0, .deliver 3, samplePoll 5, .deliver 4, samplePoll 6]

theorem sample_distinctIds : (sampleSite.run sampleEvents).client.DistinctIds := by
  have hall : ∀ t ∈ [IStunClientTest.binding, .behavior false, .behavior true, .filtering false,
      .filtering true], ∀ t' ∈ [IStunClientTest.binding, .behavior false, .behavior true,
        .filtering false, .filtering true], t ≠ t' →
      isTransactionIdValid ((sampleSite.run sampleEvents).client.test t).transid = true →
        ((sampleSite.run sampleEvents).client.test t).transid ≠
          ((sampleSite.run sampleEvents).client.test t').transid := by
    decide +kernel
  have hmem : ∀ t, t ∈ [IStunClientTest.binding, .behavior false, .behavior true,
      .filtering false, .filtering true] := by
    intro t
    cases t with
    | binding => decide
    | behavior b => cases b <;> decide
    | filtering b => cases b <;> decide
  exact fun t t' => hall t (hmem t) t' (hmem t')

theorem nat_classified_sample :
    sampleSite.Classified (sampleSite.run sampleEvents).client.getResults :=
  nat_classified sampleSite sampleEvents (by decide +kernel) sample_distinctIds (by decide +kernel)

end StunServer

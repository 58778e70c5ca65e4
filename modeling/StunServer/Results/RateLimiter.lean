import StunServer.Proofs.RateRecord

/-! What an address gets from the rate limiter. -/

namespace StunServer

open FastHash RateLimiter

theorem isMap_create (tablesize : ℕ) :
    IsMap (RateLimiter.create tablesize).table fun _ => none := isMap_initTable _ _

theorem isSameIP_family {a b : CSocketAddress} (h : a.isSameIP b) : a.getFamily = b.getFamily := by
  cases a <;> cases b <;> first | rfl | cases h

theorem isSameIP_eq_decide {a b : CSocketAddress} (hfamily : a.getFamily = b.getFamily) :
    a.isSameIP b = decide (rateTrackerAddress a = rateTrackerAddress b) := by
  rw [Bool.eq_iff_iff, decide_eq_true_iff, rateTrackerAddress_eq_iff hfamily]

/-- A limiter with room for the addresses that call it is never full. -/
theorem neverFull_of_addresses {tablesize : ℕ} {calls : List RateCall} {addrs : List CSocketAddress}
    (hsize : addrs.length ≤ tablesize)
    (hcalls : ∀ call ∈ calls, ∃ a ∈ addrs, call.addr.isSameIP a) :
    (RateLimiter.create tablesize).NeverFull calls := by
  apply neverFull_of_card_le (isMap_create tablesize) (s := (addrs.map rateTrackerAddress).toFinset)
  · intro k hk
    exact absurd rfl hk
  · have hcard := List.toFinset_card_le (addrs.map rateTrackerAddress)
    rw [List.length_map] at hcard
    exact hcard.trans hsize
  · intro call hcall
    obtain ⟨a, ha, hsame⟩ := hcalls call hcall
    rw [List.mem_toFinset, (rateTrackerAddress_eq_iff (isSameIP_family hsame)).mpr hsame]
    exact List.mem_map_of_mem ha

theorem timesOf_filter (k : RateTrackerAddress) (calls : List RateCall) :
    timesOf k (calls.filter fun call => rateTrackerAddress call.addr = k) = timesOf k calls := by
  rw [timesOf, timesOf, Machine.own, Machine.own, List.filter_map, List.filter_map,
    List.filter_filter]
  congr 2
  apply List.filter_congr
  intro call _
  exact Bool.and_self _

/-- What a run returns to the calls of an address. -/
def resultsOf (addr : CSocketAddress) (limiter : RateLimiter) (calls : List RateCall) : List Bool :=
  ((Machine.trace rateCheck limiter calls).filter fun e => e.1.addr.isSameIP addr).map Prod.snd

section

variable {family : UInt16} {calls : List RateCall} {addr : CSocketAddress}

theorem filter_isSameIP (hfamily : ∀ call ∈ calls, call.addr.getFamily = family)
    (haddr : addr.getFamily = family) : (calls.filter fun call => call.addr.isSameIP addr) =
      calls.filter fun call => rateTrackerAddress call.addr = rateTrackerAddress addr := by
  apply List.filter_congr
  intro call hcall
  exact isSameIP_eq_decide ((hfamily call hcall).trans haddr.symm)

theorem resultsOf_eq (hfamily : ∀ call ∈ calls, call.addr.getFamily = family)
    (haddr : addr.getFamily = family) (limiter : RateLimiter) : resultsOf addr limiter calls =
      (tracesOf (rateTrackerAddress addr) limiter calls).map Prod.snd := by
  rw [resultsOf, tracesOf, List.map_map]
  congr 1
  apply List.filter_congr
  intro e he
  exact isSameIP_eq_decide ((hfamily _ (Machine.mem_of_mem_trace _ he)).trans haddr.symm)

/-- An address of another family gets no results. -/
theorem not_isSameIP_of_family (hfamily : ∀ call ∈ calls, call.addr.getFamily = family)
    (haddr : addr.getFamily ≠ family) {call : RateCall} (hcall : call ∈ calls) :
    call.addr.isSameIP addr = false := by
  rw [← Bool.not_eq_true]
  intro hsame
  exact haddr ((isSameIP_family hsame).symm.trans (hfamily call hcall))

end

theorem trace_all_own {limiter : RateLimiter} {k : RateTrackerAddress} {calls : List RateCall}
    (hcalls : ∀ call ∈ calls, rateTrackerAddress call.addr = k) :
    (Machine.trace rateCheck limiter calls).map Prod.snd =
      (tracesOf k limiter calls).map Prod.snd := by
  rw [tracesOf, List.map_map, List.filter_eq_self.mpr]
  · rfl
  · intro e he
    apply decide_eq_true
    exact hcalls _ (Machine.mem_of_mem_trace _ he)

/-- Addresses do not disturb each other as long as there is a place for each of them. -/
theorem addresses_independent (tablesize : ℕ) (calls : List RateCall) (family : UInt16)
    (hfamily : ∀ call ∈ calls, call.addr.getFamily = family) (addrs : List CSocketAddress)
    (hsize : addrs.length ≤ tablesize)
    (hcalls : ∀ call ∈ calls, ∃ a ∈ addrs, call.addr.isSameIP a) (addr : CSocketAddress) :
    resultsOf addr (RateLimiter.create tablesize) calls =
      (Machine.trace rateCheck (RateLimiter.create tablesize)
        (calls.filter fun call => call.addr.isSameIP addr)).map Prod.snd := by
  by_cases haddr : addr.getFamily = family
  · set k := rateTrackerAddress addr
    have hown : ∀ call ∈ calls.filter fun call => rateTrackerAddress call.addr = k,
        rateTrackerAddress call.addr = k := by
      intro call hcall
      exact of_decide_eq_true (List.mem_filter.mp hcall).2
    have hfull := neverFull_of_addresses hsize hcalls
    have hfull' : (RateLimiter.create tablesize).NeverFull
        (calls.filter fun call => rateTrackerAddress call.addr = k) :=
      neverFull_of_addresses hsize fun call hcall => hcalls call (List.mem_of_mem_filter hcall)
    rw [filter_isSameIP hfamily haddr, resultsOf_eq hfamily haddr, trace_all_own hown,
      (run_refines (isMap_create tablesize) hfull k).1,
      (run_refines (isMap_create tablesize) hfull' k).1, timesOf_filter]
  · have hnone : ∀ call ∈ calls, call.addr.isSameIP addr = false := fun call hcall =>
      not_isSameIP_of_family hfamily haddr hcall
    have hfilter : (calls.filter fun call => call.addr.isSameIP addr) = [] := by
      rw [List.filter_eq_nil_iff]
      intro call hcall
      rw [hnone call hcall]
      exact Bool.false_ne_true
    rw [hfilter, resultsOf, List.filter_eq_nil_iff.mpr]
    · rfl
    · intro e he
      rw [hnone _ (Machine.mem_of_mem_trace _ he)]
      exact Bool.false_ne_true

def sampleVisitor : CSocketAddress := .addr4 0 0x0100000A
def sampleNeighbour : CSocketAddress := .addr4 0 0x0200000A

theorem addresses_independent_pair :
    resultsOf sampleVisitor (RateLimiter.create 2)
        [⟨sampleVisitor, 0⟩, ⟨sampleNeighbour, 0⟩, ⟨sampleVisitor, 1⟩] =
      (Machine.trace rateCheck (RateLimiter.create 2) ([⟨sampleVisitor, 0⟩, ⟨sampleNeighbour, 0⟩,
        ⟨sampleVisitor, 1⟩].filter fun call => call.addr.isSameIP sampleVisitor)).map Prod.snd :=
  addresses_independent 2 _ AF_INET (by decide) [sampleVisitor, sampleNeighbour] (by decide)
    (by decide) sampleVisitor

/-! ### Runs from a fresh limiter -/

/-- The limiter behind a run. -/
abbrev RateLimiter.behind (tablesize : ℕ) (calls : List RateCall) : RateLimiter :=
  Machine.after rateCheck (RateLimiter.create tablesize) calls

section

variable {tablesize : ℕ} {calls : List RateCall}

theorem lookup_behind (hfull : (RateLimiter.create tablesize).NeverFull calls)
    (k : RateTrackerAddress) : (behind tablesize calls).table.lookup k =
      Machine.after checkRecord none (timesOf k calls) :=
  (run_refines (isMap_create tablesize) hfull k).2

theorem pairwise_timesOf (hclock : calls.Pairwise fun c c' => c.currentTime ≤ c'.currentTime)
    (k : RateTrackerAddress) : (timesOf k calls).Pairwise (· ≤ ·) := by
  rw [timesOf, Machine.own, List.filter_map, List.map_map, List.pairwise_map]
  exact hclock.filter _

theorem timesOf_append (k : RateTrackerAddress) (calls later : List RateCall) :
    timesOf k (calls ++ later) = timesOf k calls ++ timesOf k later := by
  rw [timesOf, List.map_append, Machine.own_append]
  rfl

theorem timesOf_cons_own (call : RateCall) (calls : List RateCall) :
    timesOf (rateTrackerAddress call.addr) (call :: calls) =
      call.currentTime :: timesOf (rateTrackerAddress call.addr) calls := by
  rw [timesOf, List.map_cons, Machine.own_cons]
  exact if_pos rfl

theorem mem_timesOf {k : RateTrackerAddress} {u : ℤ} : u ∈ timesOf k calls ↔
    ∃ call ∈ calls, rateTrackerAddress call.addr = k ∧ call.currentTime = u := by
  simp [timesOf, Machine.own, RateCall.keyed, and_assoc]

/-- Where a time of a key comes from. -/
theorem timesOf_eq_append_cons {k : RateTrackerAddress} {before later : List ℤ} {u : ℤ}
    (h : timesOf k calls = before ++ u :: later) : ∃ calls₁ call calls₂,
      calls = calls₁ ++ call :: calls₂ ∧ rateTrackerAddress call.addr = k ∧
      call.currentTime = u ∧ timesOf k calls₁ = before ∧ timesOf k calls₂ = later := by
  obtain ⟨is₁, is₂, hsplit, h₁, h₂⟩ := Machine.own_eq_append_cons h
  obtain ⟨calls₁, rest, rfl, rfl, hrest⟩ := List.map_eq_append_iff.mp hsplit
  obtain ⟨call, calls₂, rfl, hcall, rfl⟩ := List.map_eq_cons_iff.mp hrest
  exact ⟨calls₁, call, calls₂, rfl, congrArg Prod.fst hcall, congrArg Prod.snd hcall, h₁, h₂⟩

end

/-! ### Windows -/

/-- No call that finds its address without a record comes within an interval of that
address's last call, and no penalty is entered as the time 0. -/
def RateLimiter.Remembers (limiter : RateLimiter) (calls : List RateCall) : Prop :=
  ∀ before call later, calls = before ++ call :: later →
    ((Machine.after rateCheck limiter before).table.lookup (rateTrackerAddress call.addr) = none →
      ∀ c ∈ before, rateTrackerAddress c.addr = rateTrackerAddress call.addr →
        c.currentTime + RESET_INTERVAL_SECONDS ≤ call.currentTime) ∧
    ∀ rt, (Machine.after rateCheck limiter before).table.lookup (rateTrackerAddress call.addr) =
      some rt → rt.Floods call.currentTime → call.currentTime + PENALTY_TIME_SECONDS ≠ 0

/-- The hourly rate, for the length of the interval. -/
def ratePerInterval : ℕ := MAX_RATE * RESET_INTERVAL_SECONDS.toNat / 3600

theorem unforgetting_of_remembers {tablesize : ℕ} {calls : List RateCall}
    (hfull : (RateLimiter.create tablesize).NeverFull calls)
    (hmem : (RateLimiter.create tablesize).Remembers calls) (k : RateTrackerAddress) :
    Unforgetting (timesOf k calls) := by
  intro before u later hsplit
  obtain ⟨calls₁, call, calls₂, rfl, rfl, rfl, rfl, rfl⟩ := timesOf_eq_append_cons hsplit
  obtain ⟨hfresh, hpenalty⟩ := hmem calls₁ call calls₂ rfl
  rw [lookup_behind hfull.append.1] at hfresh hpenalty
  refine ⟨fun hnone v hv => ?_, hpenalty⟩
  obtain ⟨c, hc, hkey, rfl⟩ := mem_timesOf.mp hv
  exact hfresh hnone c hc hkey

/-- As long as no address is forgotten and at once taken up again, no window lets through more
than the rate allows. -/
theorem window_within_rate (tablesize : ℕ) (calls : List RateCall)
    (hclock : calls.Pairwise fun c c' => c.currentTime ≤ c'.currentTime)
    (hfull : (RateLimiter.create tablesize).NeverFull calls)
    (hmem : (RateLimiter.create tablesize).Remembers calls) (addr : CSocketAddress) (t : ℤ) :
    passesIn t (tracesOf (rateTrackerAddress addr) (RateLimiter.create tablesize) calls) ≤
      ratePerInterval := by
  rw [(run_refines (isMap_create tablesize) hfull _).1]
  exact (budget_run t (pairwise_timesOf hclock _)
    (unforgetting_of_remembers hfull hmem _)).le

/-- A caller alone fills no table. -/
theorem neverFull_alone (calls : List ℤ) :
    (RateLimiter.create 1).NeverFull (calls.map (RateCall.mk sampleVisitor)) := by
  have hsize : [sampleVisitor].length ≤ 1 := le_rfl
  apply neverFull_of_addresses hsize
  intro call hcall
  obtain ⟨u, -, rfl⟩ := List.mem_map.mp hcall
  exact ⟨sampleVisitor, List.mem_singleton_self _, by change sampleVisitor.isSameIP _ = _; decide⟩

theorem timesOf_alone (calls : List ℤ) : timesOf (rateTrackerAddress sampleVisitor)
    (calls.map (RateCall.mk sampleVisitor)) = calls := by
  induction calls with
  | nil => rfl
  | cons u calls ih => rw [List.map_cons, timesOf_cons_own ⟨sampleVisitor, u⟩, ih]

theorem remembers_alone :
    (RateLimiter.create 1).Remembers ([0, 1].map (RateCall.mk sampleVisitor)) := by
  intro before call later hsplit
  match before with
  | [] =>
    obtain ⟨rfl, -⟩ := List.cons.inj hsplit
    exact ⟨fun _ c hc => absurd hc (by simp), fun _ _ _ => by decide⟩
  | [c] =>
    simp only [List.map_cons, List.map_nil, List.cons_append, List.nil_append, List.cons.injEq] at hsplit
    obtain ⟨rfl, rfl, -⟩ := hsplit
    refine ⟨fun hnone => ?_, fun _ _ _ => by decide⟩
    have hlookup := lookup_behind (neverFull_alone [0]) (rateTrackerAddress sampleVisitor)
    rw [timesOf_alone] at hlookup
    exact absurd (hlookup.symm.trans hnone) (by decide)
  | c :: c' :: before =>
    have hlen := congrArg List.length hsplit
    simp at hlen

theorem window_within_rate_alone :
    passesIn 0 (tracesOf (rateTrackerAddress sampleVisitor) (RateLimiter.create 1)
      ([0, 1].map (RateCall.mk sampleVisitor))) ≤ ratePerInterval :=
  window_within_rate 1 _ (by decide) (neverFull_alone _) remembers_alone sampleVisitor 0

/-- One packet, then two bursts around the moment at which the record is dropped. -/
def forgottenBurst : List ℤ := 0 :: (List.replicate 117 120 ++ List.replicate 60 121)

theorem window_exceeds_rate : ¬∀ (tablesize : ℕ) (calls : List RateCall),
    calls.Pairwise (fun c c' => c.currentTime ≤ c'.currentTime) →
    (RateLimiter.create tablesize).NeverFull calls → ∀ (addr : CSocketAddress) (t : ℤ),
    passesIn t (tracesOf (rateTrackerAddress addr) (RateLimiter.create tablesize) calls) ≤
      ratePerInterval := by
  intro hbound
  have hclock : (forgottenBurst.map (RateCall.mk sampleVisitor)).Pairwise
      fun c c' => c.currentTime ≤ c'.currentTime := by
    rw [List.pairwise_map]
    decide +kernel
  have hpassed := hbound 1 _ hclock (neverFull_alone _) sampleVisitor 120
  rw [(run_refines (isMap_create 1) (neverFull_alone _) _).1, timesOf_alone] at hpassed
  have hmany : passesIn 120 (Machine.trace checkRecord none forgottenBurst) = 177 := by
    decide +kernel
  rw [hmany] at hpassed
  exact absurd hpassed (by decide)

/-! ### Penalties -/

/-- The call is refused, and its address has to wait for a full penalty from now on. -/
def RateLimiter.EntersPenalty (limiter : RateLimiter) (call : RateCall) : Prop :=
  (rateCheck limiter call).1 = false ∧ ∃ rt,
    (rateCheck limiter call).2.table.lookup (rateTrackerAddress call.addr) = some rt ∧
      rt.penaltyTime = call.currentTime + PENALTY_TIME_SECONDS

/-- Among the calls so far, `first` is the one the record of its address starts with. -/
structure RateLimiter.TrackedSince (limiter : RateLimiter) (earlier : List RateCall)
    (first : RateCall) (since : List RateCall) : Prop where
  fresh : (Machine.after rateCheck limiter earlier).table.lookup
    (rateTrackerAddress first.addr) = none
  kept : ∀ upTo, upTo <+: since → (Machine.after rateCheck limiter
    (earlier ++ first :: upTo)).table.lookup (rateTrackerAddress first.addr) ≠ none

section

variable {tablesize : ℕ} {calls : List RateCall}

theorem rateCheck_own (hfull : (RateLimiter.create tablesize).NeverFull calls) {call : RateCall}
    (hroom : (behind tablesize calls).HasRoom call) :
    (rateCheck (behind tablesize calls) call).1 =
        (checkRecord (Machine.after checkRecord none
          (timesOf (rateTrackerAddress call.addr) calls)) call.currentTime).1 ∧
      (rateCheck (behind tablesize calls) call).2.table.lookup (rateTrackerAddress call.addr) =
        (checkRecord (Machine.after checkRecord none
          (timesOf (rateTrackerAddress call.addr) calls)) call.currentTime).2 := by
  have hmap := (run_simulates (isMap_create tablesize) hfull).2
  obtain ⟨hout, hmap', -⟩ := rateCheck_refines hmap hroom
  rw [hout, hmap'.lookup]
  dsimp only [Machine.keyed]
  rw [Machine.after_keyed, ← timesOf]
  exact ⟨rfl, Function.update_self ..⟩

/-- A record is tracked since some call, and has counted the calls of its address since. -/
theorem exists_trackedSince (hfull : (RateLimiter.create tablesize).NeverFull calls)
    {k : RateTrackerAddress} {rt : RateTracker}
    (hrt : Machine.after checkRecord none (timesOf k calls) = some rt) :
    ∃ earlier first since, calls = earlier ++ first :: since ∧ rateTrackerAddress first.addr = k ∧
      (RateLimiter.create tablesize).TrackedSince earlier first since ∧
      rt.firstEntryTime = first.currentTime ∧
      rt.count = UInt64.ofNat (timesOf k (first :: since)).length := by
  obtain ⟨earlier', u, since', hsplit, ho⟩ := exists_openedAt hrt
  obtain ⟨earlier, first, since, rfl, rfl, rfl, rfl, rfl⟩ := timesOf_eq_append_cons hsplit
  refine ⟨earlier, first, since, rfl, rfl, ⟨?_, ?_⟩, ho.first_eq, ?_⟩
  · rw [← behind, lookup_behind hfull.append.1]
    exact ho.fresh
  · rintro upTo ⟨rest, rfl⟩
    rw [← behind, lookup_behind (by
      have hfront : earlier ++ first :: (upTo ++ rest) = (earlier ++ first :: upTo) ++ rest := by simp
      rw [hfront] at hfull
      exact hfull.append.1), timesOf_append, timesOf_cons_own]
    apply ho.kept
    rw [timesOf_append]
    exact List.prefix_append _ _
  · rw [timesOf_cons_own]
    exact ho.count_eq

/-- The record that a call into the penalty box leaves. -/
theorem RateLimiter.EntersPenalty.exists_record {call : RateCall}
    (hfull : (RateLimiter.create tablesize).NeverFull (calls ++ [call]))
    (h : (behind tablesize calls).EntersPenalty call) :
    ∃ rt, Machine.after checkRecord none
        (timesOf (rateTrackerAddress call.addr) (calls ++ [call])) = some rt ∧
      rt.penaltyTime = call.currentTime + PENALTY_TIME_SECONDS := by
  obtain ⟨-, rt, hlookup, hpen⟩ := h
  rw [(rateCheck_own hfull.append.1 (hfull calls call [] rfl)).2] at hlookup
  rw [timesOf_append, timesOf_cons_own]
  exact ⟨rt, (Machine.after_concat ..).trans hlookup, hpen⟩

theorem entersPenalty_of_own {call : RateCall} {rt : RateTracker}
    (hfull : (RateLimiter.create tablesize).NeverFull (calls ++ [call]))
    (hstep : checkRecord (Machine.after checkRecord none
      (timesOf (rateTrackerAddress call.addr) calls)) call.currentTime = (false, some rt))
    (hpen : rt.penaltyTime = call.currentTime + PENALTY_TIME_SECONDS) :
    (behind tablesize calls).EntersPenalty call := by
  obtain ⟨hout, hlookup⟩ := rateCheck_own hfull.append.1 (hfull calls call [] rfl)
  rw [hstep] at hout hlookup
  exact ⟨hout, rt, hlookup, hpen⟩

/-- A record is not older than the calls of its address. -/
theorem firstEntryTime_le {k : RateTrackerAddress} {rt : RateTracker} {now : ℤ}
    (hrt : Machine.after checkRecord none (timesOf k calls) = some rt)
    (hnow : ∀ c ∈ calls, c.currentTime ≤ now) : rt.firstEntryTime ≤ now := by
  obtain ⟨earlier, first, since, hsplit, ho⟩ := exists_openedAt hrt
  have hmem : first ∈ timesOf k calls := by simp [hsplit]
  obtain ⟨c, hc, -, hcu⟩ := mem_timesOf.mp hmem
  rw [ho.first_eq, ← hcu]
  exact hnow c hc

theorem mem_tracesOf {k : RateTrackerAddress} {limiter : RateLimiter} {e : RateCall × Bool}
    (he : e ∈ Machine.trace rateCheck limiter calls) (hk : rateTrackerAddress e.1.addr = k) :
    (e.1.currentTime, e.2) ∈ tracesOf k limiter calls :=
  List.mem_map_of_mem (List.mem_filter.mpr ⟨he, decide_eq_true hk⟩)

/-- The calls behind some others, as their own record sees them. -/
theorem tracesOf_behind {later : List RateCall}
    (hfull : (RateLimiter.create tablesize).NeverFull (calls ++ later)) (k : RateTrackerAddress) :
    tracesOf k (behind tablesize calls) later = Machine.trace checkRecord
      (Machine.after checkRecord none (timesOf k calls)) (timesOf k later) := by
  have hmap := (run_simulates (isMap_create tablesize) hfull.append.1).2
  rw [(run_refines hmap hfull.append.2 k).1, Machine.after_keyed, ← timesOf]

/-- The first call behind a penalty gets what its average rate deserves. -/
theorem answer_behind {next : RateCall} {rest : List RateCall} {rt : RateTracker}
    (hfull : (RateLimiter.create tablesize).NeverFull (calls ++ next :: rest))
    (hrt : Machine.after checkRecord none (timesOf (rateTrackerAddress next.addr) calls) = some rt)
    (hpen : rt.penaltyTime ≠ 0) (hserved : rt.penaltyTime < next.currentTime)
    (hlong : 60 ≤ next.currentTime - rt.firstEntryTime) :
    ∃ earlier first since, calls = earlier ++ first :: since ∧
      rateTrackerAddress first.addr = rateTrackerAddress next.addr ∧
      (RateLimiter.create tablesize).TrackedSince earlier first since ∧
      let packets := (timesOf (rateTrackerAddress next.addr) (first :: since ++ [next])).length
      let rate := averageRate packets (next.currentTime - first.currentTime)
      (packets * 3600 < 2 ^ 64 →
        rate = packets * 3600 / (next.currentTime - first.currentTime).toNat) ∧
      ((rateCheck (behind tablesize calls) next).1 = true ↔ rate < MAX_RATE) ∧
      (MAX_RATE ≤ rate → (behind tablesize calls).EntersPenalty next) := by
  obtain ⟨earlier, first, since, hcalls, hkey, htracked, hfirst, hcount⟩ :=
    exists_trackedSince hfull.append.1 hrt
  refine ⟨earlier, first, since, hcalls, hkey, htracked, fun hn => averageRate_eq hn _, ?_⟩
  have hpackets : (rt.counted next.currentTime).count = UInt64.ofNat
      (timesOf (rateTrackerAddress next.addr) (first :: since ++ [next])).length := by
    rw [timesOf_append, timesOf_cons_own, List.length_append]
    change rt.count + 1 = _
    rw [hcount]
    exact (UInt64.ofNat_add _ 1).symm
  have haverage := getRate_lt_iff_average hlong hpackets
  change _ ↔ averageRate _ (next.currentTime - rt.firstEntryTime) < MAX_RATE at haverage
  rw [hfirst] at haverage
  have hout := (rateCheck_own hfull.append.1 (hfull _ next rest rfl)).1
  rw [hrt] at hout
  obtain ⟨hiff, hflood⟩ := checkRecord_behind hpen hserved
  refine ⟨?_, fun hfast => ?_⟩
  · rw [hout, hiff]
    exact haverage
  · have hstep := hflood (not_lt.mp fun hslow => absurd (haverage.mp hslow) (not_lt.mpr hfast))
    rw [List.append_cons] at hfull
    rw [← hrt] at hstep
    exact entersPenalty_of_own hfull.append.1 hstep rfl

end

/-- Once in the penalty box, an address is refused for the whole penalty. The first call behind
it is let through just when the average rate since the first tracked packet has dropped, and
starts a new penalty otherwise. -/
theorem penalty_served (tablesize : ℕ) (before : List RateCall) (call : RateCall)
    (later : List RateCall)
    (hclock : (before ++ call :: later).Pairwise fun c c' => c.currentTime ≤ c'.currentTime)
    (hpos : ∀ c ∈ before ++ call :: later, 0 < c.currentTime)
    (hfull : (RateLimiter.create tablesize).NeverFull (before ++ call :: later))
    (hpenalty : (behind tablesize before).EntersPenalty call) :
    (∀ e ∈ Machine.trace rateCheck (behind tablesize (before ++ [call])) later,
      rateTrackerAddress e.1.addr = rateTrackerAddress call.addr →
      e.1.currentTime ≤ call.currentTime + PENALTY_TIME_SECONDS → e.2 = false) ∧
    ∀ during next rest, later = during ++ next :: rest →
      rateTrackerAddress next.addr = rateTrackerAddress call.addr →
      (∀ c ∈ during, rateTrackerAddress c.addr = rateTrackerAddress call.addr →
        c.currentTime ≤ call.currentTime + PENALTY_TIME_SECONDS) →
      call.currentTime + PENALTY_TIME_SECONDS < next.currentTime →
      ∃ earlier first since, before ++ call :: during = earlier ++ first :: since ∧
        rateTrackerAddress first.addr = rateTrackerAddress call.addr ∧
        (RateLimiter.create tablesize).TrackedSince earlier first since ∧
        let packets := (timesOf (rateTrackerAddress call.addr) (first :: since ++ [next])).length
        let rate := averageRate packets (next.currentTime - first.currentTime)
        (packets * 3600 < 2 ^ 64 →
          rate = packets * 3600 / (next.currentTime - first.currentTime).toNat) ∧
        ((rateCheck (behind tablesize (before ++ call :: during)) next).1 = true ↔
          rate < MAX_RATE) ∧
        (MAX_RATE ≤ rate →
          (behind tablesize (before ++ call :: during)).EntersPenalty next) := by
  set k := rateTrackerAddress call.addr
  have hassoc : ∀ after, before ++ call :: after = (before ++ [call]) ++ after := by simp
  obtain ⟨rt, hrt, hpen⟩ := hpenalty.exists_record (by
    rw [hassoc] at hfull
    exact hfull.append.1)
  have hpen0 : rt.penaltyTime ≠ 0 := by
    have hcall := hpos call (by simp)
    rw [hpen, PENALTY_TIME_SECONDS]
    omega
  constructor
  · intro e he hkey hin
    have htrace := mem_tracesOf he hkey
    rw [tracesOf_behind (by rwa [← hassoc]), hrt] at htrace
    have hlater : (timesOf k later).Pairwise (· ≤ ·) := by
      rw [hassoc] at hclock
      exact pairwise_timesOf (List.pairwise_append.mp hclock).2.1 k
    exact trace_inside hpen0 hlater _ htrace (by rw [hpen]; exact hin)
  · rintro during next rest rfl hkey hduring hnext
    have hsplit : before ++ call :: (during ++ next :: rest) =
        (before ++ call :: during) ++ next :: rest := by simp
    rw [hsplit] at hfull
    have hinside : ∀ u ∈ timesOf k during, u ≤ rt.penaltyTime := by
      intro u hu
      obtain ⟨c, hc, hck, rfl⟩ := mem_timesOf.mp hu
      rw [hpen]
      exact hduring c hc hck
    obtain ⟨rt', hrt', hpen', hfirst'⟩ := after_inside hpen0 hinside
    have hafter : Machine.after checkRecord none (timesOf k (before ++ call :: during)) = some rt' := by
      rw [hassoc, timesOf_append, Machine.after_append, hrt, hrt']
    have hage : rt.firstEntryTime ≤ call.currentTime := by
      refine firstEntryTime_le hrt fun c hc => ?_
      rcases List.mem_append.mp hc with hc | hc
      · exact (List.pairwise_append.mp hclock).2.2 c hc call (by simp)
      · rw [List.mem_singleton.mp hc]
    rw [← hkey] at hafter ⊢
    refine answer_behind hfull hafter ?_ ?_ ?_
    · rw [hpen']
      exact hpen0
    · rw [hpen', hpen]
      exact hnext
    · rw [PENALTY_TIME_SECONDS] at hnext
      omega

/-- Sixty packets in one second, and one in the last second of the penalty. -/
theorem penalty_served_flood :
    (rateCheck (behind 1 ((List.replicate 59 1).map (RateCall.mk sampleVisitor) ++
      [⟨sampleVisitor, 1⟩])) ⟨sampleVisitor, 3601⟩).1 = false := by
  have hcalls : (List.replicate 59 1).map (RateCall.mk sampleVisitor) ++ ⟨sampleVisitor, 1⟩ ::
      [⟨sampleVisitor, 3601⟩] =
        (List.replicate 60 1 ++ [3601]).map (RateCall.mk sampleVisitor) := rfl
  have hserved := penalty_served 1 ((List.replicate 59 1).map (RateCall.mk sampleVisitor))
    ⟨sampleVisitor, 1⟩ [⟨sampleVisitor, 3601⟩]
  rw [hcalls, List.pairwise_map, List.forall_mem_map] at hserved
  have hstep : checkRecord (Machine.after checkRecord none (timesOf (rateTrackerAddress sampleVisitor)
      ((List.replicate 59 1).map (RateCall.mk sampleVisitor)))) 1 = (false, some ⟨60, 1, 1, 3601⟩) := by
    rw [timesOf_alone]
    decide +kernel
  have hrefused := (hserved (by decide +kernel) (by decide +kernel) (neverFull_alone _)
    (entersPenalty_of_own (neverFull_alone (List.replicate 60 1)) hstep rfl)).1
  have hlast : (3601 : ℤ) ≤ 1 + PENALTY_TIME_SECONDS := by decide
  rw [Machine.trace, List.forall_mem_cons] at hrefused
  dsimp only at hrefused
  exact hrefused.1 rfl hlast

end StunServer

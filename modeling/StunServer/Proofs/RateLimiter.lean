import StunServer.Spec.RateRecord
import StunServer.Proofs.FastHashMap

/-! The limiter keeps a record for each address, as the record machine says. -/

namespace StunServer

open FastHash RateLimiter Bytes

/-! ### Keys -/

theorem load64_pair_inj {bs cs : List UInt8} (hb : bs.length = 16) (hc : cs.length = 16)
    (h : load64 (slice bs 0 8) = load64 (slice cs 0 8))
    (h' : load64 (slice bs 8 8) = load64 (slice cs 8 8)) : bs = cs := by
  have hlen (ds : List UInt8) (hd : ds.length = 16) (off : ℕ) (ho : off ≤ 8) :
      (slice ds off 8).length = 8 := slice_length (by omega)
  have hfirst := load64_inj (hlen bs hb 0 (by omega)) (hlen cs hc 0 (by omega)) h
  have hsecond := load64_inj (hlen bs hb 8 le_rfl) (hlen cs hc 8 le_rfl) h'
  have hsplit (ds : List UInt8) (hd : ds.length = 16) : ds = slice ds 0 8 ++ slice ds 8 8 := by
    rw [← slice_split, slice_zero_take, List.take_of_length_le (by omega)]
  rw [hsplit bs hb, hsplit cs hc, hfirst, hsecond]

theorem getIP_length (a : CSocketAddress) : (a.getIP 16).length = a.getIPLength := by
  cases a with
  | addr4 port ip => exact mem32_length _
  | addr6 port ip => exact ip.toList_length

theorem getIP_eq_iff {a b : CSocketAddress} (hfamily : a.getFamily = b.getFamily) :
    a.getIP 16 = b.getIP 16 ↔ a.isSameIP b := by
  cases a with
  | addr4 port ip =>
    cases b with
    | addr4 port' ip' =>
      change mem32 (htonl ip) = mem32 (htonl ip') ↔ decide (mem32 ip = mem32 ip') = true
      rw [mem32_htonl, mem32_htonl, decide_eq_true_iff]
      exact List.reverse_inj.symm
    | addr6 port' ip' => cases hfamily
  | addr6 port ip =>
    cases b with
    | addr4 port' ip' => cases hfamily
    | addr6 port' ip' => exact decide_eq_true_iff.symm

/-- Within a family the key is the IP address. -/
theorem rateTrackerAddress_eq_iff {a b : CSocketAddress} (hfamily : a.getFamily = b.getFamily) :
    rateTrackerAddress a = rateTrackerAddress b ↔ a.isSameIP b := by
  rw [← getIP_eq_iff hfamily]
  constructor
  · intro h
    have hsize (c : CSocketAddress) :
        (overwrite (List.replicate 16 0) 0 (c.getIP 16)).length = 16 := by
      have hle : c.getIPLength ≤ 16 := by
        cases c <;> simp [CSocketAddress.getIPLength, STUN_IPV4_LENGTH, STUN_IPV6_LENGTH]
      rw [overwrite_length (by simpa [getIP_length] using hle), List.length_replicate]
    have hbytes := load64_pair_inj (hsize a) (hsize b) (congrArg RateTrackerAddress.addrbytes0 h)
      (congrArg RateTrackerAddress.addrbytes1 h)
    have hlen : (a.getIP 16).length = (b.getIP 16).length := by
      rw [getIP_length, getIP_length]
      cases a <;> cases b <;> first | rfl | cases hfamily
    rw [overwrite, overwrite, List.append_assoc, List.append_assoc] at hbytes
    exact List.append_inj_left hbytes hlen
  · intro h
    rw [rateTrackerAddress, rateTrackerAddress, h]

/-! ### One call -/

/-- The ways a call for a known address can go. -/
inductive CheckCase (rt : RateTracker) (now : ℤ) : Bool × Option RateTracker → Prop
  /-- He is in the penalty box. -/
  | inside : rt.penaltyTime ≠ 0 → now ≤ rt.penaltyTime → CheckCase rt now (false, some (rt.counted now))
  /-- He floods, and gets a penalty or a new one. -/
  | floods : (rt.penaltyTime ≠ 0 → rt.penaltyTime < now) → MAX_RATE ≤ getRate (rt.counted now) →
    CheckCase rt now (false, some ((rt.counted now).penalised now))
  /-- He has served his penalty. -/
  | parole : rt.penaltyTime ≠ 0 → rt.penaltyTime < now → getRate (rt.counted now) < MAX_RATE →
    CheckCase rt now (true, some (rt.counted now).paroled)
  /-- He has been a good citizen and is forgotten. -/
  | forget : rt.penaltyTime = 0 → getRate (rt.counted now) < MAX_RATE →
    RESET_INTERVAL_SECONDS < now - rt.firstEntryTime → CheckCase rt now (true, none)
  | counts : rt.penaltyTime = 0 → getRate (rt.counted now) < MAX_RATE →
    now - rt.firstEntryTime ≤ RESET_INTERVAL_SECONDS → CheckCase rt now (true, some (rt.counted now))

theorem checkRecord_some (rt : RateTracker) (now : ℤ) :
    CheckCase rt now (checkRecord (some rt) now) := by
  have hpenalty : (rt.counted now).penaltyTime = rt.penaltyTime := rfl
  have htimes : (rt.counted now).lastEntryTime - (rt.counted now).firstEntryTime =
      now - rt.firstEntryTime := rfl
  dsimp only [checkRecord]
  rw [hpenalty, htimes]
  split_ifs with hinside hfloods hpen hold
  · exact .inside hinside.1 hinside.2
  · exact .floods (fun hpen => not_le.mp fun hle => hinside ⟨hpen, hle⟩) hfloods
  · exact .parole hpen (by omega) (by omega)
  · exact .forget (by omega) (by omega) hold
  · exact .counts (by omega) (by omega) (by omega)

section

variable {limiter : RateLimiter} {m : RateTrackerAddress → Option RateTracker}

/-- A known address has its record overwritten, or removed. -/
theorem rateCheckImpl_some {addr : CSocketAddress} {rt : RateTracker} (now : ℤ)
    (hlookup : limiter.table.lookup (rateTrackerAddress addr) = some rt) :
    limiter.rateCheckImpl addr now = ((checkRecord (some rt) now).1,
      match (checkRecord (some rt) now).2 with
      | some rt' => ⟨limiter.table.store (rateTrackerAddress addr) rt'⟩
      | none => ⟨((limiter.table.store (rateTrackerAddress addr) (rt.counted now)).remove
          (rateTrackerAddress addr)).2⟩) := by
  have hrun : ∀ r, CheckCase rt now r → limiter.rateCheckImpl addr now = (r.1,
      match r.2 with
      | some rt' => ⟨limiter.table.store (rateTrackerAddress addr) rt'⟩
      | none => ⟨((limiter.table.store (rateTrackerAddress addr) (rt.counted now)).remove
          (rateTrackerAddress addr)).2⟩) := by
    intro r hr
    rw [rateCheckImpl, hlookup]
    change (if rt.penaltyTime ≠ 0 then _ else if getRate (rt.counted now) ≥ MAX_RATE then _ else _) = _
    cases hr with
    | inside hpen hle => rw [if_pos hpen]; exact if_pos hle
    | floods hpen hrate =>
      by_cases h0 : rt.penaltyTime = 0
      · rw [if_neg (not_not.mpr h0), if_pos hrate]
        rfl
      · rw [if_pos h0, if_neg (not_le.mpr (hpen h0))]
        exact if_neg (not_lt.mpr hrate)
    | parole hpen hlt hrate =>
      rw [if_pos hpen, if_neg (not_le.mpr hlt)]
      exact if_pos hrate
    | forget hpen hrate hold =>
      rw [if_neg (not_not.mpr hpen), if_neg (not_le.mpr hrate)]
      exact if_pos hold
    | counts hpen hrate hnew =>
      rw [if_neg (not_not.mpr hpen), if_neg (not_le.mpr hrate)]
      exact if_neg (not_lt.mpr hnew)
  exact hrun _ (checkRecord_some rt now)

/-- What a call comes to, whatever the table looks like inside. -/
theorem rateCheck_refines (h : IsMap limiter.table m) {call : RateCall}
    (hroom : limiter.HasRoom call) :
    (rateCheck limiter call).1 = (Machine.keyed checkRecord m call.keyed).1 ∧
      IsMap (rateCheck limiter call).2.table (Machine.keyed checkRecord m call.keyed).2 ∧
      (rateCheck limiter call).2.table.fsize = limiter.table.fsize := by
  have hlookup := h.lookup (rateTrackerAddress call.addr)
  rw [HasRoom, hlookup] at hroom
  dsimp only [rateCheck, Machine.keyed, RateCall.keyed]
  cases hk : m (rateTrackerAddress call.addr) with
  | none =>
    obtain ⟨t', hrun, ht', -, hfsize⟩ := h.insert hk (hroom hk) (RateTracker.first call.currentTime)
    dsimp only [RateTracker.first] at hrun
    rw [rateCheckImpl, hlookup, hk]
    simp only [hrun]
    exact ⟨rfl, ht', hfsize⟩
  | some rt =>
    rw [rateCheckImpl_some _ (hlookup.trans hk)]
    refine ⟨rfl, ?_⟩
    cases hrt : (checkRecord (some rt) call.currentTime).2 with
    | some rt' =>
      obtain ⟨hmap, -, hfsize⟩ := h.store hk rt'
      exact ⟨hmap, hfsize⟩
    | none =>
      obtain ⟨hmap, -, hfsize⟩ := h.store hk (rt.counted call.currentTime)
      obtain ⟨t', hrun, hmap', -, hfsize'⟩ := hmap.remove (Function.update_self ..)
      rw [Function.update_idem] at hmap'
      dsimp only
      rw [hrun]
      exact ⟨hmap', hfsize'.trans hfsize⟩

/-! ### Runs -/

theorem run_simulates (h : IsMap limiter.table m) {calls : List RateCall}
    (hroom : limiter.NeverFull calls) :
    (Machine.trace rateCheck limiter calls).map (fun e => (e.1.keyed, e.2)) =
        Machine.trace (Machine.keyed checkRecord) m (calls.map RateCall.keyed) ∧
      IsMap (Machine.after rateCheck limiter calls).table
        (Machine.after (Machine.keyed checkRecord) m (calls.map RateCall.keyed)) := by
  have hstep : ∀ (limiter : RateLimiter) (m : RateTrackerAddress → Option RateTracker)
      (call : RateCall), IsMap limiter.table m → limiter.HasRoom call →
        (rateCheck limiter call).1 = (Machine.keyed checkRecord m call.keyed).1 ∧
          IsMap (rateCheck limiter call).2.table (Machine.keyed checkRecord m call.keyed).2 := by
    intro limiter m call h hroom
    obtain ⟨hout, hmap, -⟩ := rateCheck_refines h hroom
    exact ⟨hout, hmap⟩
  exact Machine.simulates hstep h calls hroom

/-- What a run comes to for one key is what its own record makes of its own calls. -/
theorem run_refines (h : IsMap limiter.table m) {calls : List RateCall}
    (hroom : limiter.NeverFull calls) (k : RateTrackerAddress) :
    tracesOf k limiter calls = Machine.trace checkRecord (m k) (timesOf k calls) ∧
      (Machine.after rateCheck limiter calls).table.lookup k =
        Machine.after checkRecord (m k) (timesOf k calls) := by
  obtain ⟨htrace, hmap⟩ := run_simulates h hroom
  constructor
  · have hown := congrArg (List.map fun e => (e.1.2, e.2)) (Machine.trace_keyed checkRecord m k
      (calls.map RateCall.keyed))
    rw [← htrace, List.filter_map, List.map_map, List.map_map] at hown
    exact hown.trans (List.map_id _)
  · rw [hmap.lookup, Machine.after_keyed]
    rfl

theorem neverFull_cons {call : RateCall} {calls : List RateCall} (hroom : limiter.HasRoom call)
    (hrest : (rateCheck limiter call).2.NeverFull calls) : limiter.NeverFull (call :: calls) := by
  intro before call' later hsplit
  cases before with
  | nil =>
    obtain ⟨rfl, -⟩ := List.cons.inj hsplit
    exact hroom
  | cons first before =>
    obtain ⟨rfl, hsplit'⟩ := List.cons.inj hsplit
    exact hrest before call' later hsplit'

theorem RateLimiter.NeverFull.append {calls later : List RateCall} (h : limiter.NeverFull (calls ++ later)) :
    limiter.NeverFull calls ∧ (Machine.after rateCheck limiter calls).NeverFull later := by
  constructor
  · rintro before call rest rfl
    exact h before call (rest ++ later) (by simp)
  · rintro before call rest rfl
    have hroom := h (calls ++ before) call rest (by simp)
    rwa [Machine.after_append] at hroom

/-- A table with room for every key that occurs is never full. -/
theorem neverFull_of_card_le (h : IsMap limiter.table m) {s : Finset RateTrackerAddress}
    (hs : ∀ k, m k ≠ none → k ∈ s) (hcard : s.card ≤ limiter.table.fsize) {calls : List RateCall}
    (hcalls : ∀ call ∈ calls, rateTrackerAddress call.addr ∈ s) : limiter.NeverFull calls := by
  induction calls generalizing limiter m with
  | nil =>
    intro before call later hsplit
    exact absurd hsplit (by simp)
  | cons call calls ih =>
    have hkey := hcalls call (by simp)
    have hroom : limiter.HasRoom call := by
      intro hnone
      rw [h.lookup] at hnone
      have hsize : limiter.table.size ≤ (s.erase (rateTrackerAddress call.addr)).card := by
        apply h.size_le_card
        intro k hk
        refine Finset.mem_erase.mpr ⟨?_, hs k hk⟩
        rintro rfl
        exact hk hnone
      exact (Nat.lt_of_le_of_lt hsize (Finset.card_erase_lt_of_mem hkey)).trans_le hcard
    obtain ⟨-, hmap, hfsize⟩ := rateCheck_refines h hroom
    apply neverFull_cons hroom
    apply ih hmap
    · intro k hk
      by_cases he : k = rateTrackerAddress call.addr
      · rw [he]
        exact hkey
      · dsimp only [Machine.keyed, RateCall.keyed] at hk
        rw [Function.update_of_ne he] at hk
        exact hs k hk
    · rw [hfsize]
      exact hcard
    · exact fun c hc => hcalls c (List.mem_cons_of_mem _ hc)

end

end StunServer

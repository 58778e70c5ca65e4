import StunServer.Proofs.RateLimiter

/-! Runs of one record: what a window lets through, and how a penalty is served. -/

namespace StunServer

open RateLimiter

/-! ### Rates -/

/-- The seconds a rate is taken over. -/
def RateTracker.seconds (rt : RateTracker) : ℤ :=
  if rt.lastEntryTime > rt.firstEntryTime then rt.lastEntryTime - rt.firstEntryTime else 1

theorem RateTracker.seconds_pos (rt : RateTracker) : 0 < rt.seconds := by
  unfold RateTracker.seconds
  split_ifs <;> omega

theorem RateTracker.seconds_le (rt : RateTracker) :
    rt.seconds ≤ max (rt.lastEntryTime - rt.firstEntryTime) 1 := by
  unfold RateTracker.seconds
  split_ifs <;> omega

theorem toNat_counted {r : RateTracker} (now : ℤ) (h : r.count.toNat + 1 < 2 ^ 64) :
    (r.counted now).count.toNat = r.count.toNat + 1 := by
  change (r.count + 1).toNat = _
  rw [UInt64.toNat_add]
  exact Nat.mod_eq_of_lt h

theorem getRate_eq (rt : RateTracker) : getRate rt =
    if rt.count < MIN_COUNT_FOR_CONSIDERATION then 0
    else (rt.count * 3600).toNat / rt.seconds.toNat := rfl

theorem toNat_count_mul {c : UInt64} (hc : c.toNat * 3600 < 2 ^ 64) :
    (c * 3600).toNat = c.toNat * 3600 := by
  rw [UInt64.toNat_mul]
  exact Nat.mod_eq_of_lt hc

/-- A small count is let through below a packet a second, and below the 60th in any case. -/
theorem getRate_lt_iff {rt : RateTracker} (hcount : rt.count.toNat * 3600 < 2 ^ 64) :
    getRate rt < MAX_RATE ↔ rt.count.toNat < 60 ∨ (rt.count.toNat : ℤ) < rt.seconds := by
  have hpos := rt.seconds_pos
  have hmin : rt.count < MIN_COUNT_FOR_CONSIDERATION ↔ rt.count.toNat < 60 := UInt64.lt_iff_toNat_lt
  rw [getRate_eq]
  split_ifs with hlt
  · exact iff_of_true (by decide) (Or.inl (hmin.mp hlt))
  · rw [hmin] at hlt
    rw [toNat_count_mul hcount, Nat.div_lt_iff_lt_mul (by omega), MAX_RATE]
    omega

/-! ### Where a record comes from -/

/-- A record that stays counts the packet. -/
theorem checkRecord_kept {rt rt' : RateTracker} {now : ℤ}
    (h : (checkRecord (some rt) now).2 = some rt') : rt'.count = rt.count + 1 ∧
      rt'.firstEntryTime = rt.firstEntryTime ∧ rt'.lastEntryTime = now := by
  have hcase := checkRecord_some rt now
  generalize checkRecord (some rt) now = result at hcase h
  cases hcase with
  | forget => cases h
  | _ =>
    obtain rfl := Option.some.inj h
    exact ⟨rfl, rfl, rfl⟩

/-- The record was opened at `first` and has counted every call since. -/
structure OpenedAt (rt : RateTracker) (earlier : List ℤ) (first : ℤ) (since : List ℤ) : Prop where
  fresh : Machine.after checkRecord none earlier = none
  first_eq : rt.firstEntryTime = first
  last_eq : rt.lastEntryTime = (first :: since).getLast (by simp)
  count_eq : rt.count = UInt64.ofNat (since.length + 1)
  kept : ∀ upTo, upTo <+: since → Machine.after checkRecord none (earlier ++ first :: upTo) ≠ none

theorem exists_openedAt {ts : List ℤ} {rt : RateTracker}
    (h : Machine.after checkRecord none ts = some rt) :
    ∃ earlier first since, ts = earlier ++ first :: since ∧ OpenedAt rt earlier first since := by
  induction ts using List.reverseRecOn generalizing rt with
  | nil => cases h
  | append_singleton ts now ih =>
    have hwhole := h
    rw [Machine.after_concat] at h
    cases hrt : Machine.after checkRecord none ts with
    | none =>
      rw [hrt] at h
      obtain rfl := Option.some.inj h
      refine ⟨ts, now, [], rfl, hrt, rfl, rfl, rfl, ?_⟩
      intro upTo hupTo
      rw [List.prefix_nil.mp hupTo, hwhole]
      exact Option.some_ne_none _
    | some r =>
      rw [hrt] at h
      obtain ⟨earlier, first, since, rfl, ho⟩ := ih hrt
      obtain ⟨hcount, hfirst, hlast⟩ := checkRecord_kept h
      refine ⟨earlier, first, since ++ [now], by simp, ho.fresh, hfirst.trans ho.first_eq, ?_, ?_, ?_⟩
      · rw [hlast]
        simp
      · rw [hcount, ho.count_eq, List.length_append, List.length_singleton]
        exact (UInt64.ofNat_add _ 1).symm
      · intro upTo hupTo
        rcases List.prefix_concat_iff.mp hupTo with rfl | hupTo
        · rw [List.append_assoc, List.cons_append] at hwhole
          rw [hwhole]
          exact Option.some_ne_none _
        · exact ho.kept upTo hupTo

theorem OpenedAt.last_mem {rt : RateTracker} {earlier since : List ℤ} {first : ℤ}
    (h : OpenedAt rt earlier first since) : rt.lastEntryTime ∈ first :: since := by
  rw [h.last_eq]
  exact List.getLast_mem _

theorem OpenedAt.first_le {rt : RateTracker} {earlier since : List ℤ} {first : ℤ}
    (h : OpenedAt rt earlier first since) (hclock : (first :: since).Pairwise (· ≤ ·)) :
    rt.firstEntryTime ≤ rt.lastEntryTime := by
  rw [h.first_eq]
  rcases List.mem_cons.mp h.last_mem with hlast | hlast
  · exact hlast.ge
  · exact List.rel_of_pairwise_cons hclock hlast

/-! ### Windows -/

/-- The calls let through between `t` and the end of the interval that starts there. -/
def passesIn (t : ℤ) (trace : List (ℤ × Bool)) : ℕ :=
  trace.countP fun e => e.2 = true ∧ t ≤ e.1 ∧ e.1 < t + RESET_INTERVAL_SECONDS

/-- What a window that starts at `t` can have let through, by the record it has led to. -/
inductive Budget (t : ℤ) (passed : ℕ) : Option RateTracker → Prop
  | absent : passed ≤ 120 → Budget t passed none
  /-- The window has ended. -/
  | ended {rt : RateTracker} : rt.penaltyTime = 0 → passed ≤ 120 →
    t + RESET_INTERVAL_SECONDS ≤ rt.lastEntryTime → Budget t passed (some rt)
  /-- All of the window belongs to this record. -/
  | young {rt : RateTracker} : rt.penaltyTime = 0 →
    rt.lastEntryTime - rt.firstEntryTime ≤ RESET_INTERVAL_SECONDS →
    passed ≤ rt.count.toNat → rt.count.toNat < 120 → Budget t passed (some rt)
  /-- He came out of the penalty box a moment ago. -/
  | paroled {rt : RateTracker} : rt.penaltyTime = 0 →
    RESET_INTERVAL_SECONDS < rt.lastEntryTime - rt.firstEntryTime → passed ≤ 1 →
    Budget t passed (some rt)
  | inside {rt : RateTracker} : rt.penaltyTime ≠ 0 → passed ≤ 120 →
    (passed = 0 ∨ t + RESET_INTERVAL_SECONDS ≤ rt.penaltyTime) →
    rt.firstEntryTime + PENALTY_TIME_SECONDS ≤ rt.penaltyTime → Budget t passed (some rt)

theorem Budget.le {t : ℤ} {passed : ℕ} {rt : Option RateTracker} (h : Budget t passed rt) :
    passed ≤ 120 := by
  cases h <;> omega

section

variable {t now : ℤ} {passed : ℕ}

/-- A call adds at most itself, and only inside the window. -/
theorem passesIn_concat (trace : List (ℤ × Bool)) (now : ℤ) (result : Bool) :
    passesIn t (trace ++ [(now, result)]) = passesIn t trace +
      if result = true ∧ t ≤ now ∧ now < t + RESET_INTERVAL_SECONDS then 1 else 0 := by
  rw [passesIn, List.countP_append, List.countP_singleton]
  simp only [decide_eq_true_eq]
  rfl

theorem exists_of_passesIn_pos {trace : List (ℤ × Bool)} (h : passesIn t trace ≠ 0) :
    ∃ e ∈ trace, t ≤ e.1 := by
  obtain ⟨e, he, hp⟩ := List.countP_pos_iff.mp (Nat.pos_of_ne_zero h)
  exact ⟨e, he, (of_decide_eq_true hp).2.1⟩

theorem add_of_ended {result : Bool} (hended : t + RESET_INTERVAL_SECONDS ≤ now) :
    passed + (if result = true ∧ t ≤ now ∧ now < t + RESET_INTERVAL_SECONDS then 1 else 0) =
      passed := by
  rw [if_neg fun hin => absurd hin.2.2 (not_lt.mpr hended), Nat.add_zero]

/-- The first call from an address opens a record. -/
theorem Budget.opens (h : Budget t passed none)
    (hfresh : passed ≠ 0 → t + RESET_INTERVAL_SECONDS ≤ now) :
    Budget t (passed + if (checkRecord none now).1 = true ∧ t ≤ now ∧
      now < t + RESET_INTERVAL_SECONDS then 1 else 0) (checkRecord none now).2 := by
  by_cases hzero : passed = 0
  · have hreset : RESET_INTERVAL_SECONDS = 120 := rfl
    refine .young rfl ?_ ?_ ?_
    · change now - now ≤ RESET_INTERVAL_SECONDS
      omega
    · change _ ≤ 1
      split_ifs <;> omega
    · change 1 < 120
      omega
  · have hended := hfresh hzero
    rw [add_of_ended hended]
    exact .ended rfl h.le hended

/-- One call keeps to the budget. A new record is opened only when the window of the old one
has ended. -/
theorem Budget.step {rt : Option RateTracker} (h : Budget t passed rt)
    (hseen : passed ≠ 0 → t ≤ now) (hfresh : rt = none → passed ≠ 0 → t + RESET_INTERVAL_SECONDS ≤ now)
    (hnow : ∀ r, rt = some r → r.Floods now → now + PENALTY_TIME_SECONDS ≠ 0)
    (hlast : ∀ r, rt = some r → r.firstEntryTime ≤ r.lastEntryTime ∧ r.lastEntryTime ≤ now) :
    Budget t (passed + if (checkRecord rt now).1 = true ∧ t ≤ now ∧
      now < t + RESET_INTERVAL_SECONDS then 1 else 0) (checkRecord rt now).2 := by
  have hreset : RESET_INTERVAL_SECONDS = 120 := rfl
  have hpenalty : PENALTY_TIME_SECONDS = 3600 := rfl
  cases rt with
  | none => exact h.opens (hfresh rfl)
  | some r =>
    obtain ⟨hfirst, hnow'⟩ := hlast r rfl
    have hcase := checkRecord_some r now
    generalize checkRecord (some r) now = result at hcase ⊢
    cases hcase with
    | inside hpen hle =>
      rw [if_neg (by simp)]
      cases h with
      | inside _ hpassed hended hfirst' => exact .inside hpen hpassed hended hfirst'
      | _ hpen' => exact absurd hpen' hpen
    | floods hpen hrate =>
      rw [if_neg (by simp)]
      refine .inside (hnow r rfl ⟨hpen, hrate⟩) h.le ?_ ?_
      · change _ ∨ t + _ ≤ now + _
        by_cases hzero : passed = 0
        · exact Or.inl hzero
        · have := hseen hzero
          omega
      · change r.firstEntryTime + _ ≤ now + _
        omega
    | parole hpen hlt hrate =>
      cases h with
      | inside _ hpassed hended hfirst' =>
        rcases hended with rfl | hended
        · refine .paroled rfl ?_ ?_
          · change _ < now - r.firstEntryTime
            omega
          · split_ifs <;> omega
        · rw [add_of_ended (by omega)]
          refine .ended rfl hpassed ?_
          change _ ≤ now
          omega
      | _ hpen' => exact absurd hpen' hpen
    | forget hpen hrate hold =>
      apply Budget.absent
      cases h with
      | ended _ hpassed hended =>
        rw [add_of_ended (by omega)]
        exact hpassed
      | young _ _ hpassed hcount => split_ifs <;> omega
      | paroled _ _ hpassed => split_ifs <;> omega
      | inside hpen' => exact absurd hpen hpen'
    | counts hpen hrate hnew =>
      cases h with
      | ended _ hpassed hended =>
        rw [add_of_ended (by omega)]
        exact .ended hpen hpassed (hended.trans hnow')
      | young _ hyoung hpassed hcount =>
        have hsucc := toNat_counted (r := r) now (by omega)
        have hslow := (getRate_lt_iff (by omega)).mp hrate
        have hseconds : (r.counted now).seconds ≤ 120 := by
          have hle := (r.counted now).seconds_le
          change _ ≤ max (now - r.firstEntryTime) 1 at hle
          omega
        refine .young hpen hnew ?_ (by omega)
        rw [hsucc]
        split_ifs <;> omega
      | paroled _ hold =>
        exfalso
        omega
      | inside hpen' => exact absurd hpen hpen'

/-- No record is opened within an interval of the call before, and no penalty is entered as
the time 0 that stands for none. -/
def Unforgetting (ts : List ℤ) : Prop :=
  ∀ before now later, ts = before ++ now :: later →
    (Machine.after checkRecord none before = none →
      ∀ u ∈ before, u + RESET_INTERVAL_SECONDS ≤ now) ∧
    ∀ rt, Machine.after checkRecord none before = some rt → rt.Floods now →
      now + PENALTY_TIME_SECONDS ≠ 0

theorem budget_run (t : ℤ) {ts : List ℤ} (hclock : ts.Pairwise (· ≤ ·)) (h : Unforgetting ts) :
    Budget t (passesIn t (Machine.trace checkRecord none ts))
      (Machine.after checkRecord none ts) := by
  induction ts using List.reverseRecOn with
  | nil => exact .absent (Nat.zero_le _)
  | append_singleton ts now ih =>
    obtain ⟨hclock', -, hnow⟩ := List.pairwise_append.mp hclock
    replace hnow : ∀ u ∈ ts, u ≤ now := fun u hu => hnow u hu now (by simp)
    have hbudget := ih hclock' (by
      rintro before u later rfl
      exact h before u (later ++ [now]) (by simp))
    obtain ⟨hfresh, hpenalty⟩ := h ts now [] rfl
    rw [Machine.trace_concat, passesIn_concat, Machine.after_concat]
    have hseen : passesIn t (Machine.trace checkRecord none ts) ≠ 0 → ∃ u ∈ ts, t ≤ u := by
      intro hpassed
      obtain ⟨e, he, ht⟩ := exists_of_passesIn_pos hpassed
      exact ⟨e.1, Machine.mem_of_mem_trace _ he, ht⟩
    refine hbudget.step ?_ ?_ hpenalty ?_
    · intro hpassed
      obtain ⟨u, hu, ht⟩ := hseen hpassed
      exact ht.trans (hnow u hu)
    · intro hnone hpassed
      obtain ⟨u, hu, ht⟩ := hseen hpassed
      have := hfresh hnone u hu
      omega
    · intro r hr
      obtain ⟨earlier, first, since, rfl, ho⟩ := exists_openedAt hr
      exact ⟨ho.first_le (List.pairwise_append.mp hclock').2.1,
        hnow _ (List.mem_append_right _ ho.last_mem)⟩

/-! ### Penalties -/

section

variable {rt : RateTracker}

/-- In the box every call is refused, up to the last second. -/
theorem trace_inside (hpen : rt.penaltyTime ≠ 0) {ts : List ℤ} (hclock : ts.Pairwise (· ≤ ·)) :
    ∀ e ∈ Machine.trace checkRecord (some rt) ts, e.1 ≤ rt.penaltyTime → e.2 = false := by
  induction ts generalizing rt with
  | nil =>
    intro e he
    cases he
  | cons u ts ih =>
    obtain ⟨hu, hclock'⟩ := List.pairwise_cons.mp hclock
    by_cases hle : u ≤ rt.penaltyTime
    · have hstep : checkRecord (some rt) u = (false, some (rt.counted u)) := if_pos ⟨hpen, hle⟩
      have hpen' : (rt.counted u).penaltyTime ≠ 0 := hpen
      rw [Machine.trace, hstep]
      intro e he hin
      rcases List.mem_cons.mp he with rfl | he
      · rfl
      · exact ih hpen' hclock' e he hin
    · intro e he hin
      have hmem := Machine.mem_of_mem_trace _ he
      rcases List.mem_cons.mp hmem with heq | hmem
      · omega
      · have := hu e.1 hmem
        omega

theorem after_inside (hpen : rt.penaltyTime ≠ 0) {ts : List ℤ} (hts : ∀ u ∈ ts, u ≤ rt.penaltyTime) :
    ∃ rt', Machine.after checkRecord (some rt) ts = some rt' ∧ rt'.penaltyTime = rt.penaltyTime ∧
      rt'.firstEntryTime = rt.firstEntryTime := by
  induction ts generalizing rt with
  | nil => exact ⟨rt, rfl, rfl, rfl⟩
  | cons u ts ih =>
    have hstep : checkRecord (some rt) u = (false, some (rt.counted u)) :=
      if_pos ⟨hpen, hts u (by simp)⟩
    have hpen' : (rt.counted u).penaltyTime ≠ 0 := hpen
    rw [Machine.after, hstep]
    exact ih hpen' fun v hv => hts v (List.mem_cons_of_mem _ hv)

/-- The first call behind the penalty looks at the rate alone. -/
theorem checkRecord_behind {now : ℤ} (hpen : rt.penaltyTime ≠ 0) (hnow : rt.penaltyTime < now) :
    ((checkRecord (some rt) now).1 = true ↔ getRate (rt.counted now) < MAX_RATE) ∧
      (MAX_RATE ≤ getRate (rt.counted now) → checkRecord (some rt) now =
        (false, some ((rt.counted now).penalised now))) := by
  have hcase := checkRecord_some rt now
  generalize checkRecord (some rt) now = result at hcase ⊢
  cases hcase with
  | inside _ hle => omega
  | floods _ hrate => exact ⟨iff_of_false (by simp) (by omega), fun _ => rfl⟩
  | parole _ _ hrate => exact ⟨iff_of_true rfl hrate, fun hge => absurd hrate (by omega)⟩
  | forget hpen' => exact absurd hpen' hpen
  | counts hpen' => exact absurd hpen' hpen

/-- The average of `n` packets in `seconds`, normalised to an hour. The product is the 64-bit one. -/
def averageRate (n : ℕ) (seconds : ℤ) : ℕ := (UInt64.ofNat n * 3600).toNat / seconds.toNat

theorem averageRate_eq {n : ℕ} (hn : n * 3600 < 2 ^ 64) (seconds : ℤ) :
    averageRate n seconds = n * 3600 / seconds.toNat := by
  have hlt : n < 2 ^ 64 := by omega
  have hto : (UInt64.ofNat n).toNat = n := UInt64.toNat_ofNat_of_lt' hlt
  rw [averageRate, toNat_count_mul (by rw [hto]; exact hn), hto]

/-- Long after the first packet the minimum count makes no difference. -/
theorem getRate_lt_iff_average (hlong : 60 ≤ rt.lastEntryTime - rt.firstEntryTime) {n : ℕ}
    (hcount : rt.count = UInt64.ofNat n) : getRate rt < MAX_RATE ↔
      averageRate n (rt.lastEntryTime - rt.firstEntryTime) < MAX_RATE := by
  have hseconds : rt.seconds = rt.lastEntryTime - rt.firstEntryTime := if_pos (by omega)
  rw [getRate_eq]
  split_ifs with hlt
  · have hmin : rt.count.toNat < 60 := UInt64.lt_iff_toNat_lt.mp hlt
    refine iff_of_true (by decide) ?_
    rw [averageRate, ← hcount, toNat_count_mul (by omega), Nat.div_lt_iff_lt_mul (by omega), MAX_RATE]
    omega
  · rw [averageRate, hcount, hseconds]

end

end

end StunServer

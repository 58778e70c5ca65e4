import StunServer.Lib.Epochs
import StunServer.Results.RateLimiter

/-! What the rate limiter does when its table is full: it forgets everybody, and what it
tells an address from then on follows from the calls it gets from then on. -/

namespace StunServer

open FastHash RateLimiter
open Machine (Epochs stateIn liveIn)

/-- The limiter holds what the calls of the epoch have come to. -/
structure RateLimiter.InEpoch (limiter : RateLimiter) (tablesize : ℕ)
    (s : Epochs RateTrackerAddress ℤ) : Prop where
  isMap : IsMap limiter.table (stateIn checkRecord s.current)
  fsize : limiter.table.fsize = tablesize

theorem stateIn_singleton (call : RateCall) : stateIn checkRecord [call.keyed] =
    Function.update (fun _ => none) (rateTrackerAddress call.addr)
      (some (RateTracker.first call.currentTime)) := by
  funext k
  exact Machine.stateIn_append checkRecord [] call.keyed k

section

variable {limiter : RateLimiter} {tablesize : ℕ} {s : Epochs RateTrackerAddress ℤ}
  {call : RateCall}

theorem RateLimiter.InEpoch.size_eq (h : limiter.InEpoch tablesize s) :
    limiter.table.size = (liveIn checkRecord s.current).card :=
  h.isMap.size_eq_card fun _ => Machine.mem_liveIn checkRecord

/-- A newcomer to a full table is all that is left in it. -/
theorem rateCheck_crowded (hsize : 0 < tablesize) (h : limiter.InEpoch tablesize s)
    (hcrowded : Epochs.Crowded checkRecord tablesize s.current (rateTrackerAddress call.addr)) :
    (rateCheck limiter call).1 = true ∧
      (rateCheck limiter call).2.InEpoch tablesize ⟨s.past ++ [s.current], [call.keyed]⟩ := by
  have hlookup := (h.isMap.lookup (rateTrackerAddress call.addr)).trans hcrowded.1
  have hfull : limiter.table.size = limiter.table.fsize := by
    apply le_antisymm h.isMap.size_le_fsize
    rw [h.size_eq, h.fsize]
    exact hcrowded.2
  have hinsert := h.isMap.insert_full hfull (rateTrackerAddress call.addr)
    (RateTracker.first call.currentTime)
  have htsize : 0 < limiter.table.tsize := by
    obtain ⟨_, _, hm, -⟩ := h.isMap.holds
    exact hm.tsize_pos
  have hroom : limiter.table.reset.size < limiter.table.reset.fsize := h.fsize.symm ▸ hsize
  obtain ⟨t', hrun, ht', -, hfsize⟩ := (isMap_reset limiter.table htsize).insert
    (k := rateTrackerAddress call.addr) rfl hroom (RateTracker.first call.currentTime)
  have hcall : rateCheck limiter call = (true, ⟨t'⟩) := by
    dsimp only [RateTracker.first] at hinsert hrun
    simp only [rateCheck, rateCheckImpl, hlookup, hinsert, hrun, if_true]
  rw [hcall]
  refine ⟨rfl, ?_, hfsize.trans h.fsize⟩
  rw [stateIn_singleton]
  exact ht'

theorem rateCheck_epoch (hsize : 0 < tablesize) (h : limiter.InEpoch tablesize s)
    (call : RateCall) :
    (rateCheck limiter call).1 = (s.step checkRecord tablesize call.keyed).1 ∧
      (rateCheck limiter call).2.InEpoch tablesize (s.step checkRecord tablesize call.keyed).2 := by
  rw [Epochs.step]
  split_ifs with hcrowded
  · exact rateCheck_crowded hsize h hcrowded
  · have hroom : limiter.HasRoom call := by
      intro hnone
      rw [h.isMap.lookup] at hnone
      rw [h.size_eq, h.fsize]
      exact not_le.mp fun hle => hcrowded ⟨hnone, hle⟩
    obtain ⟨hout, hmap, hfsize⟩ := rateCheck_refines h.isMap hroom
    refine ⟨hout, ?_, hfsize.trans h.fsize⟩
    have hstate : stateIn checkRecord (s.current ++ [call.keyed]) =
        (Machine.keyed checkRecord (stateIn checkRecord s.current) call.keyed).2 := by
      funext k
      exact Machine.stateIn_append checkRecord s.current call.keyed k
    dsimp only
    rw [hstate]
    exact hmap

end

/-- The epochs of a limiter's calls. -/
def RateLimiter.epochsOf (tablesize : ℕ) (calls : List RateCall) : Epochs RateTrackerAddress ℤ :=
  Machine.after (Epochs.step checkRecord tablesize) Epochs.start (calls.map RateCall.keyed)

/-- A call for an address without a record that meets a full table begins an epoch. What a call
returns is what the record of its address returns after its calls of the epoch, and each epoch
that ended had filled the table. -/
theorem full_table_begins_epoch (tablesize : ℕ) (hsize : 0 < tablesize) (calls : List RateCall) :
    (Machine.trace rateCheck (RateLimiter.create tablesize) calls).map
        (fun e => (e.1.keyed, e.2)) =
      Machine.trace (Epochs.step checkRecord tablesize) Epochs.start (calls.map RateCall.keyed) ∧
    (∀ k, (behind tablesize calls).table.lookup k =
      stateIn checkRecord (epochsOf tablesize calls).current k) ∧
    (behind tablesize calls).table.size =
      (liveIn checkRecord (epochsOf tablesize calls).current).card ∧
    (behind tablesize calls).table.size ≤ tablesize ∧
    (epochsOf tablesize calls).past.flatten ++ (epochsOf tablesize calls).current =
      calls.map RateCall.keyed ∧
    (∀ epoch ∈ (epochsOf tablesize calls).past, (liveIn checkRecord epoch).card = tablesize) ∧
    (epochsOf tablesize calls).past.length * tablesize ≤ calls.length := by
  have hstart : (RateLimiter.create tablesize).InEpoch tablesize Epochs.start :=
    ⟨isMap_create tablesize, rfl⟩
  have hstep : ∀ (limiter : RateLimiter) (s : Epochs RateTrackerAddress ℤ) (call : RateCall),
      limiter.InEpoch tablesize s → True →
        (rateCheck limiter call).1 = (s.step checkRecord tablesize call.keyed).1 ∧
          (rateCheck limiter call).2.InEpoch tablesize
            (s.step checkRecord tablesize call.keyed).2 :=
    fun limiter s call h _ => rateCheck_epoch hsize h call
  obtain ⟨htrace, hafter⟩ := Machine.simulates hstep hstart calls fun _ _ _ _ => True.intro
  have hdivides := Machine.Epochs.divides_after checkRecord hsize (calls.map RateCall.keyed)
  have hpast := hdivides.length_past_mul_le
  rw [List.length_map] at hpast
  refine ⟨htrace, fun k => hafter.isMap.lookup k, hafter.size_eq, ?_, hdivides.inputs,
    hdivides.full, hpast⟩
  rw [hafter.size_eq]
  exact hdivides.room

/-- Between two calls of the same address another one takes the only place there is. -/
def crowdedCalls : List RateCall :=
  [⟨sampleVisitor, 0⟩, ⟨sampleNeighbour, 0⟩, ⟨sampleVisitor, 1⟩]

example : (epochsOf 1 crowdedCalls).past.length = 2 := by decide +kernel

theorem full_table_begins_epoch_single :
    (Machine.trace rateCheck (RateLimiter.create 1) crowdedCalls).map
        (fun e => (e.1.keyed, e.2)) =
      Machine.trace (Epochs.step checkRecord 1) Epochs.start (crowdedCalls.map RateCall.keyed) ∧
    (∀ k, (behind 1 crowdedCalls).table.lookup k =
      stateIn checkRecord (epochsOf 1 crowdedCalls).current k) ∧
    (behind 1 crowdedCalls).table.size =
      (liveIn checkRecord (epochsOf 1 crowdedCalls).current).card ∧
    (behind 1 crowdedCalls).table.size ≤ 1 ∧
    (epochsOf 1 crowdedCalls).past.flatten ++ (epochsOf 1 crowdedCalls).current =
      crowdedCalls.map RateCall.keyed ∧
    (∀ epoch ∈ (epochsOf 1 crowdedCalls).past, (liveIn checkRecord epoch).card = 1) ∧
    (epochsOf 1 crowdedCalls).past.length * 1 ≤ crowdedCalls.length :=
  full_table_begins_epoch 1 Nat.one_pos crowdedCalls

end StunServer

import StunServer.Proofs.ClientSchedule

/-! When a client sends its requests, and how many. -/

namespace StunServer

open CStunClientLogic

/-- The requests of a test carry one transaction id. They keep their distance, and no test has
more of them than it may. -/
theorem retransmission_schedule {config : StunClientLogicConfig} {c : CStunClientLogic}
    (h : IsInitialized config c) (calls : List ClientCall) :
    (∀ entropy spMsg time, 800 ≤ spMsg.getAllocatedSize →
      (Loop.run (pass entropy spMsg time) (2 * (c.afterCalls calls).testlist.length + 2)
        (c.afterCalls calls)).isSome = true) ∧
    (∀ t, (requestsOf t (c.sends calls)).length ≤ c.config.uMaxAttempts.toNat ∧
      (∃ transid : StunTransactionId, ∀ s ∈ requestsOf t (c.sends calls),
        s.transid = transid.toList ∧ s.data = (bindingRequest t.change transid).encode) ∧
      (requestsOf t (c.sends calls)).IsChain fun s s' =>
        c.config.timeoutSeconds ≤
          (s'.timeCurrentMilliseconds - s.timeCurrentMilliseconds) / 1000) ∧
    (∀ entropy spMsg time, 800 ≤ spMsg.getAllocatedSize →
      ((c.afterCalls calls).call (.getNextMessage entropy spMsg time)).1.hr =
        E_STUNCLIENT_STILL_WAITING →
      ∃ t s, (c.afterCalls calls).currentTest = some t ∧
        ((c.afterCalls calls).test t).fCompleted = false ∧
        (requestsOf t (c.sends calls)).getLast? = some s ∧
        (time - s.timeCurrentMilliseconds) / 1000 < c.config.timeoutSeconds) ∧
    (c.sends calls).length ≤ 5 * c.config.uMaxAttempts.toNat ∧
    ∀ entropy spMsg time,
      ((c.afterCalls calls).call (.getNextMessage entropy spMsg time)).1.hr =
        E_STUNCLIENT_RESULTS_READY →
      ∀ later entropy' spMsg' time', 800 ≤ spMsg'.getAllocatedSize →
        ((c.afterCalls (calls ++ .getNextMessage entropy spMsg time :: later)).call
          (.getNextMessage entropy' spMsg' time')).1.hr = E_STUNCLIENT_RESULTS_READY := by
  obtain ⟨past, phase, rest, -, hlogged, -⟩ := h.logged.afterCalls calls
  rw [List.nil_append] at hlogged
  rw [h.betweenCalls.config_eq]
  refine ⟨fun entropy spMsg time hcap => hlogged.loop_ends entropy time hcap,
    fun t => ⟨hlogged.few t, ⟨((c.afterCalls calls).test t).transid, fun s hs => ?_⟩,
      hlogged.spaced t⟩,
    fun entropy spMsg time hcap hwaiting => hlogged.stillWaiting hcap hwaiting,
    hlogged.length_le, fun entropy spMsg time hready later entropy' spMsg' time' hcap' => ?_⟩
  · obtain ⟨hmem, ht⟩ := List.mem_filter.mp hs
    obtain rfl : s.test = t := of_decide_eq_true ht
    have hdata := (hlogged.data s hmem).2
    refine ⟨?_, hdata⟩
    rw [SentRequest.transid, hdata, Message.tid_encode]
    rfl
  · obtain ⟨past', hdone⟩ := hlogged.done_of_ready hready
    rw [afterCalls_append]
    change (((((c.afterCalls calls).call (.getNextMessage entropy spMsg time)).2).afterCalls
      later).call _).1.hr = _
    rw [hdone.afterCalls_done, CStunClientLogic.call, hdone.getNextMessage_done entropy' time' hcap']

/-! ### A client that is not answered -/

/-- Two attempts, three seconds apart. -/
def sampleConfig (fBehaviorTest fFilteringTest : Bool) : StunClientLogicConfig :=
  ⟨.addr4 3478 1, false, 3, 2, fBehaviorTest, fFilteringTest⟩

def sampleClient (fBehaviorTest fFilteringTest : Bool) : CStunClientLogic :=
  (initializeWith (sampleConfig fBehaviorTest fFilteringTest)).after create

theorem isInitialized_sampleClient (fBehaviorTest fFilteringTest : Bool) :
    IsInitialized (sampleConfig fBehaviorTest fFilteringTest)
      (sampleClient fBehaviorTest fFilteringTest) := by
  cases fBehaviorTest <;> cases fFilteringTest <;> rfl

def sampleEntropy (n : UInt8) : CStunMessageBuilder.Entropy :=
  ⟨List.Vector.replicate 8 n, List.Vector.replicate 16 0⟩

/-- A call of `GetNextMessage`, should it draw a transaction id from `n`. -/
def pollAt (n : UInt8) (timeCurrentMilliseconds : UInt32) : ClientCall :=
  .getNextMessage (sampleEntropy n) (.initWithAllocation 800) timeCurrentMilliseconds

/-- The clock wraps between the first request and the second. -/
theorem retransmission_schedule_wrapped :
    let calls := [pollAt 1 0xfffffc18, pollAt 2 1000, pollAt 3 2000]
    ((sampleClient true true).sends calls).map (·.timeCurrentMilliseconds) = [0xfffffc18, 2000] ∧
    (requestsOf .binding ((sampleClient true true).sends calls)).length ≤ 2 ∧
    (∃ t s, ((sampleClient true true).afterCalls calls).currentTest = some t ∧
      (requestsOf t ((sampleClient true true).sends calls)).getLast? = some s ∧
      (4999 - s.timeCurrentMilliseconds) / 1000 < 3) ∧
    ∀ later, (((sampleClient true true).afterCalls (calls ++ pollAt 4 5000 :: later)).call
      (pollAt 5 0)).1.hr = E_STUNCLIENT_RESULTS_READY := by
  intro calls
  obtain ⟨-, hfew, hwaiting, -, hready⟩ :=
    retransmission_schedule (isInitialized_sampleClient true true) calls
  have hcap : 800 ≤ (CBuffer.initWithAllocation 800).getAllocatedSize :=
    (List.length_replicate ..).ge
  refine ⟨by decide +kernel, (hfew .binding).1, ?_, fun later => ?_⟩
  · obtain ⟨t, s, ht, -, hlast, hlt⟩ :=
      hwaiting (sampleEntropy 4) (.initWithAllocation 800) 4999 hcap (by decide +kernel)
    exact ⟨t, s, ht, hlast, hlt⟩
  · exact hready (sampleEntropy 4) (.initWithAllocation 800) 5000 (by decide +kernel) later
      (sampleEntropy 5) (.initWithAllocation 800) 0 hcap

end StunServer

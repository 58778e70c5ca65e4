import StunServer.Proofs.Verdicts
import StunServer.Results.Retransmission

/-! What completes a test, and what the verdicts of a client rest on. -/

namespace StunServer

open CStunClientLogic

/-! ### Answers -/

/-- A response completes no test but the current one, and only by the transaction id. The
binding test and the behavior tests need a mapped address as well, so that none of the
client's own requests is taken for an answer. -/
theorem completed_by_id {config : StunClientLogicConfig} {c : CStunClientLogic}
    (h : IsInitialized config c) (calls : List ClientCall) (spMsg : CBuffer)
    (addrRemote addrLocal : CSocketAddress) :
    let c' := c.afterCalls calls
    let c'' := (c'.call (.processResponse spMsg addrRemote addrLocal)).2
    (c''.results ≠ c'.results ∨ ∃ t, (c''.test t).fCompleted ≠ (c'.test t).fCompleted) →
      ∃ t, c'.currentTest = some t ∧ (c'.test t).fCompleted = false ∧
        (∀ t' ≠ t, c''.test t' = c'.test t') ∧
        (readerOf spMsg).1 = .bodyValidated ∧
        ((∃ s, (requestsOf t (c.sends calls)).getLast? = some s ∧
            s.transid = (readerOf spMsg).2.getTransactionId.toList) ∨
          (requestsOf t (c.sends calls) = [] ∧ t = .binding ∧
            (readerOf spMsg).2.getTransactionId = List.Vector.replicate _ 0)) ∧
        ((∀ fIsTest3, t ≠ .filtering fIsTest3) →
          (∃ addrMapped, (readerOf spMsg).2.getAnyMappedAddress = .ok addrMapped) ∧
          ∀ s ∈ c.sends calls, ¬(spMsg.getSize = s.data.length ∧ spMsg.bytes = s.data)) := by
  intro c' c'' hchanged
  obtain ⟨past, phase, rest, -, hlogged, -⟩ := h.logged.afterCalls calls
  rw [List.nil_append] at hlogged
  rcases c'.call_processResponse_cases spMsg addrRemote addrLocal with
    ⟨hr, hcall⟩ | ⟨t, reader, answer, ht, hopen, hstate, hid, hmapped, hcall⟩
  · have hsame : c'' = c' := congrArg Prod.snd hcall
    rw [hsame] at hchanged
    rcases hchanged with hresults | ⟨t, htest⟩
    · exact absurd rfl hresults
    · exact absurd rfl htest
  · have hanswered : c'' = c'.answered t answer := congrArg Prod.snd hcall
    refine ⟨t, ht, hopen, fun t' hne => ?_, by rw [hstate], ?_, fun hother => ?_⟩
    · rw [hanswered]
      exact setScope_test_of_ne hne c' _
    · rw [hstate]
      dsimp only
      rw [hid]
      exact hlogged.transid_open ht hopen
    · rw [hstate]
      refine ⟨⟨answer.addrMapped, hmapped hother⟩, fun s hs hecho => ?_⟩
      rw [(hlogged.data s hs).2] at hecho
      have hnone := getAnyMappedAddress_echo hstate hecho.1 hecho.2
      rw [hmapped hother] at hnone
      cases hnone

/-- A message of 44 bytes with a mapped address and an other address. -/
def mappedMessage (msgType transid : List UInt8) : CBuffer :=
  .initNoAlloc (msgType ++ [0, 24] ++ transid ++ [0, 0x20, 0, 8, 0, 1, 0, 7, 0, 0, 0, 7] ++
    [0x80, 0x2c, 0, 8, 0, 1, 0, 9, 0, 0, 0, 2])

/-- The transaction id that is drawn from `n`. -/
def sampleId (n : UInt8) : List UInt8 :=
  [0x21, 0x12, 0xa4, 0x42] ++ List.replicate 8 n ++ List.replicate 4 0

/-- A response that comes from the address of the server. -/
def respondWith (spMsg : CBuffer) : ClientCall := .processResponse spMsg (.addr4 3478 1) (.addr4 5 5)

/-- The binding test is answered, and the first filtering test is sent. -/
def filteringCalls : List ClientCall :=
  [pollAt 1 0, respondWith (mappedMessage [1, 1] (sampleId 1)), pollAt 2 0]

theorem completed_by_id_bound :
    ∃ t, ((sampleClient true true).afterCalls [pollAt 1 0]).currentTest = some t ∧
      ∃ s, (requestsOf t ((sampleClient true true).sends [pollAt 1 0])).getLast? = some s ∧
        s.transid = sampleId 1 := by
  obtain ⟨t, ht, -, -, -, hid, -⟩ :=
    completed_by_id (isInitialized_sampleClient true true) [pollAt 1 0]
      (mappedMessage [1, 1] (sampleId 1)) (.addr4 3478 1) (.addr4 5 5)
      (Or.inr ⟨.binding, by decide +kernel⟩)
  have hread : (readerOf (mappedMessage [1, 1] (sampleId 1))).2.getTransactionId.toList = sampleId 1 := by
    decide +kernel
  rcases hid with ⟨s, hlast, hs⟩ | ⟨-, -, hzero⟩
  · exact ⟨t, ht, s, hlast, hs.trans hread⟩
  · rw [hzero] at hread
    exact absurd hread (by decide)

/-- An error response with another method completes the binding test. So does a message with
the id zero before there is a request, and the first filtering test is completed by its own
request. -/
theorem completed_by_other_messages :
    ((readerOf (mappedMessage [0x01, 0x12] (sampleId 1))).2.getMessageClass = .failureResponse ∧
      (readerOf (mappedMessage [0x01, 0x12] (sampleId 1))).2.getMessageType ≠ StunMsgTypeBinding ∧
      (((sampleClient true true).afterCalls [pollAt 1 0]).test .binding).fCompleted = false ∧
      (((sampleClient true true).afterCalls
        [pollAt 1 0, respondWith (mappedMessage [0x01, 0x12] (sampleId 1))]).test
          .binding).fCompleted = true) ∧
    ((sampleClient true true).sends [] = [] ∧
      ((sampleClient true true).test .binding).fCompleted = false ∧
      (((sampleClient true true).afterCalls
        [respondWith (mappedMessage [1, 1] (List.replicate 16 0))]).test .binding).fCompleted = true) ∧
    ∃ s, ((sampleClient true true).sends filteringCalls).getLast? = some s ∧
      s.test = .filtering false ∧
      (((sampleClient true true).afterCalls filteringCalls).test
        (.filtering false)).fCompleted = false ∧
      (((sampleClient true true).afterCalls
        (filteringCalls ++ [respondWith (.initNoAlloc s.data)])).test
          (.filtering false)).fCompleted = true := by
  refine ⟨by decide +kernel, by decide +kernel, ?_⟩
  have hsends : ((sampleClient true true).sends filteringCalls).getLast? =
      some ⟨.filtering false, 0, (bindingRequest ⟨true, true⟩ ⟨sampleId 2, rfl⟩).encode⟩ := by
    decide +kernel
  exact ⟨_, hsends, rfl, by decide +kernel, by decide +kernel⟩

/-! ### The filter -/

/-- The verdicts on the filter are reached by right as long as every message that has the
transaction id of an open filtering test is what the test asks for, and no longer. -/
theorem verdicts_earned_iff {config : StunClientLogicConfig} {c : CStunClientLogic}
    (h : IsInitialized config c) (calls : List ClientCall) :
    Log.Always (fun before i => (c.afterCalls before).VerdictEarned i) calls ↔
      Log.Always (fun before i => (c.afterCalls before).AnsweredAsAsked i) calls := by
  refine Log.always_congr fun before i => ?_
  obtain ⟨past, phase, rest, -, hlogged, -⟩ := h.logged.afterCalls before
  exact hlogged.toBetweenCalls.verdictEarned_iff i

/-- The response comes from the other address. -/
theorem verdicts_earned_iff_crossed :
    let crossed := ClientCall.processResponse (mappedMessage [1, 1] (sampleId 2))
      (.addr4 0x0900 0x02000000) (.addr4 5 5)
    Log.Always (fun before i => ((sampleClient true true).afterCalls before).VerdictEarned i)
        (filteringCalls ++ [crossed]) ∧
      ((sampleClient true true).afterCalls (filteringCalls ++ [crossed])).results.filtering =
        .endpointIndependentFiltering := by
  intro crossed
  have hpoll : ∀ (c : CStunClientLogic) n time, c.AnsweredAsAsked (pollAt n time) :=
    fun _ _ _ _ _ _ _ hcall => nomatch hcall
  have hbinding : ((sampleClient true true).afterCalls [pollAt 1 0]).currentTest = some .binding := by
    decide +kernel
  have hfiltering : ((sampleClient true true).afterCalls filteringCalls).currentTest =
      some (.filtering false) := by
    decide +kernel
  refine ⟨(verdicts_earned_iff (isInitialized_sampleClient true true) _).mpr ?_, by decide +kernel⟩
  refine Log.always_concat.mpr ⟨?_, ?_⟩
  · change Log.Always _ ([pollAt 1 0] ++ [respondWith (mappedMessage [1, 1] (sampleId 1))] ++ [pollAt 2 0])
    refine Log.always_concat.mpr ⟨Log.always_concat.mpr ⟨?_, ?_⟩, hpoll _ _ _⟩
    · exact Log.always_concat.mpr ⟨Log.always_nil, hpoll _ _ _⟩
    · intro fIsTest3 _ _ _ _ ht
      rw [hbinding] at ht
      cases ht
  · intro fIsTest3 spMsg addrRemote addrLocal hcall ht
    rw [hfiltering] at ht
    cases ht
    obtain ⟨rfl, rfl, rfl⟩ := ClientCall.processResponse.inj hcall
    refine fun _ _ _ => ⟨⟨?_, ?_⟩, ?_⟩ <;> decide +kernel

/-- A server that answers from the address it was contacted on makes any filter look open. -/
theorem verdict_unearned :
    IsInitialized (sampleConfig true true) (sampleClient true true) ∧
    ¬Log.Always (fun before i => ((sampleClient true true).afterCalls before).VerdictEarned i)
      (filteringCalls ++ [respondWith (mappedMessage [1, 1] (sampleId 2))]) := by
  refine ⟨isInitialized_sampleClient true true, fun hall => ?_⟩
  obtain ⟨spMsg, addrLocal, -, hcall⟩ :=
    (Log.always_concat.mp hall).2 false (by decide +kernel) (by decide +kernel)
  obtain ⟨-, hremote, -⟩ := ClientCall.processResponse.inj hcall
  exact absurd hremote (by decide +kernel)

/-! ### The results -/

/-- The results are consistent, and verdicts are final. A call that fails changes nothing, and
no call does once the results are ready. -/
theorem results_consistent {config : StunClientLogicConfig} {c : CStunClientLogic}
    (h : IsInitialized config c) (calls : List ClientCall) :
    (c.afterCalls calls).results.Consistent ∧
    (∀ later, (c.afterCalls calls).results.KeepsVerdicts (c.afterCalls (calls ++ later)).results) ∧
    (∀ spMsg addrRemote addrLocal,
      FAILED ((c.afterCalls calls).call (.processResponse spMsg addrRemote addrLocal)).1.hr = true →
        ((c.afterCalls calls).call (.processResponse spMsg addrRemote addrLocal)).2 =
          c.afterCalls calls) ∧
    ∀ entropy spMsg time,
      ((c.afterCalls calls).call (.getNextMessage entropy spMsg time)).1.hr =
        E_STUNCLIENT_RESULTS_READY →
      ∀ later, c.afterCalls (calls ++ .getNextMessage entropy spMsg time :: later) =
        c.afterCalls (calls ++ [.getNextMessage entropy spMsg time]) := by
  obtain ⟨past, phase, rest, -, hlogged, -⟩ := h.logged.afterCalls calls
  refine ⟨?_, fun later => ?_, fun spMsg addrRemote addrLocal hfailed => ?_,
    fun entropy spMsg time hready later => ?_⟩
  · rw [hlogged.results]
    exact hlogged.history.consistent hlogged.order
  · obtain ⟨past', phase', rest', more, hlogged', hmore⟩ := hlogged.afterCalls later
    have hhistory := hlogged'.history
    have horder := hlogged'.order
    have hresults := hlogged'.results
    rw [hmore] at hhistory horder hresults
    rw [afterCalls_append, hlogged.results, hresults]
    exact hhistory.keepsVerdicts horder
  · rcases (c.afterCalls calls).call_processResponse_cases spMsg addrRemote addrLocal with
      ⟨hr, hcall⟩ | ⟨t, reader, answer, -, -, -, -, -, hcall⟩
    · rw [hcall]
    · rw [hcall] at hfailed
      cases hfailed
  · have hcap : 800 ≤ spMsg.getAllocatedSize := by
      by_contra hsmall
      obtain ⟨hr, hcall, hne⟩ :=
        call_getNextMessage_small entropy time (c.afterCalls calls) (not_le.mp hsmall)
      rw [hcall] at hready
      exact hne hready
    rcases hlogged.call_getNextMessage entropy time hcap with hok | hwaiting | ⟨-, past', hdone⟩
    · rw [hok] at hready
      exact absurd hready (by decide)
    · rw [hwaiting] at hready
      exact absurd hready (by decide)
    · rw [afterCalls_append, afterCalls_append]
      exact hdone.afterCalls_done later

/-- A verdict on the filter, and nothing changes it. -/
theorem results_consistent_answered :
    let answered := filteringCalls ++ [respondWith (mappedMessage [1, 1] (sampleId 2))]
    ((sampleClient true true).afterCalls answered).results.fFilteringTestSuccess = true ∧
    ∀ later, ((sampleClient true true).afterCalls (answered ++ later)).results.filtering =
      .endpointIndependentFiltering := by
  intro answered
  obtain ⟨hconsistent, hkeeps, -⟩ :=
    results_consistent (isInitialized_sampleClient true true) answered
  have hverdict : ((sampleClient true true).afterCalls answered).results.filtering =
      .endpointIndependentFiltering := by
    decide +kernel
  have hknown : ((sampleClient true true).afterCalls answered).results.filtering ≠
      .unknownFiltering := by
    rw [hverdict]
    decide
  exact ⟨hconsistent.filtering.mpr hknown,
    fun later => ((hkeeps later).filtering hknown).trans hverdict⟩

end StunServer

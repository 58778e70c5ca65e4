import StunServer.Proofs.Client
import StunServer.Spec.ClientRun

/-! A client between two calls, in any run: it follows its history, whatever it is passed.
What holds of the results then holds of all histories of the tests in their order. -/

namespace StunServer

namespace CStunClientLogic

variable {config : StunClientLogicConfig} {past : List Entry} {phase : Phase}
  {rest : List IStunClientTest} {c c' : CStunClientLogic} {t : IStunClientTest}

/-! ### Calls -/

theorem afterCalls_append (c : CStunClientLogic) (calls later : List ClientCall) :
    c.afterCalls (calls ++ later) = (c.afterCalls calls).afterCalls later :=
  Machine.after_append call c calls later

theorem call_processResponse_cases (c : CStunClientLogic) (spMsg : CBuffer)
    (addrRemote addrLocal : CSocketAddress) :
    (∃ hr, c.call (.processResponse spMsg addrRemote addrLocal) = (⟨hr, none⟩, c)) ∨
    ∃ t reader answer, c.currentTest = some t ∧ (c.test t).fCompleted = false ∧
      readerOf spMsg = (.bodyValidated, reader) ∧
      reader.getTransactionId = (c.test t).transid ∧
      ((∀ fIsTest3, t ≠ .filtering fIsTest3) →
        reader.getAnyMappedAddress = .ok answer.addrMapped) ∧
      c.call (.processResponse spMsg addrRemote addrLocal) =
        (⟨S_OK, none⟩, c.answered t answer) := by
  rw [CStunClientLogic.call]
  rcases c.processResponse_cases spMsg addrRemote addrLocal with
    ⟨hr, hcall⟩ | ⟨t, reader, answer, ht, hopen, hstate, hid, hmapped, hcall⟩
  · rw [hcall]
    exact Or.inl ⟨hr, rfl⟩
  · rw [hcall]
    exact Or.inr ⟨t, reader, answer, ht, hopen, hstate, hid, hmapped, rfl⟩

theorem call_getNextMessage_small {spMsg : CBuffer} (entropy : CStunMessageBuilder.Entropy)
    (time : UInt32) (c : CStunClientLogic) (hsmall : spMsg.getAllocatedSize < 800) :
    ∃ hr, c.call (.getNextMessage entropy spMsg time) = (⟨hr, none⟩, c) ∧
      hr ≠ E_STUNCLIENT_RESULTS_READY := by
  obtain ⟨hr, hcall, hne⟩ := getNextMessage_small entropy time c hsmall
  rw [CStunClientLogic.call, hcall]
  exact ⟨hr, rfl, hne⟩

/-! ### Between two calls -/

/-- The client between two calls: unless it is new, its next test has been sent or done. -/
structure BetweenCalls (config : StunClientLogicConfig) (done : List Entry) (stage : Phase)
    (left : List IStunClientTest) (c : CStunClientLogic) : Prop
    extends Follows config done stage left c where
  unsent : stage = .unsent → done = [] ∨ left = []

theorem IsInitialized.betweenCalls (h : IsInitialized config c) :
    BetweenCalls (configure config) [] .unsent (testsOf config) c := by
  have haddr : config.addrServer.isIPAddressZero = false := by
    by_contra hzero
    rw [IsInitialized, initializeWith, Hr.bind_ok (Hr.get_apply create),
      Hr.bind_ok (Hr.chkIf_false (by decide) _ _),
      Hr.bind_error (Hr.chkIf_true (by simpa using hzero) _ _)] at h
    cases h
  have hport : config.addrServer.getPort ≠ 0 := by
    intro hzero
    rw [IsInitialized, initializeWith, Hr.bind_ok (Hr.get_apply create),
      Hr.bind_ok (Hr.chkIf_false (by decide) _ _),
      Hr.bind_ok (Hr.chkIf_false (by rw [haddr]; decide) _ _),
      Hr.bind_error (Hr.chkIf_true hzero _ _)] at h
    cases h
  have hfollows := follows_initializeWith haddr hport
  rw [Hr.after, h] at hfollows
  exact ⟨hfollows, fun _ => Or.inl rfl⟩

/-- An answer may come to the test that was sent, and to the first test even before. -/
theorem BetweenCalls.answered (h : BetweenCalls config past phase rest c)
    (ht : c.currentTest = some t) (hopen : (c.test t).fCompleted = false) (answer : Answer) :
    ∃ rest', phase.current ++ rest = t :: rest' ∧ phase.entry = [] ∧
      BetweenCalls config past (.finished (t, .answered answer)) rest' (c.answered t answer) := by
  rw [h.currentTest] at ht
  cases phase with
  | unsent =>
    cases rest with
    | nil => cases ht
    | cons t' rest =>
      obtain rfl : t' = t := Option.some.inj ht
      obtain rfl : past = [] := (h.unsent rfl).resolve_right (List.cons_ne_nil t' rest)
      have hbinding : t' = .binding := (List.cons.inj h.split).1.symm
      refine ⟨rest, rfl, rfl, ?_, nofun⟩
      refine h.toFollows.answered answer rfl rfl (fun t ht' => h.rest t (List.mem_cons_of_mem _ ht'))
        ?_ (Or.inr hbinding)
      rw [hbinding, replay_nil]
      decide
  | waiting t' =>
    obtain rfl : t' = t := Option.some.inj ht
    obtain ⟨-, hchecked, hruns, -⟩ := h.phase
    exact ⟨rest, rfl, rfl, h.toFollows.answered answer rfl rfl h.rest hruns (Or.inl hchecked),
      nofun⟩
  | finished e =>
    obtain rfl : e.1 = t := Option.some.inj ht
    rw [h.phase.2] at hopen
    cases hopen

theorem Follows.getNextMessage_done {spMsg : CBuffer} (h : Follows config past .unsent [] c)
    (entropy : CStunMessageBuilder.Entropy) (time : UInt32) (hcap : 800 ≤ spMsg.getAllocatedSize) :
    CStunClientLogic.getNextMessage entropy spMsg time c = .error E_STUNCLIENT_RESULTS_READY c := by
  rw [getNextMessage_eq h.fInitialized hcap, Loop.run, h.pass_done]
  rfl

/-- Once all tests are done, no call changes anything. -/
theorem Follows.call_done (h : Follows config past .unsent [] c) (i : ClientCall) :
    (c.call i).2 = c := by
  cases i with
  | getNextMessage entropy spMsg time =>
    by_cases hcap : 800 ≤ spMsg.getAllocatedSize
    · rw [CStunClientLogic.call, h.getNextMessage_done entropy time hcap]
    · obtain ⟨hr, hcall, -⟩ := call_getNextMessage_small entropy time c (not_le.mp hcap)
      rw [hcall]
  | processResponse spMsg addrRemote addrLocal =>
    rcases c.call_processResponse_cases spMsg addrRemote addrLocal with
      ⟨hr, hcall⟩ | ⟨t, reader, answer, ht, -⟩
    · rw [hcall]
    · rw [h.currentTest] at ht
      cases ht

theorem Follows.afterCalls_done (h : Follows config past .unsent [] c) (calls : List ClientCall) :
    c.afterCalls calls = c := by
  induction calls with
  | nil => rfl
  | cons i calls ih =>
    change (c.call i).2.afterCalls calls = c
    rw [h.call_done i, ih]

end CStunClientLogic
end StunServer

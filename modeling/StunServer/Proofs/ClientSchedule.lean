import StunServer.Proofs.ClientRun
import StunServer.Lib.Log

/-! When a client sends its requests: what a call of `GetNextMessage` reads off the clock
and the counter, and the log of requests that a run leaves behind. -/

namespace StunServer

namespace CStunClientLogic

variable {config : StunClientLogicConfig} {past : List Entry} {phase : Phase}
  {rest : List IStunClientTest} {c c' : CStunClientLogic} {t : IStunClientTest}
  {entropy : CStunMessageBuilder.Entropy} {spMsg : CBuffer} {time : UInt32}

/-! ### The clock and the counter -/

/-- What decides about sending is the same: the limits, the current test, and the number of its
requests and the time of the last one. -/
structure SamePace (c s : CStunClientLogic) : Prop where
  config : s.config = c.config
  nTestIndex : s.nTestIndex = c.nTestIndex
  sendCount : s.sendCount = c.sendCount
  timeLastMessageSent : s.timeLastMessageSent = c.timeLastMessageSent

theorem SamePace.trans {s s' : CStunClientLogic} (h : SamePace c s) (h' : SamePace s s') :
    SamePace c s' where
  config := h'.config.trans h.config
  nTestIndex := h'.nTestIndex.trans h.nTestIndex
  sendCount := h'.sendCount.trans h.sendCount
  timeLastMessageSent := h'.timeLastMessageSent.trans h.timeLastMessageSent

theorem SamePace.diff {s : CStunClientLogic} (h : SamePace c s) (time : UInt32) :
    s.diff time = c.diff time := by
  rw [CStunClientLogic.diff, CStunClientLogic.diff, h.timeLastMessageSent]

theorem samePace_preCheck (t : IStunClientTest) (c : CStunClientLogic) :
    SamePace c (c.preCheck t) := by
  unfold preCheck
  split_ifs <;> exact ⟨rfl, rfl, rfl, rfl⟩

/-- The ways a pass can go, and what it takes to wait or to send. -/
inductive Passes (entropy : CStunMessageBuilder.Entropy) (spMsg : CBuffer) (time : UInt32)
    (c : CStunClientLogic) : MessageResult ⊕ CStunClientLogic → Prop
  | ready : Passes entropy spMsg time c (.inl (.error E_STUNCLIENT_RESULTS_READY c))
  | goesOn {s : CStunClientLogic} (same : SamePace c s) :
      Passes entropy spMsg time c (.inr s.nextTest)
  | givesUp {s : CStunClientLogic} (same : SamePace c s) : Passes entropy spMsg time c (.inr s)
  | waits {s : CStunClientLogic} (same : SamePace c s)
      (early : c.diff time < c.config.timeoutSeconds) :
      Passes entropy spMsg time c (.inl (.error E_STUNCLIENT_STILL_WAITING s))
  | sends {s : CStunClientLogic} {t : IStunClientTest} {r : MessageResult} (same : SamePace c s)
      (more : c.sendCount < c.config.uMaxAttempts)
      (due : c.sendCount ≠ 0 → c.config.timeoutSeconds ≤ c.diff time)
      (sent : sendMessage entropy spMsg time t s = r) : Passes entropy spMsg time c (.inl r)

theorem passes (entropy : CStunMessageBuilder.Entropy) (spMsg : CBuffer) (time : UInt32)
    (c : CStunClientLogic) : Passes entropy spMsg time c (pass entropy spMsg time c) := by
  rw [pass]
  cases c.currentTest with
  | none => exact .ready
  | some t =>
    have hsame := samePace_preCheck t c
    dsimp only
    unfold serveTest
    rw [hsame.diff, hsame.config, hsame.sendCount]
    split_ifs with hskip hwait hgiveUp
    · exact .goesOn hsame
    · exact .waits hsame hwait.1
    · exact .givesUp (hsame.trans ⟨rfl, rfl, rfl, rfl⟩)
    · exact .sends hsame (UInt32.not_le.mp hgiveUp)
        (fun hne => UInt32.not_lt.mp fun hlt => hwait ⟨hlt, hne⟩) rfl

/-- What a request says about the clock and the counter. -/
structure Paced (time : UInt32) (c c' : CStunClientLogic) : Prop where
  sentAt : c'.timeLastMessageSent = time
  first : c'.nTestIndex ≠ c.nTestIndex → c'.sendCount = 1
  again : c'.nTestIndex = c.nTestIndex → c'.sendCount = c.sendCount + 1 ∧
    c.sendCount < c.config.uMaxAttempts ∧ (c.sendCount ≠ 0 → c.config.timeoutSeconds ≤ c.diff time)

/-- Where the loop is: still with the test it started with, or with a later one. -/
def Proceeds (c s : CStunClientLogic) : Prop :=
  SamePace c s ∨ (c.nTestIndex < s.nTestIndex ∧ s.sendCount = 0)

theorem Proceeds.same {s s' : CStunClientLogic} (h : Proceeds c s) (hs : SamePace s s') :
    Proceeds c s' := by
  rcases h with heq | ⟨hlt, hzero⟩
  · exact Or.inl (heq.trans hs)
  · exact Or.inr ⟨hs.nTestIndex ▸ hlt, hs.sendCount.trans hzero⟩

theorem Proceeds.nextTest {s : CStunClientLogic} (h : Proceeds c s) : Proceeds c s.nextTest := by
  refine Or.inr ⟨?_, rfl⟩
  rcases h with heq | ⟨hlt, -⟩
  · exact heq.nTestIndex ▸ Nat.lt_succ_self _
  · exact Nat.lt_succ_of_lt hlt

theorem proceeds_goes (s s' : CStunClientLogic) (h : Proceeds c s)
    (hpass : pass entropy spMsg time s = .inr s') : Proceeds c s' := by
  have hpasses := passes entropy spMsg time s
  rw [hpass] at hpasses
  cases hpasses with
  | goesOn same => exact (h.same same).nextTest
  | givesUp same => exact h.same same

theorem paced_sendMessage {s s₁ : CStunClientLogic} {msg : CBuffer × CSocketAddress}
    (h : Proceeds c s) (hsame : SamePace s s₁) (hcount : s.sendCount < s.config.uMaxAttempts)
    (hwait : s.sendCount ≠ 0 → s.config.timeoutSeconds ≤ s.diff time)
    (hsend : sendMessage entropy spMsg time t s₁ = .ok msg c') : Paced time c c' := by
  cases hsend
  refine ⟨rfl, fun hne => ?_, fun heq => ?_⟩
  · rcases h with h | ⟨hlt, hzero⟩
    · exact absurd (h.trans hsame).nTestIndex hne
    · show s₁.sendCount + 1 = 1
      rw [hsame.sendCount, hzero, UInt32.zero_add]
  · rcases h with h | ⟨hlt, -⟩
    · rw [h.config, h.sendCount] at hcount
      rw [h.config, h.sendCount, h.diff] at hwait
      exact ⟨congrArg (· + 1) (h.trans hsame).sendCount, hcount, hwait⟩
    · have hindex := hsame.nTestIndex
      have heq' : s₁.nTestIndex = c.nTestIndex := heq
      omega

theorem getNextMessage_paced (hinit : c.fInitialized = true) (hcap : 800 ≤ spMsg.getAllocatedSize)
    {msg : CBuffer × CSocketAddress} (hcall : getNextMessage entropy spMsg time c = .ok msg c') :
    Paced time c c' := by
  rw [getNextMessage_eq hinit hcap] at hcall
  cases hrun : Loop.run (pass entropy spMsg time) (2 * c.testlist.length + 2) c with
  | none =>
    rw [hrun] at hcall
    cases hcall
  | some r =>
    rw [hrun] at hcall
    have hleaves : ∀ s r, Proceeds c s → pass entropy spMsg time s = .inl r →
        ∀ msg c', r = .ok msg c' → Paced time c c' := by
      rintro s r h hpass msg c' rfl
      have hpasses := passes entropy spMsg time s
      rw [hpass] at hpasses
      cases hpasses with
      | sends same more due sent => exact paced_sendMessage h same more due sent
    exact Loop.of_run hleaves proceeds_goes (Or.inl ⟨rfl, rfl, rfl, rfl⟩) hrun msg c' hcall

/-- The client only waits while there is time left. -/
theorem getNextMessage_stillWaiting (hinit : c.fInitialized = true)
    (hcap : 800 ≤ spMsg.getAllocatedSize)
    (hcall : getNextMessage entropy spMsg time c = .error E_STUNCLIENT_STILL_WAITING c') :
    c'.diff time < c'.config.timeoutSeconds := by
  rw [getNextMessage_eq hinit hcap] at hcall
  cases hrun : Loop.run (pass entropy spMsg time) (2 * c.testlist.length + 2) c with
  | none =>
    rw [hrun] at hcall
    exact absurd (EStateM.Result.error.inj hcall).1 (by decide)
  | some r =>
    rw [hrun] at hcall
    have hleaves : ∀ s r, True → pass entropy spMsg time s = .inl r →
        ∀ c', r = .error E_STUNCLIENT_STILL_WAITING c' → c'.diff time < c'.config.timeoutSeconds := by
      rintro s r - hpass c' rfl
      have hpasses := passes entropy spMsg time s
      rw [hpass] at hpasses
      generalize hcode : E_STUNCLIENT_STILL_WAITING = code at hpasses
      cases hpasses with
      | ready => exact absurd hcode (by decide)
      | waits same early =>
        rw [same.diff, same.config]
        exact early
      | sends same more due sent => cases sent
    exact Loop.of_run hleaves (fun _ _ _ _ => trivial) trivial hrun c' hcall

/-! ### The log -/

theorem requestsOf_concat (log : List SentRequest) (s : SentRequest) (t : IStunClientTest) :
    requestsOf t (log ++ [s]) = if s.test = t then requestsOf t log ++ [s] else requestsOf t log := by
  rw [requestsOf, List.filter_append]
  split_ifs with h
  · have hlast : [s].filter (fun s => decide (s.test = t)) = [s] :=
      List.filter_cons_of_pos (decide_eq_true h)
    rw [hlast, requestsOf]
  · have hlast : [s].filter (fun s => decide (s.test = t)) = [] :=
      List.filter_cons_of_neg (by simpa using h)
    rw [hlast, List.append_nil, requestsOf]

/-- The log of requests fits where the client is: they carry the ids that the tests have, no
test has more of them than it may, and the last of the current test is the one whose time
the client has. -/
structure Logged (config : StunClientLogicConfig) (done : List Entry) (stage : Phase)
    (left : List IStunClientTest) (c : CStunClientLogic) (log : List SentRequest) : Prop
    extends BetweenCalls config done stage left c where
  data : ∀ s ∈ log, isTransactionIdValid (c.test s.test).transid = true ∧
    s.data = (bindingRequest s.test.change (c.test s.test).transid).encode
  known : ∀ s ∈ log, s.test ∈ done.map Prod.fst ++ stage.current
  few : ∀ t, (requestsOf t log).length ≤ config.uMaxAttempts.toNat
  spaced : ∀ t, (requestsOf t log).IsChain fun s s' =>
    config.timeoutSeconds ≤ (s'.timeCurrentMilliseconds - s.timeCurrentMilliseconds) / 1000
  sent : ∀ t, stage = .waiting t → (requestsOf t log).length = c.sendCount.toNat ∧
    ((requestsOf t log).getLast?.map SentRequest.timeCurrentMilliseconds) =
      some c.timeLastMessageSent

variable {log : List SentRequest}

theorem IsInitialized.logged (h : IsInitialized config c) :
    Logged (configure config) [] .unsent (testsOf config) c [] where
  toBetweenCalls := h.betweenCalls
  data := nofun
  known := nofun
  few _ := Nat.zero_le _
  spaced _ := .nil
  sent := nofun

/-- A test that nothing is known of has sent nothing. -/
theorem Logged.requestsOf_eq_nil (h : Logged config past phase rest c log)
    (ht : t ∉ past.map Prod.fst ++ phase.current) : requestsOf t log = [] := by
  rw [requestsOf, List.filter_eq_nil_iff]
  intro s hs heq
  exact ht (of_decide_eq_true heq ▸ h.known s hs)

/-- The transaction id that an open test looks for is that of its last request. The first test
is open before there is a request. -/
theorem Logged.transid_open (h : Logged config past phase rest c log)
    (ht : c.currentTest = some t) (hopen : (c.test t).fCompleted = false) :
    (∃ s, (requestsOf t log).getLast? = some s ∧ s.transid = (c.test t).transid.toList) ∨
    (requestsOf t log = [] ∧ t = .binding ∧ (c.test t).transid = List.Vector.replicate _ 0) := by
  rw [h.currentTest] at ht
  cases phase with
  | unsent =>
    cases rest with
    | nil => cases ht
    | cons t' rest =>
      obtain rfl : t' = t := Option.some.inj ht
      obtain rfl : past = [] := (h.unsent rfl).resolve_right (List.cons_ne_nil t' rest)
      refine Or.inr ⟨h.requestsOf_eq_nil List.not_mem_nil, (List.cons.inj h.split).1.symm, ?_⟩
      rw [h.rest t' (List.mem_cons_self ..)]
      rfl
  | waiting t' =>
    obtain rfl : t' = t := Option.some.inj ht
    obtain ⟨s, hlast, -⟩ := Option.map_eq_some_iff.mp (h.sent t' rfl).2
    obtain ⟨hmem, hs⟩ := List.mem_filter.mp (List.mem_of_getLast? hlast)
    refine Or.inl ⟨s, hlast, ?_⟩
    rw [SentRequest.transid, (h.data s hmem).2, of_decide_eq_true hs, Message.tid_encode]
    rfl
  | finished e =>
    obtain rfl : e.1 = t := Option.some.inj ht
    rw [h.phase.2] at hopen
    cases hopen

/-- The client goes on without a request. -/
theorem Logged.quiet {past' : List Entry} {phase' : Phase} {rest' : List IStunClientTest}
    (h : Logged config past phase rest c log) (h' : BetweenCalls config past' phase' rest' c')
    (hids : KeepsIds c c')
    (hknown : ∀ t ∈ past.map Prod.fst ++ phase.current, t ∈ past'.map Prod.fst ++ phase'.current)
    (hwaiting : ∀ t, phase' ≠ .waiting t) : Logged config past' phase' rest' c' log where
  toBetweenCalls := h'
  data s hs := by
    rw [hids]
    exact h.data s hs
  known s hs := hknown _ (h.known s hs)
  few := h.few
  spaced := h.spaced
  sent t ht := absurd ht (hwaiting t)

/-- The current test gets its answer. -/
theorem Logged.answered (h : Logged config past phase rest c log)
    (ht : c.currentTest = some t) (hopen : (c.test t).fCompleted = false) (answer : Answer) :
    ∃ rest', phase.entry = [] ∧
      Logged config past (.finished (t, .answered answer)) rest' (c.answered t answer) log := by
  obtain ⟨rest', hlist, hentry, hanswered⟩ := h.toBetweenCalls.answered ht hopen answer
  refine ⟨rest', hentry, h.quiet hanswered (keepsIds_answered answer c) (fun t' ht' => ?_) nofun⟩
  refine (List.mem_append.mp ht').elim (List.mem_append_left _) fun hcurrent => ?_
  cases phase with
  | unsent => cases hcurrent
  | waiting t₀ =>
    rw [← (List.cons.inj hlist).1]
    exact List.mem_append_right _ hcurrent
  | finished e => cases hentry

/-- The request of a test is its first one, or the next one of the test that waits. -/
theorem Logged.first_or_again {past' : List Entry} {rest' : List IStunClientTest}
    (h : Logged config past phase rest c log) (h' : Follows config past' (.waiting t) rest' c')
    (hadds : Adds past phase past' (.waiting t)) (hpaced : Paced time c c') :
    (requestsOf t log = [] ∧ c'.sendCount = 1) ∨
    (phase = .waiting t ∧ c'.sendCount = c.sendCount + 1 ∧ c.sendCount < config.uMaxAttempts ∧
      config.timeoutSeconds ≤ c.diff time) := by
  obtain ⟨more, hmore, -⟩ := hadds
  have hlen := congrArg List.length hmore
  change (past' ++ []).length = (past ++ phase.entry ++ more).length at hlen
  rw [List.append_nil, List.length_append, List.length_append] at hlen
  have hsplit := h'.split
  have hnodup := h'.nodup
  have hnew : t ∉ past'.map Prod.fst := by
    intro hmem
    exact (List.nodup_append.mp hnodup).2.2 t hmem t (by simp [Phase.current]) rfl
  by_cases hindex : c'.nTestIndex = c.nTestIndex
  · obtain ⟨hcount, hmax, hdue⟩ := hpaced.again hindex
    rw [h'.index, h.index] at hindex
    rw [h.config_eq] at hmax hdue
    obtain ⟨hentry, rfl⟩ : phase.entry = [] ∧ more = [] := by
      rw [← List.length_eq_zero_iff, ← List.length_eq_zero_iff]
      omega
    change past' ++ [] = past ++ phase.entry ++ [] at hmore
    rw [hentry, List.append_nil, List.append_nil, List.append_nil] at hmore
    subst hmore
    have hcurrent := List.append_cancel_left (hsplit.symm.trans h.split)
    cases phase with
    | unsent =>
      refine Or.inl ⟨h.requestsOf_eq_nil ?_, ?_⟩
      · simpa [Phase.current] using hnew
      · rw [hcount, h.phase.1, UInt32.zero_add]
    | waiting t' =>
      obtain rfl : t = t' := (List.cons.inj hcurrent).1
      exact Or.inr ⟨rfl, hcount, hmax, hdue h.phase.1⟩
    | finished e => exact absurd hentry (List.cons_ne_nil e [])
  · refine Or.inl ⟨h.requestsOf_eq_nil fun hmem => hnew ?_, hpaced.first hindex⟩
    rw [h'.index, h.index] at hindex
    have hfront : past.map Prod.fst ++ phase.current <+: testsOf config := by
      rw [h.split, ← List.append_assoc]
      exact List.prefix_append _ _
    have hfront' : past'.map Prod.fst <+: testsOf config := by
      rw [hsplit]
      exact List.prefix_append _ _
    have hle : (past.map Prod.fst ++ phase.current).length ≤ (past'.map Prod.fst).length := by
      cases phase <;> simp [Phase.current] at hlen ⊢ <;> omega
    exact (List.prefix_of_prefix_length_le hfront hfront' hle).subset hmem

/-- The client goes on with a request. -/
theorem Logged.request {past' : List Entry} {rest' : List IStunClientTest}
    {msg : CBuffer × CSocketAddress} (h : Logged config past phase rest c log)
    (h' : Follows config past' (.waiting t) rest' c') (hadds : Adds past phase past' (.waiting t))
    (hsends : Sends t c c' msg) (hpaced : Paced time c c') :
    Logged config past' (.waiting t) rest' c' (log ++ [⟨t, time, msg.1.bytes⟩]) := by
  have hknown := h.toFollows.mem_of_adds h' hadds
  have hcase := h.first_or_again h' hadds hpaced
  refine ⟨⟨h', nofun⟩, fun s hs => ?_, fun s hs => ?_, fun t' => ?_, fun t' => ?_, fun t' ht => ?_⟩
  · rcases List.mem_append.mp hs with hold | hlast
    · obtain ⟨hvalid, hdata⟩ := h.data s hold
      have hid : (c'.test s.test).transid = (c.test s.test).transid := by
        by_cases ht : s.test = t
        · rw [ht] at hvalid ⊢
          exact hsends.drawn hvalid
        · exact hsends.others _ ht
      rw [hid]
      exact ⟨hvalid, hdata⟩
    · obtain rfl := List.mem_singleton.mp hlast
      exact ⟨h'.phase.2.2.2.2, hsends.bytes⟩
  · rcases List.mem_append.mp hs with hold | hlast
    · exact hknown _ (h.known s hold)
    · obtain rfl := List.mem_singleton.mp hlast
      exact List.mem_append_right _ (List.mem_singleton_self t)
  · rw [requestsOf_concat]
    split_ifs with ht
    · obtain rfl : t = t' := ht
      rw [List.length_append, List.length_singleton]
      rcases hcase with ⟨hnil, -⟩ | ⟨hphase, -, hmax, -⟩
      · have hpos : config.uMaxAttempts.toNat ≠ 0 := fun hz => h.attempts (UInt32.toNat_inj.mp hz)
        rw [hnil, List.length_nil]
        omega
      · rw [(h.sent t hphase).1]
        exact UInt32.lt_iff_toNat_lt.mp hmax
    · exact h.few t'
  · rw [requestsOf_concat]
    split_ifs with ht
    · obtain rfl : t = t' := ht
      refine List.isChain_append.mpr ⟨h.spaced t, .singleton _, ?_⟩
      intro s hs s' hs'
      obtain rfl : _ = s' := Option.some.inj hs'
      rcases hcase with ⟨hnil, -⟩ | ⟨hphase, -, -, hdue⟩
      · rw [hnil] at hs
        cases hs
      · have htime := (h.sent t hphase).2
        rw [Option.mem_def.mp hs] at htime
        rw [diff, ← Option.some.inj htime] at hdue
        exact hdue
    · exact h.spaced t'
  · obtain rfl : t = t' := Phase.waiting.inj ht
    rw [requestsOf_concat, if_pos rfl, List.length_append, List.length_singleton,
      List.getLast?_concat]
    refine ⟨?_, congrArg some hpaced.sentAt.symm⟩
    rcases hcase with ⟨hnil, hone⟩ | ⟨hphase, hcount, hmax, -⟩
    · rw [hnil, hone]
      rfl
    · rw [UInt32.lt_iff_toNat_lt] at hmax
      have hlt := config.uMaxAttempts.toNat_lt
      rw [(h.sent t hphase).1, hcount, UInt32.toNat_add, UInt32.toNat_one, Nat.mod_eq_of_lt]
      omega

/-- The step lemma: a call keeps the log, and the history only gets longer. -/
theorem Logged.call (h : Logged config past phase rest c log) (i : ClientCall) :
    ∃ past' phase' rest' more,
      Logged config past' phase' rest' (c.call i).2 (log ++ (c.sentBy i).toList) ∧
        past' ++ phase'.entry = past ++ phase.entry ++ more := by
  have hself : ∃ past' phase' rest' more, Logged config past' phase' rest' c (log ++ []) ∧
      past' ++ phase'.entry = past ++ phase.entry ++ more :=
    ⟨past, phase, rest, [], by rwa [List.append_nil], (List.append_nil _).symm⟩
  cases i with
  | getNextMessage entropy spMsg time =>
    unfold CStunClientLogic.call sentBy
    dsimp only
    by_cases hcap : 800 ≤ spMsg.getAllocatedSize
    · have hpolled := h.getNextMessage entropy time hcap
      have hpaced : ∀ msg c', CStunClientLogic.getNextMessage entropy spMsg time c = .ok msg c' →
          Paced time c c' := fun _ _ hcall => getNextMessage_paced h.fInitialized hcap hcall
      generalize CStunClientLogic.getNextMessage entropy spMsg time c = result at hpolled hpaced ⊢
      cases hpolled with
      | stillWaiting waiting => exact hself
      | @ready past' c' follows adds ids =>
        have htests : testsOf config = past'.map Prod.fst ++ Phase.unsent.current := by
          rw [follows.split, List.append_nil]
        refine ⟨past', .unsent, [], adds.choose, ?_, adds.choose_spec.1⟩
        rw [Option.toList_none, List.append_nil]
        refine h.quiet ⟨follows, fun _ => Or.inr rfl⟩ ids (fun t ht => ?_) nofun
        rw [← htests, h.split, ← List.append_assoc]
        exact List.mem_append_left _ ht
      | @sent past' t rest' msg c' follows adds sends =>
        refine ⟨past', .waiting t, rest', adds.choose, ?_, adds.choose_spec.1⟩
        have hcurrent : c'.currentTest = some t := follows.currentTest
        dsimp only
        rw [hcurrent]
        exact h.request follows adds sends (hpaced msg c' rfl)
    · obtain ⟨hr, hcall, -⟩ := getNextMessage_small entropy time c (not_le.mp hcap)
      rw [hcall]
      exact hself
  | processResponse spMsg addrRemote addrLocal =>
    rcases c.call_processResponse_cases spMsg addrRemote addrLocal with
      ⟨hr, hcall⟩ | ⟨t, reader, answer, ht, hopen, -, -, -, hcall⟩
    · rw [hcall]
      exact hself
    · obtain ⟨rest', hentry, hanswered⟩ := h.answered ht hopen answer
      rw [hcall, sentBy, Option.toList_none, List.append_nil]
      refine ⟨past, .finished (t, .answered answer), rest', [(t, .answered answer)], hanswered, ?_⟩
      rw [hentry, List.append_nil]
      rfl

/-- The run lemma. -/
theorem Logged.afterCalls (h : Logged config past phase rest c log) (calls : List ClientCall) :
    ∃ past' phase' rest' more,
      Logged config past' phase' rest' (c.afterCalls calls) (log ++ c.sends calls) ∧
        past' ++ phase'.entry = past ++ phase.entry ++ more := by
  induction calls generalizing past phase rest c log with
  | nil => exact ⟨past, phase, rest, [], by rwa [sends, List.append_nil], (List.append_nil _).symm⟩
  | cons i calls ih =>
    obtain ⟨past₁, phase₁, rest₁, more₁, h₁, hmore₁⟩ := h.call i
    obtain ⟨past₂, phase₂, rest₂, more₂, h₂, hmore₂⟩ := ih h₁
    rw [List.append_assoc] at h₂
    exact ⟨past₂, phase₂, rest₂, more₁ ++ more₂, h₂, by rw [hmore₂, hmore₁, List.append_assoc]⟩

/-! ### What the log says -/

theorem length_testsOf_le (config : StunClientLogicConfig) : (testsOf config).length ≤ 5 := by
  rw [testsOf]
  cases config.fFilteringTest <;> cases config.fBehaviorTest <;> decide

theorem Logged.length_le (h : Logged config past phase rest c log) :
    log.length ≤ 5 * config.uMaxAttempts.toNat := by
  have hkinds : ∀ s ∈ log, s.test ∈ testsOf config := by
    intro s hs
    rw [h.split, ← List.append_assoc]
    exact List.mem_append_left _ (h.known s hs)
  exact (Log.length_le_of_kinds hkinds h.few).trans
    (Nat.mul_le_mul_right _ (length_testsOf_le config))

/-- The loop of `GetNextMessage` is left. -/
theorem Follows.loop_ends (h : Follows config past phase rest c)
    (entropy : CStunMessageBuilder.Entropy) (time : UInt32) (hcap : 800 ≤ spMsg.getAllocatedSize) :
    (Loop.run (pass entropy spMsg time) (2 * c.testlist.length + 2) c).isSome = true := by
  have hpolled := h.getNextMessage entropy time hcap
  rw [getNextMessage_eq h.fInitialized hcap] at hpolled
  cases hrun : Loop.run (pass entropy spMsg time) (2 * c.testlist.length + 2) c with
  | some r => rfl
  | none =>
    rw [hrun] at hpolled
    generalize hresult : Option.getD none
      (EStateM.Result.error E_UNEXPECTED c : MessageResult) = result at hpolled
    cases hpolled with
    | stillWaiting waiting => exact absurd (EStateM.Result.error.inj hresult).1 (by decide)
    | ready follows adds ids => exact absurd (EStateM.Result.error.inj hresult).1 (by decide)
    | sent follows adds sends => cases hresult

/-- The client waits for an answer to the last request of its test, and not too long. -/
theorem Logged.stillWaiting (h : Logged config past phase rest c log)
    (hcap : 800 ≤ spMsg.getAllocatedSize)
    (hcall : (c.call (.getNextMessage entropy spMsg time)).1.hr = E_STUNCLIENT_STILL_WAITING) :
    ∃ t s, c.currentTest = some t ∧ (c.test t).fCompleted = false ∧
      (requestsOf t log).getLast? = some s ∧
      (time - s.timeCurrentMilliseconds) / 1000 < config.timeoutSeconds := by
  have hpolled := h.getNextMessage entropy time hcap
  have hdiff : ∀ c', CStunClientLogic.getNextMessage entropy spMsg time c =
      .error E_STUNCLIENT_STILL_WAITING c' → c'.diff time < c'.config.timeoutSeconds :=
    fun _ hcall => getNextMessage_stillWaiting h.fInitialized hcap hcall
  rw [CStunClientLogic.call] at hcall
  generalize CStunClientLogic.getNextMessage entropy spMsg time c = result at hpolled hdiff hcall
  cases hpolled with
  | @stillWaiting t waiting =>
    subst waiting
    have hlt := hdiff c rfl
    have htime := (h.sent t rfl).2
    obtain ⟨s, hs, hlast⟩ := Option.map_eq_some_iff.mp htime
    rw [diff, ← hlast, h.config_eq] at hlt
    exact ⟨t, s, h.currentTest, h.phase.2.2.2.1, hs, hlt⟩
  | ready follows adds ids =>
    have hcode : E_STUNCLIENT_RESULTS_READY = E_STUNCLIENT_STILL_WAITING := hcall
    exact absurd hcode (by decide)
  | sent follows adds sends =>
    have hcode : S_OK = E_STUNCLIENT_STILL_WAITING := hcall
    exact absurd hcode (by decide)

/-- With room for a message, a call sends one, waits, or is done for good. -/
theorem Follows.call_getNextMessage (h : Follows config past phase rest c)
    (entropy : CStunMessageBuilder.Entropy) (time : UInt32) (hcap : 800 ≤ spMsg.getAllocatedSize) :
    (c.call (.getNextMessage entropy spMsg time)).1.hr = S_OK ∨
    (c.call (.getNextMessage entropy spMsg time)).1.hr = E_STUNCLIENT_STILL_WAITING ∨
    ((c.call (.getNextMessage entropy spMsg time)).1.hr = E_STUNCLIENT_RESULTS_READY ∧
      ∃ past', Follows config past' .unsent [] (c.call (.getNextMessage entropy spMsg time)).2) := by
  have hpolled := h.getNextMessage entropy time hcap
  rw [CStunClientLogic.call]
  generalize CStunClientLogic.getNextMessage entropy spMsg time c = result at hpolled
  cases hpolled with
  | stillWaiting waiting => exact Or.inr (Or.inl rfl)
  | ready follows adds ids => exact Or.inr (Or.inr ⟨rfl, _, follows⟩)
  | sent follows adds sends => exact Or.inl rfl

/-- The results are only said to be ready when all tests are done. -/
theorem Follows.done_of_ready (h : Follows config past phase rest c)
    (hready : (c.call (.getNextMessage entropy spMsg time)).1.hr = E_STUNCLIENT_RESULTS_READY) :
    ∃ past', Follows config past' .unsent [] (c.call (.getNextMessage entropy spMsg time)).2 := by
  by_cases hcap : 800 ≤ spMsg.getAllocatedSize
  · rcases h.call_getNextMessage entropy time hcap with hok | hwaiting | ⟨-, hdone⟩
    · rw [hok] at hready
      exact absurd hready (by decide)
    · rw [hwaiting] at hready
      exact absurd hready (by decide)
    · exact hdone
  · obtain ⟨hr, hcall, hne⟩ := call_getNextMessage_small entropy time c (not_le.mp hcap)
    rw [hcall] at hready
    exact absurd hready hne

end CStunClientLogic
end StunServer

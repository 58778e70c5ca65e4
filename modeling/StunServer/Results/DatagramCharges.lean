import StunServer.Proofs.StunSocketThread
import StunServer.Results.Response

/-! Whom `CStunSocketThread::Run` charges. The remote address is kept from one turn to the
next, and the rate check is made before the result of `recvfromex` is looked at. -/

namespace StunServer

open CStunSocketThread

/-- The charges against an address. -/
def chargesAgainst (A : CSocketAddress) (run : List (Turn × Effect)) : ℕ :=
  run.countP fun e => e.2.charged = some A

/-- The datagrams received from an address. -/
def datagramsFrom (A : CSocketAddress) (run : List (Turn × Effect)) : ℕ :=
  run.countP fun e => e.1.msg.source = some A

/-- Every charge is for the source of the datagram just received, so nobody is charged more
often than he sends. -/
structure ChargesSenders (run : List (Turn × Effect)) : Prop where
  sender : ∀ e ∈ run, ∀ A, e.2.charged = some A → e.1.msg.source = some A
  count : ∀ A, chargesAgainst A run ≤ datagramsFrom A run

/-- No receive fails, and an empty datagram comes from where the last one came from. -/
def FromKept : CSocketAddress → List RecvMsg → Prop
  | _, [] => True
  | _, .failed :: _ => False
  | addrRemote, .datagram data addr _ :: msgs => (data = [] → addr = addrRemote) ∧ FromKept addr msgs

theorem chargesSenders_of_sender {run : List (Turn × Effect)}
    (h : ∀ e ∈ run, ∀ A, e.2.charged = some A → e.1.msg.source = some A) : ChargesSenders run where
  sender := h
  count A := List.countP_mono_left fun e he hc => by
    rw [decide_eq_true_eq] at hc ⊢
    exact h e he A hc

section

variable {D : Digests} {tsa : TransportAddressSet} {spAuth : Option IStunAuth}
  {thread : CStunSocketThread}

/-- The kept address is the source just when something was received that either has a byte
or comes from the kept address. -/
theorem source_eq_keptAddress_iff {addrRemote : CSocketAddress} {msg : RecvMsg} {msgs : List RecvMsg} :
    FromKept addrRemote (msg :: msgs) ↔
      msg.source = some (msg.keptAddress addrRemote) ∧ FromKept (msg.keptAddress addrRemote) msgs := by
  cases msg with
  | failed => simp [FromKept, RecvMsg.source]
  | datagram data addr pktinfo =>
    rw [FromKept, RecvMsg.source, RecvMsg.keptAddress]
    by_cases hd : data = []
    · simp only [hd, if_true, true_implies, Option.some.injEq]
      constructor
      · rintro ⟨rfl, h⟩
        exact ⟨rfl, h⟩
      · rintro ⟨rfl, h⟩
        exact ⟨rfl, h⟩
    · simp [hd]

theorem uncharged_run (h : thread.Prepared tsa spAuth) (hl : thread.spLimiter = none)
    (turns : List Turn) : ∀ e ∈ Machine.trace (runOnce D) thread turns, e.2.charged = none := by
  induction turns generalizing thread with
  | nil => simp [Machine.trace]
  | cons turn turns ih =>
    obtain ⟨hcharged, -, hprepared, -, hlimiter⟩ := runOnce_spec (D := D) h turn
    rw [hl] at hcharged hlimiter
    intro e he
    rcases List.mem_cons.mp he with rfl | he
    · exact hcharged
    · exact ih hprepared (Option.not_isSome_iff_eq_none.mp (by simp [hlimiter])) e he

/-- The run lemma, from any thread whose kept address is known. -/
theorem sender_iff_fromKept (h : thread.Prepared tsa spAuth) (hl : thread.spLimiter.isSome = true)
    (turns : List Turn) :
    (∀ e ∈ Machine.trace (runOnce D) thread turns, ∀ A,
        e.2.charged = some A → e.1.msg.source = some A) ↔
      FromKept thread.msgIn.addrRemote (turns.map Turn.msg) := by
  induction turns generalizing thread with
  | nil => simp [Machine.trace, FromKept]
  | cons turn turns ih =>
    obtain ⟨hcharged, -, hprepared, haddr, hlimiter⟩ := runOnce_spec (D := D) h turn
    have hrest := ih hprepared (hlimiter.trans hl)
    obtain ⟨limiter, hlim⟩ := Option.isSome_iff_exists.mp hl
    rw [hlim, Option.map_some] at hcharged
    rw [Machine.trace, List.forall_mem_cons, hrest, haddr, hcharged, List.map_cons,
      source_eq_keptAddress_iff]
    refine and_congr_left fun _ => ?_
    constructor
    · exact fun hs => hs _ rfl
    · rintro hs A hA
      rw [hs, ← hA]

end

/-- A run charges senders only just when there is no limiter, or when no receive fails and
every empty datagram comes from where the one before it came from. -/
theorem charges_senders_iff (D : Digests) (tsa : TransportAddressSet) (spAuth : Option IStunAuth)
    (spLimiter : Option RateLimiter) (turns : List Turn) :
    ChargesSenders (Machine.trace (runOnce D) (initWith tsa spAuth spLimiter) turns) ↔
      spLimiter = none ∨ FromKept .create (turns.map Turn.msg) := by
  have hprepared := prepared_initWith tsa spAuth spLimiter
  cases spLimiter with
  | none =>
    simp only [true_or, iff_true]
    refine chargesSenders_of_sender fun e he A hA => ?_
    rw [uncharged_run hprepared rfl turns e he] at hA
    cases hA
  | some limiter =>
    have hrun := sender_iff_fromKept (D := D) hprepared rfl turns
    simp only [reduceCtorEq, false_or]
    constructor
    · exact fun hc => hrun.mp hc.sender
    · exact fun hf => chargesSenders_of_sender (hrun.mpr hf)

/-- A datagram from `1.0.0.127:256`, and then a receive that fails. -/
def failedReceive : List Turn :=
  [⟨⟨.rolePP, .create⟩, .datagram [0] (.addr4 1 0x7f000001) none, 0, false⟩,
    ⟨⟨.rolePP, .create⟩, .failed, 1, false⟩]

/-- The sender of one datagram is charged twice. -/
theorem failed_receive_charged :
    let run := Machine.trace (runOnce sampleDigests)
      (initWith sampleArrival.addrSet none (some (.create 10))) failedReceive
    chargesAgainst (.addr4 1 0x7f000001) run = 2 ∧ datagramsFrom (.addr4 1 0x7f000001) run = 1 ∧
      ¬ChargesSenders run := by
  set thread := initWith sampleArrival.addrSet none (some (.create 10))
  set datagram : Turn := ⟨⟨.rolePP, .create⟩, .datagram [0] (.addr4 1 0x7f000001) none, 0, false⟩
  set failed : Turn := ⟨⟨.rolePP, .create⟩, .failed, 1, false⟩
  have hinit : thread.Prepared sampleArrival.addrSet none := prepared_initWith _ _ _
  obtain ⟨hfirst, -, hprepared, haddr, hlimiter⟩ :=
    runOnce_spec (D := sampleDigests) hinit datagram
  obtain ⟨hsecond, -⟩ := runOnce_spec (D := sampleDigests) hprepared failed
  obtain ⟨limiter, hlim⟩ := Option.isSome_iff_exists.mp (hlimiter.trans rfl)
  rw [hlim, haddr] at hsecond
  have hcharged : (thread.runOnce sampleDigests datagram).1.charged = some (.addr4 1 0x7f000001) :=
    hfirst
  have hcharged' : ((thread.runOnce sampleDigests datagram).2.runOnce sampleDigests failed).1.charged =
      some (.addr4 1 0x7f000001) := hsecond
  have hcount : chargesAgainst (.addr4 1 0x7f000001)
      (Machine.trace (runOnce sampleDigests) thread [datagram, failed]) = 2 := by
    simp [chargesAgainst, Machine.trace, hcharged, hcharged']
  have hfrom : datagramsFrom (.addr4 1 0x7f000001)
      (Machine.trace (runOnce sampleDigests) thread [datagram, failed]) = 1 := rfl
  refine ⟨hcount, hfrom, fun h => ?_⟩
  have hle : chargesAgainst _ (Machine.trace _ thread [datagram, failed]) ≤
      datagramsFrom _ (Machine.trace _ thread [datagram, failed]) := h.count (.addr4 1 0x7f000001)
  rw [hcount, hfrom] at hle
  exact absurd hle (by decide)

end StunServer

import StunServer.Proofs.TcpThreadInit

/-! `CTCPStunThread` from `Start` to `Stop`: what it holds while it runs, and that nothing is left
when it has been stopped. -/

namespace StunServer

open Descriptors

namespace TcpThread

open CTCPStunThread

/-- What a thread has open as long as it is not reset. -/
def Keeps (thread : TcpThread) (fd : Int) : Prop :=
  ∃ n : ℕ, fd = n ∧ (thread.holds .pipe0 = some n ∨ ∃ role, thread.holds (.listener role) = some n)

/-- `Run` has what the thread object holds, and nothing else open. -/
structure Fit (thread : TcpThread) : Prop where
  settled : ∀ work, thread.work = some work → work.Settled thread.Keeps
  natural : ∀ work, thread.work = some work → ∀ fd, work.thread.isOpen fd = true → 0 ≤ fd
  idle : thread.fThreadIsValid = false → ∀ pConn, thread.holds (.connection pConn) = none

theorem fit_create : create.Fit where
  settled _ h := by cases h
  natural _ h := by cases h
  idle _ _ := rfl

variable {rest : Finset ℕ} {s : TcpSetup} {thread : TcpThread} {work : Running}

theorem holds_connection (h : thread.Fit) (hwork : thread.work = some work) {pConn n : ℕ} :
    thread.holds (.connection pConn) = some n ↔
      pConn < work.thread.connectionpool.count ∧ work.thread.connectionpool.sock pConn = n := by
  rw [holds, hwork, Option.bind_some]
  by_cases hlt : pConn < work.thread.connectionpool.count
  · rw [if_pos hlt, CStunSocket.descriptor, and_iff_right hlt]
    change (if work.thread.connectionpool.sock pConn = -1 then none
      else some (work.thread.connectionpool.sock pConn).toNat) = some n ↔ _
    by_cases hsock : work.thread.connectionpool.sock pConn = -1
    · rw [if_pos hsock, hsock]
      exact iff_of_false (Option.some_ne_none n).symm (by omega)
    · have hopen := ((h.settled work hwork).tight.isOpen_iff _).mpr
        (Or.inr ⟨hsock, pConn, hlt, rfl⟩)
      have hnat := h.natural work hwork _ hopen
      rw [if_neg hsock, Option.some.injEq]
      omega
  · rw [if_neg hlt]
    exact iff_of_false (Option.some_ne_none n).symm fun hand => hlt hand.1

/-- The part of the table that `Run` works on. -/
def OfRun : Holder → Prop
  | .pipe1 => False
  | .polling => False
  | _ => True

theorem isOpen_iff (h : thread.Fit) (hwork : thread.work = some work) (n : ℕ) :
    work.thread.isOpen n = true ↔ ∃ holder, OfRun holder ∧ thread.holds holder = some n := by
  rw [(h.settled work hwork).tight.isOpen_iff]
  constructor
  · rintro (⟨m, hm, hkept⟩ | ⟨-, p, hlt, hsock⟩)
    · obtain rfl : n = m := by omega
      rcases hkept with hpipe | ⟨role, hrole⟩
      · exact ⟨.pipe0, trivial, hpipe⟩
      · exact ⟨.listener role, trivial, hrole⟩
    · exact ⟨.connection p, trivial, (holds_connection h hwork).mpr ⟨hlt, hsock⟩⟩
  · rintro ⟨holder, hpart, hheld⟩
    cases holder with
    | listener role => exact Or.inl ⟨n, rfl, Or.inr ⟨role, hheld⟩⟩
    | pipe0 => exact Or.inl ⟨n, rfl, Or.inl hheld⟩
    | pipe1 => exact hpart.elim
    | polling => exact hpart.elim
    | connection p =>
      obtain ⟨hlt, hsock⟩ := (holds_connection h hwork).mp hheld
      exact Or.inr ⟨by omega, p, hlt, hsock⟩

/-! ### After `Init` -/

theorem Prepared.fit {call : TcpInitCall} {pAuth : Option IStunAuth}
    (h : Prepared rest call pAuth s) : s.thread.Fit := by
  obtain ⟨pipe, thread, hpipe, hwork, hinit, -⟩ := h.work
  obtain ⟨hpool, hopen, hlistening⟩ := init_starts hinit
  have hcount : thread.connectionpool.count = 0 := CTCPStunThread.init_count hinit
  have hkept : ∀ fd, thread.isOpen fd = true ↔ s.thread.Keeps fd := by
    intro fd
    rw [hopen, hlistening]
    constructor
    · rintro ⟨-, rfl | ⟨role, hrole, rfl⟩⟩
      · refine ⟨pipe.1, rfl, Or.inl ?_⟩
        rw [holds, hpipe]
        rfl
      · have hfd := descriptor_of_listens ((listens_iff role).mpr ((h.isValid role).trans hrole))
        exact ⟨_, h.natural role _ hfd, Or.inr ⟨role, hfd⟩⟩
    · rintro ⟨n, rfl, hheld | ⟨role, hheld⟩⟩
      · rw [holds, hpipe] at hheld
        exact ⟨by omega, Or.inl (congrArg Nat.cast (Option.some.inj hheld)).symm⟩
      · have hrole := (h.isValid role).symm.trans (CStunSocket.isValid_of_descriptor hheld)
        exact ⟨by omega, Or.inr ⟨role, hrole, h.natural role n hheld⟩⟩
  refine ⟨fun work hw => ?_, fun work hw fd hfd => ?_, fun _ pConn => ?_⟩
  · rw [hwork] at hw
    cases hw
    refine ⟨⟨_, _, init_booked hinit, fun p hp => RunPoint.noConfusion hp⟩, ⟨fun fd => ?_, ?_, ?_⟩,
      fun hp => RunPoint.noConfusion hp⟩
    · simp [hkept, hcount]
    · simp [hcount]
    · simp [hcount]
  · rw [hwork] at hw
    cases hw
    obtain ⟨n, rfl, -⟩ := (hkept fd).mp hfd
    exact Int.natCast_nonneg n
  · simp [holds, hwork, hcount]

/-! ### A step of `Run` -/

theorem handedOut_fresh (h : Accounts rest s.fds s.thread.holds) (hfit : s.thread.Fit)
    (hwork : s.thread.work = some work) (turn : Turn) :
    (handedOut s.fds turn).accepted.IsFresh work.thread := by
  rw [handedOut, Accepted.IsFresh]
  dsimp only
  split_ifs
  · exact Or.inl rfl
  · refine Or.inr (Bool.eq_false_iff.mpr fun hopen => ?_)
    obtain ⟨holder, -, hheld⟩ := (isOpen_iff hfit hwork _).mp hopen
    exact h.lowest_ne holder hheld

/-- What a step leaves of the thread object, and of the descriptors. -/
structure Steps (rest : Finset ℕ) (s s' : TcpSetup) : Prop where
  accounts : Accounts rest s'.fds s'.thread.holds
  fit : s'.thread.Fit
  frame : ∃ work, s'.thread = { s.thread with work := work }

theorem Steps.refl (h : Accounts rest s.fds s.thread.holds) (hfit : s.thread.Fit) :
    Steps rest s s := ⟨h, hfit, s.thread.work, rfl⟩

theorem Steps.trans {s' s'' : TcpSetup} (h : Steps rest s s') (h' : Steps rest s' s'') :
    Steps rest s s'' := by
  obtain ⟨work, hs'⟩ := h.frame
  obtain ⟨work', hs''⟩ := h'.frame
  exact ⟨h'.accounts, h'.fit, work', by rw [hs'', hs']⟩

theorem step_of_running (D : Digests) (h : Accounts rest s.fds s.thread.holds)
    (hfit : s.thread.Fit) (hvalid : s.thread.fThreadIsValid = true)
    (hwork : s.thread.work = some work) (turn : Turn) :
    ∃ work', (step D s turn).thread = { s.thread with work := some work' } ∧
      Steps rest s (step D s turn) ∧
      (turn.fNeedToExit = true → work'.point.distance ≤ work.point.distance - 1) := by
  have hfresh := handedOut_fresh h hfit hwork turn
  obtain ⟨work', hrun, hsettled, hopened, -, hnearer⟩ := (hfit.settled work hwork).step D hfresh
  have hstep : step D s turn = ⟨changed s.fds work.thread.isOpen work'.thread.isOpen,
      { s.thread with work := some work' }⟩ := by
    rw [step, if_neg (by simp [hvalid]), hwork]
    dsimp only
    rw [hrun]
  have hsock : (handedOut s.fds turn).accepted.socktmp = -1 ∨
      (handedOut s.fds turn).accepted.socktmp = (lowest s.fds : ℕ) := by
    rw [handedOut]
    dsimp only
    split_ifs
    · exact Or.inl rfl
    · exact Or.inr rfl
  have hopens : ∀ fd, work'.thread.isOpen fd = true →
      work.thread.isOpen fd = true ∨ fd = (lowest s.fds : ℕ) := by
    intro fd hfd
    refine (hopened fd hfd).imp_right fun he => ?_
    rcases hsock with hnone | hlow
    · rw [he, hnone] at hfd
      rcases (hsettled.tight.isOpen_iff (-1)).mp hfd with ⟨n, hn, -⟩ | ⟨hne, -⟩
      · omega
      · exact absurd rfl hne
    · exact he.trans hlow
  have hfit' : Fit { s.thread with work := some work' } := by
    refine ⟨fun w hw => ?_, fun w hw fd hfd => ?_, fun hv => ?_⟩
    · cases hw
      exact hsettled
    · cases hw
      rcases hopens fd hfd with hold | rfl
      · exact hfit.natural work hwork fd hold
      · exact Int.natCast_nonneg _
    · rw [hvalid] at hv
      cases hv
  have hheld := isOpen_iff hfit hwork
  have hheld' := isOpen_iff hfit' rfl
  have haccounts : Accounts rest (changed s.fds work.thread.isOpen work'.thread.isOpen)
      ({ s.thread with work := some work' } : TcpThread).holds := by
    refine h.replaced OfRun (fun holder hpart => ?_) (fun holder fd hpart hfd => ?_)
      (fun holder holder' fd hpart hpart' hfd hfd' => ?_) fun fd => ?_
    · cases holder with
      | pipe1 => rfl
      | polling => rfl
      | _ => exact absurd trivial hpart
    · refine (hopens fd ((hheld' fd).mpr ⟨holder, hpart, hfd⟩)).imp (hheld fd).mp fun he => ?_
      exact Int.ofNat_inj.mp he
    · have hkept : ∀ holder, OfRun holder → (∀ p, holder ≠ .connection p) →
          ({ s.thread with work := some work' } : TcpThread).holds holder = some fd →
            s.thread.holds holder = some fd ∧ s.thread.Keeps fd := by
        intro holder hpart hno hfd
        cases holder with
        | listener role => exact ⟨hfd, fd, rfl, Or.inr ⟨role, hfd⟩⟩
        | pipe0 => exact ⟨hfd, fd, rfl, Or.inl hfd⟩
        | pipe1 => exact hpart.elim
        | polling => exact hpart.elim
        | connection p => exact absurd rfl (hno p)
      have hconn : ∀ p, ({ s.thread with work := some work' } : TcpThread).holds (.connection p) =
          some fd ↔ p < work'.thread.connectionpool.count ∧
            work'.thread.connectionpool.sock p = fd := fun p => holds_connection hfit' rfl
      have hapart : ∀ holder p, OfRun holder → (∀ q, holder ≠ .connection q) →
          ({ s.thread with work := some work' } : TcpThread).holds holder = some fd →
            ({ s.thread with work := some work' } : TcpThread).holds (.connection p) ≠ some fd := by
        intro holder p hpart hno hfd hp
        obtain ⟨hlt, hsock⟩ := (hconn p).mp hp
        refine hsettled.tight.apart p hlt (by omega) ?_
        rw [hsock]
        exact (hkept holder hpart hno hfd).2
      by_cases hp : ∃ p, holder = .connection p <;> by_cases hq : ∃ q, holder' = .connection q
      · obtain ⟨p, rfl⟩ := hp
        obtain ⟨q, rfl⟩ := hq
        obtain ⟨hlt, hsock⟩ := (hconn p).mp hfd
        obtain ⟨hlt', hsock'⟩ := (hconn q).mp hfd'
        rw [hsettled.tight.owner p hlt q hlt' (by omega) (hsock.trans hsock'.symm)]
      · obtain ⟨p, rfl⟩ := hp
        exact absurd hfd (hapart holder' p hpart' (not_exists.mp hq) hfd')
      · obtain ⟨q, rfl⟩ := hq
        exact absurd hfd' (hapart holder q hpart (not_exists.mp hp) hfd)
      · exact h.inj holder holder' fd (hkept holder hpart (not_exists.mp hp) hfd).1
          (hkept holder' hpart' (not_exists.mp hq) hfd').1
    · rw [changed, Finset.mem_filter, Finset.mem_insert, ← hheld', ← hheld, Bool.not_eq_true]
      constructor
      · rintro ⟨-, hopen | ⟨hfd, hclosed⟩⟩
        · exact Or.inl hopen
        · exact Or.inr ⟨hfd, hclosed⟩
      · rintro (hopen | ⟨hfd, hclosed⟩)
        · refine ⟨?_, Or.inl hopen⟩
          rcases hopens fd hopen with hold | hlow
          · obtain ⟨holder, -, hheld⟩ := (hheld fd).mp hold
            exact Or.inr (h.isOpen hheld)
          · exact Or.inl (Int.ofNat_inj.mp hlow)
        · exact ⟨Or.inr hfd, Or.inr ⟨hfd, hclosed⟩⟩
  rw [hstep]
  exact ⟨work', rfl, ⟨haccounts, hfit', _, rfl⟩, hnearer⟩

theorem steps_step (D : Digests) (h : Accounts rest s.fds s.thread.holds) (hfit : s.thread.Fit)
    (turn : Turn) : Steps rest s (step D s turn) := by
  by_cases hvalid : s.thread.fThreadIsValid = false
  · rw [step, if_pos hvalid]
    exact .refl h hfit
  · cases hwork : s.thread.work with
    | none =>
      rw [step, if_neg hvalid, hwork]
      exact .refl h hfit
    | some work =>
      rw [Bool.not_eq_false] at hvalid
      obtain ⟨_, -, hsteps, -⟩ := step_of_running D h hfit hvalid hwork turn
      exact hsteps

theorem steps_foldl (D : Digests) (h : Accounts rest s.fds s.thread.holds) (hfit : s.thread.Fit)
    (turns : List Turn) : Steps rest s (turns.foldl (step D) s) := by
  induction turns generalizing s with
  | nil => exact .refl h hfit
  | cons turn turns ih =>
    have hstep := steps_step D h hfit turn
    exact hstep.trans (ih hstep.accounts hstep.fit)

/-! ### `Stop` -/

/-- `Run` is at most `n` steps from its exit. -/
def Within (n : ℕ) (thread : TcpThread) : Prop :=
  ∀ work, thread.work = some work → work.point.distance ≤ n

theorem within_step (D : Digests) (h : Accounts rest s.fds s.thread.holds) (hfit : s.thread.Fit)
    (hvalid : s.thread.fThreadIsValid = true) {turn : Turn} (hexit : turn.fNeedToExit = true) {n : ℕ}
    (hn : s.thread.Within (n + 1)) : (step D s turn).thread.Within n := by
  cases hwork : s.thread.work with
  | none =>
    rw [step, if_neg (by simp [hvalid]), hwork]
    exact fun work hw => by simp [hwork] at hw
  | some work =>
    obtain ⟨work', hthread, -, hnearer⟩ := step_of_running D h hfit hvalid hwork turn
    intro w hw
    rw [hthread] at hw
    cases hw
    have hcloser := hnearer hexit
    have hbound := hn work hwork
    omega

/-- A thread that is told to exit gets to its exit. -/
theorem within_exit (D : Digests) (h : Accounts rest s.fds s.thread.holds) (hfit : s.thread.Fit)
    (hvalid : s.thread.fThreadIsValid = true) {turn : Turn} (hexit : turn.fNeedToExit = true) {n : ℕ}
    (hn : s.thread.Within n) : ((List.replicate n turn).foldl (step D) s).thread.Within 0 := by
  induction n generalizing s with
  | zero => exact hn
  | succ n ih =>
    have hstep := steps_step D h hfit turn
    have hvalid' : (step D s turn).thread.fThreadIsValid = true := by
      obtain ⟨work, hwork⟩ := hstep.frame
      rw [hwork]
      exact hvalid
    exact ih hstep.accounts hstep.fit hvalid' (within_step D h hfit hvalid hexit hn)

/-- A thread at its exit has closed all connections. -/
theorem Fit.gone (h : thread.Fit) (hexited : thread.Within 0) (pConn : ℕ) :
    thread.holds (.connection pConn) = none := by
  cases hwork : thread.work with
  | none => simp [holds, hwork]
  | some work =>
    have hpoint : work.point = .exited := by
      have hzero := hexited work hwork
      cases hp : work.point <;> simp [hp, RunPoint.distance] at hzero ⊢
    rw [Option.eq_none_iff_forall_ne_some]
    intro n hheld
    obtain ⟨hlt, hsock⟩ := (holds_connection h hwork).mp hheld
    have hnone := (h.settled work hwork).exited hpoint pConn hlt
    omega

theorem join_spec (D : Digests) (h : Accounts rest s.fds s.thread.holds) (hfit : s.thread.Fit)
    (hvalid : s.thread.fThreadIsValid = true) (exit : Exit) :
    Accounts rest (join D exit s).fds (join D exit s).thread.holds ∧
      ∀ pConn, (join D exit s).thread.holds (.connection pConn) = none := by
  rw [join, List.foldl_append]
  dsimp only
  set s₁ := exit.turns.foldl (step D) s
  have hturns : Steps rest s s₁ := steps_foldl D h hfit exit.turns
  have hvalid' : s₁.thread.fThreadIsValid = true := by
    obtain ⟨work, hwork⟩ := hturns.frame
    rw [hwork]
    exact hvalid
  have hlast := steps_foldl D hturns.accounts hturns.fit (List.replicate c_stepsToExit
    { exit.last with fNeedToExit := true, fNeedToExitThen := true })
  refine ⟨hlast.accounts, hlast.fit.gone ?_⟩
  exact within_exit D hturns.accounts hturns.fit hvalid' rfl fun work _ => work.point.distance_le

theorem accounts_closePolling (h : Accounts rest s.fds s.thread.holds) :
    Accounts rest (closePolling s).fds (closePolling s).thread.holds := by
  have hfds : (closePolling s).fds = (s.thread.holds .polling).elim s.fds s.fds.erase := by
    rw [holds]
    by_cases he : s.thread.spPolling.epollfd = -1 <;> simp [closePolling, he]
  have hholds : (closePolling s).thread.holds = Function.update s.thread.holds .polling none :=
    holds_polling .create
  rw [hfds, hholds]
  exact h.cleared .polling

/-- The listening sockets of some roles are closed. -/
structure Closed (rest : Finset ℕ) (roles : List SocketRole) (s s' : TcpSetup) : Prop where
  accounts : Accounts rest s'.fds s'.thread.holds
  reset : ∀ role ∈ roles, s'.thread.socketListenArray role = .reset
  frame : ∃ sockets, s'.thread = { s.thread with socketListenArray := sockets }
  kept : ∀ role, s.thread.socketListenArray role = .reset → s'.thread.socketListenArray role = .reset

theorem closed_listenSocket (h : Accounts rest s.fds s.thread.holds) (role : SocketRole) :
    Closed rest [role] s (closeListenSocket s role) := by
  have hcleared := h.cleared (.listener role)
  rw [closeListenSocket]
  refine ⟨?_, fun r hr => ?_, ⟨_, rfl⟩, fun r hr => ?_⟩
  · dsimp only
    rw [holds_socket]
    exact hcleared
  · obtain rfl := List.mem_singleton.mp hr
    exact Function.update_self ..
  · by_cases he : r = role
    · subst he
      exact Function.update_self ..
    · exact (Function.update_of_ne he ..).trans hr

theorem closed_listenSockets (h : Accounts rest s.fds s.thread.holds) (roles : List SocketRole) :
    Closed rest roles s (roles.foldl closeListenSocket s) := by
  induction roles generalizing s with
  | nil => exact ⟨h, fun _ hr => absurd hr (List.not_mem_nil), ⟨_, rfl⟩, fun _ => id⟩
  | cons role roles ih =>
    have hhead := closed_listenSocket h role
    have htail := ih hhead.accounts
    refine ⟨htail.accounts, fun r hr => ?_, ?_, fun r hr => htail.kept r (hhead.kept r hr)⟩
    · rcases List.mem_cons.mp hr with rfl | hr
      · exact htail.kept r (hhead.reset r (List.mem_singleton.mpr rfl))
      · exact htail.reset r hr
    · obtain ⟨sockets, hs⟩ := hhead.frame
      obtain ⟨sockets', hs'⟩ := htail.frame
      exact ⟨sockets', by rw [List.foldl_cons, hs', hs]⟩

theorem accounts_closePipes (h : Accounts rest s.fds s.thread.holds) :
    Accounts rest (closePipes s).fds (closePipes s).thread.holds := by
  rw [closePipes]
  cases hpipe : s.thread.pipe with
  | none =>
    have hsame : ({ s.thread with pipe := none } : TcpThread) = s.thread := by rw [← hpipe]
    rw [Option.elim_none, hsame]
    exact h
  | some pipe =>
    have h₀ : s.thread.holds .pipe0 = some pipe.1 := by rw [holds, hpipe]; rfl
    have h₁ : s.thread.holds .pipe1 = some pipe.2 := by rw [holds, hpipe]; rfl
    have hholds : ({ s.thread with pipe := none } : TcpThread).holds =
        Function.update (Function.update s.thread.holds .pipe0 none) .pipe1 none := by
      funext holder
      cases holder <;> rfl
    rw [Option.elim_some, hholds]
    exact (h.closed h₀).closed (by rwa [Function.update_of_ne (by simp)])

/-- `Reset` closes what the listening sockets, the pipe and the polling instance had open, and
the thread object is as it was made. -/
theorem reset_eq (h : Accounts rest s.fds s.thread.holds)
    (hgone : ∀ pConn, s.thread.holds (.connection pConn) = none) : reset s = ⟨rest, create⟩ := by
  have hlisten := closed_listenSockets (accounts_closePolling h) roles
  have hpipes := accounts_closePipes hlisten.accounts
  set s₁ := roles.foldl closeListenSocket (closePolling s) with hs₁
  obtain ⟨sockets, hthread⟩ := hlisten.frame
  have hsockets : s₁.thread.socketListenArray = fun _ => .reset :=
    funext fun role => hlisten.reset role (mem_roles role)
  have hnone : ∀ holder, (closePipes s₁).thread.holds holder = none := by
    intro holder
    cases holder with
    | listener role => rw [closePipes, holds, hsockets, CStunSocket.descriptor_reset]
    | pipe0 => rfl
    | pipe1 => rfl
    | polling => simp [closePipes, holds, hthread, closePolling, Polling.CEpoll.create]
    | connection pConn =>
      rw [← hgone pConn, closePipes, hthread, closePolling]
      rfl
  rw [reset, ← hs₁]
  dsimp only
  rw [hpipes.eq_rest hnone, closePipes, hsockets, hthread]
  rfl

theorem stop_eq (D : Digests) (h : Accounts rest s.fds s.thread.holds) (hfit : s.thread.Fit)
    (exit : Exit) : stop D exit s = ⟨rest, create⟩ := by
  rw [stop]
  split_ifs with hvalid
  · obtain ⟨haccounts, hgone⟩ := join_spec D h hfit hvalid exit
    exact reset_eq haccounts hgone
  · exact reset_eq h (hfit.idle (Bool.not_eq_true _ ▸ hvalid))

/-! ### `Init` and `Start` -/

theorem failed_of_failure {call : TcpInitCall} {calls : TcpInitCalls} {hr : HRESULT}
    (h : calls.failure call = some hr) : FAILED hr = true := by
  have hmap : ∀ {errno : Option UInt32}, errno.map Polling.ERRNOHR = some hr → FAILED hr = true := by
    intro errno he
    obtain ⟨e, -, rfl⟩ := Option.map_eq_some_iff.mp he
    exact Polling.CPoll.failed_ERRNOHR e
  rw [TcpInitCalls.failure, Option.or_eq_some_iff, Option.or_eq_some_iff, Option.or_eq_some_iff] at h
  rcases h with hchecked | ⟨-, hsockets | ⟨-, hcreated | ⟨-, hctl⟩⟩⟩
  · cases hc : call.checked with
    | ok _ => simp [hc] at hchecked
    | error e =>
      rw [hc] at hchecked
      cases hchecked
      rw [TcpInitCall.checked, CTCPStunThread.init] at hc
      dsimp only at hc
      split_ifs at hc <;> cases hc <;> rfl
  · exact hmap hsockets
  · split_ifs at hcreated
    cases hcreated
    rfl
  · exact hmap hctl

/-- The new thread is prepared, or everything is as it was. -/
theorem init_cases (rest : Finset ℕ) (call : TcpInitCall) (pAuth : Option IStunAuth)
    (calls : TcpInitCalls) :
    (calls.failure call = none ∧ ∃ s, init call pAuth calls ⟨rest, create⟩ = (S_OK, s) ∧
      Prepared rest call pAuth s) ∨
    ∃ hr, calls.failure call = some hr ∧
      init call pAuth calls ⟨rest, create⟩ = (hr, ⟨rest, create⟩) := by
  have hends := endsWith_setUp rest call pAuth calls
  rw [init]
  cases hf : calls.failure call with
  | none =>
    rw [hf] at hends
    obtain ⟨s, hok, hprepared⟩ := hends
    rw [hok]
    exact Or.inl ⟨rfl, s, rfl, hprepared⟩
  | some hr =>
    rw [hf] at hends
    obtain ⟨s, herror, hleft⟩ := hends
    rw [herror]
    dsimp only
    rw [reset_eq hleft.accounts fun pConn => by simp [holds, hleft.work]]
    exact Or.inr ⟨hr, rfl, rfl⟩

theorem start_valid {pthread_create : Option UInt32} {time : ℤ} (h : thread.fThreadIsValid = true) :
    thread.start pthread_create time = (E_FAIL, thread) := by
  rw [start.eq_def, if_pos h]

theorem start_refused {err : UInt32} {time : ℤ} (h : thread.fThreadIsValid = false)
    (hpipe : thread.pipe ≠ none) :
    thread.start (some err) time = (Polling.ERRNOHR err, thread) := by
  rw [start.eq_def, h, if_neg Bool.false_ne_true, if_neg hpipe]

theorem start_created {time : ℤ} (h : thread.fThreadIsValid = false) (hpipe : thread.pipe ≠ none) :
    thread.start none time = (S_OK, { thread with
      fThreadIsValid := true
      work := thread.work.map fun s =>
        { s with thread := { s.thread with timeLastSweep := time } } }) := by
  rw [start.eq_def, h, if_neg Bool.false_ne_true, if_neg hpipe]

theorem holds_start (pthread_create : Option UInt32) (time : ℤ) (thread : TcpThread) :
    (thread.start pthread_create time).2.holds = thread.holds := by
  rw [start.eq_def]
  split_ifs
  · rfl
  · rfl
  · cases pthread_create with
    | some err => rfl
    | none =>
      funext holder
      cases holder with
      | connection pConn => cases hwork : thread.work <;> simp [holds, hwork]
      | _ => rfl

theorem fit_start (h : thread.Fit) (pthread_create : Option UInt32) (time : ℤ) :
    (thread.start pthread_create time).2.Fit := by
  rw [start.eq_def]
  split_ifs
  · exact h
  · exact h
  · cases pthread_create with
    | some err => exact h
    | none =>
      refine ⟨fun work hw => ?_, fun work hw => ?_, fun hv => Bool.noConfusion hv⟩
      · obtain ⟨before, hbefore, rfl⟩ := Option.map_eq_some_iff.mp hw
        have hsettled := h.settled before hbefore
        obtain ⟨filed, free, hfine⟩ := hsettled.fine
        exact ⟨⟨filed, free, ⟨hfine.booked.books, hfine.booked.lists, hfine.booked.fsize⟩,
          hfine.accepted⟩, hsettled.tight, hsettled.exited⟩
      · obtain ⟨before, hbefore, rfl⟩ := Option.map_eq_some_iff.mp hw
        exact h.natural before hbefore

end TcpThread
end StunServer

import StunServer.Spec.UdpServer
import StunServer.Proofs.Polling
import StunServer.Proofs.Server
import StunServer.Results.Routing

/-! The sockets and the threads of `CStunServer`, phase by phase. -/

namespace StunServer

open Descriptors

/-! ### Sockets -/

namespace CStunSocket

@[simp] theorem descriptor_reset : reset.descriptor = none := rfl

theorem descriptor_eq_none {s : CStunSocket} : s.descriptor = none ↔ s.isValid = false := by
  rw [descriptor, isValid]
  by_cases h : s.sock = -1 <;> simp [h]

theorem isValid_of_descriptor {s : CStunSocket} {fd : ℕ} (h : s.descriptor = some fd) :
    s.isValid = true := by
  rw [← Bool.not_eq_false, ← descriptor_eq_none, h]
  exact Option.some_ne_none fd

theorem descriptor_of_sock {s : CStunSocket} {fd : ℕ} (h : s.sock = fd) : s.descriptor = some fd := by
  rw [descriptor, h, if_neg (by omega), Int.toNat_natCast]

/-- A socket object that has no socket gets a new one, or nothing is left of the attempt. -/
theorem initCommon_cases {s : CStunSocket} (h : s.descriptor = none) (role : SocketRole)
    (fSetReuseFlag : Bool) (calls : SocketCalls) (fds : Finset ℕ) :
    (∃ errno, calls.socket.or ((if fSetReuseFlag then calls.setsockopt else none).or calls.bind) =
        some errno ∧
      s.initCommon role fSetReuseFlag calls fds = (Polling.ERRNOHR errno, fds, s)) ∨
    (calls.socket.or ((if fSetReuseFlag then calls.setsockopt else none).or calls.bind) = none ∧
      ∃ s', s.initCommon role fSetReuseFlag calls fds = (S_OK, insert (lowest fds) fds, s') ∧
        s'.sock = (lowest fds : ℕ) ∧ s'.role = role) := by
  have hsock : s.sock = -1 := by
    by_contra hne
    rw [descriptor, if_neg hne] at h
    cases h
  rw [initCommon]
  cases calls.socket with
  | some errno => exact Or.inl ⟨errno, rfl, rfl⟩
  | none =>
    rw [Option.none_or]
    cases (if fSetReuseFlag then calls.setsockopt else none).or calls.bind with
    | some errno =>
      refine Or.inl ⟨errno, rfl, ?_⟩
      dsimp only
      rw [Finset.erase_insert (lowest_notMem fds)]
    | none =>
      have hne : ((lowest fds : ℕ) : Int) ≠ s.sock := by omega
      refine Or.inr ⟨rfl, { s.attach (lowest fds) calls.names with role := role }, ?_, ?_, rfl⟩
      · dsimp only
        rw [if_pos hne, close, h]
        rfl
      · rw [attach, if_neg (by omega), if_pos hne]
        rfl

end CStunSocket

namespace UdpServer

variable {rest : Finset ℕ} {s : UdpServer}

theorem table_putSocket (role : SocketRole) (socket : Finset ℕ × CStunSocket) :
    (s.putSocket role socket).table = Function.update s.table role socket.2.descriptor := by
  funext r
  change (Function.update s.arrSockets role socket.2 r).descriptor = _
  by_cases hr : r = role
  · subst hr
    rw [Function.update_self, Function.update_self]
  · rw [Function.update_of_ne hr, Function.update_of_ne hr]
    rfl

/-! ### Closing -/

theorem accounts_closeSocket (h : Accounts rest s.fds s.table) (role : SocketRole) :
    Accounts rest (s.closeSocket role).fds (s.closeSocket role).table ∧
      (s.closeSocket role).table = Function.update s.table role none := by
  have htable : (s.closeSocket role).table = Function.update s.table role none :=
    table_putSocket role _
  refine ⟨?_, htable⟩
  rw [htable]
  exact h.cleared role

theorem accounts_closeSockets (h : Accounts rest s.fds s.table) (roles : List SocketRole) :
    let s' := roles.foldl closeSocket s
    Accounts rest s'.fds s'.table ∧ ∀ role, s'.table role = none ↔ role ∈ roles ∨ s.table role = none := by
  induction roles generalizing s with
  | nil => exact ⟨h, fun role => by simp⟩
  | cons role roles ih =>
    obtain ⟨hclosed, htable⟩ := accounts_closeSocket h role
    obtain ⟨hrest, hnone⟩ := ih hclosed
    refine ⟨hrest, fun r => ?_⟩
    rw [List.foldl_cons, hnone, htable, List.mem_cons]
    by_cases hr : r = role
    · subst hr
      simp
    · rw [Function.update_of_ne hr]
      simp [hr]

/-- Whatever was open is closed. -/
theorem inPhase_shutdown (h : Accounts rest s.fds s.table) : s.shutdown.InPhase rest .down := by
  obtain ⟨haccounts, hnone⟩ := accounts_closeSockets (s := s.stop) h CTCPStunThread.roles
  have hempty : ∀ role, s.shutdown.table role = none := fun role =>
    (hnone role).mpr (Or.inl (mem_roles role))
  exact ⟨haccounts.eq_rest hempty, funext hempty, rfl⟩

/-! ### Opening -/

/-- The sockets of the roles in `opened` are set up, and nothing else is. -/
structure Opened (rest : Finset ℕ) (config : CStunServerConfig) (opened : SocketRole → Bool)
    (threads : List UdpThread) (s : UdpSetup) : Prop where
  accounts : Accounts rest s.server.fds s.server.table
  isValid : ∀ role, (s.server.arrSockets role).isValid = opened role
  role : ∀ role, opened role = true → (s.server.arrSockets role).role = role
  tsa : ∀ role, s.tsa.set role =
    if opened role then ⟨advertise (config.addr role) (config.addrAdvertised role), true⟩
    else ⟨.create, false⟩
  threads : s.server.threads = threads

variable {config : CStunServerConfig} {opened : SocketRole → Bool} {threads : List UdpThread}

/-- What a failure leaves behind is for `Shutdown` to close. -/
def Pending (rest : Finset ℕ) (s : UdpSetup) : Prop := Accounts rest s.server.fds s.server.table

theorem endsWith_addSocket {s : UdpSetup} (h : Opened rest config opened threads s) {role : SocketRole} (hrole : opened role = false)
    (calls : SocketCalls) :
    Hr.EndsWith (addSocket role (config.addr role) (config.addrAdvertised role) config.fReuseAddr
      calls) s (Pending rest) (Opened rest config (Function.update opened role true) threads)
      ((calls.failure config.fReuseAddr).map Polling.ERRNOHR) := by
  have hnone : (s.server.arrSockets role).descriptor = none :=
    CStunSocket.descriptor_eq_none.mpr ((h.isValid role).trans hrole)
  rw [SocketCalls.failure, ← Option.or_assoc, addSocket]
  rcases CStunSocket.initCommon_cases hnone role config.fReuseAddr calls s.server.fds with
    ⟨errno, hfails, hinit⟩ | ⟨hfails, socket, hinit, hsock, hsocket⟩
  · rw [hfails, Option.some_or]
    refine ⟨{ s with server := s.server.putSocket role (s.server.fds, s.server.arrSockets role) },
      Hr.bind_error ?_, ?_⟩
    · rw [udpInit, hinit]
      dsimp only
      rw [if_pos (Polling.CPoll.failed_ERRNOHR errno)]
    · rw [Pending, table_putSocket]
      change Accounts rest s.server.fds (Function.update s.server.table role (s.server.table role))
      rw [Function.update_eq_self]
      exact h.accounts
  · rw [hfails, Option.none_or]
    have hfd := CStunSocket.descriptor_of_sock hsock
    set server := s.server.putSocket role (insert (lowest s.server.fds) s.server.fds, socket)
    have hsetup : udpInit role config.fReuseAddr calls s = .ok () { s with server := server } := by
      rw [udpInit, hinit]
      rfl
    have haccounts : Accounts rest server.fds server.table := by
      rw [table_putSocket, hfd]
      exact h.accounts.opened hnone
    cases hpkt : calls.pktinfo with
    | some errno =>
      have hchk := Hr.chk_error (Polling.CPoll.failed_ERRNOHR errno) { s with server := server }
      exact ⟨_, (Hr.bind_ok hsetup).trans (Hr.bind_error hchk), haccounts⟩
    | none =>
      refine ⟨_, (Hr.bind_ok hsetup).trans (Hr.bind_ok (Hr.chk_ok rfl _)), haccounts, ?_, ?_, ?_, h.threads⟩
      · intro r
        by_cases hr : r = role
        · subst hr
          simp only [server, putSocket, Function.update_self]
          exact CStunSocket.isValid_of_descriptor hfd
        · simp only [server, putSocket, Function.update_of_ne hr]
          exact h.isValid r
      · intro r hopen
        by_cases hr : r = role
        · subst hr
          simp only [server, putSocket, Function.update_self]
          exact hsocket
        · rw [Function.update_of_ne hr] at hopen
          simp only [server, putSocket, Function.update_of_ne hr]
          exact h.role r hopen
      · intro r
        by_cases hr : r = role
        · subst hr
          simp [Function.update_self]
        · simp only [Function.update_of_ne hr]
          exact h.tsa r

theorem firstFailure_cons (calls : SocketRole → SocketCalls) (role : SocketRole)
    (roles : List SocketRole) : config.firstFailure calls (role :: roles) =
      (if config.fHas role then (calls role).failure config.fReuseAddr else none).or
        (config.firstFailure calls roles) := by
  rw [CStunServerConfig.firstFailure, List.findSome?_cons]
  cases (if config.fHas role then (calls role).failure config.fReuseAddr else none) <;> rfl

/-- The sockets are set up one after the other, and the first failure ends it. -/
theorem endsWith_addSockets {s : UdpSetup} (h : Opened rest config opened threads s)
    (calls : SocketRole → SocketCalls) {roles : List SocketRole} (hnodup : roles.Nodup)
    (hopened : ∀ role ∈ roles, opened role = false) :
    Hr.EndsWith (addSockets config calls roles) s (Pending rest)
      (Opened rest config (fun role => opened role || (decide (role ∈ roles) && config.fHas role))
        threads)
      ((config.firstFailure calls roles).map Polling.ERRNOHR) := by
  induction roles generalizing opened s with
  | nil => exact Hr.EndsWith.pure (by simpa using h)
  | cons role roles ih =>
    obtain ⟨hrole, hnodup⟩ := List.nodup_cons.mp hnodup
    rw [firstFailure_cons, Option.map_or, addSockets, Hr.when]
    have hfalse : opened role = false := hopened role (List.mem_cons_self ..)
    by_cases hhas : config.fHas role = true
    · rw [if_pos hhas, if_pos hhas]
      refine (endsWith_addSocket h hfalse (calls role)).bind fun s' hs' => ?_
      refine (ih hs' hnodup fun r hr => ?_).mono fun s'' hs'' => ?_
      · have hne : r ≠ role := fun he => hrole (he ▸ hr)
        rw [Function.update_of_ne hne]
        exact hopened r (List.mem_cons_of_mem _ hr)
      · refine (congrArg (Opened rest config · threads s'') (funext fun r => ?_)).mp hs''
        by_cases hr : r = role
        · subst hr
          simp [hhas]
        · simp [hr]
    · rw [if_neg hhas, if_neg hhas]
      refine Hr.EndsWith.bind (Hr.EndsWith.pure h) fun s' hs' => ?_
      refine (ih hs' hnodup fun r hr => hopened r (List.mem_cons_of_mem _ hr)).mono fun s'' hs'' => ?_
      refine (congrArg (Opened rest config · threads s'') (funext fun r => ?_)).mp hs''
      by_cases hr : r = role
      · subst hr
        simp [Bool.not_eq_true _ ▸ hhas]
      · simp [hr]

/-! ### Threads -/

theorem addrSet_of_opened {s : UdpSetup} (h : Opened rest config config.fHas threads s) :
    s.tsa = config.addrSet := by
  have hset : s.tsa.set = config.addrSet.set := funext h.tsa
  cases hs : s.tsa
  rw [hs] at hset
  exact congrArg TransportAddressSet.mk hset

theorem init_all {s : UdpSetup} (h : Opened rest config config.fHas threads s)
    (spAuth : Option IStunAuth) : UdpThread.create.init s.server.arrSockets s.tsa spAuth none =
      .ok (readyThread config spAuth config.sockets) := by
  have hsocks : (CTCPStunThread.roles.filter fun role => (s.server.arrSockets role).isValid) =
      config.sockets := by
    simp only [h.isValid]
    rfl
  rw [readyThread, ← hsocks, ← addrSet_of_opened h]
  rfl

theorem init_one {s : UdpSetup} (h : Opened rest config config.fHas threads s)
    (spAuth : Option IStunAuth) {role : SocketRole} (hrole : config.fHas role = true) :
    UdpThread.create.init s.server.arrSockets s.tsa spAuth (some role) =
      .ok (readyThread config spAuth [role]) := by
  have hvalid : (s.server.arrSockets role).isValid = true := (h.isValid role).trans hrole
  rw [readyThread, ← addrSet_of_opened h, UdpThread.init]
  simp only [Option.any_some, hvalid]
  rfl

theorem opened_push {s : UdpSetup} (h : Opened rest config opened threads s) (thread : UdpThread) :
    Opened rest config opened (threads ++ [thread])
      { s with server := { s.server with threads := s.server.threads ++ [thread] } } :=
  ⟨h.accounts, h.isValid, h.role, h.tsa, by rw [h.threads]⟩

theorem endsWith_addThreads {s : UdpSetup} (h : Opened rest config config.fHas threads s)
    (spAuth : Option IStunAuth) (roles : List SocketRole) :
    Hr.EndsWith (addThreads spAuth roles) s (Pending rest)
      (Opened rest config config.fHas (threads ++ (roles.filter config.fHas).map fun role =>
        readyThread config spAuth [role])) none := by
  induction roles generalizing threads s with
  | nil => exact Hr.EndsWith.pure (by simpa using h)
  | cons role roles ih =>
    rw [addThreads]
    change Hr.EndsWith (Hr.when ((s.server.arrSockets role).isValid = true) _ >>=
      fun _ => addThreads spAuth roles) s (Pending rest) (Opened rest config config.fHas _) none
    rw [Hr.when, h.isValid role]
    by_cases hhas : config.fHas role = true
    · rw [if_pos hhas, List.filter_cons_of_pos hhas, List.map_cons, List.append_cons]
      have hpush := opened_push h (readyThread config spAuth [role])
      have hadd : Hr.EndsWith (addThread spAuth (some (s.server.arrSockets role).role)) s
          (Pending rest) (Opened rest config config.fHas _) none :=
        ⟨_, by rw [addThread, h.role role hhas, init_one h spAuth hhas], hpush⟩
      exact hadd.bind fun s' hs' => ih hs'
    · rw [if_neg hhas, List.filter_cons_of_neg hhas]
      have hskip : Hr.EndsWith (pure () : Hr UdpSetup Unit) s (Pending rest)
          (Opened rest config config.fHas threads) none := .pure h
      exact hskip.bind fun s' hs' => ih hs'

/-! ### Setting up -/

theorem sockets_eq_nil : config.sockets = [] ↔ ∀ role ∈ CTCPStunThread.roles, config.fHas role = false := by
  rw [CStunServerConfig.sockets, List.filter_eq_nil_iff]
  simp

/-- The code of the first thing that goes wrong, if something does. -/
def setUpFailure (config : CStunServerConfig) (calls : SocketRole → SocketCalls) : Option HRESULT :=
  ((config.firstFailure calls CTCPStunThread.roles).map Polling.ERRNOHR).or
    (if ∀ role ∈ CTCPStunThread.roles, config.fHas role = false then some E_INVALIDARG else none)

theorem setUpFailure_cases (calls : SocketRole → SocketCalls) :
    (setUpFailure config calls = none ∧ config.initResult calls = S_OK) ∨
      ∃ hr, setUpFailure config calls = some hr ∧ config.initResult calls = hr ∧
        FAILED hr = true := by
  rw [setUpFailure, CStunServerConfig.initResult]
  cases config.firstFailure calls CTCPStunThread.roles with
  | some errno => exact Or.inr ⟨_, rfl, rfl, Polling.CPoll.failed_ERRNOHR errno⟩
  | none =>
    by_cases hnone : config.sockets = []
    · rw [if_pos (sockets_eq_nil.mp hnone), if_pos hnone]
      exact Or.inr ⟨_, rfl, rfl, rfl⟩
    · rw [if_neg (mt sockets_eq_nil.mpr hnone), if_neg hnone]
      exact Or.inl ⟨rfl, rfl⟩

theorem opened_shutdown (h : Accounts rest s.fds s.table) :
    Opened rest config (fun _ => false) [] ⟨⟨fun _ => ⟨.create, false⟩⟩, s.shutdown⟩ := by
  obtain ⟨hfds, htable, hthreads⟩ := inPhase_shutdown h
  refine ⟨?_, fun role => ?_, fun role hopen => ?_, fun _ => rfl, hthreads⟩
  · change Accounts rest s.shutdown.fds s.shutdown.table
    rw [hfds, htable]
    exact Accounts.empty rest
  · exact CStunSocket.descriptor_eq_none.mp (congrFun htable role)
  · cases hopen

theorem endsWith_setUp (h : Accounts rest s.fds s.table) (spAuth : Option IStunAuth)
    (calls : SocketRole → SocketCalls) :
    Hr.EndsWith (setUp config spAuth calls) ⟨⟨fun _ => ⟨.create, false⟩⟩, s.shutdown⟩ (Pending rest)
      (fun s => s.server.InPhase rest (.ready config spAuth)) (setUpFailure config calls) := by
  rw [setUp]
  refine (endsWith_addSockets (opened_shutdown h) calls (by decide) fun _ _ => rfl).bind
    fun s₁ hs₁ => ?_
  have hopened : Opened rest config config.fHas [] s₁ := by
    refine (congrArg (Opened rest config · [] s₁) (funext fun r => ?_)).mp hs₁
    simp [mem_roles r]
  have hchk : Hr.EndsWith (Hr.chkIf (∀ role ∈ CTCPStunThread.roles, config.fHas role = false)
      E_INVALIDARG) s₁ (Pending rest)
      (fun s => Opened rest config config.fHas [] s ∧ config.sockets ≠ []) _ :=
    .chkIf _ hopened.accounts fun hc => ⟨hopened, mt sockets_eq_nil.mp hc⟩
  refine hchk.before fun s₂ hs₂ => ?_
  obtain ⟨hs₂, hsockets⟩ := hs₂
  -- the limiter is no part of what has been set up so far
  set s₃ : UdpSetup := { s₂ with server := { s₂.server with
    spLimiter := if config.fEnableDosProtection then some (.create 25000) else none } }
  have hs₃ : Opened rest config config.fHas [] s₃ :=
    ⟨hs₂.accounts, hs₂.isValid, hs₂.role, hs₂.tsa, hs₂.threads⟩
  have hlimiter : Hr.EndsWith (modify fun s => { s with server := { s.server with
      spLimiter := if config.fEnableDosProtection then some (.create 25000) else none } })
      s₂ (Pending rest) (· = s₃) none := ⟨s₃, rfl, rfl⟩
  refine hlimiter.before fun s hs => ?_
  subst hs
  have hup : ∀ threads s, Opened rest config config.fHas threads s → Up rest config s.server :=
    fun threads s hs => ⟨hs.accounts, hs.isValid, hs.role, hsockets⟩
  by_cases hsingle : config.fMultiThreadedMode = false
  · rw [if_pos hsingle]
    have hpush := opened_push hs₃ (readyThread config spAuth config.sockets)
    refine ⟨_, by rw [addThread, init_all hs₃ spAuth], hup _ _ hpush, ?_⟩
    rw [CStunServerConfig.listeners, if_pos hsingle]
    exact hpush.threads
  · rw [if_neg hsingle]
    refine (endsWith_addThreads hs₃ spAuth CTCPStunThread.roles).mono fun s hs => ⟨hup _ _ hs, ?_⟩
    rw [hs.threads, CStunServerConfig.listeners, if_neg hsingle, List.map_map]
    rfl

/-- `Initialize` sets up all that is asked for, or leaves nothing open. -/
theorem initializeWith_spec (h : Accounts rest s.fds s.table) (config : CStunServerConfig)
    (spAuth : Option IStunAuth) (calls : SocketRole → SocketCalls) :
    (s.initializeWith config spAuth calls).1 = config.initResult calls ∧
      (s.initializeWith config spAuth calls).2.InPhase rest
        (if FAILED (config.initResult calls) then .down else .ready config spAuth) := by
  have hends := @endsWith_setUp rest s config h spAuth calls
  rw [initializeWith]
  rcases @setUpFailure_cases config calls with ⟨hnone, hcode⟩ | ⟨hr, hsome, hcode, hfailed⟩
  · rw [hnone] at hends
    obtain ⟨s', hok, hphase⟩ := hends
    rw [hok, hcode]
    exact ⟨rfl, hphase⟩
  · rw [hsome] at hends
    obtain ⟨s', herror, hpending⟩ := hends
    rw [herror, hcode, if_pos hfailed]
    exact ⟨rfl, inPhase_shutdown hpending⟩

/-! ### Starting and stopping -/

end UdpServer

namespace UdpThread

variable {thread : UdpThread}

theorem start_valid (h : thread.fThreadIsValid = true) (err : Option UInt32) :
    thread.start err = (E_UNEXPECTED, thread) := by
  rw [start.eq_def, if_pos h]

theorem start_deaf (h : thread.fThreadIsValid = false) (hs : thread.socks = [])
    (err : Option UInt32) : thread.start err = (E_FAIL, thread) := by
  rw [start.eq_def, h, if_neg Bool.false_ne_true, if_pos hs]

theorem start_created (h : thread.fThreadIsValid = false) (hs : thread.socks ≠ [])
    (err : Option UInt32) : thread.start err =
      err.elim (S_OK, { thread with fThreadIsValid := true, fRunning := true })
        fun err => (Polling.ERRNOHR err, thread) := by
  rw [start.eq_def, h, if_neg Bool.false_ne_true, if_neg hs]
  cases err <;> rfl

end UdpThread

namespace UdpServer

variable {rest : Finset ℕ} {s : UdpServer} {config : CStunServerConfig}

theorem sockets_valid {role : SocketRole} (hrole : role ∈ config.sockets) :
    config.fHas role = true := (List.mem_filter.mp hrole).2

/-- Every thread has something to listen on. -/
theorem listeners_spec (h : config.sockets ≠ []) : config.listeners ≠ [] ∧
    ∀ listened ∈ config.listeners, listened ≠ [] ∧ ∀ role ∈ listened, config.fHas role = true := by
  rw [CStunServerConfig.listeners]
  split_ifs
  · refine ⟨List.cons_ne_nil _ _, fun listened hmem => ?_⟩
    rw [List.mem_singleton.mp hmem]
    exact ⟨h, fun role hrole => sockets_valid hrole⟩
  · refine ⟨by simpa using h, fun listened hmem => ?_⟩
    obtain ⟨role, hrole, rfl⟩ := List.mem_map.mp hmem
    refine ⟨List.cons_ne_nil _ _, fun r hr => ?_⟩
    rw [List.mem_singleton.mp hr]
    exact sockets_valid hrole

variable {spAuth : Option IStunAuth}

theorem started_start {listened : List SocketRole} (h : listened ≠ []) :
    ∃ thread, (readyThread config spAuth listened).start none = (S_OK, thread) ∧
      Started config spAuth listened thread :=
  ⟨_, UdpThread.start_created rfl h none, rfl, rfl, List.length_pos_iff.mpr h, _, rfl,
    CStunSocketThread.prepared_initWith config.addrSet spAuth none⟩

/-- Either all threads are started, or the first that is not ends it. -/
theorem startThreads_ready {listeners : List (List SocketRole)}
    (h : ∀ listened ∈ listeners, listened ≠ []) (errs : List (Option UInt32)) :
    (∃ threads, (errs.take listeners.length).findSome? id = none ∧
      startThreads errs (listeners.map (readyThread config spAuth)) = (S_OK, threads) ∧
      List.Forall₂ (Started config spAuth) listeners threads) ∨
    ∃ err threads, (errs.take listeners.length).findSome? id = some err ∧
      startThreads errs (listeners.map (readyThread config spAuth)) =
        (Polling.ERRNOHR err, threads) ∧ threads.length = listeners.length := by
  induction listeners generalizing errs with
  | nil => exact Or.inl ⟨[], rfl, rfl, .nil⟩
  | cons listened listeners ih =>
    obtain ⟨hlistened, hrest⟩ := List.forall_mem_cons.mp h
    cases hhead : errs.headD none with
    | some err =>
      obtain ⟨errs, rfl⟩ : ∃ rest, errs = some err :: rest := by
        cases errs with
        | nil => cases hhead
        | cons _ rest => exact ⟨rest, by rw [← hhead]; rfl⟩
      refine Or.inr ⟨err, (listened :: listeners).map (readyThread config spAuth), rfl, ?_,
        List.length_map ..⟩
      rw [List.map_cons, startThreads, List.headD_cons, UdpThread.start_created rfl hlistened]
      exact if_pos (Polling.CPoll.failed_ERRNOHR err)
    | none =>
      obtain ⟨thread, hstart, hstarted⟩ := @started_start config spAuth listened hlistened
      have hfind : (errs.take (listeners.length + 1)).findSome? id =
          (errs.tail.take listeners.length).findSome? id := by
        cases errs with
        | nil => rw [List.tail_nil, List.take_nil, List.take_nil]
        | cons err errs =>
          rw [List.headD_cons] at hhead
          rw [hhead]
          rfl
      have hcons : startThreads errs ((listened :: listeners).map (readyThread config spAuth)) =
          ((startThreads errs.tail (listeners.map (readyThread config spAuth))).1,
            thread :: (startThreads errs.tail (listeners.map (readyThread config spAuth))).2) := by
        rw [List.map_cons, startThreads, hhead, hstart]
        rfl
      rw [List.length_cons, hfind, hcons]
      rcases ih hrest errs.tail with ⟨threads, hnone, hall, hforall⟩ | ⟨err, threads, hsome, herr, hlen⟩
      · rw [hall]
        exact Or.inl ⟨_, hnone, rfl, .cons hstarted hforall⟩
      · rw [herr]
        exact Or.inr ⟨err, _, hsome, rfl, by rw [List.length_cons, hlen]⟩

theorem up_threads (h : Up rest config s) (threads : List UdpThread) (spLimiter : Option RateLimiter) :
    Up rest config { s with threads := threads, spLimiter := spLimiter } :=
  ⟨h.accounts, h.isValid, h.role, h.sockets_ne⟩

theorem stop_stop (thread : UdpThread) : thread.stop.stop = thread.stop := rfl

theorem stopped_of_up (h : Up rest config s) (hlen : s.threads.length = config.listeners.length) :
    s.stop.InPhase rest (.stopped config spAuth) := by
  refine ⟨up_threads h _ _, (List.length_map _).trans hlen, fun thread hmem => ?_⟩
  obtain ⟨thread, -, rfl⟩ := List.mem_map.mp hmem
  exact stop_stop thread

theorem inPhase_stop {phase : ServerPhase} (h : s.InPhase rest phase) :
    s.stop.InPhase rest phase.stop := by
  cases phase with
  | down =>
    obtain ⟨hfds, htable, hthreads⟩ := h
    exact ⟨hfds, htable, by rw [stop, hthreads]; rfl⟩
  | ready config spAuth => exact stopped_of_up h.1 (by rw [h.2, List.length_map])
  | running config spAuth => exact stopped_of_up h.1 h.2.length_eq.symm
  | stopped config spAuth => exact stopped_of_up h.1 h.2.1

/-- The loop ends with the first thread, if that cannot be started. -/
theorem start_of_head {thread : UdpThread} {threads : List UdpThread} {hr : HRESULT}
    (hs : s.threads = thread :: threads) (errs : List (Option UInt32))
    (hstart : ∀ err, thread.start err = (hr, thread)) (hfailed : FAILED hr = true) :
    s.start errs = (hr, s.stop) := by
  have hloop : startThreads errs s.threads = (hr, s.threads) := by
    rw [hs, startThreads, hstart]
    exact if_pos hfailed
  have hsome : s.threads ≠ [] := by
    rw [hs]
    exact List.cons_ne_nil _ _
  rw [start, if_neg hsome, hloop]
  dsimp only
  rw [if_pos hfailed]

theorem inPhase_start {phase : ServerPhase} (h : s.InPhase rest phase) (errs : List (Option UInt32)) :
    (s.start errs).1 = (phase.start errs).1 ∧
      (s.start errs).2.InPhase rest (phase.start errs).2 := by
  cases phase with
  | down =>
    have hstop := inPhase_stop h
    obtain ⟨hfds, htable, hthreads⟩ := h
    rw [start, if_pos hthreads]
    refine ⟨rfl, hfds, htable, rfl⟩
  | ready config spAuth =>
    obtain ⟨hup, hthreads⟩ := h
    obtain ⟨hne, hlisteners⟩ := listeners_spec hup.sockets_ne
    have hsome : s.threads ≠ [] := by rw [hthreads]; simpa using hne
    rw [start, if_neg hsome, hthreads, ServerPhase.start, CStunServerConfig.threadFailure]
    rcases startThreads_ready (fun l hl => (hlisteners l hl).1) errs with
      ⟨threads, hnone, hall, hforall⟩ | ⟨err, threads, hfirst, herr, hlen⟩
    · rw [hnone, hall]
      exact ⟨rfl, up_threads hup _ _, hforall⟩
    · rw [hfirst, herr]
      dsimp only
      rw [if_pos (Polling.CPoll.failed_ERRNOHR err)]
      exact ⟨rfl, stopped_of_up (up_threads hup threads s.spLimiter) hlen⟩
  | running config spAuth =>
    obtain ⟨hup, hforall⟩ := h
    obtain ⟨hne, -⟩ := listeners_spec hup.sockets_ne
    have hlen := hforall.length_eq.symm
    cases hl : config.listeners with
    | nil => exact absurd hl hne
    | cons listened listeners =>
      rw [hl] at hforall
      cases hs : s.threads with
      | nil =>
        rw [hs] at hforall
        cases hforall
      | cons thread threads =>
        rw [hs] at hforall
        obtain ⟨hstarted, -⟩ := List.forall₂_cons.mp hforall
        rw [start_of_head hs errs (UdpThread.start_valid hstarted.fThreadIsValid) rfl]
        exact ⟨rfl, stopped_of_up hup hlen⟩
  | stopped config spAuth =>
    obtain ⟨hup, hlen, hstopped⟩ := h
    obtain ⟨hne, -⟩ := listeners_spec hup.sockets_ne
    cases hs : s.threads with
    | nil =>
      rw [hs] at hlen
      exact absurd (List.length_eq_zero_iff.mp hlen.symm) hne
    | cons thread threads =>
      have hthread : thread.stop = thread := hstopped thread (by rw [hs]; exact List.mem_cons_self ..)
      have hdeaf : ∀ err, thread.start err = (E_FAIL, thread) := by
        rw [← hthread]
        exact UdpThread.start_deaf rfl rfl
      rw [start_of_head hs errs hdeaf rfl]
      exact ⟨rfl, stopped_of_up hup hlen⟩

/-! ### Passes -/

section

variable {D : Digests} {listened : List SocketRole} {thread : UdpThread}

/-- What is received in a pass comes from one of the sockets of the thread, and what is sent is
the answer to it, if the limiter lets it pass. -/
structure Answers (D : Digests) (s : UdpServer) (config : CStunServerConfig)
    (spAuth : Option IStunAuth) (listened : List SocketRole) (p : Pass) (pSocket : BoundSocket)
    (effect : CStunSocketThread.Effect) : Prop where
  socket : ∃ role ∈ listened, pSocket = (s.arrSockets role).boundSocket ∧
    (1 < listened.length → p.ready role = true)
  sent : effect.sent =
    if effect.allowed_to_pass = true ∧ p.fNeedToExitReceived = false then
      CStunSocketThread.Turn.answer D config.addrSet spAuth
        ⟨pSocket, p.msg, p.currentTime, p.fNeedToExitReceived⟩
    else none

/-- The limiter is no part of what a thread has prepared. -/
theorem prepared_withLimiter {work : CStunSocketThread} {tsa : TransportAddressSet}
    (h : work.Prepared tsa spAuth) (spLimiter : Option RateLimiter) :
    CStunSocketThread.Prepared tsa spAuth { work with spLimiter := spLimiter } :=
  ⟨h.tsa, h.spAuth, h.reader, h.bufferIn, h.bufferOut, h.datagrams⟩

theorem started_receiveFrom (h : Started config spAuth listened thread)
    (spLimiter : Option RateLimiter) {role : SocketRole} (hrole : role ∈ listened) (p : Pass)
    (hready : 1 < listened.length → p.ready role = true) :
    let res := thread.receiveFrom D spLimiter (s.arrSockets role).boundSocket p
    Started config spAuth listened res.2.1 ∧ ∀ pSocket effect,
      res.1.received = some (pSocket, effect) → Answers D s config spAuth listened p pSocket effect := by
  obtain ⟨work, hwork, hprepared⟩ := h.work
  obtain ⟨-, hsent, hafter, -, -⟩ := CStunSocketThread.runOnce_spec (D := D)
    (prepared_withLimiter hprepared spLimiter)
    ⟨(s.arrSockets role).boundSocket, p.msg, p.currentTime, p.fNeedToExitReceived⟩
  dsimp only
  rw [UdpThread.receiveFrom, hwork]
  refine ⟨⟨h.socks, h.fThreadIsValid, h.rotation, _, rfl, prepared_withLimiter hafter none⟩, ?_⟩
  intro pSocket effect hreceived
  obtain ⟨rfl, rfl⟩ := Prod.mk.inj (Option.some.inj hreceived)
  exact ⟨⟨role, hrole, rfl, hready⟩, hsent⟩

/-- The socket that is found is one of those of the thread, and ready. -/
theorem waitForSocketData_spec (ready : SocketRole → Bool) {role : SocketRole}
    (h : (thread.waitForSocketData ready).1 = some role) : role ∈ thread.socks ∧ ready role = true := by
  obtain ⟨index, hindex, hrole⟩ := Option.bind_eq_some_iff.mp h
  obtain ⟨-, hready⟩ := RoundRobin.pick_spec hindex
  rw [hrole] at hready
  exact ⟨List.mem_of_getElem? hrole, hready⟩

theorem started_pass (h : Started config spAuth listened thread) (s : UdpServer) (p : Pass) :
    let res := thread.pass D s.arrSockets s.spLimiter p
    Started config spAuth listened res.2.1 ∧ ∀ pSocket effect,
      res.1.received = some (pSocket, effect) → Answers D s config spAuth listened p pSocket effect := by
  have hlen : 0 < listened.length := Nat.zero_lt_of_lt h.rotation
  have hnothing : ∀ fExit thread, Started config spAuth listened thread →
      let res : Passed × UdpThread × Option RateLimiter := (⟨none, fExit⟩, thread, s.spLimiter)
      Started config spAuth listened res.2.1 ∧ ∀ pSocket effect,
        res.1.received = some (pSocket, effect) → Answers D s config spAuth listened p pSocket effect :=
    fun fExit thread hthread => ⟨hthread, fun _ _ hr => by cases hr⟩
  dsimp only
  rw [UdpThread.pass]
  by_cases hexit : p.fNeedToExit = true
  · rw [if_pos hexit]
    exact hnothing true thread h
  rw [if_neg hexit, h.socks]
  by_cases hmulti : listened.length > 1
  · rw [if_pos hmulti]
    have hwaited : Started config spAuth listened (thread.waitForSocketData p.ready).2 :=
      ⟨h.socks, h.fThreadIsValid, by
        change (thread.rotation + 1) % thread.socks.length < _
        rw [h.socks]
        exact Nat.mod_lt _ hlen, h.work⟩
    have hfound : ∀ role, (thread.waitForSocketData p.ready).1 = some role →
        role ∈ listened ∧ p.ready role = true := fun role hrole => by
      rw [← h.socks]
      exact waitForSocketData_spec p.ready hrole
    generalize thread.waitForSocketData p.ready = res at hwaited hfound ⊢
    obtain ⟨pSocket, waited⟩ := res
    dsimp only at hwaited hfound ⊢
    by_cases hwait : p.fNeedToExitWaited = true
    · rw [if_pos hwait]
      exact hnothing true _ hwaited
    rw [if_neg hwait]
    cases pSocket with
    | none => exact hnothing false _ hwaited
    | some role =>
      obtain ⟨hmem, hready⟩ := hfound role rfl
      exact started_receiveFrom hwaited s.spLimiter hmem p fun _ => hready
  · rw [if_neg hmulti]
    cases listened with
    | nil => exact absurd hlen (Nat.lt_irrefl 0)
    | cons role listened =>
      exact started_receiveFrom h s.spLimiter (List.mem_cons_self ..) p fun hl => absurd hl hmulti

end

/-- The entry at a place, and what may stand there instead. -/
theorem forall₂_set {α β : Type} {R : α → β → Prop} {as : List α} {bs : List β}
    (h : List.Forall₂ R as bs) {i : ℕ} {b : β} (hb : bs[i]? = some b) :
    ∃ a, as[i]? = some a ∧ R a b ∧ ∀ b', R a b' → List.Forall₂ R as (bs.set i b') := by
  induction h generalizing i with
  | nil => cases hb
  | cons hr hrest ih =>
    cases i with
    | zero =>
      rw [List.getElem?_cons_zero, Option.some.injEq] at hb
      subst hb
      exact ⟨_, rfl, hr, fun b' hb' => .cons hb' hrest⟩
    | succ i =>
      obtain ⟨a, ha, hab, hset⟩ := ih hb
      exact ⟨a, ha, hab, fun b' hb' => .cons hr (hset b' hb')⟩

theorem InPhase.accounts {phase : ServerPhase} (h : s.InPhase rest phase) :
    Accounts rest s.fds s.table := by
  cases phase with
  | down =>
    obtain ⟨hfds, htable, -⟩ := h
    rw [hfds, htable]
    exact Accounts.empty rest
  | ready config spAuth => exact h.1.accounts
  | running config spAuth => exact h.1.accounts
  | stopped config spAuth => exact h.1.accounts

/-- A thread is in its loop only while the server is running. -/
theorem running_of_fRunning {phase : ServerPhase} (h : s.InPhase rest phase) {thread : UdpThread}
    (hmem : thread ∈ s.threads) (hrun : thread.fRunning = true) :
    ∃ config spAuth, phase = .running config spAuth := by
  cases phase with
  | down =>
    rw [h.2.2] at hmem
    cases hmem
  | ready config spAuth =>
    rw [h.2] at hmem
    obtain ⟨listened, -, rfl⟩ := List.mem_map.mp hmem
    cases hrun
  | running config spAuth => exact ⟨config, spAuth, rfl⟩
  | stopped config spAuth =>
    rw [← h.2.2 thread hmem] at hrun
    cases hrun

section

variable {D : Digests}

/-- Either the event is no pass of a running thread, and nothing happens, or the thread at the
place makes it. -/
theorem runThread_spec {phase : ServerPhase} (h : s.InPhase rest phase) (index : ℕ) (p : Pass) :
    (s.runThread D index p = (.nothing, s)) ∨
    ∃ config spAuth listened passed, phase = .running config spAuth ∧
      config.listeners[index]? = some listened ∧ (s.runThread D index p).1 = .passed passed ∧
      (s.runThread D index p).2.InPhase rest (.running config spAuth) ∧
      (∀ pSocket effect, passed.received = some (pSocket, effect) →
        Answers D s config spAuth listened p pSocket effect) := by
  rw [runThread]
  cases hthread : s.threads[index]? with
  | none => exact Or.inl rfl
  | some thread =>
    by_cases hrun : thread.fRunning = false
    · exact Or.inl (if_pos hrun)
    · dsimp only
      rw [if_neg hrun]
      obtain ⟨config, spAuth, rfl⟩ := running_of_fRunning h (List.mem_of_getElem? hthread)
        (Bool.not_eq_false _ ▸ hrun)
      obtain ⟨hup, hforall⟩ := h
      obtain ⟨listened, hlistened, hstarted, hset⟩ := forall₂_set hforall hthread
      obtain ⟨hafter, hanswers⟩ := started_pass (D := D) hstarted s p
      exact Or.inr ⟨config, spAuth, listened, _, rfl, hlistened, rfl,
        ⟨up_threads hup _ _, hset _ ⟨hafter.socks, hafter.fThreadIsValid, hafter.rotation, hafter.work⟩⟩,
        hanswers⟩

theorem inPhase_step {phase : ServerPhase} (h : s.InPhase rest phase) (e : Event) :
    (s.step D e).2.InPhase rest (phase.step e).2 ∧
      ∀ hr, (phase.step e).1 = some hr → (s.step D e).1 = .returned hr := by
  cases e with
  | initializeWith config spAuth calls =>
    obtain ⟨hcode, hphase⟩ := initializeWith_spec h.accounts config spAuth calls
    refine ⟨hphase, fun hr he => ?_⟩
    rw [← Option.some.inj he]
    exact congrArg Outcome.returned hcode
  | start errs =>
    obtain ⟨hcode, hphase⟩ := inPhase_start h errs
    refine ⟨hphase, fun hr he => ?_⟩
    rw [← Option.some.inj he]
    exact congrArg Outcome.returned hcode
  | stop => exact ⟨inPhase_stop h, fun hr he => congrArg Outcome.returned (Option.some.inj he)⟩
  | shutdown =>
    exact ⟨inPhase_shutdown h.accounts, fun hr he => congrArg Outcome.returned (Option.some.inj he)⟩
  | pass index p =>
    refine ⟨?_, fun hr he => by cases he⟩
    rcases runThread_spec (D := D) h index p with hnothing | ⟨config, spAuth, _, _, rfl, -, -, hphase, -⟩
    · rw [step, hnothing]
      exact h
    · exact hphase

end

end UdpServer
end StunServer

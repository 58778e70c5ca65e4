import StunServer.Spec.TcpThreads
import StunServer.Proofs.ListenSockets
import StunServer.Proofs.Sweep
import StunServer.Proofs.TcpDescriptors
import StunServer.Proofs.UdpServer

/-! `CTCPStunThread::Init` step by step: what it has opened so far, and what it fails with. -/

namespace StunServer

open Descriptors

theorem findSome?_cons_or {α β : Type} (f : α → Option β) (a : α) (as : List α) :
    (a :: as).findSome? f = (f a).or (as.findSome? f) := by
  rw [List.findSome?_cons]
  cases f a <;> rfl

/-! ### The polling instance -/

namespace Polling

namespace CEpoll

variable {poll : CEpoll} {fd : Int} {ctl : EpollCtl}

/-- A descriptor that is not in the set is added, or the system has something against it. -/
theorem endsWith_add (hfd : fd ≠ -1) (hepoll : poll.epollfd ≠ -1) (hfree : poll.interest fd = none)
    (eventflags : UInt32) (ctl : EpollCtl) : Hr.EndsWith (add fd eventflags ctl) poll (· = poll)
      (· = { poll with interest :=
        Function.update poll.interest fd (some (toNativeFlags eventflags)) })
      (ctl.failure.map ERRNOHR) := by
  have hin : (poll.interest fd).isSome = false := by rw [hfree]; rfl
  rw [EpollCtl.failure]
  by_cases hctl : ctl.fRefused = true
  · rw [if_pos hctl]
    refine ⟨poll, ?_, rfl⟩
    rw [add, control, Hr.bind_ok (Hr.get_apply poll), Hr.bind_ok (Hr.chkIf_false hfd _ poll),
      Hr.bind_ok (Hr.chkIf_false hepoll _ poll)]
    exact Hr.bind_error (Hr.chkIf_true (Or.inr hctl) _ poll)
  · rw [if_neg hctl]
    exact ⟨_, control_ok _ hfd hepoll hin (Bool.not_eq_true _ ▸ hctl), rfl⟩

theorem add_closed (hfd : fd ≠ -1) (hepoll : poll.epollfd = -1) (eventflags : UInt32) :
    add fd eventflags ctl poll = .error E_UNEXPECTED poll := by
  rw [add, control, Hr.bind_ok (Hr.get_apply poll), Hr.bind_ok (Hr.chkIf_false hfd _ poll)]
  exact Hr.bind_error (Hr.chkIf_true hepoll _ poll)

end CEpoll

namespace ListenSockets

variable {s : ListenSockets} {roles : List SocketRole}

/-- The listening sockets of some roles are in the set, besides what was there before. -/
structure Added (s : ListenSockets) (roles : List SocketRole) (s' : ListenSockets) : Prop where
  same : s.SameTable s'
  interest : ∀ fd, (s'.spPolling.interest fd).isSome = true ↔
    (s.spPolling.interest fd).isSome = true ∨ ∃ role ∈ roles, s.Listens role ∧ s.socketTable role = fd

theorem endsWith_setListenSockets (hdistinct : s.Distinct) (hnodup : roles.Nodup)
    (hepoll : s.spPolling.epollfd ≠ -1)
    (hfree : ∀ role ∈ roles, s.Listens role → s.spPolling.interest (s.socketTable role) = none)
    (ctl : SocketRole → EpollCtl) :
    Hr.EndsWith (setListenSockets true ctl roles) s s.SameTable (s.Added roles)
      (((roles.filter fun role => s.Listens role).findSome? fun role => (ctl role).failure).map
        ERRNOHR) := by
  induction roles generalizing s with
  | nil => exact .pure ⟨.refl s, fun fd => by simp⟩
  | cons role roles ih =>
    obtain ⟨hrole, hnodup⟩ := List.nodup_cons.mp hnodup
    obtain ⟨hhead, htail⟩ := List.forall_mem_cons.mp hfree
    rw [setListenSockets]
    refine .get ?_
    by_cases hlistens : s.Listens role
    · rw [if_neg hlistens, List.filter_cons_of_pos (by simpa using hlistens), findSome?_cons_or,
        Option.map_or]
      have hadd : Hr.EndsWith (setListenSocket true (s.socketTable role) (ctl role)) s s.SameTable
          (· = s.toggled role true) ((ctl role).failure.map ERRNOHR) := by
        refine (CEpoll.endsWith_add hlistens hepoll (hhead hlistens) _ (ctl role)).on ?_ ?_
        · rintro poll rfl
          exact .refl s
        · rintro poll rfl
          rfl
      refine hadd.bind fun s' hs' => ?_
      subst hs'
      have hfree' : ∀ role' ∈ roles, s.Listens role' →
          (s.toggled role true).spPolling.interest (s.socketTable role') = none := by
        intro role' hmem hl
        have hne : s.socketTable role' ≠ s.socketTable role := fun he =>
          hrole (hdistinct role' role hl he ▸ hmem)
        rw [toggled, ← htail role' hmem hl]
        exact Function.update_of_ne hne ..
      have hrest := ih (s := s.toggled role true) hdistinct hnodup hepoll hfree'
      refine (hrest.mono_failed fun s' hs' => ?_).mono fun s' hs' => ?_
      · exact ⟨hs'.socketTable, hs'.fListenSocketsOnEpoll, hs'.epollfd⟩
      · refine ⟨⟨hs'.same.socketTable, hs'.same.fListenSocketsOnEpoll, hs'.same.epollfd⟩, fun fd => ?_⟩
        rw [hs'.interest]
        by_cases hfd : fd = s.socketTable role
        · subst hfd
          exact iff_of_true (Or.inl (by simp [toggled, listenFlags]))
            (Or.inr ⟨role, List.mem_cons_self .., hlistens, rfl⟩)
        · have hsame : (s.toggled role true).spPolling.interest fd = s.spPolling.interest fd :=
            Function.update_of_ne hfd ..
          rw [hsame]
          refine or_congr_right ⟨?_, ?_⟩
          · rintro ⟨role', hmem, hl, he⟩
            exact ⟨role', List.mem_cons_of_mem _ hmem, hl, he⟩
          · rintro ⟨role', hmem, hl, he⟩
            rcases List.mem_cons.mp hmem with rfl | hmem
            · exact absurd he.symm hfd
            · exact ⟨role', hmem, hl, he⟩
    · rw [if_pos (not_not.mp hlistens), List.filter_cons_of_neg (by simpa using hlistens)]
      refine (ih hdistinct hnodup hepoll htail).mono fun s' hs' => ⟨hs'.same, fun fd => ?_⟩
      rw [hs'.interest]
      refine or_congr_right ⟨?_, ?_⟩
      · rintro ⟨role', hmem, hl, he⟩
        exact ⟨role', List.mem_cons_of_mem _ hmem, hl, he⟩
      · rintro ⟨role', hmem, hl, he⟩
        rcases List.mem_cons.mp hmem with rfl | hmem
        · exact absurd hl hlistens
        · exact ⟨role', hmem, hl, he⟩

/-- Without a descriptor the first socket fails. -/
theorem setListenSockets_closed (hepoll : s.spPolling.epollfd = -1)
    (hlistens : ∃ role ∈ roles, s.Listens role) (ctl : SocketRole → EpollCtl) :
    setListenSockets true ctl roles s = .error E_UNEXPECTED s := by
  induction roles with
  | nil =>
    obtain ⟨role, hmem, -⟩ := hlistens
    cases hmem
  | cons role roles ih =>
    rw [setListenSockets, Hr.bind_ok (Hr.get_apply s)]
    by_cases hl : s.Listens role
    · rw [if_neg hl]
      have hadd : setListenSocket true (s.socketTable role) (ctl role) s =
          .error E_UNEXPECTED s := Hr.on_error (CEpoll.add_closed hl hepoll _)
      exact Hr.bind_error hadd
    · rw [if_pos (not_not.mp hl)]
      obtain ⟨role', hmem, hl'⟩ := hlistens
      rcases List.mem_cons.mp hmem with rfl | hmem
      · exact absurd hl' hl
      · exact ih ⟨role', hmem, hl'⟩

end ListenSockets
end Polling

/-! ### What a thread holds -/

namespace TcpThread

variable {rest : Finset ℕ} {s : TcpSetup} {thread : TcpThread}

theorem holds_socket (role : SocketRole) (socket : CStunSocket) :
    ({ thread with socketListenArray := Function.update thread.socketListenArray role socket } :
      TcpThread).holds = Function.update thread.holds (.listener role) socket.descriptor := by
  funext holder
  cases holder with
  | listener role' =>
    by_cases hr : role' = role
    · subst hr
      simp [holds]
    · have hne : Holder.listener role' ≠ .listener role := fun he => hr (Holder.listener.inj he)
      rw [Function.update_of_ne hne]
      simp [holds, hr]
  | pipe0 => rfl
  | pipe1 => rfl
  | polling => rfl
  | connection pConn => rfl

theorem holds_pipe (pipe0 pipe1 : ℕ) :
    ({ thread with pipe := some (pipe0, pipe1) } : TcpThread).holds =
      Function.update (Function.update thread.holds .pipe0 (some pipe0)) .pipe1 (some pipe1) := by
  funext holder
  cases holder <;> rfl

theorem holds_polling (poll : Polling.CEpoll) :
    ({ thread with spPolling := poll } : TcpThread).holds =
      Function.update thread.holds .polling
        (if poll.epollfd = -1 then none else some poll.epollfd.toNat) := by
  funext holder
  cases holder <;> rfl

@[simp] theorem holds_create (holder : Holder) : create.holds holder = none := by
  cases holder <;> rfl

/-! ### Setting up -/

/-- What a failure leaves behind is for `Reset` to close. -/
structure Leftover (rest : Finset ℕ) (s : TcpSetup) : Prop where
  accounts : Accounts rest s.fds s.thread.holds
  work : s.thread.work = none

/-- The listening sockets of the roles in `opened` are there, and the polling instance is not
used yet. -/
structure Building (rest : Finset ℕ) (opened : SocketRole → Bool) (s : TcpSetup) : Prop
    extends Leftover rest s where
  fThreadIsValid : s.thread.fThreadIsValid = false
  isValid : ∀ role, (s.thread.socketListenArray role).isValid = opened role
  /-- A socket is the descriptor it stands for. -/
  natural : ∀ role fd, s.thread.holds (.listener role) = some fd → s.thread.socketTable role = fd
  fListenSocketsOnEpoll : s.thread.fListenSocketsOnEpoll = false
  interest : ∀ fd, s.thread.spPolling.interest fd = none

variable {opened : SocketRole → Bool}

/-- Before there is a pipe. -/
structure Opening (rest : Finset ℕ) (opened : SocketRole → Bool) (s : TcpSetup) : Prop
    extends Building rest opened s where
  pipe : s.thread.pipe = none
  epollfd : s.thread.spPolling.epollfd = -1

theorem opening_create (rest : Finset ℕ) : Opening rest (fun _ => false) ⟨rest, create⟩ where
  accounts := by
    have hnone : create.holds = fun _ => none := funext holds_create
    rw [hnone]
    exact Accounts.empty rest
  work := rfl
  fThreadIsValid := rfl
  isValid _ := rfl
  natural role fd h := by simp at h
  fListenSocketsOnEpoll := rfl
  interest _ := rfl
  pipe := rfl
  epollfd := rfl

theorem endsWith_chk {P R : TcpSetup → Prop} (hr : R s) (hp : P s) (err : Option UInt32) :
    Hr.EndsWith (Hr.chk (err.elim S_OK Polling.ERRNOHR)) s R P (err.map Polling.ERRNOHR) := by
  cases err with
  | none => exact ⟨s, Hr.chk_ok rfl s, hp⟩
  | some errno => exact ⟨s, Hr.chk_error (Polling.CPoll.failed_ERRNOHR errno) s, hr⟩

theorem endsWith_tcpInit (h : Opening rest opened s) {role : SocketRole}
    (hrole : opened role = false) (calls : SocketCalls) :
    Hr.EndsWith (tcpInit role calls) s (Leftover rest)
      (Opening rest (Function.update opened role true))
      ((calls.socket.or (calls.setsockopt.or calls.bind)).map Polling.ERRNOHR) := by
  have hnone : (s.thread.socketListenArray role).descriptor = none :=
    CStunSocket.descriptor_eq_none.mpr ((h.isValid role).trans hrole)
  rcases CStunSocket.initCommon_cases hnone role true calls s.fds with
    ⟨errno, hfails, hinit⟩ | ⟨hfails, socket, hinit, hsock, -⟩
  · rw [if_pos rfl] at hfails
    rw [hfails]
    refine ⟨⟨s.fds, { s.thread with
      socketListenArray := Function.update s.thread.socketListenArray role
        (s.thread.socketListenArray role) }⟩, ?_, ?_, h.work⟩
    · rw [tcpInit, hinit]
      dsimp only
      rw [if_pos (Polling.CPoll.failed_ERRNOHR errno)]
    · dsimp only
      rw [Function.update_eq_self]
      exact h.accounts
  · have hfd := CStunSocket.descriptor_of_sock hsock
    rw [if_pos rfl] at hfails
    rw [hfails]
    refine ⟨⟨insert (lowest s.fds) s.fds, { s.thread with
      socketListenArray := Function.update s.thread.socketListenArray role socket }⟩, ?_,
      ⟨⟨⟨?_, h.work⟩, h.fThreadIsValid, fun r => ?_, fun r fd => ?_, h.fListenSocketsOnEpoll,
        h.interest⟩, h.pipe, h.epollfd⟩⟩
    · rw [tcpInit, hinit]
      rfl
    · rw [holds_socket, hfd]
      exact h.accounts.opened hnone
    · by_cases hr : r = role
      · subst hr
        simp only [Function.update_self]
        exact CStunSocket.isValid_of_descriptor hfd
      · simp only [Function.update_of_ne hr]
        exact h.isValid r
    · by_cases hr : r = role
      · subst hr
        simp only [holds, socketTable, Function.update_self, hfd, hsock, Option.some.injEq]
        exact congrArg Nat.cast
      · simp only [holds, socketTable, Function.update_of_ne hr]
        exact h.natural r fd

theorem endsWith_createListenSocket (h : Opening rest opened s) {role : SocketRole}
    (hrole : opened role = false) (calls : ListenCalls) :
    Hr.EndsWith (createListenSocket role calls) s (Leftover rest)
      (Opening rest (Function.update opened role true)) (calls.failure.map Polling.ERRNOHR) := by
  have hfailure : calls.failure.map Polling.ERRNOHR =
      ((calls.init.socket.or (calls.init.setsockopt.or calls.init.bind)).map Polling.ERRNOHR).or
        ((calls.fcntl.map Polling.ERRNOHR).or (calls.listen.map Polling.ERRNOHR)) := by
    rw [← Option.map_or, ← Option.map_or]
    rfl
  rw [hfailure, createListenSocket]
  refine (endsWith_tcpInit h hrole calls.init).bind fun s' hs' => ?_
  refine (endsWith_chk hs'.toLeftover hs' calls.fcntl).bind fun s'' hs'' => ?_
  exact endsWith_chk hs''.toLeftover hs'' calls.listen

/-- The listening sockets are made one after the other. -/
theorem endsWith_createListenSockets (h : Opening rest opened s) (tsaListen : TransportAddressSet)
    (calls : SocketRole → ListenCalls) {roles : List SocketRole} (hnodup : roles.Nodup)
    (hopened : ∀ role ∈ roles, opened role = false) :
    Hr.EndsWith (createListenSockets tsaListen calls roles) s (Leftover rest)
      (Opening rest fun role => opened role || (decide (role ∈ roles) && (tsaListen.set role).fValid))
      (((roles.filter fun role => (tsaListen.set role).fValid).findSome? fun role =>
        (calls role).failure).map Polling.ERRNOHR) := by
  induction roles generalizing opened s with
  | nil => exact .pure (by simpa using h)
  | cons role roles ih =>
    obtain ⟨hrole, hnodup⟩ := List.nodup_cons.mp hnodup
    have hfalse : opened role = false := hopened role (List.mem_cons_self ..)
    rw [createListenSockets, Hr.when]
    by_cases hvalid : (tsaListen.set role).fValid = true
    · rw [if_pos hvalid, List.filter_cons_of_pos (p := fun role => (tsaListen.set role).fValid) hvalid,
        findSome?_cons_or, Option.map_or]
      refine (endsWith_createListenSocket h hfalse (calls role)).bind fun s' hs' => ?_
      refine (ih hs' hnodup fun r hr => ?_).mono fun s'' hs'' => ?_
      · have hne : r ≠ role := fun he => hrole (he ▸ hr)
        rw [Function.update_of_ne hne]
        exact hopened r (List.mem_cons_of_mem _ hr)
      · refine (congrArg (Opening rest · s'') (funext fun r => ?_)).mp hs''
        by_cases hr : r = role
        · subst hr
          simp [hvalid]
        · simp [hr]
    · rw [if_neg hvalid, List.filter_cons_of_neg (p := fun role => (tsaListen.set role).fValid) hvalid]
      have hskip : Hr.EndsWith (pure () : Hr TcpSetup Unit) s (Leftover rest)
          (Opening rest opened) none := .pure h
      rw [← Option.none_or (o := Option.map _ _)]
      refine hskip.bind fun s' hs' => ?_
      refine (ih hs' hnodup fun r hr => hopened r (List.mem_cons_of_mem _ hr)).mono fun s'' hs'' => ?_
      refine (congrArg (Opening rest · s'') (funext fun r => ?_)).mp hs''
      by_cases hr : r = role
      · subst hr
        simp [Bool.not_eq_true _ ▸ hvalid]
      · simp [hr]

/-! ### The pipe and the polling instance -/

/-- There is a pipe, and a polling instance if it was created. -/
structure Piped (rest : Finset ℕ) (opened : SocketRole → Bool) (fCreated : Bool) (s : TcpSetup) :
    Prop extends Building rest opened s where
  pipe : s.thread.pipe ≠ none
  epollfd : s.thread.spPolling.epollfd = -1 ↔ fCreated = false

theorem endsWith_createPipes (h : Opening rest opened s) (err : Option UInt32) :
    Hr.EndsWith (createPipes err) s (Leftover rest) (Piped rest opened false)
      (err.map Polling.ERRNOHR) := by
  cases err with
  | some errno => exact ⟨s, rfl, h.toLeftover⟩
  | none =>
    refine ⟨_, rfl, ⟨⟨⟨?_, h.work⟩, h.fThreadIsValid, h.isValid, h.natural,
      h.fListenSocketsOnEpoll, h.interest⟩, by simp, iff_of_true h.epollfd rfl⟩⟩
    dsimp only
    rw [holds_pipe]
    have h₀ : s.thread.holds .pipe0 = none := by rw [holds, h.pipe]; rfl
    have h₁ : s.thread.holds .pipe1 = none := by rw [holds, h.pipe]; rfl
    exact (h.accounts.opened h₀).opened (by rwa [Function.update_of_ne (by simp)])

theorem endsWith_createPolling (h : Piped rest opened false s) (maxSockets : ℕ) (fCreated : Bool) :
    Hr.EndsWith (createPolling maxSockets fCreated) s (Leftover rest) (Piped rest opened fCreated)
      none := by
  have hnone : s.thread.holds .polling = none := by
    rw [holds, if_pos (h.epollfd.mpr rfl)]
  cases fCreated with
  | false =>
    refine ⟨_, rfl, ⟨⟨⟨?_, h.work⟩, h.fThreadIsValid, h.isValid, h.natural,
      h.fListenSocketsOnEpoll, fun _ => rfl⟩, h.pipe, iff_of_true rfl rfl⟩⟩
    have hsame : ({ s.thread with
        spPolling := (Polling.CEpoll.create.initializeWith maxSockets (-1)).2 } : TcpThread).holds =
          s.thread.holds := by
      rw [holds_polling, ← Function.update_eq_self Holder.polling s.thread.holds, hnone]
      simp [Polling.CEpoll.initializeWith, Polling.CEpoll.close]
    exact hsame ▸ h.accounts
  | true =>
    have hne : ((lowest s.fds : ℕ) : Int) ≠ -1 := by omega
    have hinit : Polling.CEpoll.create.initializeWith maxSockets (lowest s.fds : ℕ) =
        (S_OK, { Polling.CEpoll.create with epollfd := (lowest s.fds : ℕ), sizeEvents := maxSockets }) := by
      rw [Polling.CEpoll.initializeWith]
      dsimp only
      rw [if_neg hne]
      rfl
    refine ⟨⟨insert (lowest s.fds) s.fds, { s.thread with spPolling :=
      { Polling.CEpoll.create with epollfd := (lowest s.fds : ℕ), sizeEvents := maxSockets } }⟩, ?_,
      ⟨⟨⟨?_, h.work⟩, h.fThreadIsValid, h.isValid, h.natural, h.fListenSocketsOnEpoll,
        fun _ => rfl⟩, h.pipe, iff_of_false hne Bool.true_eq_false.mp⟩⟩
    · rw [createPolling]
      dsimp only
      rw [if_pos rfl, hinit]
      rfl
    · dsimp only
      rw [holds_polling]
      dsimp only
      rw [if_neg hne, Int.toNat_natCast]
      exact h.accounts.opened hnone

/-- The listening sockets are in the set, and the pipe if it is in `piped`. -/
structure Registered (rest : Finset ℕ) (opened : SocketRole → Bool) (piped : Int → Prop)
    (s : TcpSetup) : Prop extends Leftover rest s where
  fThreadIsValid : s.thread.fThreadIsValid = false
  natural : ∀ role fd, s.thread.holds (.listener role) = some fd → s.thread.socketTable role = fd
  isValid : ∀ role, (s.thread.socketListenArray role).isValid = opened role
  pipe : s.thread.pipe ≠ none
  epollfd : s.thread.spPolling.epollfd ≠ -1
  interest : ∀ fd, (s.thread.spPolling.interest fd).isSome = true ↔
    piped fd ∨ ∃ role, opened role = true ∧ s.thread.socketTable role = fd

/-- The members that `SetListenSocketsOnEpoll` is about. -/
def listenSockets (thread : TcpThread) : Polling.ListenSockets :=
  ⟨thread.spPolling, thread.fListenSocketsOnEpoll, thread.socketTable⟩

theorem listens_iff (role : SocketRole) : thread.listenSockets.Listens role ↔
    (thread.socketListenArray role).isValid = true := by
  rw [Polling.ListenSockets.Listens, CStunSocket.isValid, decide_eq_true_iff]
  rfl

theorem descriptor_of_listens {role : SocketRole} (h : thread.listenSockets.Listens role) :
    thread.holds (.listener role) = some (thread.socketTable role).toNat := if_neg h

theorem distinct_listenSockets (h : Accounts rest s.fds s.thread.holds) :
    s.thread.listenSockets.Distinct := by
  intro role role' hlistens he
  have hlistens' : s.thread.listenSockets.Listens role' := by
    rw [Polling.ListenSockets.Listens, ← he]
    exact hlistens
  have hsame : s.thread.socketTable role = s.thread.socketTable role' := he
  have hfd := descriptor_of_listens hlistens'
  rw [← hsame] at hfd
  exact Holder.listener.inj (h.inj _ _ _ (descriptor_of_listens hlistens) hfd)

theorem filter_listens (h : ∀ role, (thread.socketListenArray role).isValid = opened role)
    (roles : List SocketRole) : (roles.filter fun role => thread.listenSockets.Listens role) =
      roles.filter opened := by
  apply List.filter_congr
  intro role _
  rw [Bool.eq_iff_iff, decide_eq_true_iff, listens_iff, h]

theorem endsWith_setListenSocketsOnEpoll {fCreated : Bool} (h : Piped rest opened fCreated s)
    (hsome : ∃ role, opened role = true) (ctl : SocketRole → Polling.EpollCtl) :
    Hr.EndsWith (setListenSocketsOnEpoll true ctl) s (Leftover rest)
      (Registered rest opened fun _ => False)
      ((if fCreated = false then some E_UNEXPECTED else none).or
        (((CTCPStunThread.roles.filter opened).findSome? fun role => (ctl role).failure).map
          Polling.ERRNOHR)) := by
  have hflag : true ≠ s.thread.listenSockets.fListenSocketsOnEpoll := by
    change true ≠ s.thread.fListenSocketsOnEpoll
    rw [h.fListenSocketsOnEpoll]
    decide
  have hsame : ∀ sockets, s.thread.listenSockets.SameTable sockets →
      ({ s.thread with
        spPolling := sockets.spPolling
        fListenSocketsOnEpoll := sockets.fListenSocketsOnEpoll } : TcpThread).holds =
          s.thread.holds := by
    intro sockets hs
    have hfd : sockets.spPolling.epollfd = s.thread.spPolling.epollfd := hs.epollfd
    funext holder
    cases holder with
    | polling => simp only [holds, hfd]
    | _ => rfl
  have hleft : ∀ sockets, s.thread.listenSockets.SameTable sockets → Leftover rest
      ⟨s.fds, { s.thread with
        spPolling := sockets.spPolling
        fListenSocketsOnEpoll := sockets.fListenSocketsOnEpoll }⟩ := fun sockets hs =>
    ⟨(hsame sockets hs).symm ▸ h.accounts, h.work⟩
  cases fCreated with
  | false =>
    have hlistens : ∃ role ∈ CTCPStunThread.roles, s.thread.listenSockets.Listens role := by
      obtain ⟨role, hrole⟩ := hsome
      exact ⟨role, mem_roles role, (listens_iff role).mpr ((h.isValid role).trans hrole)⟩
    have herr := Polling.ListenSockets.setListenSockets_closed
      (h.epollfd.mpr rfl : s.thread.listenSockets.spPolling.epollfd = -1) hlistens ctl
    have hcall : Polling.ListenSockets.setListenSocketsOnEpoll true ctl s.thread.listenSockets =
        .error E_UNEXPECTED s.thread.listenSockets := by
      rw [Polling.ListenSockets.setListenSocketsOnEpoll, Hr.bind_ok (Hr.get_apply _), if_pos hflag]
      exact Hr.bind_error herr
    exact ⟨_, Hr.on_error hcall, hleft _ (.refl _)⟩
  | true =>
    have hepoll : s.thread.spPolling.epollfd ≠ -1 := fun he => by
      have hfalse := h.epollfd.mp he
      cases hfalse
    have hloop := Polling.ListenSockets.endsWith_setListenSockets
      (distinct_listenSockets h.accounts) (by decide : CTCPStunThread.roles.Nodup) hepoll
      (fun role _ _ => h.interest _) ctl
    rw [filter_listens h.isValid] at hloop
    have hcall : Hr.EndsWith (Polling.ListenSockets.setListenSocketsOnEpoll true ctl)
        s.thread.listenSockets s.thread.listenSockets.SameTable
        (fun sockets => ∃ sockets', s.thread.listenSockets.Added CTCPStunThread.roles sockets' ∧
          sockets = { sockets' with fListenSocketsOnEpoll := true })
        (((CTCPStunThread.roles.filter opened).findSome? fun role => (ctl role).failure).map
          Polling.ERRNOHR) := by
      rw [Polling.ListenSockets.setListenSocketsOnEpoll]
      refine .get ?_
      rw [if_pos hflag]
      exact hloop.before fun sockets hs => ⟨_, rfl, sockets, hs, rfl⟩
    rw [setListenSocketsOnEpoll]
    apply Hr.EndsWith.on
    · exact hcall
    · exact hleft
    · rintro _ ⟨sockets, hs, rfl⟩
      have hsame' : ({ s.thread with
          spPolling := sockets.spPolling, fListenSocketsOnEpoll := true } : TcpThread).holds =
            s.thread.holds := hsame sockets hs.same
      refine ⟨⟨hsame'.symm ▸ h.accounts, h.work⟩, h.fThreadIsValid, h.natural, h.isValid, h.pipe,
        ?_, fun fd => ?_⟩
      · exact fun he => hepoll (hs.same.epollfd.symm.trans he)
      · refine (hs.interest fd).trans ?_
        have hnone : (s.thread.listenSockets.spPolling.interest fd).isSome = false := by
          change (s.thread.spPolling.interest fd).isSome = false
          rw [h.interest]
          rfl
        rw [hnone]
        refine or_congr ⟨fun hf => absurd hf Bool.false_ne_true, False.elim⟩ (exists_congr fun role => ?_)
        rw [listens_iff, h.isValid]
        exact ⟨fun hr => hr.2, fun hr => ⟨mem_roles role, hr⟩⟩

theorem endsWith_addPipe (h : Registered rest opened (fun _ => False) s)
    (ctl : Polling.EpollCtl) :
    Hr.EndsWith (addPipe ctl) s (Leftover rest)
      (fun s => ∃ pipe, s.thread.pipe = some pipe ∧ Registered rest opened (· = (pipe.1 : ℕ)) s)
      (ctl.failure.map Polling.ERRNOHR) := by
  obtain ⟨pipe, hpipe⟩ := Option.ne_none_iff_exists'.mp h.pipe
  have hheld : s.thread.holds .pipe0 = some pipe.1 := by rw [holds, hpipe]; rfl
  have hfree : s.thread.spPolling.interest (pipe.1 : ℕ) = none := by
    rw [← Option.not_isSome_iff_eq_none, h.interest]
    rintro (hf | ⟨role, hrole, hsock⟩)
    · exact hf
    · have hlistens : s.thread.listenSockets.Listens role :=
        (listens_iff role).mpr ((h.isValid role).trans hrole)
      have hfd := descriptor_of_listens hlistens
      rw [hsock, Int.toNat_natCast] at hfd
      cases h.accounts.inj _ _ _ hheld hfd
  rw [addPipe]
  refine .get ?_
  rw [hpipe]
  have hadd := Polling.CEpoll.endsWith_add (by simp : ((pipe.1 : ℕ) : Int) ≠ -1)
    h.epollfd hfree EPOLL_PIPE_EVENT_SET ctl
  have hsame : ∀ poll : Polling.CEpoll, poll.epollfd = s.thread.spPolling.epollfd →
      ({ s.thread with spPolling := poll } : TcpThread).holds = s.thread.holds := by
    intro poll hfd
    funext holder
    cases holder with
    | polling => simp only [holds, hfd]
    | _ => rfl
  apply Hr.EndsWith.on
  · exact hadd
  · rintro poll rfl
    exact h.toLeftover
  · rintro poll rfl
    refine ⟨pipe, hpipe, ⟨(hsame _ rfl).symm ▸ h.accounts, h.work⟩, h.fThreadIsValid, h.natural,
      h.isValid, h.pipe, h.epollfd, fun fd => ?_⟩
    by_cases hfd : fd = (pipe.1 : ℕ)
    · subst hfd
      exact iff_of_true (by simp) (Or.inl rfl)
    · dsimp only
      rw [Function.update_of_ne hfd, h.interest, false_or]
      exact ⟨Or.inr, fun hor => hor.resolve_left hfd⟩

/-! ### The whole of it -/

/-- What the arguments are checked for is all that can be wrong with them. -/
theorem init_of_checked {call : TcpInitCall} (h : call.checked = .ok ()) (pAuth : Option IStunAuth)
    (sockets : SocketRole → Int) (pipe : Int) (time : ℤ) :
    ∃ thread, CTCPStunThread.init call.tsaListen call.tsaHandler pAuth call.maxConnections sockets
      pipe time = .ok thread := by
  rw [TcpInitCall.checked, CTCPStunThread.init] at h
  rw [CTCPStunThread.init]
  dsimp only at h ⊢
  split_ifs at h ⊢
  all_goals first
    | exact ⟨_, rfl⟩
    | cases h

/-- `Run` may begin, with the listening sockets and the pipe in the set. -/
structure Prepared (rest : Finset ℕ) (call : TcpInitCall) (pAuth : Option IStunAuth)
    (s : TcpSetup) : Prop where
  accounts : Accounts rest s.fds s.thread.holds
  fThreadIsValid : s.thread.fThreadIsValid = false
  natural : ∀ role fd, s.thread.holds (.listener role) = some fd → s.thread.socketTable role = fd
  isValid : ∀ role, (s.thread.socketListenArray role).isValid = (call.tsaListen.set role).fValid
  work : ∃ pipe thread, s.thread.pipe = some pipe ∧ s.thread.work = some ⟨.top, thread⟩ ∧
    CTCPStunThread.init call.tsaListen call.tsaHandler pAuth call.maxConnections
      s.thread.socketTable (pipe.1 : ℕ) 0 = .ok thread ∧
    ∀ fd, (s.thread.spPolling.interest fd).isSome = thread.spPolling.interest fd

/-- What `Run` starts with. -/
theorem init_starts {tsaListen tsaHandler : TransportAddressSet} {pAuth : Option IStunAuth}
    {maxConnections : ℤ} {sockets : SocketRole → Int} {pipe : Int} {time : ℤ}
    {thread : CTCPStunThread} (h : CTCPStunThread.init tsaListen tsaHandler pAuth maxConnections
      sockets pipe time = .ok thread) :
    thread.connectionpool = .create ∧ thread.isOpen = thread.spPolling.interest ∧
      ∀ fd, thread.spPolling.interest fd = true ↔ fd ≠ -1 ∧
        (fd = pipe ∨ ∃ role, (tsaListen.set role).fValid = true ∧ sockets role = fd) := by
  rw [CTCPStunThread.init] at h
  dsimp only at h
  generalize (if maxConnections > 0 then maxConnections.toNat
    else CTCPStunThread.c_MaxNumberOfConnectionsDefault) = limit at h
  split_ifs at h
  cases h
  refine ⟨rfl, rfl, fun fd => ?_⟩
  rw [decide_eq_true_iff, List.mem_map]
  refine and_congr_right fun hne => or_congr_right ⟨?_, ?_⟩
  · rintro ⟨role, -, he⟩
    split_ifs at he with hrole
    · exact ⟨role, hrole, he⟩
    · exact absurd he.symm hne
  · rintro ⟨role, hrole, he⟩
    exact ⟨role, mem_roles role, (if_pos hrole).trans he⟩

/-- The set that `Init` has built is the one that `Run` starts with. -/
theorem interest_eq {call : TcpInitCall} {pAuth : Option IStunAuth} {pipe : ℕ × ℕ}
    (h : Registered rest (fun role => (call.tsaListen.set role).fValid) (· = (pipe.1 : ℕ)) s)
    {thread : CTCPStunThread} {time : ℤ}
    (hinit : CTCPStunThread.init call.tsaListen call.tsaHandler pAuth call.maxConnections
      s.thread.socketTable (pipe.1 : ℕ) time = .ok thread) (fd : Int) :
    (s.thread.spPolling.interest fd).isSome = thread.spPolling.interest fd := by
  rw [Bool.eq_iff_iff, h.interest, (init_starts hinit).2.2]
  refine (and_iff_right_of_imp ?_).symm
  rintro (rfl | ⟨role, hrole, rfl⟩)
  · simp
  · exact (listens_iff role).mpr ((h.isValid role).trans hrole)

theorem endsWith_prepare {call : TcpInitCall} (hchecked : call.checked = .ok ())
    (pAuth : Option IStunAuth)
    (h : ∃ pipe, s.thread.pipe = some pipe ∧
      Registered rest (fun role => (call.tsaListen.set role).fValid) (· = (pipe.1 : ℕ)) s) :
    Hr.EndsWith (prepare call pAuth) s (Leftover rest) (Prepared rest call pAuth) none := by
  obtain ⟨pipe, hpipe, h⟩ := h
  obtain ⟨thread, hinit⟩ := init_of_checked hchecked pAuth s.thread.socketTable (pipe.1 : ℕ) 0
  have hwork : CTCPStunThread.init call.tsaListen call.tsaHandler pAuth call.maxConnections
      s.thread.socketTable (s.thread.pipe.elim (-1) fun pipe => pipe.1) 0 = .ok thread := by
    rw [hpipe]
    exact hinit
  refine ⟨⟨s.fds, { s.thread with work := some ⟨.top, thread⟩ }⟩, ?_, ?_⟩
  · rw [prepare, Hr.bind_ok (Hr.get_apply s), hwork]
    rfl
  · have hcount : thread.connectionpool.count = 0 := CTCPStunThread.init_count hinit
    refine ⟨?_, h.fThreadIsValid, h.natural, h.isValid, pipe, thread, hpipe, rfl, hinit,
      interest_eq h hinit⟩
    have hsame : ({ s.thread with work := some ⟨.top, thread⟩ } : TcpThread).holds =
        s.thread.holds := by
      funext holder
      cases holder with
      | connection pConn => simp [holds, h.work, hcount]
      | _ => rfl
    exact hsame.symm ▸ h.accounts

theorem endsWith_setUp (rest : Finset ℕ) (call : TcpInitCall) (pAuth : Option IStunAuth)
    (calls : TcpInitCalls) : Hr.EndsWith (setUp call pAuth calls) ⟨rest, create⟩ (Leftover rest)
      (Prepared rest call pAuth) (calls.failure call) := by
  rw [setUp]
  refine .get (.step (Hr.chkIf_false (by simp [create]) _ _)
    (.step (Hr.chkIf_false (by simp [create]) _ _) ?_))
  rw [TcpInitCalls.failure]
  cases hchecked : call.checked with
  | error hr =>
    rw [Option.some_or]
    exact ⟨_, Hr.bind_error rfl, (opening_create rest).toLeftover⟩
  | ok _ =>
    have hsome : ∃ role, (call.tsaListen.set role).fValid = true :=
      (call.checked_eq_ok.mp hchecked).2.1
    have hlisten := endsWith_createListenSockets (opening_create rest) call.tsaListen calls.sockets
      (by decide : CTCPStunThread.roles.Nodup) fun _ _ => rfl
    have hopened : ∀ s, Opening rest (fun role => false || (decide (role ∈ CTCPStunThread.roles) &&
        (call.tsaListen.set role).fValid)) s →
          Opening rest (fun role => (call.tsaListen.set role).fValid) s := by
      intro s hs
      simpa [mem_roles] using hs
    rw [Option.none_or, Option.map_or, Option.map_or, Option.or_assoc]
    have hok : (Hr.ofExcept (.ok ()) : Hr TcpSetup Unit) ⟨rest, create⟩ = .ok () ⟨rest, create⟩ := rfl
    refine .step hok ?_
    refine hlisten.bind fun s hs => ?_
    refine (endsWith_createPipes (hopened s hs) calls.pipe).bind fun s hs => ?_
    rw [← Option.none_or (o := Option.or (if calls.fEpollCreated = false then some E_UNEXPECTED else none) _)]
    refine (endsWith_createPolling hs (maxSockets call) calls.fEpollCreated).bind fun s hs => ?_
    rw [← Option.or_assoc]
    refine (endsWith_setListenSocketsOnEpoll hs hsome calls.listenCtl).bind fun s hs => ?_
    refine (endsWith_addPipe hs calls.pipeCtl).before fun s hs => ?_
    exact endsWith_prepare hchecked pAuth hs

end TcpThread
end StunServer

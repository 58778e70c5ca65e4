import StunServer.Proofs.ListenSockets

/-! What becomes of the listening sockets when taking them out of the set or putting them back
fails part way. -/

namespace StunServer.Polling.ListenSockets

variable {s : ListenSockets} {fEnable : Bool} {ctl : SocketRole → EpollCtl} {role : SocketRole}

theorem nodup_roles : CTCPStunThread.roles.Nodup := by decide

theorem mem_roles (role : SocketRole) : role ∈ CTCPStunThread.roles := by cases role <;> decide

/-- Called once more, while the system refuses nothing, `SetListenSocketsOnEpoll` succeeds and
leaves exactly the requested listening sockets in the set. -/
def Recovers (s : ListenSockets) (fEnable : Bool) : Prop :=
  ∀ ctl : SocketRole → EpollCtl, (∀ role, (ctl role).fRefused = false) →
    (setListenSocketsOnEpoll fEnable ctl).succeeds s = true ∧
      ∀ role, s.Listens role →
        ((setListenSocketsOnEpoll fEnable ctl).after s).registered role = fEnable

/-- The instance is open, and the listening sockets are in the set as the flag says. -/
def InStep (s : ListenSockets) : Prop :=
  s.spPolling.epollfd ≠ -1 ∧ ∀ role, s.Listens role → s.registered role = s.fListenSocketsOnEpoll

theorem listens_of_firstListening {roles : List SocketRole}
    (h : s.firstListening roles = some role) : s.Listens role := by
  simpa using List.find?_some h

theorem InStep.allowed (h : s.InStep) (hne : fEnable ≠ s.fListenSocketsOnEpoll)
    (hlistens : s.Listens role) {ctl : EpollCtl} (hctl : ctl.fRefused = false) :
    s.Allowed fEnable role ctl :=
  ⟨h.1, (h.2 role hlistens).trans (Bool.eq_not.mpr (Ne.symm hne)), hctl⟩

/-- Sockets that are in step can be toggled. -/
theorem InStep.recovers (hdistinct : s.Distinct) (h : s.InStep)
    (hne : fEnable ≠ s.fListenSocketsOnEpoll) : s.Recovers fEnable := by
  intro ctl hctl
  obtain ⟨s', hrun, hregistered⟩ := setListenSockets_ok hdistinct nodup_roles
    fun role _ hlistens => h.allowed hne hlistens (hctl role)
  rw [(Hr.after_ok (setListenSocketsOnEpoll_ok hne hrun)).1,
    (Hr.after_ok (setListenSocketsOnEpoll_ok hne hrun)).2]
  exact ⟨rfl, fun role hlistens => hregistered role (mem_roles role) hlistens⟩

/-- Sockets that can be toggled were in step. -/
theorem Recovers.inStep (hdistinct : s.Distinct) (h : s.Recovers fEnable)
    (hne : fEnable ≠ s.fListenSocketsOnEpoll) (hlistens : s.Listens role) : s.InStep := by
  obtain ⟨hok, -⟩ := h (fun _ => ⟨false, 0⟩) fun _ => rfl
  cases hrun : setListenSockets fEnable (fun _ => ⟨false, 0⟩) CTCPStunThread.roles s with
  | error hr s' =>
    rw [(Hr.after_error (setListenSocketsOnEpoll_error hne hrun)).2] at hok
    cases hok
  | ok a s' =>
    have hallowed := allowed_of_setListenSockets hdistinct nodup_roles hrun
    refine ⟨(hallowed role (mem_roles role) hlistens).1, fun role' hlistens' => ?_⟩
    have hregistered := (hallowed role' (mem_roles role') hlistens').2.1
    rw [hregistered]
    exact (Bool.eq_not.mpr (Ne.symm hne)).symm

/-- The first socket is not as the flag says. -/
def Stuck (s : ListenSockets) : Prop :=
  ∃ role, s.firstListening CTCPStunThread.roles = some role ∧
    s.registered role = !s.fListenSocketsOnEpoll

/-- The call for the first socket is in the way. -/
theorem Stuck.call_error (h : s.Stuck) (hne : fEnable ≠ s.fListenSocketsOnEpoll)
    (ctl : SocketRole → EpollCtl) : ∃ hr, setListenSocketsOnEpoll fEnable ctl s = .error hr s := by
  obtain ⟨role, hfirst, hregistered⟩ := h
  have hrefused : ¬s.Allowed fEnable role (ctl role) := fun hallowed =>
    hne (Bool.not_inj (hallowed.2.1.symm.trans hregistered))
  obtain ⟨hr, hrun⟩ := setListenSockets_first hfirst hrefused
  exact ⟨hr, setListenSocketsOnEpoll_error hne hrun⟩

theorem Stuck.not_recovers (h : s.Stuck) (hne : fEnable ≠ s.fListenSocketsOnEpoll) :
    ¬s.Recovers fEnable := by
  intro hrecovers
  obtain ⟨hok, -⟩ := hrecovers (fun _ => ⟨false, 0⟩) fun _ => rfl
  obtain ⟨hr, herr⟩ := h.call_error hne fun _ => ⟨false, 0⟩
  rw [(Hr.after_error herr).2] at hok
  cases hok

/-- A call that fails at the first socket changes nothing; one that fails later sticks. -/
theorem failed_cases (hdistinct : s.Distinct)
    (hfailed : (setListenSocketsOnEpoll fEnable ctl).succeeds s = false) :
    ∃ role, s.firstListening CTCPStunThread.roles = some role ∧
      ((¬s.Allowed fEnable role (ctl role) ∧
          (setListenSocketsOnEpoll fEnable ctl).after s = s) ∨
        (s.Allowed fEnable role (ctl role) ∧
          ((setListenSocketsOnEpoll fEnable ctl).after s).Stuck)) := by
  obtain ⟨hne, hr, hrun⟩ := setListenSocketsOnEpoll_failed hfailed
  have hkept := setListenSockets_sameTable s fEnable ctl CTCPStunThread.roles
  rw [(Hr.after_error hrun).1] at hkept
  obtain ⟨role, hfirst, ⟨hsame, hrefused⟩ | ⟨hallowed, hregistered⟩⟩ :=
    setListenSockets_failed hdistinct nodup_roles hrun
  · exact ⟨role, hfirst, .inl ⟨hrefused, hsame⟩⟩
  · refine ⟨role, hfirst, .inr ⟨hallowed, role, ?_, ?_⟩⟩
    · rw [hkept.firstListening]
      exact hfirst
    · rw [hregistered, hkept.fListenSocketsOnEpoll]
      exact Bool.eq_not.mpr hne

/-- A call that has failed can be made up for if and only if the sockets were in step before it
and it was the call for the first of them that the system refused. -/
theorem failed_toggle_recovers_iff (hdistinct : s.Distinct)
    (hfailed : (setListenSocketsOnEpoll fEnable ctl).succeeds s = false) :
    ((setListenSocketsOnEpoll fEnable ctl).after s).Recovers fEnable ↔
      s.InStep ∧ ∃ role, s.firstListening CTCPStunThread.roles = some role ∧
        (ctl role).fRefused = true := by
  obtain ⟨hne, hr, hrun⟩ := setListenSocketsOnEpoll_failed hfailed
  obtain ⟨role, hfirst, ⟨hrefused, hsame⟩ | ⟨hallowed, hstuck⟩⟩ := failed_cases hdistinct hfailed
  · have hlistens := listens_of_firstListening hfirst
    rw [hsame]
    constructor
    · intro hrecovers
      have hstep := hrecovers.inStep hdistinct hne hlistens
      refine ⟨hstep, role, hfirst, Bool.eq_true_of_not_eq_false fun hctl => ?_⟩
      exact hrefused (hstep.allowed hne hlistens hctl)
    · exact fun h => h.1.recovers hdistinct hne
  · have hkept := setListenSockets_sameTable s fEnable ctl CTCPStunThread.roles
    rw [(Hr.after_error hrun).1] at hkept
    constructor
    · intro hrecovers
      refine absurd hrecovers (hstuck.not_recovers ?_)
      rwa [hkept.fListenSocketsOnEpoll]
    · rintro ⟨-, role', hfirst', hctl⟩
      rw [hfirst, Option.some.injEq] at hfirst'
      rw [← hfirst', hallowed.2.2] at hctl
      cases hctl

/-! ### Every call that follows -/

/-- The loop of `Run` calls again and again, and looks at no result. -/
def callAll (s : ListenSockets) (calls : List (Bool × (SocketRole → EpollCtl))) : ListenSockets :=
  calls.foldl (fun s call => (setListenSocketsOnEpoll call.1 call.2).after s) s

theorem Stuck.call (h : s.Stuck) (fEnable : Bool) (ctl : SocketRole → EpollCtl) :
    (setListenSocketsOnEpoll fEnable ctl).after s = s := by
  by_cases hflag : fEnable = s.fListenSocketsOnEpoll
  · exact (Hr.after_ok (setListenSocketsOnEpoll_same hflag)).1
  · obtain ⟨hr, herr⟩ := h.call_error hflag ctl
    exact (Hr.after_error herr).1

/-- Stuck sockets stay as they are in every run of calls. -/
theorem Stuck.callAll (h : s.Stuck) (calls : List (Bool × (SocketRole → EpollCtl))) :
    s.callAll calls = s := by
  induction calls with
  | nil => rfl
  | cons call calls ih =>
    rw [ListenSockets.callAll, List.foldl_cons, h.call]
    exact ih

/-- Once a call has failed behind the first socket, no later call changes anything. -/
theorem failed_toggle_sticks (hdistinct : s.Distinct)
    (hfailed : (setListenSocketsOnEpoll fEnable ctl).succeeds s = false)
    (hfirst : s.firstListening CTCPStunThread.roles = some role)
    (hallowed : s.Allowed fEnable role (ctl role))
    (calls : List (Bool × (SocketRole → EpollCtl))) :
    ((setListenSocketsOnEpoll fEnable ctl).after s).callAll calls =
      (setListenSocketsOnEpoll fEnable ctl).after s := by
  obtain ⟨role', hfirst', ⟨hrefused, -⟩ | ⟨-, hstuck⟩⟩ := failed_cases hdistinct hfailed
  · rw [hfirst, Option.some.injEq] at hfirst'
    exact absurd (hfirst' ▸ hallowed) hrefused
  · exact hstuck.callAll calls

/-! ### Two listening sockets -/

/-- A new instance, and two sockets that listen. -/
def twoSockets (fListenSocketsOnEpoll : Bool) (flags : Option UInt32) : ListenSockets where
  spPolling := { (CEpoll.create.initializeWith 1005 3).2 with
    interest := fun fd => if fd = 5 ∨ fd = 6 then flags else none }
  fListenSocketsOnEpoll := fListenSocketsOnEpoll
  socketTable
    | .rolePP => 5
    | .rolePA => 6
    | _ => -1

theorem distinct_twoSockets (f : Bool) (flags : Option UInt32) : (twoSockets f flags).Distinct := by
  intro role role' hlistens hsame
  cases role <;> cases role' <;> simp_all [Listens, twoSockets]

/-- The system has no room for the descriptor of one role. -/
def noRoomFor (role : SocketRole) (role' : SocketRole) : EpollCtl := ⟨role' = role, 28⟩

/-- The first of two sockets is refused. -/
theorem failed_toggle_recovers_first :
    ((setListenSocketsOnEpoll true (noRoomFor .rolePP)).after (twoSockets false none)).Recovers
      true :=
  (failed_toggle_recovers_iff (distinct_twoSockets false none) (by rfl)).mpr
    ⟨⟨by decide, by intro role; cases role <;> decide⟩, .rolePP, by rfl, by rfl⟩

/-- The second of two sockets is refused, and the first one is then in the way of every other
call. -/
theorem not_recovers_second :
    (setListenSocketsOnEpoll true (noRoomFor .rolePA)).succeeds (twoSockets false none) = false ∧
      ¬((setListenSocketsOnEpoll true (noRoomFor .rolePA)).after (twoSockets false none)).Recovers
        true := by
  refine ⟨by rfl, fun hrecovers => ?_⟩
  obtain ⟨hok, -⟩ := hrecovers (fun _ => ⟨false, 0⟩) fun _ => rfl
  cases hok

end StunServer.Polling.ListenSockets

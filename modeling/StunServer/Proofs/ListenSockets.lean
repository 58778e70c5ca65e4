import StunServer.Core.ListenSockets
import StunServer.Proofs.PollInstance

/-! The loop over the listening sockets: what it does to the set, and when it gets through. -/

namespace StunServer.Polling.ListenSockets

variable {s : ListenSockets} {fEnable : Bool} {ctl : SocketRole → EpollCtl} {role : SocketRole}
  {roles : List SocketRole}

/-- There is a socket for the role. -/
def Listens (s : ListenSockets) (role : SocketRole) : Prop := s.socketTable role ≠ -1

instance (s : ListenSockets) : DecidablePred s.Listens := fun _ => inferInstanceAs (Decidable (_ ≠ _))

/-- The socket of the role is in the set. -/
def registered (s : ListenSockets) (role : SocketRole) : Bool :=
  (s.spPolling.interest (s.socketTable role)).isSome

/-- Every socket has a descriptor of its own. -/
def Distinct (s : ListenSockets) : Prop :=
  ∀ role role', s.Listens role → s.socketTable role = s.socketTable role' → role = role'

/-- The flags a socket ends up with, if it is in the set at all. -/
def listenFlags (fEnable : Bool) : Option UInt32 :=
  if fEnable then some (CEpoll.toNativeFlags EPOLL_LISTEN_SOCKET_EVENT_SET) else none

@[simp] theorem listenFlags_isSome (fEnable : Bool) : (listenFlags fEnable).isSome = fEnable := by
  cases fEnable <;> rfl

/-- The socket of one role put in the set or taken out. -/
def toggled (s : ListenSockets) (role : SocketRole) (fEnable : Bool) : ListenSockets :=
  { s with spPolling := { s.spPolling with
      interest :=
        Function.update s.spPolling.interest (s.socketTable role) (listenFlags fEnable) } }

theorem registered_toggled (s : ListenSockets) (role role' : SocketRole) (fEnable : Bool) :
    (s.toggled role fEnable).registered role' =
      if s.socketTable role' = s.socketTable role then fEnable else s.registered role' := by
  change (Function.update s.spPolling.interest (s.socketTable role) (listenFlags fEnable)
    (s.socketTable role')).isSome = _
  rw [Function.update_apply]
  split_ifs
  · exact listenFlags_isSome fEnable
  · rfl

theorem registered_toggled_self (s : ListenSockets) (role : SocketRole) (fEnable : Bool) :
    (s.toggled role fEnable).registered role = fEnable := by
  rw [registered_toggled, if_pos rfl]

theorem registered_toggled_of_ne (hdistinct : s.Distinct) {role' : SocketRole}
    (hlistens : s.Listens role) (hne : role ≠ role') :
    (s.toggled role fEnable).registered role' = s.registered role' := by
  have hsock : s.socketTable role' ≠ s.socketTable role :=
    fun heq => hne (hdistinct role role' hlistens heq.symm)
  rw [registered_toggled, if_neg hsock]

/-- A call goes through if the instance is open, the socket is not as it should become and the
system has nothing against it. -/
def Allowed (s : ListenSockets) (fEnable : Bool) (role : SocketRole) (ctl : EpollCtl) : Prop :=
  s.spPolling.epollfd ≠ -1 ∧ s.registered role = !fEnable ∧ ctl.fRefused = false

theorem setListenSocket_ok (hlistens : s.Listens role) {ctl : EpollCtl}
    (h : s.Allowed fEnable role ctl) :
    setListenSocket fEnable (s.socketTable role) ctl s = .ok () (s.toggled role fEnable) := by
  obtain ⟨hepoll, hregistered, hctl⟩ := h
  rw [setListenSocket]
  cases fEnable with
  | true => exact Hr.on_ok (CEpoll.control_ok _ hlistens hepoll hregistered hctl)
  | false => exact Hr.on_ok (CEpoll.control_ok _ hlistens hepoll hregistered hctl)

theorem setListenSocket_error {ctl : EpollCtl} (h : ¬s.Allowed fEnable role ctl) :
    ∃ hr, setListenSocket fEnable (s.socketTable role) ctl s = .error hr s := by
  have hcontrol : ∀ flags, ∃ hr,
      CEpoll.control (s.socketTable role) ctl (!fEnable) flags s.spPolling = .error hr s.spPolling := by
    intro flags
    rcases CEpoll.control_cases (s.socketTable role) ctl (!fEnable) flags s.spPolling with
      ⟨hr, herr, -⟩ | ⟨-, hepoll, hin, hctl, -⟩
    · exact ⟨hr, herr⟩
    · exact absurd ⟨hepoll, hin, hctl⟩ h
  rw [setListenSocket]
  cases fEnable with
  | true =>
    obtain ⟨hr, herr⟩ := hcontrol (some _)
    exact ⟨hr, Hr.on_error herr⟩
  | false =>
    obtain ⟨hr, herr⟩ := hcontrol none
    exact ⟨hr, Hr.on_error herr⟩

/-! ### The loop -/

/-- One turn of the loop: there is no socket for the role, or it is put in the set or taken out,
or the loop ends here. -/
theorem setListenSockets_cons (s : ListenSockets) (fEnable : Bool) (ctl : SocketRole → EpollCtl)
    (role : SocketRole) (roles : List SocketRole) :
    (¬s.Listens role ∧
      setListenSockets fEnable ctl (role :: roles) s = setListenSockets fEnable ctl roles s) ∨
    (s.Listens role ∧ s.Allowed fEnable role (ctl role) ∧
      setListenSockets fEnable ctl (role :: roles) s =
        setListenSockets fEnable ctl roles (s.toggled role fEnable)) ∨
    (s.Listens role ∧ ¬s.Allowed fEnable role (ctl role) ∧
      ∃ hr, setListenSockets fEnable ctl (role :: roles) s = .error hr s) := by
  rw [setListenSockets, Hr.bind_ok (Hr.get_apply s)]
  by_cases hlistens : s.Listens role
  · rw [if_neg hlistens]
    by_cases hallowed : s.Allowed fEnable role (ctl role)
    · exact .inr (.inl ⟨hlistens, hallowed, Hr.bind_ok (setListenSocket_ok hlistens hallowed)⟩)
    · obtain ⟨hr, herr⟩ := setListenSocket_error hallowed
      exact .inr (.inr ⟨hlistens, hallowed, hr, Hr.bind_error herr⟩)
  · rw [if_pos (not_not.mp hlistens)]
    exact .inl ⟨hlistens, rfl⟩

/-- What no turn of the loop touches. -/
structure SameTable (s s' : ListenSockets) : Prop where
  socketTable : s'.socketTable = s.socketTable
  fListenSocketsOnEpoll : s'.fListenSocketsOnEpoll = s.fListenSocketsOnEpoll
  epollfd : s'.spPolling.epollfd = s.spPolling.epollfd

theorem SameTable.refl (s : ListenSockets) : s.SameTable s := ⟨rfl, rfl, rfl⟩

theorem setListenSockets_sameTable (s : ListenSockets) (fEnable : Bool)
    (ctl : SocketRole → EpollCtl) (roles : List SocketRole) :
    s.SameTable ((setListenSockets fEnable ctl roles).after s) := by
  induction roles generalizing s with
  | nil => exact .refl s
  | cons role roles ih =>
    rcases setListenSockets_cons s fEnable ctl role roles with
      ⟨-, hrun⟩ | ⟨-, -, hrun⟩ | ⟨-, -, hr, hrun⟩
    · rw [Hr.after, hrun]
      exact ih s
    · rw [Hr.after, hrun]
      obtain ⟨htable, hflag, hepoll⟩ := ih (s.toggled role fEnable)
      exact ⟨htable, hflag, hepoll⟩
    · rw [(Hr.after_error hrun).1]
      exact .refl s

theorem registered_setListenSockets (hdistinct : s.Distinct) (hrole : role ∉ roles) :
    ((setListenSockets fEnable ctl roles).after s).registered role = s.registered role := by
  induction roles generalizing s with
  | nil => rfl
  | cons role' roles ih =>
    obtain ⟨hne, hroles⟩ := not_or.mp (List.mem_cons.not.mp hrole)
    rcases setListenSockets_cons s fEnable ctl role' roles with
      ⟨-, hrun⟩ | ⟨hlistens, -, hrun⟩ | ⟨-, -, hr, hrun⟩
    · rw [Hr.after, hrun]
      exact ih hdistinct hroles
    · rw [Hr.after, hrun, ← registered_toggled_of_ne hdistinct hlistens (Ne.symm hne)]
      exact ih hdistinct hroles
    · rw [(Hr.after_error hrun).1]

/-- The first role there is a socket for. -/
def firstListening (s : ListenSockets) (roles : List SocketRole) : Option SocketRole :=
  roles.find? fun role => decide (s.Listens role)

theorem SameTable.firstListening {s' : ListenSockets} (h : s.SameTable s')
    (roles : List SocketRole) : s'.firstListening roles = s.firstListening roles := by
  unfold ListenSockets.firstListening
  congr 1
  funext role
  exact decide_eq_decide.mpr (by rw [Listens, Listens, h.socketTable])

/-- A call for one socket is allowed whether or not another one was toggled before. -/
theorem allowed_toggled (hdistinct : s.Distinct) {role' : SocketRole} (hlistens : s.Listens role)
    (hne : role ≠ role') {ctl : EpollCtl} :
    (s.toggled role fEnable).Allowed fEnable role' ctl ↔ s.Allowed fEnable role' ctl := by
  rw [Allowed, registered_toggled_of_ne hdistinct hlistens hne]
  rfl

/-- The loop gets through if every call is allowed, and then every socket is as it should be. -/
theorem setListenSockets_ok (hdistinct : s.Distinct) (hnodup : roles.Nodup)
    (h : ∀ role ∈ roles, s.Listens role → s.Allowed fEnable role (ctl role)) :
    ∃ s', setListenSockets fEnable ctl roles s = .ok () s' ∧
      ∀ role ∈ roles, s.Listens role → s'.registered role = fEnable := by
  induction roles generalizing s with
  | nil => exact ⟨s, rfl, List.forall_mem_nil _⟩
  | cons role roles ih =>
    obtain ⟨hrole, hnodup⟩ := List.nodup_cons.mp hnodup
    obtain ⟨hhead, htail⟩ := List.forall_mem_cons.mp h
    rcases setListenSockets_cons s fEnable ctl role roles with
      ⟨hlistens, hrun⟩ | ⟨hlistens, -, hrun⟩ | ⟨hlistens, hrefused, -⟩
    · obtain ⟨s', hok, hregistered⟩ := ih hdistinct hnodup htail
      exact ⟨s', hrun.trans hok, List.forall_mem_cons.mpr ⟨fun hl => absurd hl hlistens, hregistered⟩⟩
    · have hallowed : ∀ role' ∈ roles, s.Listens role' →
          (s.toggled role fEnable).Allowed fEnable role' (ctl role') := by
        intro role' hmem hl
        have hne : role ≠ role' := fun heq => hrole (heq ▸ hmem)
        exact (allowed_toggled hdistinct hlistens hne).mpr (htail role' hmem hl)
      have hdistinct' : (s.toggled role fEnable).Distinct := hdistinct
      obtain ⟨s', hok, hregistered⟩ := ih hdistinct' hnodup hallowed
      have hsame : ((setListenSockets fEnable ctl roles).after _).registered role = _ :=
        registered_setListenSockets hdistinct' hrole
      rw [(Hr.after_ok hok).1, registered_toggled_self] at hsame
      exact ⟨s', hrun.trans hok, List.forall_mem_cons.mpr ⟨fun _ => hsame, hregistered⟩⟩
    · exact absurd (hhead hlistens) hrefused

/-- It gets through only then. -/
theorem allowed_of_setListenSockets (hdistinct : s.Distinct) (hnodup : roles.Nodup)
    {s' : ListenSockets} (h : setListenSockets fEnable ctl roles s = .ok () s') :
    ∀ role ∈ roles, s.Listens role → s.Allowed fEnable role (ctl role) := by
  induction roles generalizing s with
  | nil => exact List.forall_mem_nil _
  | cons role roles ih =>
    obtain ⟨hrole, hnodup⟩ := List.nodup_cons.mp hnodup
    rw [List.forall_mem_cons]
    rcases setListenSockets_cons s fEnable ctl role roles with
      ⟨hlistens, hrun⟩ | ⟨hlistens, hallowed, hrun⟩ | ⟨-, -, hr, hrun⟩
    · exact ⟨fun hl => absurd hl hlistens, ih hdistinct hnodup (hrun.symm.trans h)⟩
    · refine ⟨fun _ => hallowed, fun role' hmem hl => ?_⟩
      have hne : role ≠ role' := fun heq => hrole (heq ▸ hmem)
      have hdistinct' : (s.toggled role fEnable).Distinct := hdistinct
      exact (allowed_toggled hdistinct hlistens hne).mp
        (ih hdistinct' hnodup (hrun.symm.trans h) role' hmem hl)
    · rw [hrun] at h
      cases h

/-- A loop that does not get through has left everything as it was, because the call for the
first socket failed, or it has left the first socket as it should become. -/
theorem setListenSockets_failed (hdistinct : s.Distinct) (hnodup : roles.Nodup) {hr : HRESULT}
    {s' : ListenSockets} (h : setListenSockets fEnable ctl roles s = .error hr s') :
    ∃ role, s.firstListening roles = some role ∧
      ((s' = s ∧ ¬s.Allowed fEnable role (ctl role)) ∨
        (s.Allowed fEnable role (ctl role) ∧ s'.registered role = fEnable)) := by
  induction roles with
  | nil => cases h
  | cons role roles ih =>
    obtain ⟨hrole, hnodup⟩ := List.nodup_cons.mp hnodup
    rcases setListenSockets_cons s fEnable ctl role roles with
      ⟨hlistens, hrun⟩ | ⟨hlistens, hallowed, hrun⟩ | ⟨hlistens, hrefused, hr', hrun⟩
    · rw [firstListening, List.find?_cons_of_neg (by simpa using hlistens)]
      exact ih hnodup (hrun.symm.trans h)
    · rw [firstListening, List.find?_cons_of_pos (by simpa using hlistens)]
      have hdistinct' : (s.toggled role fEnable).Distinct := hdistinct
      have hsame : ((setListenSockets fEnable ctl roles).after _).registered role = _ :=
        registered_setListenSockets hdistinct' hrole
      rw [(Hr.after_error (hrun.symm.trans h)).1, registered_toggled_self] at hsame
      exact ⟨role, rfl, .inr ⟨hallowed, hsame⟩⟩
    · rw [firstListening, List.find?_cons_of_pos (by simpa using hlistens)]
      rw [hrun] at h
      injection h with _ hs
      exact ⟨role, rfl, .inl ⟨hs.symm, hrefused⟩⟩

/-- The loop ends at the first socket if its call is not allowed. -/
theorem setListenSockets_first (hfirst : s.firstListening roles = some role)
    (h : ¬s.Allowed fEnable role (ctl role)) :
    ∃ hr, setListenSockets fEnable ctl roles s = .error hr s := by
  induction roles with
  | nil => cases hfirst
  | cons role' roles ih =>
    rw [firstListening] at hfirst
    rcases setListenSockets_cons s fEnable ctl role' roles with
      ⟨hlistens, hrun⟩ | ⟨hlistens, hallowed, -⟩ | ⟨-, -, hr, hrun⟩
    · rw [List.find?_cons_of_neg (by simpa using hlistens)] at hfirst
      obtain ⟨hr, herr⟩ := ih hfirst
      exact ⟨hr, hrun.trans herr⟩
    · rw [List.find?_cons_of_pos (by simpa using hlistens), Option.some.injEq] at hfirst
      exact absurd (hfirst ▸ hallowed) h
    · exact ⟨hr, hrun⟩

/-! ### The whole call -/

theorem setListenSocketsOnEpoll_same (h : fEnable = s.fListenSocketsOnEpoll) :
    setListenSocketsOnEpoll fEnable ctl s = .ok () s := by
  rw [setListenSocketsOnEpoll, Hr.bind_ok (Hr.get_apply s), if_neg (not_not.mpr h)]
  rfl

theorem setListenSocketsOnEpoll_ok (h : fEnable ≠ s.fListenSocketsOnEpoll) {s' : ListenSockets}
    (hrun : setListenSockets fEnable ctl CTCPStunThread.roles s = .ok () s') :
    setListenSocketsOnEpoll fEnable ctl s =
      .ok () { s' with fListenSocketsOnEpoll := fEnable } := by
  rw [setListenSocketsOnEpoll, Hr.bind_ok (Hr.get_apply s), if_pos h, Hr.bind_ok hrun]
  rfl

theorem setListenSocketsOnEpoll_error (h : fEnable ≠ s.fListenSocketsOnEpoll)
    {s' : ListenSockets} {hr : HRESULT}
    (hrun : setListenSockets fEnable ctl CTCPStunThread.roles s = .error hr s') :
    setListenSocketsOnEpoll fEnable ctl s = .error hr s' := by
  rw [setListenSocketsOnEpoll, Hr.bind_ok (Hr.get_apply s), if_pos h, Hr.bind_error hrun]

/-- A call that fails has been through the loop, and has failed there. -/
theorem setListenSocketsOnEpoll_failed
    (h : (setListenSocketsOnEpoll fEnable ctl).succeeds s = false) :
    fEnable ≠ s.fListenSocketsOnEpoll ∧
      ∃ hr, setListenSockets fEnable ctl CTCPStunThread.roles s =
        .error hr ((setListenSocketsOnEpoll fEnable ctl).after s) := by
  by_cases hsame : fEnable = s.fListenSocketsOnEpoll
  · rw [(Hr.after_ok (setListenSocketsOnEpoll_same hsame)).2] at h
    cases h
  · refine ⟨hsame, ?_⟩
    cases hrun : setListenSockets fEnable ctl CTCPStunThread.roles s with
    | ok a s' =>
      rw [(Hr.after_ok (setListenSocketsOnEpoll_ok hsame hrun)).2] at h
      cases h
    | error hr s' =>
      rw [(Hr.after_error (setListenSocketsOnEpoll_error hsame hrun)).1]
      exact ⟨hr, rfl⟩

/-! ### The thread -/

/-- The members of a thread that are about the listening sockets. -/
structure Viewed (s : ListenSockets) (thread : CTCPStunThread) : Prop where
  spPolling : thread.spPolling = s.spPolling.view
  fListenSocketsOnEpoll : thread.fListenSocketsOnEpoll = s.fListenSocketsOnEpoll
  socketTable : thread.socketTable = s.socketTable

/-- `Add` or `Remove`, as the threads look at the instance. -/
def viewToggle (s : ListenSockets) (fEnable : Bool) (role : SocketRole) (ctl : EpollCtl) :
    Bool × StunServer.CEpoll :=
  if fEnable then s.spPolling.view.add (s.socketTable role) (!ctl.fRefused)
  else s.spPolling.view.remove (s.socketTable role)

theorem viewToggle_allowed (hlistens : s.Listens role) {ctl : EpollCtl}
    (h : s.Allowed fEnable role ctl) :
    s.viewToggle fEnable role ctl = (true, (s.toggled role fEnable).spPolling.view) := by
  obtain ⟨-, hregistered, hctl⟩ := h
  have hview := CEpoll.view_update s.spPolling (s.socketTable role) (listenFlags fEnable)
  rw [listenFlags_isSome] at hview
  have hin : s.spPolling.view.interest (s.socketTable role) = !fEnable := hregistered
  rw [viewToggle]
  cases fEnable with
  | true =>
    rw [if_pos rfl, StunServer.CEpoll.add, if_neg (by simp [hin, hctl]; exact hlistens)]
    exact congrArg (Prod.mk true) hview.symm
  | false =>
    rw [if_neg Bool.false_ne_true, StunServer.CEpoll.remove, if_neg (by simp [hin]; exact hlistens)]
    exact congrArg (Prod.mk true) hview.symm

theorem viewToggle_refused (hepoll : s.spPolling.epollfd ≠ -1) {ctl : EpollCtl}
    (hremove : fEnable = false → ctl.fRefused = false) (h : ¬s.Allowed fEnable role ctl) :
    s.viewToggle fEnable role ctl = (false, s.spPolling.view) := by
  have hcase : s.spPolling.view.interest (s.socketTable role) = !fEnable → ctl.fRefused = true :=
    fun hin => Bool.eq_true_of_not_eq_false fun hctl => h ⟨hepoll, hin, hctl⟩
  rw [viewToggle]
  cases fEnable with
  | true =>
    rw [if_pos rfl, StunServer.CEpoll.add, if_pos (by grind)]
  | false =>
    rw [if_neg Bool.false_ne_true, StunServer.CEpoll.remove, if_pos (by grind)]

/-- The threads' loop is this one, seen through the set of descriptors. -/
theorem view_setListenSockets (hepoll : s.spPolling.epollfd ≠ -1) {fAdded : Int → Bool}
    (hadded : ∀ role, s.Listens role → fAdded (s.socketTable role) = !(ctl role).fRefused)
    (hremove : fEnable = false → ∀ role, (ctl role).fRefused = false) (roles : List SocketRole) :
    CTCPStunThread.setListenSockets fEnable fAdded (roles.map s.socketTable) s.spPolling.view =
      ((setListenSockets fEnable ctl roles).succeeds s,
        ((setListenSockets fEnable ctl roles).after s).spPolling.view) := by
  induction roles generalizing s with
  | nil => rfl
  | cons role roles ih =>
    rw [List.map_cons, CTCPStunThread.setListenSockets]
    rcases setListenSockets_cons s fEnable ctl role roles with
      ⟨hlistens, hrun⟩ | ⟨hlistens, hallowed, hrun⟩ | ⟨hlistens, hrefused, hr, hrun⟩
    · rw [if_pos (not_not.mp hlistens), Hr.succeeds, Hr.after, hrun]
      exact ih hepoll hadded
    · have hview := viewToggle_allowed hlistens hallowed
      rw [viewToggle, ← hadded role hlistens] at hview
      rw [if_neg hlistens, Hr.succeeds, Hr.after, hrun, hview]
      exact ih (s := s.toggled role fEnable) hepoll hadded
    · have hview := viewToggle_refused hepoll (fun hf => hremove hf role) hrefused
      rw [viewToggle, ← hadded role hlistens] at hview
      rw [if_neg hlistens, (Hr.after_error hrun).1, (Hr.after_error hrun).2, hview]
      rfl

theorem Viewed.setListenSocketsOnEpoll {thread : CTCPStunThread} (h : s.Viewed thread)
    (hepoll : s.spPolling.epollfd ≠ -1) {fAdded : Int → Bool}
    (hadded : ∀ role, s.Listens role → fAdded (s.socketTable role) = !(ctl role).fRefused)
    (hremove : fEnable = false → ∀ role, (ctl role).fRefused = false) :
    ((ListenSockets.setListenSocketsOnEpoll fEnable ctl).after s).Viewed
      (thread.setListenSocketsOnEpoll fEnable fAdded) := by
  have hview := view_setListenSockets hepoll hadded hremove CTCPStunThread.roles
  have hsame := setListenSockets_sameTable s fEnable ctl CTCPStunThread.roles
  rw [CTCPStunThread.setListenSocketsOnEpoll, h.fListenSocketsOnEpoll, h.spPolling, h.socketTable,
    hview]
  by_cases hflag : fEnable = s.fListenSocketsOnEpoll
  · rw [if_pos hflag, (Hr.after_ok (setListenSocketsOnEpoll_same hflag)).1]
    exact h
  · rw [if_neg hflag]
    cases hrun : setListenSockets fEnable ctl CTCPStunThread.roles s with
    | ok a s' =>
      rw [(Hr.after_ok hrun).1] at hsame ⊢
      rw [(Hr.after_ok hrun).2, (Hr.after_ok (setListenSocketsOnEpoll_ok hflag hrun)).1]
      exact ⟨rfl, rfl, hsame.socketTable.symm⟩
    | error hr s' =>
      rw [(Hr.after_error hrun).1] at hsame ⊢
      rw [(Hr.after_error hrun).2, (Hr.after_error (setListenSocketsOnEpoll_error hflag hrun)).1]
      exact ⟨rfl, hsame.fListenSocketsOnEpoll.symm, hsame.socketTable.symm⟩

end StunServer.Polling.ListenSockets

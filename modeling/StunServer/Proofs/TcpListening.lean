import StunServer.Proofs.TcpDescriptors
import StunServer.Lib.Log

/-! The listening sockets of a TCP thread: when they are in the set of the polling instance, and
which of their events come up nevertheless when they are not. -/

namespace StunServer

/-! ### Switching them on and off -/

namespace CEpoll

variable {poll : CEpoll} {fd : Int} {fAdded : Bool}

theorem add_fetched (poll : CEpoll) (fd : Int) (fAdded : Bool) :
    (poll.add fd fAdded).2.events = poll.events := by
  unfold add
  split_ifs <;> rfl

theorem remove_fetched (poll : CEpoll) (fd : Int) : (poll.remove fd).2.events = poll.events := by
  unfold remove
  split_ifs <;> rfl

theorem interest_of_add (h : (poll.add fd fAdded).1 = true) :
    (poll.add fd fAdded).2.interest fd = true := by
  unfold add at h ⊢
  split_ifs at h ⊢
  exact Function.update_self ..

theorem remove_of_interest (hfd : fd ≠ -1) (hin : poll.interest fd = true) :
    poll.remove fd = (true, { poll with interest := Function.update poll.interest fd false }) :=
  if_neg (by simp [hfd, hin])

end CEpoll

namespace CTCPStunThread

section

variable {fEnable : Bool} {fAdded : Int → Bool} {socks : List Int} {poll : CEpoll}

/-- Whatever is done to the set, the events that were fetched stay. -/
theorem setListenSockets_fetched (fEnable : Bool) (fAdded : Int → Bool) (socks : List Int)
    (poll : CEpoll) : (setListenSockets fEnable fAdded socks poll).2.events = poll.events := by
  induction socks generalizing poll with
  | nil => rfl
  | cons sock socks ih =>
    rw [setListenSockets]
    by_cases hnone : sock = -1
    · rw [if_pos hnone]
      exact ih poll
    rw [if_neg hnone]
    cases fEnable with
    | false =>
      rw [if_neg Bool.false_ne_true]
      dsimp only
      split_ifs
      · exact (ih _).trans (poll.remove_fetched sock)
      · exact poll.remove_fetched sock
    | true =>
      rw [if_pos rfl]
      dsimp only
      split_ifs
      · exact (ih _).trans (poll.add_fetched sock _)
      · exact poll.add_fetched sock _

theorem setListenSockets_grows {fd : Int} (h : poll.interest fd = true) :
    (setListenSockets true fAdded socks poll).2.interest fd = true := by
  induction socks generalizing poll with
  | nil => exact h
  | cons sock socks ih =>
    rw [setListenSockets]
    dsimp only
    rw [if_pos rfl]
    split_ifs
    · exact ih h
    · exact ih (interest_add h)
    · exact interest_add h

/-- Once they are all switched on, they are all in the set. -/
theorem setListenSockets_on (h : (setListenSockets true fAdded socks poll).1 = true) :
    ∀ fd ∈ socks, fd ≠ -1 →
      (setListenSockets true fAdded socks poll).2.interest fd = true := by
  induction socks generalizing poll with
  | nil => simp
  | cons sock socks ih =>
    rw [setListenSockets] at h ⊢
    dsimp only at h ⊢
    rw [if_pos rfl] at h ⊢
    intro fd hfd hne
    split_ifs at h ⊢ with hnone hadded
    · rcases List.mem_cons.mp hfd with rfl | hrest
      · exact absurd hnone hne
      · exact ih h fd hrest hne
    · rcases List.mem_cons.mp hfd with rfl | hrest
      · exact setListenSockets_grows (CEpoll.interest_of_add hadded)
      · exact ih h fd hrest hne

theorem setListenSockets_off_other {fd : Int} (hfd : fd ∉ socks) :
    (setListenSockets false fAdded socks poll).2.interest fd = poll.interest fd := by
  induction socks generalizing poll with
  | nil => rfl
  | cons sock socks ih =>
    rw [List.mem_cons, not_or] at hfd
    rw [setListenSockets]
    dsimp only
    rw [if_neg Bool.false_ne_true]
    split_ifs
    · exact ih hfd.2
    · exact (ih hfd.2).trans (interest_remove_of_ne hfd.1)
    · exact interest_remove_of_ne hfd.1

/-- When they are all in the set, they can be switched off. -/
theorem setListenSockets_off (hin : ∀ fd ∈ socks, fd ≠ -1 → poll.interest fd = true)
    (hnodup : (socks.filter fun fd => fd ≠ -1).Nodup) :
    (setListenSockets false fAdded socks poll).1 = true ∧ ∀ fd ∈ socks, fd ≠ -1 →
      (setListenSockets false fAdded socks poll).2.interest fd = false := by
  induction socks generalizing poll with
  | nil => exact ⟨rfl, by simp⟩
  | cons sock socks ih =>
    rw [setListenSockets]
    by_cases hnone : sock = -1
    · rw [if_pos hnone]
      rw [List.filter_cons_of_neg (by simp [hnone])] at hnodup
      obtain ⟨hdone, hoff⟩ := ih (fun fd hfd => hin fd (List.mem_cons_of_mem _ hfd)) hnodup
      refine ⟨hdone, fun fd hfd hne => ?_⟩
      rcases List.mem_cons.mp hfd with rfl | hrest
      · exact absurd hnone hne
      · exact hoff fd hrest hne
    · rw [List.filter_cons_of_pos (by simp [hnone]), List.nodup_cons] at hnodup
      have hfresh : sock ∉ socks := fun hmem =>
        hnodup.1 (List.mem_filter.mpr ⟨hmem, by simp [hnone]⟩)
      rw [if_neg hnone, if_neg Bool.false_ne_true,
        CEpoll.remove_of_interest hnone (hin sock List.mem_cons_self hnone)]
      dsimp only
      rw [if_pos rfl]
      set poll₁ : CEpoll := { poll with interest := Function.update poll.interest sock false }
      have hin₁ : ∀ fd ∈ socks, fd ≠ -1 → poll₁.interest fd = true := by
        intro fd hfd hne
        have hother : fd ≠ sock := fun he => hfresh (he ▸ hfd)
        exact (Function.update_of_ne hother _ _).trans (hin fd (List.mem_cons_of_mem _ hfd) hne)
      obtain ⟨hdone, hoff⟩ := ih hin₁ hnodup.2
      refine ⟨hdone, fun fd hfd hne => ?_⟩
      rcases List.mem_cons.mp hfd with rfl | hrest
      · rw [setListenSockets_off_other hfresh]
        exact Function.update_self ..
      · exact hoff fd hrest hne

end

variable {kept : Int → Prop} {thread : CTCPStunThread}

theorem mem_roles (role : SocketRole) : role ∈ roles := by
  cases role <;> decide

theorem ListensApart.nodup (h : thread.ListensApart) :
    ((roles.map thread.socketTable).filter fun fd => fd ≠ -1).Nodup := by
  have hroles : roles.Nodup := by decide
  rw [List.filter_map]
  refine List.Nodup.map_on (fun role hrole role' _ he => h role role' ?_ he) (hroles.filter _)
  simpa using (List.mem_filter.mp hrole).2

theorem getListenSocket_isSome_iff (thread : CTCPStunThread) (fd : Int) :
    (thread.getListenSocket fd).isSome = true ↔ fd ≠ -1 ∧ ∃ role, thread.socketTable role = fd := by
  unfold getListenSocket
  split_ifs with hnone
  · simp [hnone]
  · simp [hnone, mem_roles]

/-! ### The set in a run -/

/-- The listening sockets are kept, are different ones, and are all in the set when they are
switched on. -/
structure Running.Attends (kept : Int → Prop) (s : Running) : Prop where
  settled : s.Settled kept
  kept : ∀ role, s.thread.socketTable role ≠ -1 → kept (s.thread.socketTable role)
  apart : s.thread.ListensApart
  added : s.thread.fListenSocketsOnEpoll = true → ∀ role, s.thread.socketTable role ≠ -1 →
    s.thread.spPolling.interest (s.thread.socketTable role) = true

/-- A wait asks for the listening sockets as the count tells it to, and takes an event. -/
theorem wait_thread (thread : CTCPStunThread) (turn : Turn) : (thread.wait turn).thread =
    let thread := thread.setListenSocketsOnEpoll (!thread.isConnectionCountAtMax) turn.fListenAdded
    { thread with spPolling := (thread.spPolling.waitForNextEvent turn.ready).2 } := by
  unfold wait
  dsimp only
  split_ifs
  · rfl
  · split <;> rfl

/-- What the wait comes back with. -/
def heard (thread : CTCPStunThread) (turn : Turn) : Option Int :=
  ((thread.setListenSocketsOnEpoll (!thread.isConnectionCountAtMax)
    turn.fListenAdded).spPolling.waitForNextEvent turn.ready).1

theorem setListenSocketsOnEpoll_frame (thread : CTCPStunThread) (fEnable : Bool)
    (fAdded : Int → Bool) : ∃ poll fListen, thread.setListenSocketsOnEpoll fEnable fAdded =
      { thread with spPolling := poll, fListenSocketsOnEpoll := fListen } ∧
        poll.events = thread.spPolling.events := by
  unfold setListenSocketsOnEpoll
  split_ifs
  · exact ⟨_, _, rfl, rfl⟩
  · exact ⟨(setListenSockets fEnable fAdded (roles.map thread.socketTable) thread.spPolling).2, _,
      rfl, setListenSockets_fetched ..⟩

theorem wait_point_event (thread : CTCPStunThread) (turn : Turn) (fd : Int) :
    (thread.wait turn).point = .event fd ↔
      turn.fNeedToExitThen = false ∧ fd ≠ thread.pipe ∧ thread.heard turn = some fd := by
  obtain ⟨poll, fListen, hset, -⟩ := thread.setListenSocketsOnEpoll_frame
    (!thread.isConnectionCountAtMax) turn.fListenAdded
  unfold wait heard
  rw [hset]
  dsimp only
  cases hevent : (poll.waitForNextEvent turn.ready).1 with
  | none =>
    split_ifs <;> simp
  | some fd' =>
    rw [Option.getD_some]
    split_ifs with hexit
    · refine iff_of_false (by simp) ?_
      rintro ⟨hgo, hpipe, he⟩
      cases he
      rcases hexit with hexit | hexit
      · rw [hgo] at hexit
        cases hexit
      · exact hpipe hexit
    · rw [not_or] at hexit
      constructor
      · rintro ⟨⟩
        exact ⟨Bool.eq_false_of_not_eq_true hexit.1, hexit.2, rfl⟩
      · rintro ⟨-, -, he⟩
        cases he
        rfl

/-- When the tables are at the limit, a listening socket is heard of just if its event is left
over, or the socket. -/
theorem Running.Attends.heard_iff {s : Running} (h : s.Attends kept)
    (hmax : s.thread.isConnectionCountAtMax = true) {turn : Turn} {fd : Int}
    (hlisten : (s.thread.getListenSocket fd).isSome = true) :
    s.thread.heard turn = some fd ↔ s.thread.spPolling.events.head? = some fd ∨
      s.thread.spPolling.events = [] ∧ s.thread.fListenSocketsOnEpoll = false ∧
        ((turn.ready.filter fun fd => s.thread.spPolling.interest fd).take
          s.thread.spPolling.sizeEvents).head? = some fd := by
  obtain ⟨hfd, role, hrole⟩ := (getListenSocket_isSome_iff _ fd).mp hlisten
  obtain ⟨poll, fListen, hset, hevents⟩ :=
    s.thread.setListenSocketsOnEpoll_frame false turn.fListenAdded
  have hheard : s.thread.heard turn = (poll.waitForNextEvent turn.ready).1 := by
    rw [heard, hmax, Bool.not_true, hset]
  rw [hheard, CEpoll.waitForNextEvent]
  dsimp only
  rw [hevents]
  by_cases hempty : s.thread.spPolling.events = []
  · rw [if_pos hempty, hempty]
    cases hflag : s.thread.fListenSocketsOnEpoll with
    | false =>
      have hsame : poll = s.thread.spPolling := by
        rw [setListenSocketsOnEpoll, if_pos hflag.symm] at hset
        exact (congrArg spPolling hset).symm
      simp [hsame]
    | true =>
      have hoff : poll.interest fd = false := by
        have hpoll : poll = (setListenSockets false turn.fListenAdded
            (roles.map s.thread.socketTable) s.thread.spPolling).2 := by
          rw [setListenSocketsOnEpoll, if_neg (by rw [hflag]; decide)] at hset
          exact (congrArg spPolling hset).symm
        rw [hpoll]
        refine (setListenSockets_off ?_ h.apart.nodup).2 fd
          (List.mem_map.mpr ⟨role, mem_roles role, hrole⟩) hfd
        intro fd' hfd' hne
        obtain ⟨role', -, rfl⟩ := List.mem_map.mp hfd'
        exact h.added hflag role' hne
      refine iff_of_false (fun he => ?_) (by simp)
      have hmem := List.mem_of_mem_take (List.mem_of_mem_head? he)
      rw [List.mem_filter, hoff] at hmem
      exact absurd hmem.2 Bool.false_ne_true
  · rw [if_neg hempty]
    simp [hempty]

section

variable {D : Digests} {s s' : Running} {turn : Turn}

theorem Running.Settled.socketTable (h : s.Settled kept)
    (hfresh : turn.accepted.IsFresh s.thread) (hstep : s.step D turn = some s') :
    s'.thread.socketTable = s.thread.socketTable := by
  by_cases htop : s.point = .top
  · rw [Running.step, htop] at hstep
    obtain rfl := Option.some.inj hstep
    split_ifs
    · rfl
    · obtain ⟨poll, fListen, hset, -⟩ := s.thread.setListenSocketsOnEpoll_frame
        (!s.thread.isConnectionCountAtMax) turn.fListenAdded
      rw [wait_thread, hset]
  · obtain ⟨s'', hrun, -, -, hspares, -⟩ := h.step D hfresh
    obtain rfl := Option.some.inj (hrun.symm.trans hstep)
    exact (hspares htop).socketTable

/-- The step lemma: only the wait switches the listening sockets on or off, and it says so. -/
theorem Running.Attends.step (h : s.Attends kept) (hfresh : turn.accepted.IsFresh s.thread)
    (hstep : s.step D turn = some s') : s'.Attends kept := by
  have htable := h.settled.socketTable hfresh hstep
  obtain ⟨s'', hrun, hsettled, -, hspares, -⟩ := h.settled.step D hfresh
  obtain rfl := Option.some.inj (hrun.symm.trans hstep)
  refine ⟨hsettled, htable ▸ h.kept, fun role role' => ?_, ?_⟩
  · rw [htable]
    exact h.apart role role'
  rw [htable]
  by_cases htop : s.point = .top
  · rw [Running.step, htop] at hstep
    obtain rfl := Option.some.inj hstep
    split_ifs
    · exact h.added
    · rw [wait_thread]
      dsimp only [CEpoll.waitForNextEvent]
      generalize (!s.thread.isConnectionCountAtMax) = fEnable
      unfold setListenSocketsOnEpoll
      split_ifs with hsame
      · exact h.added
      dsimp only
      intro hflag role hne
      have hmem := List.mem_map_of_mem (mem_roles role) (f := s.thread.socketTable)
      cases fEnable with
      | true =>
        split_ifs at hflag with hdone
        · exact setListenSockets_on hdone _ hmem hne
        · exact absurd hflag.symm hsame
      | false =>
        have hin : ∀ fd ∈ roles.map s.thread.socketTable, fd ≠ -1 →
            s.thread.spPolling.interest fd = true := by
          intro fd hfd hne'
          obtain ⟨role', -, rfl⟩ := List.mem_map.mp hfd
          exact h.added (Bool.eq_true_of_not_eq_false (Ne.symm hsame)) role' hne'
        rw [if_pos (setListenSockets_off hin h.apart.nodup).1] at hflag
        cases hflag
  · have hspared := hspares htop
    intro hflag role hne
    rw [hspared.fListenSocketsOnEpoll] at hflag
    exact hspared.interest _ (h.kept role hne) (h.added hflag role hne)

end

theorem init_listening {tsaListen tsaHandler : TransportAddressSet} {pAuth : Option IStunAuth}
    {maxConnections : ℤ} {sockets : SocketRole → Int} {pipe : Int} {time : ℤ}
    (h : init tsaListen tsaHandler pAuth maxConnections sockets pipe time = .ok thread) :
    Running.Settled (fun fd => thread.isOpen fd = true) ⟨.top, thread⟩ ∧
      ∀ role, thread.socketTable role ≠ -1 → thread.isOpen (thread.socketTable role) = true ∧
        thread.spPolling.interest (thread.socketTable role) = true := by
  have hcount : thread.connectionpool.count = 0 := by
    unfold init at h
    dsimp only at h
    split_ifs at h <;> cases h <;> rfl
  refine ⟨⟨⟨_, _, init_booked h, fun p => RunPoint.noConfusion⟩, ?_, RunPoint.noConfusion⟩,
    fun role hne => ?_⟩
  · have hnone : ∀ p, ¬p < thread.connectionpool.count := by simp [hcount]
    exact ⟨fun fd => by simp [hcount], fun p hp => absurd hp (hnone p),
      fun p hp => absurd hp (hnone p)⟩
  · unfold init at h
    dsimp only at h
    split_ifs at h <;> cases h <;> simp [mem_roles, hne]

variable {D : Digests} {past : List (Running × Turn)} {s : Running}

theorem Run.settled (h : Run D past s) : ∃ kept, s.Settled kept := by
  induction h with
  | start h => exact ⟨_, (init_listening h).1⟩
  | step h hfresh hstep ih =>
    obtain ⟨kept, hs⟩ := ih
    obtain ⟨s'', hrun, hsettled, -⟩ := hs.step D hfresh
    obtain rfl := Option.some.inj (hrun.symm.trans hstep)
    exact ⟨kept, hsettled⟩

/-- The run lemma. -/
theorem Run.attends (h : Run D past s) (hapart : s.thread.ListensApart) :
    ∃ kept, s.Attends kept := by
  induction h with
  | start h =>
    obtain ⟨hsettled, hlisten⟩ := init_listening h
    exact ⟨_, hsettled, fun role hne => (hlisten role hne).1, hapart,
      fun _ role hne => (hlisten role hne).2⟩
  | step h hfresh hstep ih =>
    obtain ⟨kept', hs⟩ := h.settled
    have htable := hs.socketTable hfresh hstep
    obtain ⟨kept, hattends⟩ := ih fun role role' => by
      rw [← htable]
      exact hapart role role'
    exact ⟨kept, hattends.step hfresh hstep⟩

/-! ### What comes up at the limit -/

/-- An event is handed out by the wait of the pass it comes up in. -/
theorem top_of_event {s' : Running} {turn : Turn} {fd : Int} (hstep : s.step D turn = some s')
    (hpoint : s'.point = .event fd) : s.point = .top := by
  obtain ⟨point, thread⟩ := s
  cases point with
  | top => rfl
  | event fd' =>
    cases hstep
    unfold dispatch at hpoint
    cases hrole : thread.getListenSocket fd' with
    | none =>
      rw [hrole] at hpoint
      cases hpoint
    | some role =>
      rw [hrole] at hpoint
      dsimp only at hpoint
      split at hpoint <;> cases hpoint
  | accepted p =>
    cases hstep
    cases hpoint
  | sweep =>
    obtain ⟨thread', -, rfl⟩ := Option.map_eq_some_iff.mp hstep
    cases hpoint
  | cleanup =>
    obtain ⟨thread', -, rfl⟩ := Option.map_eq_some_iff.mp hstep
    cases hpoint
  | exited =>
    cases hstep
    cases hpoint

/-- At the limit, the step leads to an event of a listening socket just if such an event is left
over. -/
theorem Running.Attends.hears_iff (h : s.Attends kept) {s' : Running} {turn : Turn}
    (hstep : s.step D turn = some s') : (∃ fd, s.HearsAtLimit turn fd) ↔
      s.point = .top ∧ s'.thread.isConnectionCountAtMax = true ∧ s'.Listens := by
  by_cases htop : s.point = .top
  · rw [Running.step, htop] at hstep
    obtain rfl := Option.some.inj hstep
    by_cases hexit : turn.fNeedToExit = true
    · rw [if_pos hexit]
      refine iff_of_false ?_ ?_
      · rintro ⟨fd, hhears⟩
        rw [hhears.goesOn.1] at hexit
        cases hexit
      · rintro ⟨-, -, fd, hpoint, -⟩
        cases hpoint
    · rw [if_neg hexit]
      obtain ⟨poll, fListen, hset, -⟩ := s.thread.setListenSocketsOnEpoll_frame
        (!s.thread.isConnectionCountAtMax) turn.fListenAdded
      have hthread : (s.thread.wait turn).thread = { s.thread with
          spPolling := (poll.waitForNextEvent turn.ready).2, fListenSocketsOnEpoll := fListen } := by
        rw [wait_thread, hset]
      have hmax : (s.thread.wait turn).thread.isConnectionCountAtMax =
          s.thread.isConnectionCountAtMax := by
        rw [hthread]
        rfl
      have hlisten : ∀ fd, (s.thread.wait turn).thread.getListenSocket fd =
          s.thread.getListenSocket fd := by
        intro fd
        rw [hthread]
        rfl
      rw [hmax]
      constructor
      · rintro ⟨fd, hhears⟩
        obtain ⟨-, hgo, hpipe⟩ := hhears.goesOn
        refine ⟨htop, hhears.atMax, fd, ?_, (hlisten fd).symm ▸ hhears.listening⟩
        exact (wait_point_event _ _ fd).mpr
          ⟨hgo, hpipe, (h.heard_iff hhears.atMax hhears.listening).mpr hhears.event⟩
      · rintro ⟨-, hatMax, fd, hpoint, hsome⟩
        rw [hlisten] at hsome
        obtain ⟨hgo, hpipe, hheard⟩ := (wait_point_event _ _ fd).mp hpoint
        exact ⟨fd, htop, ⟨Bool.eq_false_of_not_eq_true hexit, hgo, hpipe⟩, hatMax, hsome,
          (h.heard_iff hatMax hsome).mp hheard⟩
  · refine iff_of_false ?_ fun hn => htop hn.1
    rintro ⟨fd, hhears⟩
    exact htop hhears.point

theorem Run.first (h : Run D [] s) : s.point = .top := by
  generalize hpast : ([] : List (Running × Turn)) = past at h
  cases h with
  | start _ => rfl
  | step _ _ _ => simp at hpast

/-- The steps of a run are steps of the thread, one after the other. -/
theorem Run.steps (h : Run D past s) {before later : List (Running × Turn)} {e : Running × Turn}
    (hpast : past = before ++ e :: later) : Run D before e.1 ∧ ∃ s', e.1.step D e.2 = some s' ∧
      (states later s).head? = some s' := by
  induction h generalizing later with
  | start h => simp at hpast
  | @step past s s' turn h hfresh hstep ih =>
    rcases Log.concat_eq_append_cons.mp hpast with ⟨rfl, rfl, rfl⟩ | ⟨later, rfl, rfl⟩
    · exact ⟨h, s', hstep, rfl⟩
    · obtain ⟨hrun, s₁, hone, hhead⟩ := ih rfl
      refine ⟨hrun, s₁, hone, ?_⟩
      rw [← hhead]
      cases later <;> rfl

theorem Run.socketTable_eq (h : Run D past s) {e : Running × Turn} (he : e ∈ past) :
    e.1.thread.socketTable = s.thread.socketTable := by
  induction h with
  | start h => cases he
  | step h hfresh hstep ih =>
    obtain ⟨kept, hs⟩ := h.settled
    rw [hs.socketTable hfresh hstep]
    rcases List.mem_append.mp he with hold | hnew
    · exact ih hold
    · rw [List.mem_singleton.mp hnew]

end CTCPStunThread
end StunServer

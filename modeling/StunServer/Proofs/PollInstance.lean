import StunServer.Proofs.PollSet
import StunServer.Core.TcpServer
import Mathlib.Data.Fintype.EquivFin

/-! The set of a `CEpoll`, and instances of either kind. -/

namespace StunServer.Polling

theorem outcome_ok_not_failed {σ : Type} (entries : List PollEntry) (s : σ) :
    FAILED (outcome entries (.ok () s)).1 = false := by
  change FAILED S_OK = false
  decide

/-! ### `CEpoll` -/

namespace CEpoll

variable {poll : CEpoll}

theorem control_cases (fd : Int) (ctl : EpollCtl) (fMember : Bool) (flags : Option UInt32)
    (poll : CEpoll) :
    (∃ hr, control fd ctl fMember flags poll = .error hr poll ∧ FAILED hr = true) ∨
      (fd ≠ -1 ∧ poll.epollfd ≠ -1 ∧ (poll.interest fd).isSome = fMember ∧
        ctl.fRefused = false ∧ control fd ctl fMember flags poll =
          .ok () { poll with interest := Function.update poll.interest fd flags }) := by
  rw [control, Hr.bind_ok (Hr.get_apply poll)]
  by_cases hfd : fd = -1
  · rw [Hr.bind_error (Hr.chkIf_true hfd E_INVALIDARG poll)]
    exact Or.inl ⟨_, rfl, by decide⟩
  rw [Hr.bind_ok (Hr.chkIf_false hfd E_INVALIDARG poll)]
  by_cases hepoll : poll.epollfd = -1
  · rw [Hr.bind_error (Hr.chkIf_true hepoll E_UNEXPECTED poll)]
    exact Or.inl ⟨_, rfl, by decide⟩
  rw [Hr.bind_ok (Hr.chkIf_false hepoll E_UNEXPECTED poll)]
  by_cases hctl : (poll.interest fd).isSome ≠ fMember ∨ ctl.fRefused = true
  · rw [Hr.bind_error (Hr.chkIf_true hctl (ERRNOHR ctl.errno) poll)]
    exact Or.inl ⟨_, rfl, CPoll.failed_ERRNOHR _⟩
  rw [Hr.bind_ok (Hr.chkIf_false hctl (ERRNOHR ctl.errno) poll)]
  obtain ⟨hin, hallowed⟩ := not_or.mp hctl
  exact Or.inr ⟨hfd, hepoll, not_not.mp hin, Bool.eq_false_iff.mpr hallowed, rfl⟩

theorem control_ok {fd : Int} {ctl : EpollCtl} {fMember : Bool} (flags : Option UInt32)
    (hfd : fd ≠ -1) (hepoll : poll.epollfd ≠ -1) (hin : (poll.interest fd).isSome = fMember)
    (hctl : ctl.fRefused = false) :
    control fd ctl fMember flags poll =
      .ok () { poll with interest := Function.update poll.interest fd flags } := by
  rw [control, Hr.bind_ok (Hr.get_apply poll), Hr.bind_ok (Hr.chkIf_false hfd E_INVALIDARG poll),
    Hr.bind_ok (Hr.chkIf_false hepoll E_UNEXPECTED poll),
    Hr.bind_ok (Hr.chkIf_false (by simp [hin, hctl]) (ERRNOHR ctl.errno) poll)]
  rfl

/-- A wait touches the events only. -/
theorem waitForNextEvent_keeps (pollEvent : PollEvent) (wait : EpollWait) (poll : CEpoll) :
    ((waitForNextEvent pollEvent wait).after poll).epollfd = poll.epollfd ∧
      ((waitForNextEvent pollEvent wait).after poll).interest = poll.interest := by
  unfold Hr.after waitForNextEvent takeEvent
  dsimp only
  split_ifs <;> exact ⟨rfl, rfl⟩

/-- The set is what the log says, and only a set that was created has anything in it. -/
structure Booked (created : Int) (log : List PollEntry) (poll : CEpoll) : Prop where
  epollfd : poll.epollfd = created
  interest : ∀ fd, poll.interest fd ≠ none ↔ fd ∈ registered log
  nodup : (registered log).Nodup
  created : ∀ fd ∈ registered log, fd ≠ -1 ∧ created ≠ -1

theorem booked_start (maxSockets : ℕ) (created : Int) :
    Booked created [] (create.initializeWith maxSockets created).2 := by
  refine ⟨?_, fun fd => ?_, List.nodup_nil, by simp [registered]⟩
  · rw [initializeWith]
    dsimp only
    split_ifs with h
    · exact h.symm
    · rfl
  · rw [initializeWith]
    dsimp only
    split_ifs <;> simp [close, registered]

namespace Booked

variable {created : Int} {log : List PollEntry} {fd : Int}

theorem isSome_iff (h : Booked created log poll) :
    (poll.interest fd).isSome = true ↔ fd ∈ registered log := by
  rw [← h.interest, Option.isSome_iff_ne_none]

theorem of_eq (h : Booked created log poll) {poll' : CEpoll}
    (hepollfd : poll'.epollfd = poll.epollfd) (hinterest : poll'.interest = poll.interest) :
    Booked created log poll' :=
  ⟨hepollfd.trans h.epollfd, fun fd => hinterest ▸ h.interest fd, h.nodup, h.created⟩

/-- Reports are not about the set. -/
theorem reported (h : Booked created log poll) {entries : List PollEntry}
    (hentries : entries = [] ∨ ∃ fd, entries = [.reported fd]) :
    Booked created (log ++ entries) poll := by
  rcases hentries with rfl | ⟨fd, rfl⟩
  · rwa [List.append_nil]
  · have hsame : registered (log ++ [.reported fd]) = registered log :=
      CPoll.registered_concat log _
    exact ⟨h.epollfd, fun fd' => hsame ▸ h.interest fd', hsame ▸ h.nodup,
      fun fd' hfd' => h.created fd' (hsame ▸ hfd')⟩

/-- `epoll_ctl` puts a descriptor in, or takes it out, or gives it other flags. -/
theorem control (h : Booked created log poll) (ctl : EpollCtl) (fMember : Bool)
    (flags : Option UInt32) (entries : List PollEntry)
    (hlog : (poll.interest fd).isSome = fMember → (registered (log ++ entries)).Nodup ∧
      ∀ fd', fd' ∈ registered (log ++ entries) ↔
        if fd' = fd then flags ≠ none else fd' ∈ registered log) :
    Booked created (log ++ (outcome entries (CEpoll.control fd ctl fMember flags poll)).2.1)
      (outcome entries (CEpoll.control fd ctl fMember flags poll)).2.2 := by
  rcases control_cases fd ctl fMember flags poll with
    ⟨hr, herr, -⟩ | ⟨hfd, hepoll, hin, -, hok⟩
  · rw [herr]
    change Booked created (log ++ []) poll
    rwa [List.append_nil]
  · obtain ⟨hnd, hmem⟩ := hlog hin
    rw [hok]
    change Booked created (log ++ entries)
      { poll with interest := Function.update poll.interest fd flags }
    refine ⟨h.epollfd, fun fd' => ?_, hnd, fun fd' hfd' => ?_⟩
    · rw [hmem]
      dsimp only
      rw [Function.update_apply]
      split_ifs
      · rfl
      · exact h.interest fd'
    · rw [hmem] at hfd'
      split_ifs at hfd' with hsame
      · rw [hsame]
        exact ⟨hfd, h.epollfd ▸ hepoll⟩
      · exact h.created fd' hfd'

theorem step (h : Booked created log poll) (op : PollOp) (sys : SystemCalls) :
    Booked created (log ++ (poll.step op sys).2.1) (poll.step op sys).2.2 := by
  cases op with
  | add fd eventflags =>
    refine h.control sys.ctl false _ [.added fd] fun hnew => ?_
    have hnot : fd ∉ registered log := fun hm => by simp [h.isSome_iff.mpr hm] at hnew
    rw [CPoll.registered_concat]
    refine ⟨List.nodup_append.mpr ⟨h.nodup, List.nodup_singleton fd, ?_⟩, fun fd' => ?_⟩
    · intro a ha b hb
      rw [List.mem_singleton.mp hb]
      exact fun hsame => hnot (hsame ▸ ha)
    · by_cases hsame : fd' = fd <;> simp [registerStep, hsame]
  | remove fd =>
    refine h.control sys.ctl true _ [.removed fd] fun _ => ?_
    rw [CPoll.registered_concat]
    refine ⟨h.nodup.erase fd, fun fd' => ?_⟩
    rw [registerStep, h.nodup.mem_erase_iff]
    by_cases hsame : fd' = fd <;> simp [hsame]
  | changeEventSet fd eventflags =>
    refine h.control sys.ctl true _ [] fun hin => ?_
    rw [List.append_nil]
    refine ⟨h.nodup, fun fd' => ?_⟩
    by_cases hsame : fd' = fd
    · simp [hsame, h.isSome_iff.mp hin]
    · simp [hsame]
  | waitForNextEvent pPollEvent =>
    obtain ⟨hepollfd, hinterest⟩ :=
      waitForNextEvent_keeps (pPollEvent.getD ⟨0, 0⟩) sys.wait poll
    rw [CEpoll.step]
    rw [Hr.after] at hepollfd hinterest
    rcases hrun : waitForNextEvent (pPollEvent.getD ⟨0, 0⟩) sys.wait poll with
      ⟨⟨hr, event⟩, poll'⟩ | ⟨hr, poll'⟩
    · rw [hrun] at hepollfd hinterest
      change Booked created (log ++ if hr = S_OK then [.reported event.fd] else []) poll'
      apply (h.of_eq hepollfd hinterest).reported
      split_ifs
      · exact Or.inr ⟨_, rfl⟩
      · exact Or.inl rfl
    · rw [hrun] at hepollfd hinterest
      exact (h.of_eq hepollfd hinterest).reported (Or.inl rfl)

end Booked

theorem outcome_control_failed {entries : List PollEntry} {fd : Int} {ctl : EpollCtl}
    {fMember : Bool} {flags : Option UInt32}
    (h : FAILED (outcome entries (control fd ctl fMember flags poll)).1 = true) :
    (outcome entries (control fd ctl fMember flags poll)).2.2 = poll := by
  rcases control_cases fd ctl fMember flags poll with ⟨hr, herr, -⟩ | ⟨-, -, -, -, hok⟩
  · rw [herr]
    rfl
  · rw [hok, outcome_ok_not_failed] at h
    cases h

theorem interest_of_failed {op : PollOp} {sys : SystemCalls}
    (h : FAILED (poll.step op sys).1 = true) :
    (poll.step op sys).2.2.interest = poll.interest := by
  cases op with
  | add fd eventflags => exact congrArg interest (outcome_control_failed h)
  | remove fd => exact congrArg interest (outcome_control_failed h)
  | changeEventSet fd eventflags => exact congrArg interest (outcome_control_failed h)
  | waitForNextEvent pPollEvent =>
    have hinterest := (waitForNextEvent_keeps (pPollEvent.getD ⟨0, 0⟩) sys.wait poll).2
    rw [CEpoll.step]
    rw [Hr.after] at hinterest
    rcases hrun : waitForNextEvent (pPollEvent.getD ⟨0, 0⟩) sys.wait poll with
      ⟨⟨hr, event⟩, poll'⟩ | ⟨hr, poll'⟩
    · rw [hrun] at hinterest
      exact hinterest
    · rw [hrun] at hinterest
      exact hinterest

/-- What is in the set can be taken out. -/
theorem Booked.canRemove {created : Int} {log : List PollEntry} {fd : Int}
    (h : Booked created log poll) (hin : fd ∈ registered log) :
    (IPolling.epoll poll).CanRemove fd := by
  obtain ⟨hfd, hcreated⟩ := h.created fd hin
  refine ⟨(h.interest fd).mpr hin, fun sys hctl => ⟨rfl, ?_⟩⟩
  have hok := control_ok none hfd (h.epollfd ▸ hcreated) (h.isSome_iff.mpr hin) hctl
  change (outcome [.removed fd] (CEpoll.control fd sys.ctl true none poll)).1 = S_OK
  rw [hok]
  rfl

theorem mem_registered_of_add {log : List PollEntry} {fd : Int} {eventflags : UInt32}
    {sys : SystemCalls} (hok : (poll.step (.add fd eventflags) sys).1 = S_OK) :
    fd ∈ registered (log ++ (poll.step (.add fd eventflags) sys).2.1) := by
  have hrun := control_cases fd sys.ctl false (some (toNativeFlags eventflags)) poll
  rw [step, add] at hok ⊢
  rcases hrun with ⟨hr, herr, hfailed⟩ | ⟨-, -, -, -, hadded⟩
  · rw [herr] at hok
    rw [show hr = S_OK from hok] at hfailed
    exact absurd hfailed (by decide)
  · rw [hadded]
    change fd ∈ registered (log ++ [.added fd])
    rw [CPoll.registered_concat]
    exact List.mem_append_right _ (List.mem_singleton_self fd)

/-- A set that was not created takes nothing. -/
theorem lawful_iff {created : Int} {log : List PollEntry} (h : Booked created log poll) :
    IPolling.Lawful log (.epoll poll) ↔ created ≠ -1 := by
  constructor
  · rintro hlaw rfl
    have hempty : 0 ∉ registered log := fun hm => (h.created 0 hm).2 rfl
    obtain ⟨-, hok⟩ := hlaw.accepts 0 0 .quiet hempty (by decide) rfl
    change (outcome [.added 0] (control 0 _ false _ poll)).1 = S_OK at hok
    rcases control_cases 0 SystemCalls.quiet.ctl false (some (toNativeFlags 0)) poll with
      ⟨hr, herr, hfailed⟩ | ⟨-, hepoll, -⟩
    · rw [herr] at hok
      rw [show hr = S_OK from hok] at hfailed
      exact absurd hfailed (by decide)
    · exact hepoll h.epollfd
  · intro hcreated
    have hepoll : poll.epollfd ≠ -1 := h.epollfd ▸ hcreated
    refine ⟨fun fd eventflags sys hnew hfd hctl => ⟨rfl, ?_⟩, fun fd eventflags sys _ hok => ?_,
      fun fd hin => h.canRemove hin, fun op sys fd _ hfailed => ?_⟩
    · have hnone : (poll.interest fd).isSome = false := by
        rw [← Bool.not_eq_true, h.isSome_iff]
        exact hnew
      have hok := control_ok (some (toNativeFlags eventflags)) hfd hepoll hnone hctl
      change (outcome [.added fd] (control fd sys.ctl false _ poll)).1 = S_OK
      rw [hok]
      rfl
    · exact (h.step (.add fd eventflags) sys).canRemove (mem_registered_of_add hok)
    · change (poll.step op sys).2.2.interest fd ≠ none ↔ poll.interest fd ≠ none
      rw [interest_of_failed hfailed]

/-! The threads of the server look at an instance as the set of its descriptors and the list of
the events that were fetched. -/

def view (poll : CEpoll) : StunServer.CEpoll where
  interest fd := (poll.interest fd).isSome
  sizeEvents := poll.sizeEvents
  events := (List.range' poll.currentEventIndex (poll.pendingCount - poll.currentEventIndex)).map
    fun i => (poll.events i).fd

theorem view_initializeWith (maxSockets : ℕ) {created : Int} (h : created ≠ -1) :
    (create.initializeWith maxSockets created).2.view = StunServer.CEpoll.create maxSockets := by
  rw [initializeWith]
  dsimp only
  rw [if_neg h]
  rfl

theorem view_update (poll : CEpoll) (fd : Int) (flags : Option UInt32) :
    view { poll with interest := Function.update poll.interest fd flags } =
      { poll.view with interest := Function.update poll.view.interest fd flags.isSome } := by
  simp only [view, StunServer.CEpoll.mk.injEq, and_true]
  funext fd'
  rw [Function.update_apply, Function.update_apply]
  split_ifs <;> rfl

theorem view_add (hepoll : poll.epollfd ≠ -1) (fd : Int) (eventflags : UInt32) (ctl : EpollCtl) :
    ((add fd eventflags ctl).succeeds poll, ((add fd eventflags ctl).after poll).view) =
      poll.view.add fd (!ctl.fRefused) := by
  rw [StunServer.CEpoll.add, Hr.succeeds, Hr.after, add]
  by_cases hok : fd ≠ -1 ∧ (poll.interest fd).isSome = false ∧ ctl.fRefused = false
  · obtain ⟨hfd, hnew, hctl⟩ := hok
    rw [control_ok _ hfd hepoll hnew hctl, if_neg (by simp [hfd, view, hnew, hctl])]
    exact congrArg (Prod.mk true) (view_update poll fd _)
  · rcases control_cases fd ctl false (some (toNativeFlags eventflags)) poll with
      ⟨hr, herr, -⟩ | ⟨hfd, -, hnew, hctl, -⟩
    · have hrefused : fd = -1 ∨ poll.view.interest fd = true ∨ (!ctl.fRefused) = false := by
        change fd = -1 ∨ (poll.interest fd).isSome = true ∨ (!ctl.fRefused) = false
        grind
      rw [herr, if_pos hrefused]
    · exact absurd ⟨hfd, hnew, hctl⟩ hok

theorem view_remove (hepoll : poll.epollfd ≠ -1) (fd : Int) {ctl : EpollCtl}
    (hctl : ctl.fRefused = false) :
    ((remove fd ctl).succeeds poll, ((remove fd ctl).after poll).view) = poll.view.remove fd := by
  rw [StunServer.CEpoll.remove, Hr.succeeds, Hr.after, remove]
  by_cases hok : fd ≠ -1 ∧ (poll.interest fd).isSome = true
  · obtain ⟨hfd, hin⟩ := hok
    rw [control_ok _ hfd hepoll hin hctl, if_neg (by simp [hfd, view, hin])]
    exact congrArg (Prod.mk true) (view_update poll fd _)
  · rcases control_cases fd ctl true none poll with ⟨hr, herr, -⟩ | ⟨hfd, -, hin, -⟩
    · have hrefused : fd = -1 ∨ poll.view.interest fd = false := by
        change fd = -1 ∨ (poll.interest fd).isSome = false
        grind
      rw [herr, if_pos hrefused]
    · exact absurd ⟨hfd, hin⟩ hok

/-- What `epoll_wait` has fetched. -/
def EpollWait.fetched (wait : EpollWait) : List Int :=
  (List.range wait.ret.toNatClampNeg).map fun i => (wait.ready i).fd

theorem view_takeEvent {poll : CEpoll} (h : poll.currentEventIndex < poll.pendingCount) :
    poll.view.events = poll.takeEvent.1.fd :: poll.takeEvent.2.view.events := by
  have hlen : poll.pendingCount - poll.currentEventIndex =
      poll.pendingCount - (poll.currentEventIndex + 1) + 1 := by omega
  simp only [view, takeEvent]
  rw [hlen, List.range'_succ, List.map_cons]

/-- The array as `epoll_wait` leaves it. -/
def afterWait (poll : CEpoll) (wait : EpollWait) : CEpoll :=
  { poll with
    currentEventIndex := 0
    pendingCount := wait.ret.toNatClampNeg
    events := fun i => if (i : ℤ) < wait.ret.toInt then wait.ready i else poll.events i }

theorem events_afterWait (poll : CEpoll) (wait : EpollWait) :
    (poll.afterWait wait).view.events = EpollWait.fetched wait := by
  have hret := Int32.toNat_toInt wait.ret
  simp only [view, afterWait, EpollWait.fetched, Nat.sub_zero, ← List.range_eq_range']
  apply List.map_congr_left
  intro i hi
  rw [List.mem_range] at hi
  rw [if_pos (by omega)]

/-- `epoll_wait` returns events of descriptors in the set, and not more than there is room for. -/
theorem view_waitForNextEvent (hepoll : poll.epollfd ≠ -1) (pollEvent : PollEvent)
    {wait : EpollWait} (hset : ∀ fd ∈ EpollWait.fetched wait, poll.interest fd ≠ none)
    (hroom : wait.ret.toNatClampNeg ≤ poll.sizeEvents) :
    ((waitForNextEvent pollEvent wait).after poll).view =
        (poll.view.waitForNextEvent (EpollWait.fetched wait)).2 ∧
      ∀ fd, (poll.view.waitForNextEvent (EpollWait.fetched wait)).1 = some fd →
        ∃ event poll', waitForNextEvent pollEvent wait poll = .ok (S_OK, event) poll' ∧
          event.fd = fd := by
  rw [StunServer.CEpoll.waitForNextEvent, Hr.after, waitForNextEvent, if_neg hepoll]
  dsimp only
  by_cases hleft : poll.currentEventIndex < poll.pendingCount
  · -- an event that was fetched before
    rw [if_pos hleft, view_takeEvent hleft, if_neg (List.cons_ne_nil _ _)]
    exact ⟨rfl, fun fd hfd => ⟨_, _, rfl, Option.some.inj hfd⟩⟩
  · have hnil : poll.view.events = [] := by
      rw [view, Nat.sub_eq_zero_of_le (Nat.not_lt.mp hleft)]
      rfl
    have hfetched : ((EpollWait.fetched wait).filter fun fd => poll.view.interest fd).take
        poll.view.sizeEvents = EpollWait.fetched wait := by
      have hall : (EpollWait.fetched wait).filter (fun fd => poll.view.interest fd) =
          EpollWait.fetched wait :=
        List.filter_eq_self.mpr fun fd hfd => Option.isSome_iff_ne_none.mpr (hset fd hfd)
      rw [hall, List.take_of_length_le]
      rw [EpollWait.fetched, List.length_map, List.length_range]
      exact hroom
    rw [if_neg hleft, if_pos hnil, hfetched]
    have hret : wait.ret.toNatClampNeg = wait.ret.toInt.toNat := (Int32.toNat_toInt _).symm
    by_cases hfailed : wait.ret ≤ -1
    · have hneg : wait.ret.toInt ≤ -1 := Int32.le_iff_toInt_le.mp hfailed
      have hno : EpollWait.fetched wait = [] := by
        rw [EpollWait.fetched, hret, Int.toNat_of_nonpos (by omega)]
        rfl
      rw [if_pos hfailed, hno]
      exact ⟨rfl, fun fd hfd => by cases hfd⟩
    by_cases hzero : wait.ret = 0
    · have hno : EpollWait.fetched wait = [] := by
        rw [EpollWait.fetched, hzero]
        rfl
      rw [if_neg hfailed, if_pos hzero, hno]
      exact ⟨rfl, fun fd hfd => by cases hfd⟩
    · have hpos : 0 < wait.ret.toNatClampNeg := by
        have hle : ¬wait.ret.toInt ≤ -1 := fun h => hfailed (Int32.le_iff_toInt_le.mpr h)
        have hne : wait.ret.toInt ≠ 0 := fun h => hzero (Int32.toInt_inj.mp h)
        omega
      rw [if_neg hfailed, if_neg hzero]
      have hready : (poll.afterWait wait).currentEventIndex <
          (poll.afterWait wait).pendingCount := hpos
      have htake := view_takeEvent hready
      rw [← events_afterWait poll wait, htake]
      exact ⟨rfl, fun fd hfd => ⟨_, _, rfl, Option.some.inj hfd⟩⟩

end CEpoll

/-! ### `CPoll` -/

namespace CPoll

variable {poll : CPoll}

theorem map_fd_findNextEvent (poll : CPoll) :
    poll.findNextEvent.2.fds.map Pollfd.fd = poll.fds.map Pollfd.fd := by
  rcases findNextEvent_cases poll with
    ⟨rotation, hfind, -⟩ | ⟨pos, entry, rotation, hentry, -, -, hfind⟩
  · rw [hfind]
  · rw [hfind]
    exact map_fd_set hentry

theorem map_fd_wait (pPollEvent : Option PollEvent) (call : PollCall) (poll : CPoll) :
    (poll.step (.waitForNextEvent pPollEvent) call).2.2.fds.map Pollfd.fd =
      poll.fds.map Pollfd.fd := by
  have hscan := map_fd_findNextEvent poll
  have hpolled : (poll.findNextEvent.2.afterPoll call).fds.map Pollfd.fd =
      poll.fds.map Pollfd.fd := (map_fd_mark call _).trans hscan
  rw [step]
  rcases waitForNextEvent_cases pPollEvent call poll with
    ⟨-, ⟨hr, herr, -⟩ | ⟨event, hok⟩⟩ | ⟨-, event, -, hok⟩ | ⟨-, -, event, hrun⟩
  · rw [herr]
  · rw [hok]
  · rw [hok]
    exact hscan
  · rw [hrun]
    rcases pollSockets_cases call event poll.findNextEvent.2 with
      ⟨hr, herr, -⟩ | hok | ⟨-, hok⟩ | ⟨event', -, hok⟩
    · rw [herr]
      exact hpolled
    · rw [hok]
      exact hpolled
    · rw [hok]
      exact (map_fd_findNextEvent _).trans hpolled
    · rw [hok]
      exact (map_fd_findNextEvent _).trans hpolled

theorem map_fd_of_failed {op : PollOp} {call : PollCall}
    (h : FAILED (poll.step op call).1 = true) :
    (poll.step op call).2.2.fds.map Pollfd.fd = poll.fds.map Pollfd.fd := by
  cases op with
  | add fd eventflags =>
    rw [step] at h ⊢
    rcases add_cases fd eventflags poll with ⟨hr, herr, -⟩ | ⟨-, -, hok⟩
    · rw [herr]
      rfl
    · rw [hok, outcome_ok_not_failed] at h
      cases h
  | remove fd =>
    rw [step] at h ⊢
    rcases position_cases fd poll with herr | ⟨pos, entry, hpos, -, hentry, -⟩
    · rw [remove_error herr]
      rfl
    · have hne : poll.fds ≠ [] := by
        rintro hnil
        rw [hnil] at hentry
        cases hentry
      rw [remove_ok hpos (List.getLast?_eq_getLast_of_ne_nil hne), outcome_ok_not_failed] at h
      cases h
  | changeEventSet fd eventflags =>
    rw [step] at h ⊢
    rcases changeEventSet_cases fd eventflags poll with herr | ⟨pos, hok⟩
    · rw [herr]
      rfl
    · rw [hok, outcome_ok_not_failed] at h
      cases h
  | waitForNextEvent pPollEvent => exact map_fd_wait pPollEvent call poll

namespace Booked

variable {maxSockets : ℕ} {log : List PollEntry} {tracked overflow : List Int} {fd : Int}

/-- A descriptor that the table has no room for cannot be removed. -/
theorem remove_overflow (h : Booked maxSockets poll tracked overflow) (hfd : fd ∈ overflow)
    (call : PollCall) : (poll.step (.remove fd) call).1 = E_FAIL := by
  rw [step]
  rcases position_cases fd poll with herr | ⟨pos, entry, -, hfound, -⟩
  · rw [remove_error herr]
    rfl
  · rw [h.lookup_overflow hfd] at hfound
    cases hfound

theorem lookup_eq_none (h : Booked maxSockets poll tracked []) (hfd : fd ∉ poll.fds.map Pollfd.fd) :
    poll.hashtable.lookup fd = none := by
  cases hlookup : poll.hashtable.lookup fd with
  | none => rfl
  | some pos =>
    have hmem := List.mem_of_getElem? (h.lookup_eq_some.mp hlookup)
    rw [h.fds, List.append_nil] at hfd
    exact absurd hmem hfd

theorem lookup_ne_none (h : Booked maxSockets poll tracked []) (hfd : fd ∈ poll.fds.map Pollfd.fd) :
    ∃ pos entry, poll.hashtable.lookup fd = some pos ∧ poll.fds[pos]? = some entry ∧
      entry.fd = fd := by
  rw [h.fds, List.append_nil] at hfd
  obtain ⟨pos, hpos⟩ := List.mem_iff_getElem?.mp hfd
  have hids := h.fds
  rw [List.append_nil] at hids
  have hentry := hpos
  rw [← hids, List.getElem?_map, Option.map_eq_some_iff] at hentry
  obtain ⟨entry, hentry, he⟩ := hentry
  exact ⟨pos, entry, h.lookup_eq_some.mpr hpos, hentry, he⟩

theorem add_succeeds (h : Booked maxSockets poll tracked []) (hfd : fd ∉ poll.fds.map Pollfd.fd)
    (eventflags : UInt32) (call : PollCall) :
    poll.crashes (.add fd eventflags) = false ∧
      (poll.step (.add fd eventflags) call).1 = S_OK := by
  refine ⟨by simp [crashes, h.tsize_ne_zero], ?_⟩
  rw [step]
  rcases add_cases fd eventflags poll with ⟨hr, -, -, hfound⟩ | ⟨-, -, hok⟩
  · exact absurd (h.lookup_eq_none hfd) (hfound h.fInitialized)
  · rw [hok]
    rfl

theorem remove_succeeds (h : Booked maxSockets poll tracked [])
    (hfd : fd ∈ poll.fds.map Pollfd.fd) (call : PollCall) :
    poll.crashes (.remove fd) = false ∧ (poll.step (.remove fd) call).1 = S_OK := by
  obtain ⟨pos, entry, hfound, hentry, he⟩ := h.lookup_ne_none hfd
  have hpos := position_eq h.fInitialized hfound hentry he
  have hne : poll.fds ≠ [] := by
    rintro hnil
    rw [hnil] at hentry
    cases hentry
  have hlast := List.getLast?_eq_getLast_of_ne_nil hne
  constructor
  · obtain ⟨pos', -, hfound', -⟩ :=
      h.lookup_ne_none (List.mem_map_of_mem (List.getLast_mem hne))
    rw [crashes, hpos, hlast]
    simp [hfound']
  · rw [step, remove_ok hpos hlast]
    rfl

end Booked

theorem Booked.canRemove {maxSockets : ℕ} {tracked : List Int} {fd : Int}
    (h : Booked maxSockets poll tracked []) (hfd : fd ∈ poll.fds.map Pollfd.fd) :
    (IPolling.poll poll).CanRemove fd :=
  ⟨hfd, fun sys _ => h.remove_succeeds hfd sys.poll⟩

/-- An added descriptor can be removed just if there was room for it. -/
theorem Booked.canRemove_added {maxSockets : ℕ} {tracked overflow : List Int} {fd : Int}
    (h : Booked maxSockets poll tracked overflow) {eventflags : UInt32} (call : PollCall)
    (hok : (poll.step (.add fd eventflags) call).1 = S_OK) :
    (IPolling.poll (poll.step (.add fd eventflags) call).2.2).CanRemove fd ↔
      poll.fds.length < maxSockets := by
  have hrun := add_cases fd eventflags poll
  rw [step] at hok ⊢
  rcases hrun with ⟨hr, herr, hfailed, -⟩ | ⟨-, habsent, hadded⟩
  · rw [herr] at hok
    rw [show hr = S_OK from hok] at hfailed
    exact absurd hfailed (by decide)
  rw [hadded]
  obtain ⟨tracked', overflow', hb⟩ : ∃ tracked' overflow', Booked maxSockets
      { poll with
        fds := poll.fds ++ [⟨fd, (toNativeFlags eventflags).toUInt16, 0⟩]
        hashtable := (poll.hashtable.insert fd poll.fds.length).2 } tracked' overflow' :=
    h.added habsent
  have hids := hb.fds
  rw [List.map_append, List.map_singleton] at hids
  constructor
  · rintro ⟨-, hremove⟩
    by_contra hfull
    have hover : overflow' ≠ [] := by
      rintro rfl
      have hlen := congrArg List.length hids
      have hle := hb.length_le
      simp at hlen
      omega
    -- the new descriptor is the last one of those without a place
    have hlast : overflow'.getLast? = some fd := by
      have hend := congrArg List.getLast? hids
      rw [List.getLast?_append_of_ne_nil _ hover, List.getLast?_concat] at hend
      exact hend.symm
    have hfail : (_ : HRESULT) = E_FAIL :=
      hb.remove_overflow (List.mem_of_getLast? hlast) SystemCalls.quiet.poll
    exact absurd ((hremove .quiet rfl).2.symm.trans hfail) (by decide)
  · intro hroom
    obtain rfl := hb.overflow_eq_nil (by rw [List.length_append]; exact hroom)
    exact hb.canRemove (by simp)

/-- An instance keeps the law as long as its table has room for one more descriptor. -/
theorem Run.lawful_iff {maxSockets : ℕ} {log : List PollEntry} (h : Run maxSockets log poll) :
    IPolling.Lawful log (.poll poll) ↔ (registered log).length < maxSockets := by
  have hset : maxSockets ≠ 0 → ∃ tracked overflow, Booked maxSockets poll tracked overflow ∧
      (poll.fds.map Pollfd.fd).Perm (registered log) ∧
      poll.fds.length = (registered log).length := by
    intro hmax
    obtain ⟨tracked, overflow, hb, hl⟩ := h.kept hmax
    exact ⟨tracked, overflow, hb, hl.registered, by
      rw [← hl.registered.length_eq, List.length_map]⟩
  constructor
  · intro hlaw
    have hmax : maxSockets ≠ 0 := by
      rintro rfl
      obtain ⟨rfl, -, -, hinit, htable⟩ := h.empty
      obtain ⟨hcrash, -⟩ := hlaw.accepts 0 0 .quiet (by simp [registered]) (by decide) rfl
      change (poll.fInitialized && decide (poll.hashtable.tsize = 0)) = false at hcrash
      rw [hinit, htable] at hcrash
      cases hcrash
    obtain ⟨tracked, overflow, hb, -, hlen⟩ := hset hmax
    obtain ⟨fd, hnew⟩ := Infinite.exists_notMem_finset (insert (-1) (registered log).toFinset)
    rw [Finset.mem_insert, List.mem_toFinset, not_or] at hnew
    obtain ⟨hcrash, hok⟩ := hlaw.accepts fd 0 .quiet hnew.2 hnew.1 rfl
    rw [← hlen]
    exact (hb.canRemove_added SystemCalls.quiet.poll hok).mp
      (hlaw.adds fd 0 .quiet hcrash hok)
  · intro hroom
    obtain ⟨tracked, overflow, hb, hids, hlen⟩ := hset (Nat.ne_zero_of_lt hroom)
    obtain rfl := hb.overflow_eq_nil (hlen.le.trans hroom.le)
    refine ⟨fun fd eventflags sys hnew _ _ => ?_, fun fd eventflags sys _ hok => ?_,
      fun fd hin => hb.canRemove (hids.mem_iff.mpr hin), fun op sys fd _ hfailed => ?_⟩
    · exact hb.add_succeeds (fun hm => hnew (hids.mem_iff.mp hm)) eventflags sys.poll
    · exact (hb.canRemove_added sys.poll hok).mpr (hlen ▸ hroom)
    · change fd ∈ (poll.step op sys.poll).2.2.fds.map Pollfd.fd ↔ _
      rw [map_fd_of_failed hfailed]
      rfl

end CPoll

/-! ### Instances -/

theorem createPollingInstance_cases {hasEpoll : Bool} {type : UInt32} {maxSockets : ℕ}
    {created : Int} {start : IPolling}
    (h : createPollingInstance hasEpoll type maxSockets created = .ok start) :
    start = .epoll (CEpoll.create.initializeWith maxSockets created).2 ∨
      start = .poll (CPoll.create.initializeWith maxSockets).2 := by
  unfold createPollingInstance at h
  dsimp only at h
  split_ifs at h <;> cases h
  all_goals first | exact Or.inl rfl | exact Or.inr rfl

theorem IPolling.Run.cases {hasEpoll : Bool} {type : UInt32} {maxSockets : ℕ} {created : Int}
    {start polling : IPolling} {log : List PollEntry}
    (hstart : createPollingInstance hasEpoll type maxSockets created = .ok start)
    (h : IPolling.Run start log polling) :
    (∃ poll, polling = .epoll poll ∧ CEpoll.Booked created log poll) ∨
      ∃ poll, polling = .poll poll ∧ CPoll.Run maxSockets log poll := by
  induction h with
  | start =>
    rcases createPollingInstance_cases hstart with rfl | rfl
    · exact Or.inl ⟨_, rfl, CEpoll.booked_start maxSockets created⟩
    · exact Or.inr ⟨_, rfl, CPoll.Run.start⟩
  | next op sys _ hcrash hcounts ih =>
    rcases ih with ⟨poll, rfl, hb⟩ | ⟨poll, rfl, hrun⟩
    · exact Or.inl ⟨_, rfl, hb.step op sys⟩
    · exact Or.inr ⟨_, rfl, hrun.next op sys.poll hcrash hcounts⟩

end StunServer.Polling

import StunServer.Proofs.PollInstance

/-! What the users of a polling instance can rely on. -/

namespace StunServer.Polling

open Positions

/-! ### No event is lost -/

theorem lookup_create_zero (fd : Int) : (FastHash.create 0 0 : FastHash Int ℕ).lookup fd = none :=
  rfl

/-- With room for every descriptor the table has the position of each. -/
theorem CPoll.Run.table {maxSockets : ℕ} {log : List PollEntry} {poll : CPoll}
    (h : CPoll.Run maxSockets log poll) (hroom : (registered log).length ≤ maxSockets) :
    (∀ fd pos, poll.hashtable.lookup fd = some pos ↔
        poll.fds[pos]?.map Pollfd.fd = some fd) ∧
      poll.hashtable.size = poll.fds.length ∧
      (poll.fds.map Pollfd.fd).Perm (registered log) := by
  by_cases hmax : maxSockets = 0
  · subst hmax
    obtain ⟨rfl, hfds, -, -, htable⟩ := h.empty
    refine ⟨fun fd pos => ?_, ?_, ?_⟩
    · rw [htable, lookup_create_zero, hfds]
      simp
    · rw [htable, hfds]
      rfl
    · rw [hfds]
      rfl
  · obtain ⟨tracked, overflow, hb, hl⟩ := h.kept hmax
    have hids := hl.registered
    rw [← hids.length_eq, List.length_map] at hroom
    obtain rfl := hb.overflow_eq_nil hroom
    have hfds := hb.fds
    rw [List.append_nil] at hfds
    refine ⟨fun fd pos => ?_, ?_, hids⟩
    · rw [hb.lookup_eq_some, ← hfds, List.getElem?_map]
    · rw [hb.size, ← hfds, List.length_map]

theorem CPoll.Run.logged {maxSockets : ℕ} {log : List PollEntry} {poll : CPoll}
    (h : CPoll.Run maxSockets log poll) : CPoll.Logged maxSockets log poll := by
  by_cases hmax : maxSockets = 0
  · subst hmax
    obtain ⟨rfl, hfds, hunread, -, -⟩ := h.empty
    refine ⟨by rw [hfds]; rfl, by rw [hfds]; rfl, ⟨0, ?_, by simp [NoneLost]⟩, Log.always_nil⟩
    rw [hunread]
    rfl
  · obtain ⟨tracked, overflow, -, hl⟩ := h.kept hmax
    exact hl

/-- As long as there is room for every descriptor, the table says where each is; only events of
descriptors in the set are reported; and each event that a call of `poll` marks is reported
once before the next call, unless its descriptor is removed first. -/
theorem keeps_events {maxSockets : ℕ} {log : List PollEntry} {poll : CPoll}
    (h : CPoll.Run maxSockets log poll)
    (hroom : ∀ l, l <+: log → (registered l).length ≤ maxSockets) :
    ((∀ fd pos, poll.hashtable.lookup fd = some pos ↔
        poll.fds[pos]?.map Pollfd.fd = some fd) ∧
      poll.hashtable.size = poll.fds.length ∧
      (poll.fds.map Pollfd.fd).Perm (registered log)) ∧
    (∀ l₁ fd l₂, log = l₁ ++ .reported fd :: l₂ → fd ∈ registered l₁ ∧ fd ∈ pending l₁) ∧
    ∀ l₁ marked l₂ marked' l₃, log = l₁ ++ .polled marked :: (l₂ ++ .polled marked' :: l₃) →
      (∀ e ∈ l₂, e.isPolled = false) → ∀ fd ∈ marked, SettledOnce fd l₂ := by
  have halways := h.logged.always
  refine ⟨h.table (hroom log (List.prefix_refl log)), fun l₁ fd l₂ hlog => ?_, ?_⟩
  · obtain ⟨hpending, hregistered⟩ := halways l₁ (.reported fd) l₂ hlog
    exact ⟨hregistered, hpending⟩
  · intro l₁ marked l₂ marked' l₃ hlog hl₂ fd hfd
    obtain ⟨-, hnodup⟩ := halways l₁ (.polled marked) (l₂ ++ .polled marked' :: l₃) hlog
    have hnd := hnodup (hroom l₁ ⟨_, hlog.symm⟩)
    have hsplit : log = (l₁ ++ .polled marked :: l₂) ++ .polled marked' :: l₃ := by
      rw [hlog, List.append_assoc, List.cons_append]
    -- nothing is due when `poll` is called again
    obtain ⟨hnone, -⟩ := halways _ (.polled marked') l₃ hsplit
    rw [hsplit] at halways
    obtain ⟨-, ⟨hdue, -⟩ | ⟨-, hsettled⟩⟩ :=
      CPoll.due_or_settled halways.of_append hnd hl₂ hfd
    · rw [hnone] at hdue
      cases hdue
    · exact hsettled

/-- Two sockets have an event, and one is reported before the other one goes. -/
def lostEvent : List (PollOp × PollCall) :=
  let quiet : PollCall := ⟨0, fun _ => 0, 0⟩
  [(.add 3 IPOLLING_READ, quiet), (.add 5 IPOLLING_READ, quiet),
    (.waitForNextEvent (some ⟨0, 0⟩), ⟨2, fun _ => 1, 0⟩), (.remove 5, quiet)]

/-- What is left of the calls one after the other. -/
def CPoll.after (maxSockets : ℕ) (calls : List (PollOp × PollCall)) : List PollEntry × CPoll :=
  calls.foldl (fun s call => (s.1 ++ (s.2.step call.1 call.2).2.1, (s.2.step call.1 call.2).2.2))
    ([], (create.initializeWith maxSockets).2)

theorem run_lostEvent :
    CPoll.Run 2 (CPoll.after 2 lostEvent).1 (CPoll.after 2 lostEvent).2 := by
  refine .next _ _ (.next _ _ (.next _ _ (.next _ _ .start ?_ ?_) ?_ ?_) ?_ ?_) ?_ ?_
  all_goals decide +kernel

theorem keeps_events_lostEvent :
    (∀ l, l <+: (CPoll.after 2 lostEvent).1 → (registered l).length ≤ 2) ∧
      ∀ fd pos, (CPoll.after 2 lostEvent).2.hashtable.lookup fd = some pos ↔
        (CPoll.after 2 lostEvent).2.fds[pos]?.map Pollfd.fd = some fd := by
  have hroom : ∀ l ∈ (CPoll.after 2 lostEvent).1.inits, (registered l).length ≤ 2 := by
    decide +kernel
  have hfits := fun l hl => hroom l (List.mem_inits l _ |>.mpr hl)
  exact ⟨hfits, (keeps_events run_lostEvent hfits).1.1⟩

/-! ### The counter -/

/-- The counter is right as long as no descriptor goes while its event is still to be reported;
and when a scan finds nothing and new events are asked for, it is 0 in just these cases. -/
theorem unreadcount_eq_iff {maxSockets : ℕ} {log : List PollEntry} {poll : CPoll}
    (h : CPoll.Run maxSockets log poll) :
    (poll.unreadcount.toNat = (pending log).length ↔ NoneLost log) ∧
      (CPoll.unreported poll.fds).Perm (pending log) ∧
      (poll.findNextEvent.1 = none → (poll.findNextEvent.2.unreadcount = 0 ↔ NoneLost log)) := by
  have hl := h.logged
  obtain ⟨lost, hcount, hlost⟩ := hl.count
  refine ⟨?_, hl.pending, fun hnone => ?_⟩
  · rw [← hlost, hcount]
    omega
  · obtain ⟨-, -, hunread, hused⟩ := CPoll.changes_of_none hnone
    have hdue : (pending log).length = 0 := by
      rcases hused with hzero | hno
      · rw [hzero] at hcount
        have hz : (0 : UInt32).toNat = 0 := rfl
        omega
      · rw [← hl.pending.length_eq, CPoll.unreported, List.filter_eq_nil_iff.mpr (by simpa using hno)]
        rfl
    rw [hunread, ← hlost, ← UInt32.toNat_inj, hcount, hdue, Nat.zero_add]
    rfl

/-- The counter stays at 1, and it is 1 when new events are asked for. -/
theorem unreadcount_lostEvent :
    CPoll.Run 2 (CPoll.after 2 lostEvent).1 (CPoll.after 2 lostEvent).2 ∧
      (CPoll.after 2 lostEvent).2.unreadcount = 1 ∧ pending (CPoll.after 2 lostEvent).1 = [] ∧
      (CPoll.after 2 lostEvent).2.callsPoll (some ⟨0, 0⟩) = true :=
  ⟨run_lostEvent, by decide +kernel, by decide +kernel, by decide +kernel⟩

theorem not_noneLost_lostEvent :
    (CPoll.after 2 lostEvent).2.unreadcount.toNat ≠ 0 ∧ ¬NoneLost (CPoll.after 2 lostEvent).1 := by
  have hone : (CPoll.after 2 lostEvent).2.unreadcount.toNat ≠ 0 := by decide +kernel
  have hnone : (pending (CPoll.after 2 lostEvent).1).length = 0 := by decide +kernel
  refine ⟨hone, fun h => hone ?_⟩
  rw [(unreadcount_eq_iff run_lostEvent).1.mpr h, hnone]

/-! ### What the calls return -/

/-- In every state that an instance can come to, its calls mean what they return if and only if
`epoll_create` has not failed, or the table of the `CPoll` has room for one more descriptor. -/
theorem lawful_iff_hasRoom {hasEpoll : Bool} {type : UInt32} {maxSockets : ℕ} {created : Int}
    {start polling : IPolling} {log : List PollEntry}
    (hstart : createPollingInstance hasEpoll type maxSockets created = .ok start)
    (h : IPolling.Run start log polling) :
    IPolling.Lawful log polling ↔ polling.HasRoom maxSockets created log := by
  rcases IPolling.Run.cases hstart h with ⟨poll, rfl, hb⟩ | ⟨poll, rfl, hrun⟩
  · exact CEpoll.lawful_iff hb
  · exact hrun.lawful_iff

/-- Three sockets are added and the first one is removed. -/
def threeSockets : List PollOp :=
  [.add 3 IPOLLING_READ, .add 5 IPOLLING_READ, .add 7 IPOLLING_WRITE, .remove 3]

/-- The calls one after the other on an instance of which the system refuses nothing. -/
def IPolling.after (start : IPolling) (ops : List PollOp) : List PollEntry × IPolling :=
  ops.foldl (fun s op => (s.1 ++ (s.2.step op .quiet).2.1, (s.2.step op .quiet).2.2)) ([], start)

theorem run_threeSockets :
    let poll := IPolling.poll (CPoll.create.initializeWith 3).2
    let epoll := IPolling.epoll (CEpoll.create.initializeWith 3 9).2
    IPolling.Run poll (poll.after threeSockets).1 (poll.after threeSockets).2 ∧
      IPolling.Run epoll (epoll.after threeSockets).1 (epoll.after threeSockets).2 := by
  constructor
  · refine .next _ _ (.next _ _ (.next _ _ (.next _ _ .start ?_ ?_) ?_ ?_) ?_ ?_) ?_ ?_
    all_goals first | decide +kernel | (change PollCall.Counts _ _; decide +kernel)
  · refine .next _ _ (.next _ _ (.next _ _ (.next _ _ .start rfl ?_) rfl ?_) rfl ?_) rfl ?_
    all_goals exact trivial

/-- With two sockets in the set and room for a third one, both kinds of instance keep the law. -/
theorem lawful_threeSockets :
    let poll := IPolling.poll (CPoll.create.initializeWith 3).2
    let epoll := IPolling.epoll (CEpoll.create.initializeWith 3 9).2
    registered (poll.after threeSockets).1 = [5, 7] ∧
      IPolling.Lawful (poll.after threeSockets).1 (poll.after threeSockets).2 ∧
      registered (epoll.after threeSockets).1 = [5, 7] ∧
      IPolling.Lawful (epoll.after threeSockets).1 (epoll.after threeSockets).2 := by
  intro poll epoll
  have hpoll : registered (poll.after threeSockets).1 = [5, 7] := by decide +kernel
  have hepoll : registered (epoll.after threeSockets).1 = [5, 7] := by decide +kernel
  refine ⟨hpoll, ?_, hepoll, ?_⟩
  · refine (@lawful_iff_hasRoom false IPOLLING_TYPE_BEST 3 9 _ _ _ rfl run_threeSockets.1).mpr ?_
    change (registered (poll.after threeSockets).1).length < 3
    rw [hpoll]
    decide
  · refine (@lawful_iff_hasRoom true IPOLLING_TYPE_BEST 3 9 _ _ _ rfl run_threeSockets.2).mpr ?_
    change (9 : Int) ≠ -1
    decide

/-- `epoll_create` fails, and the instance that there is all the same takes no socket. A second
socket is added to an instance for one, and cannot be removed. -/
theorem unlawful_instances :
    (∃ start, createPollingInstance true IPOLLING_TYPE_EPOLL 10 (-1) = .ok start ∧
      (start.step (.add 3 IPOLLING_READ) .quiet).1 = E_UNEXPECTED) ∧
    ∃ start, createPollingInstance true IPOLLING_TYPE_POLL 1 7 = .ok start ∧
      let first := (start.step (.add 3 IPOLLING_READ) .quiet).2.2
      let second := (first.step (.add 5 IPOLLING_READ) .quiet).2.2
      (first.step (.add 5 IPOLLING_READ) .quiet).1 = S_OK ∧
        (second.step (.remove 5) .quiet).1 = E_FAIL :=
  ⟨⟨_, rfl, by decide +kernel⟩, _, rfl, by decide +kernel, by decide +kernel⟩

end StunServer.Polling

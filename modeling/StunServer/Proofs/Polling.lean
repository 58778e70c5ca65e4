import StunServer.Spec.Polling
import StunServer.Lib.Positions
import StunServer.Proofs.FastHashMap

/-! What the calls on a `CPoll` do, cut into small changes, and what each of these keeps. -/

namespace StunServer.Polling.CPoll

open Positions FastHash

/-! ### The changes -/

/-- The entries are marked and counted. -/
def afterPoll (call : PollCall) (poll : CPoll) : CPoll :=
  { poll with
    fds := call.mark poll.fds
    unreadcount := if call.ret < 0 then 0 else call.ret.toUInt32 }

/-- The changes that the calls are made of. -/
inductive Change (poll : CPoll) : List PollEntry → CPoll → Prop where
  | rotated (rotation : UInt32) : Change poll [] { poll with rotation := rotation }
  | added (fd : Int) (events : UInt16) (absent : poll.hashtable.lookup fd = none)
      (wide : poll.hashtable.tsize ≠ 0) :
      Change poll [.added fd]
        { poll with
          fds := poll.fds ++ [⟨fd, events, 0⟩]
          hashtable := (poll.hashtable.insert fd poll.fds.length).2 }
  | removed (pos : ℕ) (entry last : Pollfd) (at_pos : poll.fds[pos]? = some entry)
      (found : poll.hashtable.lookup entry.fd = some pos) (at_end : poll.fds.getLast? = some last)
      (moves : pos ≠ poll.fds.length - 1 → poll.hashtable.lookup last.fd ≠ none) :
      Change poll [.removed entry.fd]
        { poll with
          fds := swapRemove poll.fds pos
          hashtable := ((if pos = poll.fds.length - 1 then poll.hashtable
            else poll.hashtable.store last.fd pos).remove entry.fd).2 }
  | changed (pos : ℕ) (events : UInt16) :
      Change poll []
        { poll with fds := poll.fds.modify pos fun entry => { entry with events := events } }
  | polled (call : PollCall) (some : poll.fds ≠ []) (counts : call.Counts poll.fds)
      (used : poll.unreadcount = 0 ∨ ∀ entry ∈ poll.fds, hasEvent entry = false) :
      Change poll [.polled (marked call poll.fds)] (poll.afterPoll call)
  | reported (pos : ℕ) (entry : Pollfd) (at_pos : poll.fds[pos]? = some entry)
      (event : hasEvent entry = true) (unread : poll.unreadcount ≠ 0) :
      Change poll [.reported entry.fd]
        { poll with
          fds := poll.fds.set pos { entry with revents := 0 }
          unreadcount := poll.unreadcount - 1 }

/-- Changes one after the other. -/
inductive Changes (poll : CPoll) : List PollEntry → CPoll → Prop where
  | refl : Changes poll [] poll
  | snoc {log entries : List PollEntry} {poll₁ poll₂ : CPoll} :
      Changes poll log poll₁ → Change poll₁ entries poll₂ → Changes poll (log ++ entries) poll₂

theorem Change.changes {poll poll' : CPoll} {entries : List PollEntry}
    (h : Change poll entries poll') : Changes poll entries poll' := Changes.refl.snoc h

theorem Changes.trans {poll₁ poll₂ poll₃ : CPoll} {log₁ log₂ : List PollEntry}
    (h₁ : Changes poll₁ log₁ poll₂) (h₂ : Changes poll₂ log₂ poll₃) :
    Changes poll₁ (log₁ ++ log₂) poll₃ := by
  induction h₂ with
  | refl => rwa [List.append_nil]
  | snoc _ hstep ih =>
    rw [← List.append_assoc]
    exact ih.snoc hstep

/-! ### The calls -/

theorem failed_ERRNOHR (errno : UInt32) : FAILED (ERRNOHR errno) = true := by
  rw [FAILED, decide_eq_true_iff, Int32.lt_iff_toInt_lt, ERRNOHR]
  apply BitVec.toInt_neg_of_msb_true (x := 0x88000000#32 ||| errno.toBitVec)
  rw [BitVec.msb_or]
  rfl

section

variable {poll : CPoll}

theorem add_cases (fd : Int) (eventflags : UInt32) (poll : CPoll) :
    (∃ hr, add fd eventflags poll = .error hr poll ∧ FAILED hr = true ∧
        (poll.fInitialized = true → poll.hashtable.lookup fd ≠ none)) ∨
      (poll.fInitialized = true ∧ poll.hashtable.lookup fd = none ∧
        add fd eventflags poll = .ok ()
          { poll with
            fds := poll.fds ++ [⟨fd, (toNativeFlags eventflags).toUInt16, 0⟩]
            hashtable := (poll.hashtable.insert fd poll.fds.length).2 }) := by
  rw [add, Hr.bind_ok (Hr.get_apply poll)]
  dsimp only
  by_cases hinit : poll.fInitialized = false
  · rw [Hr.bind_error (Hr.chkIf_true hinit E_FAIL poll)]
    exact Or.inl ⟨_, rfl, by decide, fun htrue => absurd (hinit.symm.trans htrue) (by decide)⟩
  rw [Hr.bind_ok (Hr.chkIf_false hinit E_FAIL poll)]
  by_cases hfound : poll.hashtable.lookup fd ≠ none
  · rw [Hr.bind_error (Hr.chkIf_true hfound E_UNEXPECTED poll)]
    exact Or.inl ⟨_, rfl, by decide, fun _ => hfound⟩
  rw [Hr.bind_ok (Hr.chkIf_false hfound E_UNEXPECTED poll)]
  exact Or.inr ⟨Bool.eq_true_of_not_eq_false hinit, not_not.mp hfound, rfl⟩

theorem position_cases (fd : Int) (poll : CPoll) :
    position fd poll = .error E_FAIL poll ∨ ∃ pos entry, position fd poll = .ok pos poll ∧
      poll.hashtable.lookup fd = some pos ∧ poll.fds[pos]? = some entry ∧ entry.fd = fd := by
  rw [position, Hr.bind_ok (Hr.get_apply poll)]
  by_cases hinit : poll.fInitialized = false
  · rw [Hr.bind_error (Hr.chkIf_true hinit E_FAIL poll)]
    exact Or.inl rfl
  rw [Hr.bind_ok (Hr.chkIf_false hinit E_FAIL poll)]
  by_cases hsize : poll.fds.length = 0
  · rw [Hr.bind_error (Hr.chkIf_true hsize E_FAIL poll)]
    exact Or.inl rfl
  rw [Hr.bind_ok (Hr.chkIf_false hsize E_FAIL poll)]
  cases hlookup : poll.hashtable.lookup fd with
  | none => exact Or.inl rfl
  | some pos =>
    dsimp only
    by_cases hpos : pos ≥ poll.fds.length
    · rw [Hr.bind_error (Hr.chkIf_true hpos E_FAIL poll)]
      exact Or.inl rfl
    rw [Hr.bind_ok (Hr.chkIf_false hpos E_FAIL poll)]
    by_cases hfd : poll.fds[pos]?.map Pollfd.fd ≠ some fd
    · rw [Hr.bind_error (Hr.chkIf_true hfd E_FAIL poll)]
      exact Or.inl rfl
    rw [Hr.bind_ok (Hr.chkIf_false hfd E_FAIL poll)]
    obtain ⟨entry, hentry, he⟩ := Option.map_eq_some_iff.mp (not_not.mp hfd)
    exact Or.inr ⟨pos, entry, rfl, rfl, hentry, he⟩

/-- The descriptors in use and the table say where a descriptor is. -/
theorem position_eq {fd : Int} {pos : ℕ} {entry : Pollfd} (hinit : poll.fInitialized = true)
    (hlookup : poll.hashtable.lookup fd = some pos) (hentry : poll.fds[pos]? = some entry)
    (hfd : entry.fd = fd) : position fd poll = .ok pos poll := by
  have hlt := (List.getElem?_eq_some_iff.mp hentry).1
  rw [position, Hr.bind_ok (Hr.get_apply poll)]
  rw [Hr.bind_ok (Hr.chkIf_false (by rw [hinit]; decide) E_FAIL poll),
    Hr.bind_ok (Hr.chkIf_false (by omega) E_FAIL poll), hlookup]
  dsimp only
  rw [Hr.bind_ok (Hr.chkIf_false (by omega) E_FAIL poll),
    Hr.bind_ok (Hr.chkIf_false (by rw [hentry, ← hfd]; simp) E_FAIL poll)]
  rfl

/-- The entry that goes is filled by the last one. -/
theorem remove_ok {fd : Int} {pos : ℕ} (hpos : position fd poll = .ok pos poll) {last : Pollfd}
    (hlast : poll.fds.getLast? = some last) :
    remove fd poll = .ok ()
      { poll with
        fds := swapRemove poll.fds pos
        hashtable := ((if pos = poll.fds.length - 1 then poll.hashtable
          else poll.hashtable.store last.fd pos).remove fd).2 } := by
  rw [remove, Hr.bind_ok hpos, Hr.bind_ok (Hr.get_apply poll)]
  rw [Hr.set_apply, fillHole, hlast]
  obtain ⟨fds, hfds⟩ := List.getLast?_eq_some_iff.mp hlast
  have hend : poll.fds.length - 1 = fds.length := by rw [hfds]; simp
  dsimp only
  rw [hend]
  split_ifs with hp
  · rw [hp, hfds, swapRemove_concat, List.set_eq_of_length_le (Nat.le_refl _), List.dropLast_concat]
  · rw [swapRemove, hlast]

theorem remove_error {fd : Int} (h : position fd poll = .error E_FAIL poll) :
    remove fd poll = .error E_FAIL poll := by
  rw [remove, Hr.bind_error h]

theorem changeEventSet_cases (fd : Int) (eventflags : UInt32) (poll : CPoll) :
    changeEventSet fd eventflags poll = .error E_FAIL poll ∨
      ∃ pos, changeEventSet fd eventflags poll = .ok ()
        { poll with
          fds := poll.fds.modify pos fun entry =>
            { entry with events := (toNativeFlags eventflags).toUInt16 } } := by
  rcases position_cases fd poll with herr | ⟨pos, -, hpos, -⟩
  · exact Or.inl (by rw [changeEventSet, Hr.bind_error herr])
  · exact Or.inr ⟨pos, by rw [changeEventSet, Hr.bind_ok hpos]; rfl⟩

theorem modify_of_getElem? {fds : List Pollfd} {pos : ℕ} {entry : Pollfd}
    (h : fds[pos]? = some entry) (f : Pollfd → Pollfd) :
    fds.modify pos f = fds.set pos (f entry) := by
  apply List.ext_getElem?
  intro i
  rw [List.getElem?_modify, List.getElem?_set]
  split_ifs with hi hlt
  · subst hi
    rw [h]
    rfl
  · subst hi
    exact absurd (List.getElem?_eq_some_iff.mp h).1 hlt
  · exact id_map _

/-- Going around from any start leads to every position. -/
theorem mem_slots {size pos : ℕ} (hpos : pos < size) (start : ℕ) :
    pos ∈ (List.range size).map fun index => (index + start) % size := by
  have hlt : start % size < size := Nat.mod_lt _ (by omega)
  refine List.mem_map.mpr ⟨(pos + (size - start % size)) % size,
    List.mem_range.mpr (Nat.mod_lt _ (by omega)), ?_⟩
  have hsplit := Nat.mod_add_div start size
  have hback : pos + (size - start % size) + start = pos + size * (1 + start / size) := by
    rw [Nat.mul_add, Nat.mul_one]
    omega
  rw [Nat.mod_add_mod, hback, Nat.add_mul_mod_self_left, Nat.mod_eq_of_lt hpos]

/-- The events are found one by one, and none is passed over. -/
theorem findNextEvent_cases (poll : CPoll) :
    (∃ rotation, poll.findNextEvent = (none, { poll with rotation := rotation }) ∧
        (poll.unreadcount = 0 ∨ ∀ entry ∈ poll.fds, hasEvent entry = false)) ∨
      ∃ pos entry rotation, poll.fds[pos]? = some entry ∧ hasEvent entry = true ∧
        poll.unreadcount ≠ 0 ∧ poll.findNextEvent =
          (some ⟨entry.fd, fromNativeFlags entry.revents.toUInt32⟩,
            { poll with
              fds := poll.fds.set pos { entry with revents := 0 }
              rotation := rotation
              unreadcount := poll.unreadcount - 1 }) := by
  unfold findNextEvent
  dsimp only
  by_cases hunread : poll.unreadcount = 0
  · rw [if_pos hunread]
    exact Or.inl ⟨poll.rotation, rfl, Or.inl hunread⟩
  rw [if_neg hunread]
  cases hfind : ((List.range poll.fds.length).map fun index =>
      (index + (if poll.rotation.toNat ≥ poll.fds.length then 0 else poll.rotation).toNat) %
        poll.fds.length).find? fun slot =>
          decide ((poll.fds[slot]?.map Pollfd.revents).getD 0 ≠ 0) with
  | none =>
    refine Or.inl ⟨_, rfl, Or.inr fun entry hentry => ?_⟩
    obtain ⟨pos, hpos⟩ := List.mem_iff_getElem?.mp hentry
    have hlt := (List.getElem?_eq_some_iff.mp hpos).1
    have hno := List.find?_eq_none.mp hfind pos (mem_slots hlt _)
    simpa [hpos, hasEvent] using hno
  | some pos =>
    have hsome := List.find?_some hfind
    cases hentry : poll.fds[pos]? with
    | none => simp [hentry] at hsome
    | some entry =>
      have hevent : hasEvent entry = true := by simpa [hentry, hasEvent] using hsome
      refine Or.inr ⟨pos, entry,
        (if poll.rotation.toNat ≥ poll.fds.length then 0 else poll.rotation) + 1,
        hentry, hevent, hunread, ?_⟩
      dsimp only
      rw [hentry, modify_of_getElem? hentry]
      rfl

/-- A scan that finds nothing leaves nothing to find. -/
theorem changes_of_none (h : poll.findNextEvent.1 = none) :
    Changes poll [] poll.findNextEvent.2 ∧ poll.findNextEvent.2.fds = poll.fds ∧
      poll.findNextEvent.2.unreadcount = poll.unreadcount ∧
      (poll.unreadcount = 0 ∨ ∀ entry ∈ poll.fds, hasEvent entry = false) := by
  rcases findNextEvent_cases poll with
    ⟨rotation, hfind, hused⟩ | ⟨pos, entry, rotation, -, -, -, hfind⟩
  · rw [hfind]
    exact ⟨(Change.rotated rotation).changes, rfl, rfl, hused⟩
  · rw [hfind] at h
    cases h

theorem changes_of_some {event : PollEvent} (h : poll.findNextEvent.1 = some event) :
    Changes poll [.reported event.fd] poll.findNextEvent.2 := by
  rcases findNextEvent_cases poll with
    ⟨rotation, hfind, -⟩ | ⟨pos, entry, rotation, hentry, hevent, hunread, hfind⟩
  · rw [hfind] at h
    cases h
  · rw [hfind] at h ⊢
    cases h
    exact (Change.rotated rotation).changes.snoc (.reported pos entry hentry hevent hunread)

/-- A wait does nothing, or hands out an event that is left, or calls `poll`. -/
theorem waitForNextEvent_cases (pPollEvent : Option PollEvent) (call : PollCall) (poll : CPoll) :
    (poll.callsPoll pPollEvent = false ∧
        ((∃ hr, waitForNextEvent pPollEvent call poll = .error hr poll ∧ FAILED hr = true) ∨
          ∃ event, waitForNextEvent pPollEvent call poll = .ok (S_FALSE, event) poll)) ∨
      (poll.callsPoll pPollEvent = false ∧ ∃ event, poll.findNextEvent.1 = some event ∧
        waitForNextEvent pPollEvent call poll = .ok (S_OK, event) poll.findNextEvent.2) ∨
      (poll.callsPoll pPollEvent = true ∧ poll.findNextEvent.1 = none ∧
        ∃ event, waitForNextEvent pPollEvent call poll =
          pollSockets call event poll.findNextEvent.2) := by
  unfold callsPoll waitForNextEvent
  cases hinit : poll.fInitialized with
  | false => exact Or.inl ⟨rfl, Or.inl ⟨_, rfl, by decide⟩⟩
  | true =>
    cases pPollEvent with
    | none => exact Or.inl ⟨rfl, Or.inl ⟨_, rfl, by decide⟩⟩
    | some event =>
      by_cases hsize : poll.fds.length = 0
      · exact Or.inl ⟨by simp [hsize], Or.inr ⟨_, if_pos hsize⟩⟩
      · rcases hfind : poll.findNextEvent with ⟨_ | event', poll'⟩
        · refine Or.inr (Or.inr ⟨by simp [hsize], rfl, { event with eventflags := 0 }, ?_⟩)
          simp [hsize]
        · refine Or.inr (Or.inl ⟨by simp, event', rfl, ?_⟩)
          simp [hsize]

/-- After the call of `poll`, which is one change, the first event is looked for. -/
theorem pollSockets_cases (call : PollCall) (event : PollEvent) (poll : CPoll) :
    (∃ hr, pollSockets call event poll = .error hr (poll.afterPoll call) ∧ FAILED hr = true) ∨
      pollSockets call event poll = .ok (S_FALSE, event) (poll.afterPoll call) ∨
      ((poll.afterPoll call).findNextEvent.1 = none ∧
        pollSockets call event poll =
          .ok (S_FALSE, event) (poll.afterPoll call).findNextEvent.2) ∨
      ∃ event', (poll.afterPoll call).findNextEvent.1 = some event' ∧
        pollSockets call event poll =
          .ok (S_OK, event') (poll.afterPoll call).findNextEvent.2 := by
  unfold pollSockets afterPoll
  by_cases hfailed : call.ret < 0
  · refine Or.inl ⟨ERRNOHR call.errno, ?_, failed_ERRNOHR _⟩
    simp only [if_pos hfailed]
  by_cases hzero : call.ret = 0
  · refine Or.inr (Or.inl ?_)
    simp only [if_neg hfailed, if_pos hzero]
    rw [hzero]
    rfl
  · refine Or.inr (Or.inr ?_)
    simp only [if_neg hfailed, if_neg hzero]
    split
    · rename_i event' poll' hfind
      exact Or.inr ⟨event', by rw [hfind], by rw [hfind]⟩
    · rename_i poll' hfind
      exact Or.inl ⟨by rw [hfind], by rw [hfind]⟩

theorem changes_wait (pPollEvent : Option PollEvent) {call : PollCall}
    (hcounts : call.Counts poll.fds) :
    Changes poll (poll.step (.waitForNextEvent pPollEvent) call).2.1
      (poll.step (.waitForNextEvent pPollEvent) call).2.2 := by
  rw [step]
  rcases waitForNextEvent_cases pPollEvent call poll with
    ⟨hcalls, ⟨hr, herr, -⟩ | ⟨event, hok⟩⟩ | ⟨hcalls, event, hsome, hok⟩ | ⟨hcalls, hnone, event, hrun⟩
  · rw [hcalls, herr]
    exact Changes.refl
  · rw [hcalls, hok]
    exact Changes.refl
  · rw [hcalls, hok]
    exact changes_of_some hsome
  · rw [hcalls, hrun]
    obtain ⟨hscan, hfds, hunread, hused⟩ := changes_of_none hnone
    have hsome : poll.fds ≠ [] := by
      rintro hnil
      simp [callsPoll, hnil] at hcalls
    have hpolled := hscan.snoc
      (.polled call (by rwa [hfds]) (by rwa [hfds]) (by rwa [hfds, hunread]))
    rw [hfds] at hpolled
    rcases pollSockets_cases call event poll.findNextEvent.2 with
      ⟨hr, herr, -⟩ | hok | ⟨hno, hok⟩ | ⟨event', hsome, hok⟩
    · rw [herr]
      exact hpolled
    · rw [hok]
      exact hpolled
    · rw [hok]
      exact hpolled.trans (changes_of_none hno).1
    · rw [hok]
      exact hpolled.trans (changes_of_some hsome)

/-- A call comes down to some changes. -/
theorem changes_step {op : PollOp} {call : PollCall} (hcrash : poll.crashes op = false)
    (hcounts : call.Counts poll.fds) :
    Changes poll (poll.step op call).2.1 (poll.step op call).2.2 := by
  cases op with
  | add fd eventflags =>
    rw [step]
    rcases add_cases fd eventflags poll with ⟨hr, herr, -⟩ | ⟨hinit, habsent, hok⟩
    · rw [herr]
      exact Changes.refl
    · rw [hok]
      refine (Change.added fd _ habsent fun hwidth => ?_).changes
      simp [crashes, hinit, hwidth] at hcrash
  | remove fd =>
    rw [step]
    rcases position_cases fd poll with herr | ⟨pos, entry, hpos, hfound, hentry, rfl⟩
    · rw [remove_error herr]
      exact Changes.refl
    · have hne : poll.fds ≠ [] := by
        intro hnil
        rw [hnil] at hentry
        cases hentry
      have hlast := List.getLast?_eq_getLast_of_ne_nil hne
      rw [remove_ok hpos hlast]
      refine (Change.removed pos entry _ hentry hfound hlast fun hmoves hnone => ?_).changes
      rw [crashes, hpos, hlast] at hcrash
      simp [hmoves, hnone] at hcrash
  | changeEventSet fd eventflags =>
    rw [step]
    rcases changeEventSet_cases fd eventflags poll with herr | ⟨pos, hok⟩
    · rw [herr]
      exact Changes.refl
    · rw [hok]
      exact (Change.changed pos _).changes
  | waitForNextEvent pPollEvent => exact changes_wait pPollEvent hcounts

end

end StunServer.Polling.CPoll

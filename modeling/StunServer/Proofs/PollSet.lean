import StunServer.Proofs.Polling
import StunServer.Lib.Log

/-! What a `CPoll` keeps from the start: the table follows the array, the array follows the
log, and the counter says how many events were marked and not reported. -/

namespace StunServer.Polling.CPoll

open Positions FastHash

/-! ### The table -/

/-- The array has the descriptors of `tracked`, whose positions are in the table, and behind
them those of `overflow`, for which the table had no room. -/
structure Booked (maxSockets : ℕ) (poll : CPoll) (tracked overflow : List Int) : Prop where
  fInitialized : poll.fInitialized = true
  fds : poll.fds.map Pollfd.fd = tracked ++ overflow
  table : ∃ m, IsMap poll.hashtable m ∧ Tracks tracked m ∧ ∀ fd ∈ overflow, m fd = none
  fsize : poll.hashtable.fsize = maxSockets
  size : poll.hashtable.size = tracked.length
  full : overflow ≠ [] → tracked.length = maxSockets

namespace Booked

variable {maxSockets : ℕ} {poll poll' : CPoll} {tracked overflow : List Int}

theorem length_le (h : Booked maxSockets poll tracked overflow) : tracked.length ≤ maxSockets := by
  obtain ⟨m, hm, -⟩ := h.table
  rw [← h.size, ← h.fsize]
  exact hm.size_le_fsize

theorem overflow_eq_nil (h : Booked maxSockets poll tracked overflow)
    (hroom : poll.fds.length ≤ maxSockets) : overflow = [] := by
  by_contra hne
  have hlen := congrArg List.length h.fds
  have hfull := h.full hne
  have hpos := List.length_pos_iff.mpr hne
  rw [List.length_map, List.length_append] at hlen
  omega

theorem lookup_eq_some (h : Booked maxSockets poll tracked overflow) {fd : Int} {pos : ℕ} :
    poll.hashtable.lookup fd = some pos ↔ tracked[pos]? = some fd := by
  obtain ⟨m, hm, htracks, -⟩ := h.table
  rw [hm.lookup]
  exact htracks fd pos

theorem lookup_overflow (h : Booked maxSockets poll tracked overflow) {fd : Int}
    (hfd : fd ∈ overflow) : poll.hashtable.lookup fd = none := by
  obtain ⟨m, hm, -, hover⟩ := h.table
  rw [hm.lookup]
  exact hover fd hfd

theorem nodup (h : Booked maxSockets poll tracked overflow) : tracked.Nodup := by
  obtain ⟨m, -, htracks, -⟩ := h.table
  exact htracks.nodup

theorem tsize_ne_zero (h : Booked maxSockets poll tracked overflow) :
    poll.hashtable.tsize ≠ 0 := by
  obtain ⟨m, ⟨free, items, hm, -⟩, -⟩ := h.table
  exact Nat.pos_iff_ne_zero.mp hm.tsize_pos

/-- Only the descriptors and the table are looked at. -/
theorem of_eq (h : Booked maxSockets poll tracked overflow)
    (hinit : poll'.fInitialized = poll.fInitialized)
    (hfds : poll'.fds.map Pollfd.fd = poll.fds.map Pollfd.fd)
    (htable : poll'.hashtable = poll.hashtable) : Booked maxSockets poll' tracked overflow where
  fInitialized := hinit.trans h.fInitialized
  fds := hfds.trans h.fds
  table := htable ▸ h.table
  fsize := htable ▸ h.fsize
  size := htable ▸ h.size
  full := h.full

theorem added (h : Booked maxSockets poll tracked overflow) {fd : Int} {events : UInt16}
    (habsent : poll.hashtable.lookup fd = none) :
    ∃ tracked' overflow', Booked maxSockets
      { poll with
        fds := poll.fds ++ [⟨fd, events, 0⟩]
        hashtable := (poll.hashtable.insert fd poll.fds.length).2 } tracked' overflow' := by
  have hle := h.length_le
  obtain ⟨m, hm, htracks, hover⟩ := h.table
  have hnone : m fd = none := (hm.lookup fd).symm.trans habsent
  by_cases hroom : tracked.length < maxSockets
  · have hnil : overflow = [] := by
      by_contra hne
      exact absurd (h.full hne) (by omega)
    subst hnil
    obtain ⟨t', hrun, hm', hsize, hfsize⟩ :=
      hm.insert hnone (by rw [h.size, h.fsize]; exact hroom) poll.fds.length
    have hlen : poll.fds.length = tracked.length := by
      have hlen := congrArg List.length h.fds
      simpa using hlen
    refine ⟨tracked ++ [fd], [], h.fInitialized, ?_, ⟨_, ?_, htracks.push hnone, by simp⟩, ?_, ?_,
      fun hne => absurd rfl hne⟩
    · rw [List.map_append, h.fds]
      simp
    · rw [hrun, ← hlen]
      exact hm'
    · rw [hrun, ← h.fsize]
      exact hfsize
    · rw [hrun, List.length_append, ← h.size]
      exact hsize
  · have hfull : tracked.length = maxSockets := by omega
    have hrun := hm.insert_full (by rw [h.size, h.fsize, hfull]) fd poll.fds.length
    refine ⟨tracked, overflow ++ [fd], h.fInitialized, ?_, ⟨m, ?_, htracks, ?_⟩, ?_, ?_, fun _ => hfull⟩
    · rw [List.map_append, h.fds, List.append_assoc]
      rfl
    · rw [hrun]
      exact hm
    · intro fd' hfd'
      rcases List.mem_append.mp hfd' with hold | hnew
      · exact hover fd' hold
      · rw [List.mem_singleton.mp hnew, hnone]
    · rw [hrun]
      exact h.fsize
    · rw [hrun]
      exact h.size

/-- An entry can only go while there is room for all of them. -/
theorem overflow_of_removed (h : Booked maxSockets poll tracked overflow) {fd : Int} {pos : ℕ}
    {last : Pollfd} (hfound : poll.hashtable.lookup fd = some pos)
    (hlast : poll.fds.getLast? = some last)
    (hmoves : pos ≠ poll.fds.length - 1 → poll.hashtable.lookup last.fd ≠ none) :
    overflow = [] := by
  rcases List.eq_nil_or_concat overflow with hnil | ⟨front, fd', hover⟩
  · exact hnil
  · rw [List.concat_eq_append] at hover
    have hlt := (List.getElem?_eq_some_iff.mp (h.lookup_eq_some.mp hfound)).1
    have hids := congrArg List.getLast? h.fds
    have hlen := congrArg List.length h.fds
    rw [List.getLast?_map, hlast, hover, ← List.append_assoc, List.getLast?_concat] at hids
    rw [List.length_map, hover, List.length_append, List.length_append, List.length_singleton]
      at hlen
    have hfd : last.fd = fd' := Option.some.inj hids
    have hnone : poll.hashtable.lookup last.fd = none :=
      h.lookup_overflow (by rw [hfd, hover]; simp)
    exact absurd hnone (hmoves (by omega))

theorem removed (h : Booked maxSockets poll tracked []) {pos : ℕ} {entry last : Pollfd}
    (hfound : poll.hashtable.lookup entry.fd = some pos)
    (hlast : poll.fds.getLast? = some last) :
    Booked maxSockets
      { poll with
        fds := swapRemove poll.fds pos
        hashtable := ((if pos = poll.fds.length - 1 then poll.hashtable
          else poll.hashtable.store last.fd pos).remove entry.fd).2 } (swapRemove tracked pos) [] := by
  have hfds : poll.fds.map Pollfd.fd = tracked := by rw [h.fds, List.append_nil]
  have hlen : poll.fds.length = tracked.length := by rw [← hfds, List.length_map]
  have hlast' : tracked.getLast? = some last.fd := by rw [← hfds, List.getLast?_map, hlast]; rfl
  obtain ⟨m, hm, htracks, -⟩ := h.table
  have hentry : m entry.fd = some pos := (hm.lookup _).symm.trans hfound
  have hend : m last.fd = some (tracked.length - 1) := by
    rw [htracks, ← List.getLast?_eq_getElem?]
    exact hlast'
  rw [hlen]
  -- the table once the last entry has its new position
  obtain ⟨hmoved, hsize, hfsize⟩ : IsMap
        (if pos = tracked.length - 1 then poll.hashtable else poll.hashtable.store last.fd pos)
        (if pos = tracked.length - 1 then m else Function.update m last.fd (some pos)) ∧
      (if pos = tracked.length - 1 then poll.hashtable
        else poll.hashtable.store last.fd pos).size = poll.hashtable.size ∧
      (if pos = tracked.length - 1 then poll.hashtable
        else poll.hashtable.store last.fd pos).fsize = poll.hashtable.fsize := by
    split_ifs
    · exact ⟨hm, rfl, rfl⟩
    · exact hm.store hend pos
  have hthere : (if pos = tracked.length - 1 then m
      else Function.update m last.fd (some pos)) entry.fd = some pos := by
    split_ifs
    · exact hentry
    · rw [Function.update_apply]
      split_ifs
      · rfl
      · exact hentry
  obtain ⟨t', hrun, hm', hsize', hfsize'⟩ := hmoved.remove hthere
  refine ⟨h.fInitialized, ?_, ⟨_, ?_, htracks.swapRemove hentry hlast', by simp⟩, ?_, ?_,
    fun hne => absurd rfl hne⟩
  · rw [map_swapRemove, hfds, List.append_nil]
  · rw [hrun]
    exact hm'
  · rw [hrun, ← h.fsize, ← hfsize]
    exact hfsize'
  · have hsz := h.size
    rw [hrun, length_swapRemove]
    dsimp only
    omega

end Booked

theorem map_fd_mark (call : PollCall) (fds : List Pollfd) :
    (call.mark fds).map Pollfd.fd = fds.map Pollfd.fd := by
  rw [PollCall.mark]
  split_ifs
  · rfl
  · apply List.ext_getElem?
    intro i
    rw [List.getElem?_map, List.getElem?_mapIdx, List.getElem?_map, Option.map_map]
    rfl

theorem map_modify_of_eq {β : Type*} {f : Pollfd → Pollfd} {g : Pollfd → β}
    (h : ∀ entry, g (f entry) = g entry) (fds : List Pollfd) (pos : ℕ) :
    (fds.modify pos f).map g = fds.map g := by
  apply List.ext_getElem?
  intro i
  rw [List.getElem?_map, List.getElem?_modify, List.getElem?_map]
  cases fds[i]? with
  | none => rfl
  | some entry =>
    simp only [Option.map_eq_map, Option.map_some]
    split_ifs
    · rw [h]
    · rfl

theorem map_fd_set {fds : List Pollfd} {pos : ℕ} {entry : Pollfd} (h : fds[pos]? = some entry) :
    (fds.set pos { entry with revents := 0 }).map Pollfd.fd = fds.map Pollfd.fd := by
  rw [← modify_of_getElem? h fun entry => { entry with revents := 0 }]
  apply map_modify_of_eq
  exact fun _ => rfl

theorem Change.booked {maxSockets : ℕ} {poll poll' : CPoll} {entries : List PollEntry}
    {tracked overflow : List Int} (hc : Change poll entries poll')
    (h : Booked maxSockets poll tracked overflow) :
    ∃ tracked' overflow', Booked maxSockets poll' tracked' overflow' := by
  cases hc with
  | rotated rotation => exact ⟨_, _, h.of_eq rfl rfl rfl⟩
  | added fd events absent wide => exact h.added absent
  | removed pos entry last at_pos found at_end moves =>
    obtain rfl := h.overflow_of_removed found at_end moves
    exact ⟨_, _, h.removed found at_end⟩
  | changed pos events =>
    refine ⟨_, _, h.of_eq rfl ?_ rfl⟩
    apply map_modify_of_eq
    exact fun _ => rfl
  | polled call some counts used => exact ⟨_, _, h.of_eq rfl (map_fd_mark call poll.fds) rfl⟩
  | reported pos entry at_pos event unread => exact ⟨_, _, h.of_eq rfl (map_fd_set at_pos) rfl⟩

/-! ### The log -/

theorem registered_concat (log : List PollEntry) (e : PollEntry) :
    registered (log ++ [e]) = registerStep (registered log) e := by
  rw [registered, List.foldl_append]
  rfl

theorem pending_concat (log : List PollEntry) (e : PollEntry) :
    pending (log ++ [e]) = pendingStep (pending log) e := by
  rw [pending, List.foldl_append]
  rfl

theorem noneLost_concat {log : List PollEntry} {e : PollEntry} (hpolled : e.isPolled = false)
    (hremoved : ∀ fd, e ≠ .removed fd) : NoneLost (log ++ [e]) ↔ NoneLost log := by
  constructor
  · rintro h l₁ fd l₂ rfl hl₂
    refine h l₁ fd (l₂ ++ [e]) (by rw [List.append_assoc, List.cons_append]) fun x hx => ?_
    rcases List.mem_append.mp hx with hx | hx
    · exact hl₂ x hx
    · rwa [List.mem_singleton.mp hx]
  · intro h l₁ fd l₂ hl hl₂
    rcases Log.concat_eq_append_cons.mp hl with ⟨-, hx, -⟩ | ⟨l₃, rfl, hlog⟩
    · exact absurd hx.symm (hremoved fd)
    · exact h l₁ fd l₃ hlog fun x hx => hl₂ x (List.mem_append_left _ hx)

theorem noneLost_polled (log : List PollEntry) (marked : List Int) :
    NoneLost (log ++ [.polled marked]) := by
  intro l₁ fd l₂ hl hl₂
  rcases Log.concat_eq_append_cons.mp hl with ⟨-, hx, -⟩ | ⟨l₃, rfl, -⟩
  · cases hx
  · have hpolled := hl₂ (.polled marked) (by simp)
    cases hpolled

theorem noneLost_removed {log : List PollEntry} {fd : Int} :
    NoneLost (log ++ [.removed fd]) ↔ NoneLost log ∧ fd ∉ pending log := by
  constructor
  · intro h
    refine ⟨?_, h log fd [] rfl (by simp)⟩
    rintro l₁ fd' l₂ rfl hl₂
    refine h l₁ fd' (l₂ ++ [.removed fd]) (by rw [List.append_assoc, List.cons_append]) fun x hx => ?_
    rcases List.mem_append.mp hx with hx | hx
    · exact hl₂ x hx
    · rw [List.mem_singleton.mp hx]
      rfl
  · rintro ⟨h, hfd⟩ l₁ fd' l₂ hl hl₂
    rcases Log.concat_eq_append_cons.mp hl with ⟨rfl, hx, -⟩ | ⟨l₃, rfl, hlog⟩
    · cases hx
      exact hfd
    · exact h l₁ fd' l₃ hlog fun x hx => hl₂ x (List.mem_append_left _ hx)

/-- An event is reported when it is due, and there is a new `poll` when none is. -/
def Fits (maxSockets : ℕ) (log : List PollEntry) : PollEntry → Prop
  | .added _ => True
  | .removed _ => True
  | .polled marked => pending log = [] ∧ ((registered log).length ≤ maxSockets → marked.Nodup)
  | .reported fd => fd ∈ pending log ∧ fd ∈ registered log

/-- The array and the counter agree with the log. The counter is too large by the number of the
events that were lost. -/
structure Logged (maxSockets : ℕ) (log : List PollEntry) (poll : CPoll) : Prop where
  registered : (poll.fds.map Pollfd.fd).Perm (registered log)
  pending : (unreported poll.fds).Perm (pending log)
  count : ∃ lost, poll.unreadcount.toNat = (Polling.pending log).length + lost ∧
    (lost = 0 ↔ NoneLost log)
  always : Log.Always (Fits maxSockets) log

theorem unreported_perm {fds fds' : List Pollfd} (h : fds.Perm fds') :
    (unreported fds).Perm (unreported fds') := (h.filter _).map _

theorem unreported_sublist (fds : List Pollfd) :
    (unreported fds).Sublist (fds.map Pollfd.fd) := List.filter_sublist.map _

theorem unreported_cons (entry : Pollfd) (fds : List Pollfd) : unreported (entry :: fds) =
    if hasEvent entry then entry.fd :: unreported fds else unreported fds := by
  rw [unreported, List.filter_cons]
  split_ifs <;> rfl

/-- Other flags may be asked for. -/
theorem unreported_modify (fds : List Pollfd) (pos : ℕ) (events : UInt16) :
    unreported (fds.modify pos fun entry => { entry with events := events }) = unreported fds := by
  have hmap : ∀ fds : List Pollfd, unreported fds =
      ((fds.map fun entry => (entry.fd, entry.revents)).filter fun p => p.2 ≠ 0).map Prod.fst := by
    intro fds
    rw [List.filter_map, List.map_map]
    rfl
  rw [hmap, hmap fds, map_modify_of_eq]
  exact fun _ => rfl

/-- The entry whose event is reported. -/
theorem unreported_set {fds : List Pollfd} {pos : ℕ} {entry : Pollfd}
    (h : fds[pos]? = some entry) (hevent : hasEvent entry = true) :
    (unreported fds).Perm
      (entry.fd :: unreported (fds.set pos { entry with revents := 0 })) := by
  obtain ⟨hlt, rfl⟩ := List.getElem?_eq_some_iff.mp h
  have hold := unreported_perm (List.getElem_cons_eraseIdx_perm hlt)
  have hnew := unreported_perm (List.set_perm_cons_eraseIdx hlt { fds[pos] with revents := 0 })
  rw [unreported_cons, if_pos hevent] at hold
  rw [unreported_cons, if_neg (by simp [hasEvent])] at hnew
  exact hold.symm.trans (hnew.symm.cons _)

/-- A call that fails marks nothing, where nothing was left. -/
theorem unreported_afterPoll (call : PollCall) {poll : CPoll} (h : unreported poll.fds = []) :
    (unreported (poll.afterPoll call).fds).Perm (marked call poll.fds) := by
  unfold marked afterPoll
  by_cases hfailed : call.ret < 0
  · simp only [PollCall.mark, if_pos hfailed, h, List.Perm.refl]
  · simp only [if_neg hfailed, List.Perm.refl]

theorem counts_afterPoll {call : PollCall} {poll : CPoll} (hcounts : call.Counts poll.fds)
    (h : unreported poll.fds = []) :
    (poll.afterPoll call).unreadcount.toNat = (unreported (poll.afterPoll call).fds).length := by
  rw [afterPoll]
  by_cases hfailed : call.ret < 0
  · rw [if_pos hfailed, PollCall.mark, if_pos hfailed, h]
    rfl
  · have hle : 0 ≤ call.ret := Int32.not_lt.mp hfailed
    have hcount := hcounts hle
    rw [if_neg hfailed, Int32.toNat_toUInt32_of_le hle, ← Int32.toNat_toInt, hcount, unreported,
      List.length_map, List.countP_eq_length_filter]
    exact Int.toNat_natCast _

section

variable {maxSockets : ℕ} {log : List PollEntry} {poll poll' : CPoll}

/-- An event that is still unreported is lost with its entry, but not for the counter. -/
theorem Logged.removed (h : Logged maxSockets log poll)
    (hnodup : (poll.fds.map Pollfd.fd).Nodup) {pos : ℕ} {entry : Pollfd}
    (at_pos : poll.fds[pos]? = some entry) (hfds : poll'.fds = swapRemove poll.fds pos)
    (hunread : poll'.unreadcount = poll.unreadcount) :
    Logged maxSockets (log ++ [.removed entry.fd]) poll' := by
  obtain ⟨lost, hcount, hlost⟩ := h.count
  have hperm := swapRemove_perm at_pos
  rw [← hfds] at hperm
  have hids := (hperm.map Pollfd.fd).symm.trans h.registered
  have hdue := (unreported_perm hperm).symm.trans h.pending
  have hnd := (hperm.map Pollfd.fd).nodup_iff.mp hnodup
  rw [List.map_cons] at hids hnd
  rw [unreported_cons] at hdue
  have hregistered : (poll'.fds.map Pollfd.fd).Perm
      (Polling.registered (log ++ [.removed entry.fd])) := by
    rw [registered_concat]
    exact (List.cons_perm_iff_perm_erase.mp hids).2
  by_cases hevent : hasEvent entry = true
  · rw [if_pos hevent] at hdue
    have hmem : entry.fd ∈ Polling.pending log := hdue.mem_iff.mp (by simp)
    have hlen := List.length_erase_of_mem hmem
    have hpos := List.length_pos_of_mem hmem
    refine ⟨hregistered, ?_, ⟨lost + 1, ?_, ?_⟩, Log.always_concat.mpr ⟨h.always, trivial⟩⟩
    · rw [pending_concat]
      exact (List.cons_perm_iff_perm_erase.mp hdue).2
    · rw [hunread, pending_concat, pendingStep, hcount, hlen]
      omega
    · simp [noneLost_removed, hmem]
  · rw [if_neg hevent] at hdue
    have hnot : entry.fd ∉ Polling.pending log := fun hm =>
      (List.nodup_cons.mp hnd).1 ((unreported_sublist _).subset (hdue.mem_iff.mpr hm))
    have hsame : Polling.pending (log ++ [.removed entry.fd]) = Polling.pending log := by
      rw [pending_concat, pendingStep, List.erase_of_not_mem hnot]
    refine ⟨hregistered, ?_, ⟨lost, ?_, ?_⟩, Log.always_concat.mpr ⟨h.always, trivial⟩⟩
    · rw [hsame]
      exact hdue
    · rw [hunread, hsame]
      exact hcount
    · rw [noneLost_removed, hlost, and_iff_left hnot]

/-- When the counter says so, or a scan has found nothing, no event is due. -/
theorem Logged.pending_eq_nil (h : Logged maxSockets log poll)
    (used : poll.unreadcount = 0 ∨ ∀ entry ∈ poll.fds, hasEvent entry = false) :
    Polling.pending log = [] := by
  rcases used with hzero | hno
  · obtain ⟨lost, hcount, -⟩ := h.count
    rw [hzero] at hcount
    exact List.length_eq_zero_iff.mp (by simp at hcount; omega)
  · have hnil : unreported poll.fds = [] := by
      rw [unreported, List.filter_eq_nil_iff.mpr (by simpa using hno)]
      rfl
    have hp := h.pending
    rw [hnil] at hp
    exact hp.symm.eq_nil

theorem Logged.polled {tracked overflow : List Int} (h : Logged maxSockets log poll)
    (hb : Booked maxSockets poll tracked overflow) {call : PollCall} (counts : call.Counts poll.fds)
    (hnone : Polling.pending log = []) :
    Logged maxSockets (log ++ [.polled (marked call poll.fds)]) (poll.afterPoll call) := by
  have hdue : unreported poll.fds = [] := by
    have hp := h.pending
    rw [hnone] at hp
    exact hp.eq_nil
  have hmarked := unreported_afterPoll call hdue
  have hids : ((poll.afterPoll call).fds.map Pollfd.fd) = tracked ++ overflow :=
    (map_fd_mark call poll.fds).trans hb.fds
  refine ⟨?_, ?_, ⟨0, ?_, by simp [noneLost_polled]⟩, Log.always_concat.mpr ⟨h.always, hnone, ?_⟩⟩
  · rw [registered_concat, hids, ← hb.fds]
    exact h.registered
  · rw [pending_concat]
    exact hmarked
  · rw [pending_concat, pendingStep, ← hmarked.length_eq]
    exact counts_afterPoll counts hdue
  · intro hroom
    rw [← h.registered.length_eq, List.length_map] at hroom
    obtain rfl := hb.overflow_eq_nil hroom
    rw [List.append_nil] at hids
    have hnd := (unreported_sublist (poll.afterPoll call).fds).nodup (by rw [hids]; exact hb.nodup)
    exact hmarked.nodup_iff.mp hnd

theorem Logged.reported (h : Logged maxSockets log poll) {pos : ℕ} {entry : Pollfd}
    (at_pos : poll.fds[pos]? = some entry) (event : hasEvent entry = true)
    (unread : poll.unreadcount ≠ 0) :
    Logged maxSockets (log ++ [.reported entry.fd])
      { poll with
        fds := poll.fds.set pos { entry with revents := 0 }
        unreadcount := poll.unreadcount - 1 } := by
  obtain ⟨lost, hcount, hlost⟩ := h.count
  have hdue := (unreported_set at_pos event).symm.trans h.pending
  have hmem : entry.fd ∈ Polling.pending log := hdue.mem_iff.mp (by simp)
  have hreg : entry.fd ∈ Polling.registered log :=
    h.registered.mem_iff.mp (List.mem_map_of_mem (List.mem_of_getElem? at_pos))
  refine ⟨?_, ?_, ⟨lost, ?_, ?_⟩, Log.always_concat.mpr ⟨h.always, hmem, hreg⟩⟩
  · rw [registered_concat, map_fd_set at_pos]
    exact h.registered
  · rw [pending_concat]
    exact (List.cons_perm_iff_perm_erase.mp hdue).2
  · have hlen := List.length_erase_of_mem hmem
    have hpos := List.length_pos_of_mem hmem
    have hpos' : poll.unreadcount.toNat ≠ 0 := fun hz => unread (UInt32.toNat_inj.mp hz)
    have hsub : (poll.unreadcount - 1).toNat = poll.unreadcount.toNat - 1 := by
      refine UInt32.toNat_sub_of_le _ _ (UInt32.le_iff_toNat_le.mpr ?_)
      change 1 ≤ poll.unreadcount.toNat
      omega
    rw [pending_concat, pendingStep, hlen]
    dsimp only
    omega
  · rw [noneLost_concat rfl (by simp)]
    exact hlost

theorem Change.logged {entries : List PollEntry} {tracked overflow : List Int}
    (hc : Change poll entries poll') (hb : Booked maxSockets poll tracked overflow)
    (h : Logged maxSockets log poll) : Logged maxSockets (log ++ entries) poll' := by
  cases hc with
  | rotated rotation =>
    rw [List.append_nil]
    exact ⟨h.registered, h.pending, h.count, h.always⟩
  | changed pos events =>
    rw [List.append_nil]
    refine ⟨?_, ?_, h.count, h.always⟩
    · rw [map_modify_of_eq]
      · exact h.registered
      · exact fun _ => rfl
    · rw [unreported_modify]
      exact h.pending
  | added fd events absent wide =>
    obtain ⟨lost, hcount, hlost⟩ := h.count
    refine ⟨?_, ?_, ⟨lost, ?_, ?_⟩, Log.always_concat.mpr ⟨h.always, trivial⟩⟩
    · rw [registered_concat, List.map_append]
      exact h.registered.append_right _
    · rw [pending_concat]
      simpa [unreported, List.filter_append, hasEvent, pendingStep] using h.pending
    · rw [pending_concat]
      exact hcount
    · rw [noneLost_concat rfl (by simp)]
      exact hlost
  | removed pos entry last at_pos found at_end moves =>
    obtain rfl := hb.overflow_of_removed found at_end moves
    have hnodup : (poll.fds.map Pollfd.fd).Nodup := by
      rw [hb.fds, List.append_nil]
      exact hb.nodup
    exact h.removed hnodup at_pos rfl rfl
  | polled call some counts used => exact h.polled hb counts (h.pending_eq_nil used)
  | reported pos entry at_pos event unread => exact h.reported at_pos event unread

end

theorem settledOnce_concat {fd : Int} {log : List PollEntry} {e : PollEntry}
    (h : SettledOnce fd log) (he : e ≠ .reported fd) : SettledOnce fd (log ++ [e]) := by
  obtain ⟨first, rest, hfilter, hrest⟩ := h
  refine ⟨first, rest ++ [e].filter (·.concerns fd), ?_, ?_⟩
  · rw [List.filter_append, hfilter, List.cons_append]
  · intro hm
    rcases List.mem_append.mp hm with hm | hm
    · exact hrest hm
    · exact he (List.mem_singleton.mp (List.mem_of_mem_filter hm)).symm

theorem settledOnce_first {fd : Int} {log : List PollEntry} {e : PollEntry}
    (h : log.filter (·.concerns fd) = []) (he : e.concerns fd = true) :
    SettledOnce fd (log ++ [e]) := by
  refine ⟨e, [], ?_, by simp⟩
  rw [List.filter_append, h, List.filter_cons_of_pos (by simpa using he)]
  rfl

/-- The event of `fd` is still to come, or is settled. -/
def DueOrSettled (fd : Int) (due : List Int) (log : List PollEntry) : Prop :=
  (fd ∈ due ∧ log.filter (·.concerns fd) = []) ∨ (fd ∉ due ∧ SettledOnce fd log)

/-- An entry that is about another descriptor. -/
theorem DueOrSettled.other {fd : Int} {due due' : List Int} {log : List PollEntry} {e : PollEntry}
    (h : DueOrSettled fd due log) (he : e.concerns fd = false) (hmem : fd ∈ due' ↔ fd ∈ due) :
    DueOrSettled fd due' (log ++ [e]) := by
  rcases h with ⟨hin, hnone⟩ | ⟨hout, hsettled⟩
  · refine Or.inl ⟨hmem.mpr hin, ?_⟩
    rw [List.filter_append, hnone, List.filter_cons_of_neg (by simpa using he)]
    rfl
  · refine Or.inr ⟨fun hm => hout (hmem.mp hm), settledOnce_concat hsettled ?_⟩
    rintro rfl
    simp [PollEntry.concerns] at he

/-- An entry that settles the event of `fd'`. -/
theorem DueOrSettled.erase {fd fd' : Int} {due : List Int} {log : List PollEntry} {e : PollEntry}
    (h : DueOrSettled fd due log) (hnd : due.Nodup) (he : e.concerns fd = decide (fd' = fd))
    (honce : fd ∉ due → e ≠ .reported fd) : DueOrSettled fd (due.erase fd') (log ++ [e]) := by
  by_cases hsame : fd' = fd
  · subst hsame
    refine Or.inr ⟨hnd.not_mem_erase, ?_⟩
    rcases h with ⟨-, hnone⟩ | ⟨hout, hsettled⟩
    · exact settledOnce_first hnone (by simp [he])
    · exact settledOnce_concat hsettled (honce hout)
  · exact h.other (by simp [he, hsame]) (List.mem_erase_of_ne (Ne.symm hsame))

/-- Between two calls of `poll` an event is due until it is settled, and is settled once. -/
theorem due_or_settled {maxSockets : ℕ} {l₁ l₂ : List PollEntry} {marked : List Int} {fd : Int}
    (hfits : Log.Always (Fits maxSockets) (l₁ ++ .polled marked :: l₂)) (hnd : marked.Nodup)
    (hl₂ : ∀ e ∈ l₂, e.isPolled = false) (hfd : fd ∈ marked) :
    (Polling.pending (l₁ ++ .polled marked :: l₂)).Nodup ∧
      DueOrSettled fd (Polling.pending (l₁ ++ .polled marked :: l₂)) l₂ := by
  induction l₂ using List.reverseRecOn with
  | nil =>
    rw [pending_concat]
    exact ⟨hnd, Or.inl ⟨hfd, rfl⟩⟩
  | append_singleton l₂ e ih =>
    rw [← List.cons_append, ← List.append_assoc] at hfits ⊢
    obtain ⟨hbefore, he⟩ := Log.always_concat.mp hfits
    obtain ⟨hdue, hcases⟩ := ih hbefore fun x hx => hl₂ x (List.mem_append_left _ hx)
    rw [pending_concat]
    cases e with
    | added fd' => exact ⟨hdue, hcases.other rfl Iff.rfl⟩
    | polled marked' =>
      have hpolled := hl₂ (.polled marked') (by simp)
      cases hpolled
    | removed fd' => exact ⟨hdue.erase fd', hcases.erase hdue rfl fun _ => nofun⟩
    | reported fd' =>
      refine ⟨hdue.erase fd', hcases.erase hdue rfl ?_⟩
      rintro hout ⟨⟩
      exact hout he.1

/-! ### Runs -/

theorem Changes.kept {maxSockets : ℕ} {log entries : List PollEntry} {poll poll' : CPoll}
    (hc : Changes poll entries poll') {tracked overflow : List Int}
    (hb : Booked maxSockets poll tracked overflow) (h : Logged maxSockets log poll) :
    ∃ tracked' overflow', Booked maxSockets poll' tracked' overflow' ∧
      Logged maxSockets (log ++ entries) poll' := by
  induction hc with
  | refl => exact ⟨tracked, overflow, hb, by rwa [List.append_nil]⟩
  | snoc _ hchange ih =>
    obtain ⟨tracked₁, overflow₁, hb₁, h₁⟩ := ih
    obtain ⟨tracked₂, overflow₂, hb₂⟩ := hchange.booked hb₁
    rw [← List.append_assoc]
    exact ⟨tracked₂, overflow₂, hb₂, hchange.logged hb₁ h₁⟩

theorem booked_start {maxSockets : ℕ} (hmax : maxSockets ≠ 0) :
    Booked maxSockets (create.initializeWith maxSockets).2 [] [] := by
  have htable : (create.initializeWith maxSockets).2.hashtable = .initTable maxSockets 0 :=
    if_neg hmax
  refine ⟨rfl, rfl, ⟨_, ?_, tracks_nil, by simp⟩, ?_, ?_, fun hne => absurd rfl hne⟩
  · rw [htable]
    exact isMap_initTable maxSockets 0
  · rw [htable]
    rfl
  · rw [htable]
    rfl

theorem logged_start (maxSockets : ℕ) :
    Logged maxSockets [] (create.initializeWith maxSockets).2 where
  registered := List.Perm.refl _
  pending := List.Perm.refl _
  count := ⟨0, rfl, by simp [NoneLost]⟩
  always := Log.always_nil

theorem Run.kept {maxSockets : ℕ} (hmax : maxSockets ≠ 0) {log : List PollEntry} {poll : CPoll}
    (h : Run maxSockets log poll) :
    ∃ tracked overflow, Booked maxSockets poll tracked overflow ∧ Logged maxSockets log poll := by
  induction h with
  | start => exact ⟨[], [], booked_start hmax, logged_start maxSockets⟩
  | next op call _ hcrash hcounts ih =>
    obtain ⟨tracked, overflow, hb, hl⟩ := ih
    exact (changes_step hcrash hcounts).kept hb hl

/-- An instance for no sockets never gets one. -/
theorem Run.empty {log : List PollEntry} {poll : CPoll} (h : Run 0 log poll) :
    log = [] ∧ poll.fds = [] ∧ poll.unreadcount = 0 ∧ poll.fInitialized = true ∧
      poll.hashtable = .create 0 0 := by
  induction h with
  | start => exact ⟨rfl, rfl, rfl, rfl, rfl⟩
  | @next log poll op call _ hcrash hcounts ih =>
    obtain ⟨rfl, hfds, hunread, hinit, htable⟩ := ih
    have hc := changes_step hcrash hcounts
    rw [List.nil_append]
    generalize (poll.step op call).2.1 = entries at hc ⊢
    generalize (poll.step op call).2.2 = poll' at hc ⊢
    clear hcrash hcounts
    induction hc with
    | refl => exact ⟨rfl, hfds, hunread, hinit, htable⟩
    | snoc _ hchange ih =>
      obtain ⟨rfl, hfds₁, hunread₁, hinit₁, htable₁⟩ := ih
      cases hchange with
      | rotated rotation => exact ⟨rfl, hfds₁, hunread₁, hinit₁, htable₁⟩
      | added fd events absent wide =>
        rw [htable₁] at wide
        exact absurd rfl wide
      | removed pos entry last at_pos found at_end moves =>
        rw [hfds₁] at at_pos
        cases at_pos
      | changed pos events =>
        refine ⟨rfl, ?_, hunread₁, hinit₁, htable₁⟩
        rw [hfds₁]
        cases pos <;> rfl
      | polled call some counts used => exact absurd hfds₁ some
      | reported pos entry at_pos event unread => exact absurd hunread₁ unread

end StunServer.Polling.CPoll

import StunServer.Proofs.TcpListening
import StunServer.Results.Response

/-! `CTCPStunThread::Run`, whatever the system comes back with: which connection is in which
table, and how many connections there are. -/

namespace StunServer

open Chain CTCPStunThread FastHash

namespace CTCPStunThread

/-- What the tables hold is `filed`, and the free list visits `free`. -/
structure InOrder (thread : CTCPStunThread) (filed : ConnectionTable → Int → Option ℕ)
    (free : List ℕ) : Prop where
  tables : ∀ which, IsMap (thread.tables which) (filed which)
  /-- An open connection is in the table it names, under its own socket, and nowhere else. -/
  filedOnce : ∀ p < thread.connectionpool.count,
    (thread.connectionpool.heap p).stunsocket.isValid = true →
      ∃ which, which.id = (thread.connectionpool.heap p).idHashTable ∧
        ∀ which' k, filed which' k = some p ↔
          which' = which ∧ k = (thread.connectionpool.heap p).stunsocket.sock
  freeList : IsChain (fun p => (thread.connectionpool.heap p).pNext)
    thread.connectionpool.freelist free
  nodup : free.Nodup
  notFiled : ∀ p ∈ free, ∀ which k, filed which k ≠ some p

theorem Booked.inOrder {thread : CTCPStunThread} {filed : ConnectionTable → Int → Option ℕ}
    {free : List ℕ} (h : thread.Booked filed free none) : thread.InOrder filed free where
  tables := h.books.isMap
  filedOnce p hp hvalid := by
    have hsock : thread.connectionpool.sock p ≠ -1 := of_decide_eq_true hvalid
    obtain ⟨which, hw⟩ := h.books.named p hp hsock (by simp)
    obtain ⟨-, -, -, -, hid⟩ := h.books.entry which _ p hw
    refine ⟨which, hid.symm, fun which' k => ⟨fun hk => ?_, ?_⟩⟩
    · obtain ⟨-, hs, -, -, hid'⟩ := h.books.entry which' k p hk
      exact ⟨ConnectionTable.id_injective (hid'.symm.trans hid), hs.symm⟩
    · rintro ⟨rfl, rfl⟩
      exact hw
  freeList := h.books.freeList.chain
  nodup := h.books.freeList.nodup
  notFiled p hp which k hk := by
    obtain ⟨-, hs, hne, -⟩ := h.books.entry which k p hk
    exact hne (hs.symm.trans ((h.books.freeList.mem_iff p).mp hp).2)

end CTCPStunThread

section

variable {D : Digests} {past : List (Running × Turn)} {s : Running}

/-- Wherever a run is: the books are in order, closing all connections of a table ends with
that table empty and the other one untouched, and a failed accept changes no table and
leaves its socket closed. -/
theorem connection_bookkeeping (h : Run D past s) :
    (∃ filed free, s.thread.InOrder filed free) ∧
    (∀ which, ∃ thread', s.thread.closeAllConnections which = some thread' ∧
      (thread'.tables which).size = 0 ∧ (∀ k, (thread'.tables which).lookup k = none) ∧
      thread'.tables which.other = s.thread.tables which.other) ∧
    ∀ role call thread', call.IsFresh s.thread →
      s.thread.acceptConnection role call = (none, thread') →
        thread'.tables = s.thread.tables ∧
          (call.socktmp ≠ -1 → thread'.isOpen call.socktmp = false) := by
  obtain ⟨filed, free, hfine⟩ := h.fine
  refine ⟨⟨filed, free, hfine.booked.inOrder⟩, fun which => ?_, ?_⟩
  · obtain ⟨thread', filed', free', hrun, hbooked, hcloses, hz, -⟩ :=
      closeAllConnections_spec hfine.booked which
    refine ⟨thread', hrun, hz, fun k => ?_, hcloses.other⟩
    have hmap := hbooked.books.isMap which
    rw [hmap.lookup]
    exact hmap.size_eq_zero_iff.mp hz k
  · intro role call thread' hfresh hrun
    rcases acceptConnection_spec hfine.booked role hfresh with
      ⟨-, p, thread'', -, -, hrun', -⟩ | ⟨-, thread'', -, hrun', -, hrefuses⟩
    · rw [hrun'] at hrun
      cases hrun
    · rw [hrun'] at hrun
      cases hrun
      exact ⟨hrefuses.tables, hrefuses.closed⟩

/-- A run stays within the limit just when no accept goes through at the limit. -/
theorem within_limit_iff (h : Run D past s) :
    (∀ v ∈ states past s, v.thread.connectionCount ≤ v.thread.maxConnections) ↔
      ∀ e ∈ past, ¬(e.1.thread.isConnectionCountAtMax = true ∧ e.1.AcceptsOne e.2) := by
  induction h with
  | start h =>
    have hcount := init_connectionCount h
    simp [states, hcount]
  | @step past s s' turn h hfresh hstep ih =>
    obtain ⟨filed, free, hfine⟩ := h.fine
    obtain ⟨s'', hrun, hsteps⟩ := hfine.step D hfresh
    rw [hstep] at hrun
    cases hrun
    have hstates : states (past ++ [(s, turn)]) s' = states past s ++ [s'] := by
      simp [states]
    rw [hstates, List.forall_mem_append, List.forall_mem_append, List.forall_mem_singleton,
      List.forall_mem_singleton, ← ih]
    refine and_congr_right fun hall => ?_
    have hle := hall s (by simp [states])
    rw [isConnectionCountAtMax, decide_eq_true_eq, hsteps.maxConnections]
    by_cases ha : s.AcceptsOne turn
    · have hcount := hsteps.accepts ha
      constructor
      · rintro hle' ⟨hge, -⟩
        have hge' : s.thread.connectionCount ≥ s.thread.maxConnections := hge
        omega
      · intro hn
        have hlt : ¬s.thread.connectionCount ≥ s.thread.maxConnections := fun hge => hn ⟨hge, ha⟩
        omega
    · have hcount := hsteps.others ha
      exact ⟨fun _ hn => ha hn.2, fun _ => by omega⟩

/-- A run stays within the limit just when, whenever a pass begins at the limit, no event of a
listening socket is left over from before, or the accept it leads to is refused. -/
theorem connection_limit_iff (h : Run D past s) (hapart : s.thread.ListensApart) :
    (∀ v ∈ states past s, v.thread.connectionCount ≤ v.thread.maxConnections) ↔
      ∀ before e e' later, past = before ++ e :: e' :: later →
        (∃ fd, e.1.HearsAtLimit e.2 fd) → ¬e'.2.accepted.GoesThrough e'.1.thread := by
  rw [within_limit_iff h]
  -- what two successive steps of the run have to do with each other
  have hpair : ∀ {before e e' later}, past = before ++ e :: e' :: later →
      ((∃ fd, e.1.HearsAtLimit e.2 fd) ↔
        e.1.point = .top ∧ e'.1.thread.isConnectionCountAtMax = true ∧ e'.1.Listens) ∧
      ∀ fd, e'.1.point = .event fd → e.1.point = .top := by
    intro before e e' later hpast
    obtain ⟨hrun, s', hstep, hhead⟩ := h.steps hpast
    obtain rfl : e'.1 = s' := Option.some.inj hhead
    have hmem : e ∈ past := hpast ▸ List.mem_append_right _ List.mem_cons_self
    obtain ⟨kept, hattends⟩ := hrun.attends fun role role' => by
      rw [h.socketTable_eq hmem]
      exact hapart role role'
    exact ⟨hattends.hears_iff hstep, fun fd => top_of_event hstep⟩
  constructor
  · intro hall before e e' later hpast hhears hgoes
    obtain ⟨-, hmax, hlistens⟩ := (hpair hpast).1.mp hhears
    refine hall e' ?_ ⟨hmax, hlistens, hgoes⟩
    rw [hpast]
    exact List.mem_append_right _ (List.mem_cons_of_mem _ List.mem_cons_self)
  · rintro hnone e' he' ⟨hmax, hlistens, hgoes⟩
    obtain ⟨before, later, hpast⟩ := List.append_of_mem he'
    obtain ⟨fd, hpoint, -⟩ := id hlistens
    rcases List.eq_nil_or_concat before with rfl | ⟨before, e, rfl⟩
    · rw [(h.steps hpast).1.first] at hpoint
      cases hpoint
    · rw [List.concat_eq_append, List.append_assoc] at hpast
      obtain ⟨hiff, htop⟩ := hpair hpast
      exact hnone _ e e' later hpast (hiff.mpr ⟨htop fd hpoint, hmax, hlistens⟩) hgoes

end

/-! ### Two listening sockets and room for one connection -/

namespace CTCPStunThread

/-- The primary addresses are listened on, on sockets 3 and 4. -/
def overfullInit : Except HRESULT CTCPStunThread :=
  let tsa : TransportAddressSet := ⟨fun role => ⟨.create, role = .rolePP ∨ role = .rolePA⟩⟩
  init tsa tsa none 1 (fun role => if role = .rolePP then 3 else 4) 5 0

/-- Nothing is there to receive, and `accept` would return `sock`. -/
def quietTurn (ready : List Int) (sock : Int) (time : ℤ) : Turn where
  fNeedToExit := false
  fNeedToExitThen := false
  fListenAdded _ := true
  ready := ready
  accepted := ⟨sock, true, 1, ⟨none, none⟩, true, true⟩
  io := ⟨[], ⟨[], true, true, true⟩⟩
  timeCurrent := time
  timeSwept := time

/-- Both listening sockets are ready; the first connection is accepted, the tables are
swapped, and the second event is still there when the listening sockets are removed. -/
def overfullTurns : List Turn :=
  [quietTurn [3, 4] (-1) 0, quietTurn [] 10 0, quietTurn [] (-1) 0, quietTurn [] (-1) 60,
    quietTurn [] (-1) 60, quietTurn [] 11 60]

end CTCPStunThread

theorem overfull_run : ∃ past s, Run sampleDigests past s ∧ past.map Prod.snd = overfullTurns ∧
    s.thread.maxConnections = 1 ∧ s.thread.connectionCount = 2 ∧ s.thread.ListensApart := by
  obtain ⟨thread, hinit⟩ : ∃ thread, overfullInit = .ok thread := ⟨_, rfl⟩
  have hcount : ((follow sampleDigests ⟨.top, thread⟩ overfullTurns).map
      fun s => (s.thread.maxConnections, s.thread.connectionCount,
        roles.map s.thread.socketTable)) = some (1, 2, [3, 4, -1, -1]) := by
    cases hinit
    decide +kernel
  have hstart : Run sampleDigests [] ⟨.top, thread⟩ := by
    unfold overfullInit at hinit
    exact .start hinit
  obtain ⟨s, hs, htriple⟩ := Option.map_eq_some_iff.mp hcount
  simp only [Prod.mk.injEq] at htriple
  obtain ⟨hmax, hcount, hsockets⟩ := htriple
  obtain ⟨later, hrun, hturns⟩ := hstart.follow hs
  refine ⟨later, s, hrun, hturns, hmax, hcount, ?_⟩
  simp only [roles, List.map_cons, List.map_nil, List.cons.injEq, and_true] at hsockets
  obtain ⟨hPP, hPA, hAP, hAA⟩ := hsockets
  intro role role' hne hsame
  cases role <;> cases role' <;> simp_all

/-- Two connections, where one is allowed. -/
theorem limit_exceeded : ∃ past s, Run sampleDigests past s ∧
    past.map Prod.snd = overfullTurns ∧
      ¬s.thread.connectionCount ≤ s.thread.maxConnections := by
  obtain ⟨past, s, hrun, hturns, hmax, hcount, -⟩ := overfull_run
  exact ⟨past, s, hrun, hturns, by omega⟩

/-- The event of the second socket is left over when the first connection is in the old table, and
its accept goes through. -/
theorem connection_limit_iff_overfull : ∃ past s, Run sampleDigests past s ∧
    past.map Prod.snd = overfullTurns ∧ ∃ before e e' later, past = before ++ e :: e' :: later ∧
      (∃ fd, e.1.HearsAtLimit e.2 fd) ∧ e'.2.accepted.GoesThrough e'.1.thread := by
  obtain ⟨past, s, hrun, hturns, hmax, hcount, hapart⟩ := overfull_run
  refine ⟨past, s, hrun, hturns, ?_⟩
  by_contra hno
  have hall := (connection_limit_iff hrun hapart).mpr fun before e e' later hpast hhears hgoes =>
    hno ⟨before, e, e', later, hpast, hhears, hgoes⟩
  have hle := hall s (by simp [states])
  omega

theorem connection_bookkeeping_overfull : ∃ past s, Run sampleDigests past s ∧
    past.map Prod.snd = overfullTurns ∧ ∃ filed free, s.thread.InOrder filed free := by
  obtain ⟨past, s, hrun, hturns, -⟩ := overfull_run
  exact ⟨past, s, hrun, hturns, (connection_bookkeeping hrun).1⟩

end StunServer

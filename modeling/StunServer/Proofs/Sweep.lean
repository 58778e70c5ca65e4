import StunServer.Proofs.TcpServer
import StunServer.Lib.Log

/-! How old the connections of a run are. Their ages are not stored: a connection is in the
new table until the first swap after its accept, and in the old one until the next. That
follows from one fact, that nothing but an accept opens a connection or moves one from one
table to the other. -/

namespace StunServer

open CConnectionPool

namespace CConnectionPool

def IsOpen (pool : CConnectionPool) (q : ℕ) : Prop := q < pool.count ∧ pool.sock q ≠ -1

/-- The connections that are open afterwards were open before and named the same table, but
for some new ones. -/
def Stays (new : ℕ → Prop) (pool pool' : CConnectionPool) : Prop :=
  ∀ q, pool'.IsOpen q → new q ∨
    (pool.IsOpen q ∧ (pool'.heap q).idHashTable = (pool.heap q).idHashTable)

variable {new new' : ℕ → Prop} {pool pool' pool'' : CConnectionPool} {pConn : ℕ}

theorem Stays.refl (new : ℕ → Prop) (pool : CConnectionPool) : Stays new pool pool :=
  fun _ hq => Or.inr ⟨hq, rfl⟩

theorem Stays.trans (h : Stays new pool pool') (h' : Stays new pool' pool'') :
    Stays new pool pool'' := by
  intro q hq
  rcases h' q hq with hnew | ⟨hopen', hid'⟩
  · exact Or.inl hnew
  · rcases h q hopen' with hnew | ⟨hopen, hid⟩
    · exact Or.inl hnew
    · exact Or.inr ⟨hopen, hid'.trans hid⟩

theorem Stays.mono (h : Stays new pool pool') (hnew : ∀ q, new q → new' q) :
    Stays new' pool pool' :=
  fun q hq => (h q hq).imp_left (hnew q)

/-- Work on one connection. -/
theorem stays_modify {f : StunConnection → StunConnection}
    (hf : new pConn ∨ (f (pool.heap pConn)).place = (pool.heap pConn).place) :
    Stays new pool (pool.modify pConn f) := by
  rintro q ⟨hlt, hq⟩
  by_cases hqp : q = pConn
  · subst hqp
    rcases hf with hnew | hplace
    · exact Or.inl hnew
    · have hplace' := place_modify hplace q
      rw [sock_eq_of_place hplace'] at hq
      exact Or.inr ⟨⟨hlt, hq⟩, congrArg (fun place => place.2.1) hplace'⟩
  · rw [sock_modify_of_ne hqp] at hq
    exact Or.inr ⟨⟨hlt, hq⟩, by rw [modify_heap_of_ne hqp]⟩

theorem stays_growOne (new : ℕ → Prop) (pool : CConnectionPool) :
    Stays new pool pool.growOne := by
  rintro q ⟨hlt, hq⟩
  rcases Nat.lt_succ_iff_lt_or_eq.mp hlt with hold | rfl
  · rw [sock, growOne_heap_of_ne hold.ne] at hq
    exact Or.inr ⟨⟨hold, hq⟩, by rw [growOne_heap_of_ne hold.ne]⟩
  · rw [sock, growOne_heap_self] at hq
    exact absurd rfl hq

theorem stays_grow (new : ℕ → Prop) (pool : CConnectionPool) (available : ℕ) :
    Stays new pool (pool.grow available) := by
  unfold grow
  induction min c_growrate available with
  | zero => exact .refl new pool
  | succ n ih =>
    rw [Function.iterate_succ_apply']
    exact ih.trans (stays_growOne new _)

/-- The pool gives out at most one connection. -/
theorem stays_getConnection (pool : CConnectionPool) (sock : Int) (role : SocketRole)
    (names : CStunSocket.Names) (available : ℕ) :
    Stays (fun q => (pool.getConnection sock role names available).1 = some q) pool
      (pool.getConnection sock role names available).2 := by
  unfold getConnection
  dsimp only
  have hgrown : ∀ new, Stays new pool
      (if pool.freelist = none then pool.grow available else pool) := by
    intro new
    split_ifs
    · exact stays_grow new pool available
    · exact .refl new pool
  generalize (if pool.freelist = none then pool.grow available else pool) = pool₁ at hgrown ⊢
  cases pool₁.freelist with
  | none => exact hgrown _
  | some p => exact (hgrown _).trans (stays_modify (Or.inl rfl))

end CConnectionPool

namespace CTCPStunThread

/-- What a thread keeps as long as it does not sweep. -/
structure Stays (new : ℕ → Prop) (thread thread' : CTCPStunThread) : Prop where
  connections : thread.connectionpool.Stays new thread'.connectionpool
  pNewConnList : thread'.pNewConnList = thread.pNewConnList
  pOldConnList : thread'.pOldConnList = thread.pOldConnList
  timeLastSweep : thread'.timeLastSweep = thread.timeLastSweep

variable {new new' : ℕ → Prop} {thread thread' thread'' : CTCPStunThread} {pConn : ℕ}

theorem Stays.refl (new : ℕ → Prop) (thread : CTCPStunThread) : Stays new thread thread :=
  ⟨.refl new _, rfl, rfl, rfl⟩

theorem Stays.trans (h : Stays new thread thread') (h' : Stays new thread' thread'') :
    Stays new thread thread'' :=
  ⟨h.connections.trans h'.connections, h'.pNewConnList.trans h.pNewConnList,
    h'.pOldConnList.trans h.pOldConnList, h'.timeLastSweep.trans h.timeLastSweep⟩

theorem Stays.mono (h : Stays new thread thread') (hnew : ∀ q, new q → new' q) :
    Stays new' thread thread' :=
  ⟨h.connections.mono hnew, h.pNewConnList, h.pOldConnList, h.timeLastSweep⟩

/-! ### Closing -/

/-- Closing a connection touches no other, and leaves it without a socket. -/
theorem closeConnection_frame (thread : CTCPStunThread) (pConn : ℕ) :
    (thread.closeConnection pConn).connectionpool =
        (thread.connectionpool.modify pConn fun conn =>
          { conn with stunsocket := .reset }).releaseConnection pConn ∧
      (thread.closeConnection pConn).pNewConnList = thread.pNewConnList ∧
      (thread.closeConnection pConn).pOldConnList = thread.pOldConnList ∧
      (thread.closeConnection pConn).timeLastSweep = thread.timeLastSweep := by
  unfold closeConnection
  dsimp only
  split_ifs
  all_goals
    cases ConnectionTable.ofId (thread.connectionpool.heap pConn).idHashTable with
    | none => exact ⟨rfl, rfl, rfl, rfl⟩
    | some which => exact ⟨rfl, rfl, rfl, rfl⟩

/-- A connection that is closed again is not new. -/
theorem Stays.close (h : Stays (fun q => new q ∨ q = pConn) thread thread') :
    Stays new thread (thread'.closeConnection pConn) := by
  obtain ⟨hpool, hnew, hold, htime⟩ := closeConnection_frame thread' pConn
  refine ⟨fun q hq => ?_, hnew.trans h.pNewConnList, hold.trans h.pOldConnList,
    htime.trans h.timeLastSweep⟩
  rw [hpool] at hq ⊢
  obtain ⟨hlt, hq⟩ := hq
  have hne : q ≠ pConn := by
    rintro rfl
    simp [releaseConnection, sock, CStunSocket.reset] at hq
  simp only [releaseConnection, sock, modify_heap_of_ne hne] at hq ⊢
  rcases h.connections q ⟨hlt, hq⟩ with (hnew | rfl) | hstays
  · exact Or.inl hnew
  · exact absurd rfl hne
  · exact Or.inr hstays

theorem stays_closeConnection (new : ℕ → Prop) (thread : CTCPStunThread) (pConn : ℕ) :
    Stays new thread (thread.closeConnection pConn) :=
  (Stays.refl _ thread).close

theorem stays_closeAllConnections {which : ConnectionTable}
    (hrun : thread.closeAllConnections which = some thread') : Stays new thread thread' := by
  have hpass : ∀ t t' : CTCPStunThread,
      closeFirst which t = .inl t' ∨ closeFirst which t = .inr t' → Stays new t t' := by
    intro t t' ht
    unfold closeFirst at ht
    dsimp only at ht
    have hindexed : Stays new t (t.setTable which ((t.tables which).lookupByIndex 0).2) :=
      ⟨.refl new _, rfl, rfl, rfl⟩
    cases hitem : ((t.tables which).lookupByIndex 0).1 with
    | none =>
      rw [hitem] at ht
      obtain rfl : _ = t' := by simpa using ht
      exact hindexed
    | some item =>
      rw [hitem] at ht
      obtain rfl : _ = t' := by simpa using ht
      exact hindexed.trans (stays_closeConnection new _ item.value)
  have hleaves : ∀ t t', Stays new thread t → closeFirst which t = .inl t' → Stays new thread t' :=
    fun t t' hi hb => hi.trans (hpass t t' (Or.inl hb))
  have hgoes : ∀ t t', Stays new thread t → closeFirst which t = .inr t' → Stays new thread t' :=
    fun t t' hi hb => hi.trans (hpass t t' (Or.inr hb))
  exact Loop.of_run hleaves hgoes (.refl new thread) hrun

theorem stays_threadCleanup (hrun : thread.threadCleanup = some thread') :
    Stays new thread thread' := by
  obtain ⟨thread₁, hold, hnew⟩ := Option.bind_eq_some_iff.mp hrun
  exact (stays_closeAllConnections hold).trans (stays_closeAllConnections hnew)

/-! ### Accepting -/

theorem stays_trackConnection {call : Accepted} {result : Option ℕ}
    (h : Stays (fun q => some pConn = some q) thread thread')
    (hrun : thread'.trackConnection pConn call = (result, thread'')) :
    Stays (fun q => result = some q) thread thread'' := by
  have hloose : Stays (fun q => none = some q ∨ q = pConn) thread thread' :=
    h.mono fun q hq => Or.inr (Option.some.inj hq).symm
  have hnoted : ∀ new : ℕ → Prop, new pConn → thread'.connectionpool.Stays new
      (thread'.connectionpool.modify pConn fun conn =>
        { conn with idHashTable := thread'.pNewConnList.id }) :=
    fun new hnew => stays_modify (Or.inl hnew)
  unfold trackConnection at hrun
  dsimp only at hrun
  split_ifs at hrun
  · cases hrun
    exact Stays.close ⟨hloose.connections, h.pNewConnList, h.pOldConnList, h.timeLastSweep⟩
  · cases hrun
    exact Stays.close ⟨hloose.connections.trans (hnoted _ (Or.inr rfl)), h.pNewConnList,
      h.pOldConnList, h.timeLastSweep⟩
  · cases hrun
    exact ⟨h.connections.trans (hnoted _ rfl), h.pNewConnList, h.pOldConnList, h.timeLastSweep⟩

theorem stays_acceptConnection {role : SocketRole} {call : Accepted} {result : Option ℕ}
    (hrun : thread.acceptConnection role call = (result, thread')) :
    Stays (fun q => result = some q) thread thread' := by
  unfold acceptConnection at hrun
  dsimp only at hrun
  by_cases hsock : call.socktmp = -1
  · rw [if_pos hsock] at hrun
    cases hrun
    exact .refl _ thread
  rw [if_neg hsock] at hrun
  by_cases hpass : call.allowed_to_pass = false
  · rw [if_pos hpass] at hrun
    cases hrun
    exact ⟨.refl _ _, rfl, rfl, rfl⟩
  rw [if_neg hpass] at hrun
  have hpool := stays_getConnection thread.connectionpool call.socktmp role call.names
    call.available
  rcases hgot : thread.connectionpool.getConnection call.socktmp role call.names call.available with
    ⟨pConn, pool⟩
  rw [hgot] at hrun hpool
  cases pConn with
  | none =>
    cases hrun
    exact ⟨hpool, rfl, rfl, rfl⟩
  | some p =>
    dsimp only at hrun
    split_ifs at hrun
    · cases hrun
      refine Stays.close ⟨?_, rfl, rfl, rfl⟩
      exact hpool.mono fun q hq => Or.inr (Option.some.inj hq).symm
    · refine stays_trackConnection ?_ hrun
      exact ⟨hpool, rfl, rfl, rfl⟩

/-! ### The steps of a run -/

theorem stays_onConnection (thread : CTCPStunThread) (pConn : ℕ) (incoming : List UInt8)
    {work : Session → Session} (hwork : ∀ s, (work s).conn.place = s.conn.place) :
    Stays new thread (thread.onConnection pConn incoming work) := by
  have hpool : thread.connectionpool.Stays new (thread.connectionpool.modify pConn fun _ =>
      (work (.create (thread.connectionpool.heap pConn) incoming)).conn) :=
    stays_modify (Or.inr (hwork _))
  have hworked : Stays new thread { thread with
      connectionpool := thread.connectionpool.modify pConn fun _ =>
        (work (.create (thread.connectionpool.heap pConn) incoming)).conn } :=
    ⟨hpool, rfl, rfl, rfl⟩
  unfold onConnection
  dsimp only
  split_ifs
  · exact hworked.trans (stays_closeConnection new _ pConn)
  · exact hworked

theorem stays_processConnectionEvent (thread : CTCPStunThread) (D : Digests) (sock : Int)
    (io : SocketCall) : Stays new thread (thread.processConnectionEvent D sock io) := by
  unfold processConnectionEvent
  dsimp only
  split
  · exact .refl new thread
  · exact stays_onConnection thread _ io.incoming Session.place_event

theorem stays_wait (thread : CTCPStunThread) (turn : Turn) :
    Stays new thread (thread.wait turn).thread := by
  obtain ⟨point, poll, fListen, heq, -⟩ := wait_eq thread turn
  rw [heq]
  exact ⟨.refl new _, rfl, rfl, rfl⟩

theorem stays_dispatch (thread : CTCPStunThread) (D : Digests) (fd : Int) (turn : Turn) :
    Stays (fun q => (thread.dispatch D fd turn).point = .accepted q) thread
      (thread.dispatch D fd turn).thread := by
  unfold dispatch
  cases thread.getListenSocket fd with
  | none => exact stays_processConnectionEvent thread D fd turn.io
  | some role =>
    dsimp only
    rcases hrun : thread.acceptConnection role turn.accepted with ⟨pConn, thread'⟩
    have hstays := stays_acceptConnection hrun
    cases pConn with
    | none => exact hstays.mono fun q hq => nomatch hq
    | some p => exact hstays.mono fun q hq => congrArg RunPoint.accepted (Option.some.inj hq)

/-- A sweep that swaps the tables leaves open just what was in the new one. -/
structure Swaps (timeSwept : ℤ) (thread thread' : CTCPStunThread) : Prop where
  connections : thread.connectionpool.Stays (fun _ => False) thread'.connectionpool
  keepsNew : ∀ q, thread.connectionpool.IsOpen q →
    (thread.connectionpool.heap q).idHashTable = thread.pNewConnList.id →
      thread'.connectionpool.IsOpen q
  wasNew : ∀ q, thread'.connectionpool.IsOpen q →
    (thread'.connectionpool.heap q).idHashTable = thread.pNewConnList.id
  pNewConnList : thread'.pNewConnList = thread.pOldConnList
  pOldConnList : thread'.pOldConnList = thread.pNewConnList
  timeLastSweep : thread'.timeLastSweep = timeSwept

section

variable {filed : ConnectionTable → Int → Option ℕ} {free : List ℕ}

theorem sweepDeadConnections_cases (h : thread.Booked filed free none)
    (timeCurrent timeSwept : ℤ) :
    (¬timeCurrent - thread.timeLastSweep ≥ c_sweepTimeoutSeconds ∧
      thread.sweepDeadConnections timeCurrent timeSwept = some thread) ∨
    (timeCurrent - thread.timeLastSweep ≥ c_sweepTimeoutSeconds ∧
      ∃ thread', thread.sweepDeadConnections timeCurrent timeSwept = some thread' ∧
        Swaps timeSwept thread thread') := by
  unfold sweepDeadConnections
  by_cases hdue : timeCurrent - thread.timeLastSweep ≥ c_sweepTimeoutSeconds
  · obtain ⟨thread', filed', free', hrun, hbooked, hcloses, hz, hother⟩ :=
      closeAllConnections_spec h thread.pOldConnList
    have hstays : Stays (fun _ => False) thread thread' := stays_closeAllConnections hrun
    have hempty := (hbooked.books.isMap thread.pOldConnList).size_eq_zero_iff.mp hz
    rw [h.lists, ConnectionTable.other_other] at hother
    rw [if_pos hdue, hrun]
    refine Or.inr ⟨hdue, _, rfl, hstays.connections, ?_, ?_, hcloses.pOldConnList,
      hcloses.pNewConnList, rfl⟩
    · rintro q ⟨hlt, hsock⟩ hnew
      obtain ⟨which, hw⟩ := h.books.named q hlt hsock (by simp)
      obtain ⟨-, -, -, -, hid⟩ := h.books.entry which _ q hw
      obtain rfl := ConnectionTable.id_injective (hid.symm.trans hnew)
      rw [← hother] at hw
      obtain ⟨hlt', hsock', hne, -⟩ := hbooked.books.entry _ _ q hw
      exact ⟨hlt', hsock' ▸ hne⟩
    · rintro q ⟨hlt, hsock⟩
      obtain ⟨which, hw⟩ := hbooked.books.named q hlt hsock (by simp)
      obtain ⟨-, -, -, -, hid⟩ := hbooked.books.entry which _ q hw
      rcases which.eq_or_eq_other thread.pNewConnList with rfl | rfl
      · exact hid
      · rw [← h.lists, hempty] at hw
        cases hw
  · rw [if_neg hdue]
    exact Or.inl ⟨hdue, rfl⟩

/-- A connection that was just accepted is in the new table, and was not open before. -/
theorem accepted_new (h : thread.Booked filed free none) {D : Digests} {fd : Int} {turn : Turn}
    (hfresh : turn.accepted.IsFresh thread) {pConn : ℕ}
    (hpoint : (thread.dispatch D fd turn).point = .accepted pConn) :
    ¬thread.connectionpool.IsOpen pConn ∧
      (thread.dispatch D fd turn).thread.connectionpool.IsOpen pConn ∧
      ((thread.dispatch D fd turn).thread.connectionpool.heap pConn).idHashTable =
        (thread.dispatch D fd turn).thread.pNewConnList.id := by
  unfold dispatch at hpoint ⊢
  cases hrole : thread.getListenSocket fd with
  | none =>
    rw [hrole] at hpoint
    cases hpoint
  | some role =>
    rw [hrole] at hpoint
    dsimp only at hpoint ⊢
    rcases acceptConnection_spec h role hfresh with
      ⟨-, p, thread', filed', free', hrun, hbooked, ⟨k, hk⟩, hloose, -⟩ |
      ⟨-, thread', free', hrun, -⟩
    · rw [hrun] at hpoint ⊢
      cases hpoint
      obtain ⟨hlt, hsock, hne, -, hid⟩ := hbooked.books.entry _ k pConn hk
      refine ⟨?_, ⟨hlt, hsock ▸ hne⟩, hid⟩
      rintro ⟨hlt', hsock'⟩
      obtain ⟨which, hw⟩ := h.books.named pConn hlt' hsock' (by simp)
      exact hloose which _ hw
    · rw [hrun] at hpoint
      cases hpoint

/-- What a step does to the ages: it swaps the tables, or nothing but an accept opens one. -/
theorem Running.Fine.ages {s s' : Running} (h : s.Fine filed free) {D : Digests} {turn : Turn}
    (hfresh : turn.accepted.IsFresh s.thread) (hstep : s.step D turn = some s') :
    (sweeps (s, turn) = true ∧ (∀ q, s'.point ≠ .accepted q) ∧
      Swaps turn.timeSwept s.thread s'.thread) ∨
    (sweeps (s, turn) = false ∧ Stays (fun q => s'.point = .accepted q) s.thread s'.thread ∧
      ∀ q, s'.point = .accepted q → ¬s.thread.connectionpool.IsOpen q ∧
        s'.thread.connectionpool.IsOpen q ∧
        (s'.thread.connectionpool.heap q).idHashTable = s'.thread.pNewConnList.id) := by
  obtain ⟨point, thread⟩ := s
  have hbooked : thread.Booked filed free none := h.booked
  have hquiet : ∀ {s' : Running}, point ≠ .sweep → (∀ q, s'.point ≠ .accepted q) →
      Stays (fun q => s'.point = .accepted q) thread s'.thread →
      sweeps (⟨point, thread⟩, turn) = false ∧
        Stays (fun q => s'.point = .accepted q) thread s'.thread ∧
        ∀ q, s'.point = .accepted q → ¬thread.connectionpool.IsOpen q ∧
          s'.thread.connectionpool.IsOpen q ∧
          (s'.thread.connectionpool.heap q).idHashTable = s'.thread.pNewConnList.id :=
    fun hne hnew hstays =>
      ⟨decide_eq_false fun hs => hne hs.1, hstays, fun q hq => absurd hq (hnew q)⟩
  cases point with
  | top =>
    cases hstep
    refine Or.inr (hquiet RunPoint.noConfusion ?_ ?_)
    · intro q
      split_ifs
      · exact RunPoint.noConfusion
      · obtain ⟨point, poll, fListen, heq, hpoint⟩ := wait_eq thread turn
        rw [heq]
        exact hpoint q
    · split_ifs
      · exact .refl _ thread
      · exact stays_wait thread turn
  | event fd =>
    cases hstep
    refine Or.inr ⟨decide_eq_false fun hs => RunPoint.noConfusion hs.1,
      stays_dispatch thread D fd turn, fun q hq => accepted_new hbooked hfresh hq⟩
  | accepted p =>
    cases hstep
    exact Or.inr (hquiet RunPoint.noConfusion (fun q => RunPoint.noConfusion)
      (stays_onConnection thread p turn.io.incoming (Session.place_receive _)))
  | sweep =>
    obtain ⟨thread', hrun, hs'⟩ := Option.map_eq_some_iff.mp hstep
    subst hs'
    rcases sweepDeadConnections_cases hbooked turn.timeCurrent turn.timeSwept with
      ⟨hnot, hrun'⟩ | ⟨hdue, thread'', hrun', hswaps⟩
    · obtain rfl := Option.some.inj (hrun'.symm.trans hrun)
      exact Or.inr ⟨decide_eq_false fun hs => hnot hs.2, .refl _ thread,
        fun q hq => nomatch hq⟩
    · obtain rfl := Option.some.inj (hrun'.symm.trans hrun)
      exact Or.inl ⟨decide_eq_true ⟨rfl, hdue⟩, fun q => RunPoint.noConfusion, hswaps⟩
  | cleanup =>
    obtain ⟨thread', hrun, hs'⟩ := Option.map_eq_some_iff.mp hstep
    subst hs'
    exact Or.inr (hquiet RunPoint.noConfusion (fun q => RunPoint.noConfusion)
      (stays_threadCleanup hrun))
  | exited =>
    cases hstep
    exact Or.inr (hquiet RunPoint.noConfusion (fun q => RunPoint.noConfusion) (.refl _ thread))

end

/-! ### Runs -/

theorem hasOpen_iff (thread : CTCPStunThread) (pConn : ℕ) :
    thread.hasOpen pConn = true ↔ thread.connectionpool.IsOpen pConn := by
  simp [hasOpen, CStunSocket.isValid, CConnectionPool.IsOpen, sock]

theorem states_concat (past : List (Running × Turn)) (s : Running) (turn : Turn) (s' : Running) :
    states (past ++ [(s, turn)]) s' = states past s ++ [s'] := by
  simp [states]

theorem openSince_concat {later : List (Running × Turn)} {s s' : Running} {turn : Turn} :
    OpenSince pConn (later ++ [(s, turn)]) s' ↔
      OpenSince pConn later s ∧ s'.thread.hasOpen pConn = true := by
  have hhead : (states later s ++ [s']).head? = (states later s).head? := by
    cases later <;> rfl
  constructor
  · rintro ⟨haccepted, hopen⟩
    rw [states_concat, hhead] at haccepted
    rw [states_concat, List.forall_mem_append, List.forall_mem_singleton] at hopen
    exact ⟨⟨haccepted, hopen.1⟩, hopen.2⟩
  · rintro ⟨⟨haccepted, hopen⟩, hopen'⟩
    refine ⟨?_, ?_⟩
    · rw [states_concat, hhead]
      exact haccepted
    · rw [states_concat, List.forall_mem_append, List.forall_mem_singleton]
      exact ⟨hopen, hopen'⟩

variable {D : Digests} {past : List (Running × Turn)} {s : Running}

theorem init_count {tsaListen tsaHandler : TransportAddressSet} {pAuth : Option IStunAuth}
    {maxConnections : ℤ} {sockets : SocketRole → Int} {pipe : Int} {time : ℤ}
    (h : init tsaListen tsaHandler pAuth maxConnections sockets pipe time = .ok thread) :
    thread.connectionpool.count = 0 := by
  unfold init at h
  dsimp only at h
  split_ifs at h <;> cases h <;> rfl

/-- A clock that does not go back. -/
theorem timeSwept_le {before later : List (Running × Turn)} {e x : Running × Turn}
    (hclock : (readings (before ++ e :: later)).Pairwise (· ≤ ·)) (hx : x ∈ later) :
    e.2.timeSwept ≤ x.2.timeSwept := by
  have hsteps := (List.pairwise_append.mp (List.pairwise_flatMap.mp hclock).2).2.1
  exact List.rel_of_pairwise_cons hsteps hx _ (by simp) _ (by simp)

/-- Whatever is open was accepted once, and not closed since. -/
theorem Run.openSince (h : Run D past s) (hopen : s.thread.hasOpen pConn = true) :
    ∃ before e later, past = before ++ e :: later ∧ OpenSince pConn later s := by
  rw [hasOpen_iff] at hopen
  induction h with
  | start h =>
    have hlt := hopen.1
    rw [init_count h] at hlt
    omega
  | @step past s s' turn h hfresh hstep ih =>
    obtain ⟨filed, free, hfine⟩ := h.fine
    have hold : s.thread.connectionpool.IsOpen pConn →
        ∃ before e later, past ++ [(s, turn)] = before ++ e :: later ∧ OpenSince pConn later s' := by
      intro hbefore
      obtain ⟨before, e, later, rfl, hsince⟩ := ih hbefore
      refine ⟨before, e, later ++ [(s, turn)], by simp, ?_⟩
      exact openSince_concat.mpr ⟨hsince, (hasOpen_iff _ _).mpr hopen⟩
    rcases hfine.ages hfresh hstep with ⟨-, -, hswaps⟩ | ⟨-, hstays, -⟩
    · rcases hswaps.connections pConn hopen with hnew | ⟨hbefore, -⟩
      · exact hnew.elim
      · exact hold hbefore
    · rcases hstays.connections pConn hopen with hnew | ⟨hbefore, -⟩
      · refine ⟨past, (s, turn), [], rfl, ?_, ?_⟩
        · exact congrArg some hnew
        · rw [states, List.map_nil, List.nil_append, List.forall_mem_singleton]
          exact (hasOpen_iff _ _).mpr hopen
      · exact hold hbefore

/-- The table that an open connection is in tells how often the tables were swapped since its
accept, and bounds the time of the accept. -/
theorem Run.age (h : Run D past s) {before later : List (Running × Turn)} {e : Running × Turn}
    (hpast : past = before ++ e :: later) (hsince : OpenSince pConn later s) :
    (later.countP sweeps = 0 ∧
      (s.thread.connectionpool.heap pConn).idHashTable = s.thread.pNewConnList.id) ∨
    (later.countP sweeps = 1 ∧
      (s.thread.connectionpool.heap pConn).idHashTable = s.thread.pOldConnList.id ∧
      ∃ x ∈ later, s.thread.timeLastSweep = x.2.timeSwept) := by
  induction h generalizing later with
  | start h => simp at hpast
  | @step past s s' turn h hfresh hstep ih =>
    obtain ⟨filed, free, hfine⟩ := h.fine
    rcases Log.concat_eq_append_cons.mp hpast with ⟨rfl, rfl, rfl⟩ | ⟨later, rfl, rfl⟩
    · have hpoint : s'.point = .accepted pConn := Option.some.inj hsince.accepted
      rcases hfine.ages hfresh hstep with ⟨-, hnew, -⟩ | ⟨-, -, haccepted⟩
      · exact absurd hpoint (hnew pConn)
      · exact Or.inl ⟨rfl, (haccepted pConn hpoint).2.2⟩
    · obtain ⟨hsince, hopen'⟩ := openSince_concat.mp hsince
      rw [hasOpen_iff] at hopen'
      have hopen := (hasOpen_iff _ _).mp (hsince.isOpen s (by simp [states]))
      rw [List.countP_append, List.countP_singleton]
      rcases hfine.ages hfresh hstep with ⟨hsweeps, -, hswaps⟩ | ⟨hsweeps, hstays, haccepted⟩
      · have hid := hswaps.wasNew pConn hopen'
        -- it was in the new table, or it would be closed now
        have hwas : later.countP sweeps = 0 := by
          rcases ih rfl hsince with ⟨hzero, -⟩ | ⟨-, hold, -⟩
          · exact hzero
          · rcases hswaps.connections pConn hopen' with hnew | ⟨-, hsame⟩
            · exact hnew.elim
            · rw [hsame, hold, hfine.booked.lists] at hid
              exact absurd (ConnectionTable.id_injective hid) (ConnectionTable.other_ne _)
        rw [if_pos hsweeps, hwas, hswaps.pOldConnList]
        exact Or.inr ⟨rfl, hid, (s, turn), by simp, hswaps.timeLastSweep⟩
      · have hsame : (s'.thread.connectionpool.heap pConn).idHashTable =
            (s.thread.connectionpool.heap pConn).idHashTable := by
          rcases hstays.connections pConn hopen' with hnew | ⟨-, hsame⟩
          · exact absurd hopen (haccepted pConn hnew).1
          · exact hsame
        rw [if_neg (by rw [hsweeps]; exact Bool.false_ne_true), Nat.add_zero, hsame,
          hstays.pNewConnList, hstays.pOldConnList, hstays.timeLastSweep]
        refine (ih rfl hsince).imp_right ?_
        rintro ⟨hone, hold, x, hx, htime⟩
        exact ⟨hone, hold, x, List.mem_append_left _ hx, htime⟩

end CTCPStunThread
end StunServer

import StunServer.Proofs.TcpServer

/-! The descriptors a running thread has open: some for good, and those of its connections. -/

namespace StunServer

open CConnectionPool

namespace CTCPStunThread

/-- What is open is kept for good or is the socket of a connection, and of one only. -/
structure Tight (kept : Int → Prop) (pool : CConnectionPool) (isOpen : Int → Bool) : Prop where
  isOpen_iff : ∀ fd, isOpen fd = true ↔ kept fd ∨ fd ≠ -1 ∧ ∃ p < pool.count, pool.sock p = fd
  apart : ∀ p < pool.count, pool.sock p ≠ -1 → ¬kept (pool.sock p)
  owner : ∀ p < pool.count, ∀ q < pool.count, pool.sock p ≠ -1 → pool.sock p = pool.sock q → p = q

namespace Tight

variable {kept : Int → Prop} {pool pool' : CConnectionPool} {isOpen : Int → Bool} {pConn : ℕ}
  {sock : Int}

theorem congr (h : Tight kept pool isOpen) (hcount : pool'.count = pool.count)
    (hsock : ∀ q, pool'.sock q = pool.sock q) : Tight kept pool' isOpen where
  isOpen_iff fd := by simp only [h.isOpen_iff, hcount, hsock]
  apart p := by
    rw [hcount, hsock]
    exact h.apart p
  owner p hp q hq := by
    rw [hcount] at hp hq
    rw [hsock, hsock]
    exact h.owner p hp q hq

/-- Work on a connection in its place. -/
theorem work (h : Tight kept pool isOpen) {f : StunConnection → StunConnection}
    (hf : (f (pool.heap pConn)).stunsocket = (pool.heap pConn).stunsocket) :
    Tight kept (pool.modify pConn f) isOpen := by
  refine h.congr rfl fun q => ?_
  by_cases hq : q = pConn
  · subst hq
    rw [CConnectionPool.sock, modify_heap_self, hf, CConnectionPool.sock]
  · exact sock_modify_of_ne hq f

theorem growOne (h : Tight kept pool isOpen) : Tight kept pool.growOne isOpen := by
  have hsock : ∀ p, p < pool.count → pool.growOne.sock p = pool.sock p := by
    intro p hp
    rw [CConnectionPool.sock, growOne_heap_of_ne (by omega), CConnectionPool.sock]
  have hnew : pool.growOne.sock pool.count = -1 := by
    rw [CConnectionPool.sock, growOne_heap_self]
    rfl
  have hold : ∀ p < pool.growOne.count, pool.growOne.sock p ≠ -1 → p < pool.count := by
    intro p hp hne
    rcases Nat.lt_or_eq_of_le (Nat.lt_succ_iff.mp hp) with hlt | rfl
    · exact hlt
    · exact absurd hnew hne
  refine ⟨fun fd => ?_, fun p hp hne => ?_, fun p hp q hq hne he => ?_⟩
  · rw [h.isOpen_iff]
    constructor
    · rintro (hk | ⟨hne, p, hp, rfl⟩)
      · exact Or.inl hk
      · exact Or.inr ⟨hne, p, Nat.lt_succ_of_lt hp, hsock p hp⟩
    · rintro (hk | ⟨hne, p, hp, rfl⟩)
      · exact Or.inl hk
      · have hlt := hold p hp hne
        exact Or.inr ⟨hne, p, hlt, (hsock p hlt).symm⟩
  · have hlt := hold p hp hne
    rw [hsock p hlt] at hne ⊢
    exact h.apart p hlt hne
  · have hlt := hold p hp hne
    have hlt' := hold q hq (by rw [← he]; exact hne)
    rw [hsock p hlt] at hne he
    rw [hsock q hlt'] at he
    exact h.owner p hlt q hlt' hne he

theorem grow (h : Tight kept pool isOpen) (available : ℕ) :
    Tight kept (pool.grow available) isOpen := by
  unfold CConnectionPool.grow
  induction min c_growrate available generalizing pool with
  | zero => exact h
  | succ n ih => exact ih h.growOne

theorem refill (h : Tight kept pool isOpen) (available : ℕ) :
    Tight kept (if pool.freelist = none then pool.grow available else pool) isOpen := by
  split_ifs
  · exact h.grow available
  · exact h

/-- A descriptor that nobody has is opened, and counts as kept for the time being. -/
theorem opened (h : Tight kept pool isOpen) (hne : sock ≠ -1) (hfresh : isOpen sock = false) :
    Tight (fun fd => kept fd ∨ fd = sock) pool (Function.update isOpen sock true) where
  isOpen_iff fd := by
    by_cases he : fd = sock
    · simp [he]
    · rw [Function.update_of_ne he, h.isOpen_iff]
      simp [he]
  apart p hp hs := by
    rintro (hk | he)
    · exact h.apart p hp hs hk
    · have hopen := (h.isOpen_iff sock).mpr (Or.inr ⟨hne, p, hp, he⟩)
      rw [hfresh] at hopen
      cases hopen
  owner := h.owner

/-- It is closed again. -/
theorem closed (h : Tight (fun fd => kept fd ∨ fd = sock) pool isOpen) (hkept : ¬kept sock) :
    Tight kept pool (Function.update isOpen sock false) where
  isOpen_iff fd := by
    by_cases he : fd = sock
    · subst he
      rw [Function.update_self]
      refine iff_of_false Bool.false_ne_true ?_
      rintro (hk | ⟨hne, p, hp, rfl⟩)
      · exact hkept hk
      · exact h.apart p hp hne (Or.inr rfl)
    · rw [Function.update_of_ne he, h.isOpen_iff]
      simp [he]
  apart p hp hs hk := h.apart p hp hs (Or.inl hk)
  owner := h.owner

/-- A connection that has none gets it. -/
theorem take (h : Tight (fun fd => kept fd ∨ fd = sock) pool isOpen) (hne : sock ≠ -1)
    (hkept : ¬kept sock) (hlt : pConn < pool.count) (hfree : pool.sock pConn = -1)
    (hcount : pool'.count = pool.count) (hself : pool'.sock pConn = sock)
    (hother : ∀ q, q ≠ pConn → pool'.sock q = pool.sock q) : Tight kept pool' isOpen := by
  have hold : ∀ q < pool.count, pool'.sock q ≠ -1 → q ≠ pConn →
      q < pool.count ∧ pool.sock q ≠ -1 ∧ pool.sock q ≠ sock := by
    intro q hq hs hqp
    rw [hother q hqp] at hs
    exact ⟨hq, hs, fun he => h.apart q hq hs (Or.inr he)⟩
  refine ⟨fun fd => ?_, fun p hp hs hk => ?_, fun p hp q hq hs he => ?_⟩
  · rw [h.isOpen_iff, hcount]
    constructor
    · rintro ((hk | rfl) | ⟨hfd, p, hp, rfl⟩)
      · exact Or.inl hk
      · exact Or.inr ⟨hne, pConn, hlt, hself⟩
      · refine Or.inr ⟨hfd, p, hp, hother p ?_⟩
        rintro rfl
        exact hfd hfree
    · rintro (hk | ⟨hfd, p, hp, rfl⟩)
      · exact Or.inl (Or.inl hk)
      · by_cases hpc : p = pConn
        · rw [hpc, hself]
          exact Or.inl (Or.inr rfl)
        · rw [hother p hpc] at hfd ⊢
          exact Or.inr ⟨hfd, p, hp, rfl⟩
  · rw [hcount] at hp
    by_cases hpc : p = pConn
    · rw [hpc, hself] at hk
      exact hkept hk
    · rw [hother p hpc] at hs hk
      exact h.apart p hp hs (Or.inl hk)
  · rw [hcount] at hp hq
    by_cases hpc : p = pConn <;> by_cases hqc : q = pConn
    · rw [hpc, hqc]
    · rw [hpc, hself] at hs he
      exact absurd he.symm (by rw [hother q hqc]; exact (hold q hq (by rw [← he]; exact hs) hqc).2.2)
    · rw [hqc, hself] at he
      exact absurd he (by rw [hother p hpc]; exact (hold p hp hs hpc).2.2)
    · rw [hother p hpc] at hs he
      rw [hother q hqc] at he
      exact h.owner p hp q hq hs he

/-- A connection loses its socket, which is closed. -/
theorem release (h : Tight kept pool isOpen) (hlt : pConn < pool.count)
    (hsock : pool.sock pConn ≠ -1) (hcount : pool'.count = pool.count)
    (hself : pool'.sock pConn = -1) (hother : ∀ q, q ≠ pConn → pool'.sock q = pool.sock q) :
    Tight kept pool' (Function.update isOpen (pool.sock pConn) false) := by
  refine ⟨fun fd => ?_, fun p hp hs => ?_, fun p hp q hq hs he => ?_⟩
  · rw [hcount]
    by_cases he : fd = pool.sock pConn
    · subst he
      rw [Function.update_self]
      refine iff_of_false Bool.false_ne_true ?_
      rintro (hk | ⟨-, p, hp, he⟩)
      · exact h.apart pConn hlt hsock hk
      · by_cases hpc : p = pConn
        · rw [hpc, hself] at he
          exact hsock he.symm
        · rw [hother p hpc] at he
          exact hpc (h.owner pConn hlt p hp hsock he.symm).symm
    · rw [Function.update_of_ne he, h.isOpen_iff]
      refine or_congr_right (and_congr_right fun hfd => ?_)
      constructor
      · rintro ⟨p, hp, rfl⟩
        exact ⟨p, hp, hother p fun hpc => he (by rw [hpc])⟩
      · rintro ⟨p, hp, rfl⟩
        refine ⟨p, hp, (hother p ?_).symm⟩
        rintro rfl
        exact hfd hself
  · rw [hcount] at hp
    have hpc : p ≠ pConn := by
      rintro rfl
      exact hs hself
    rw [hother p hpc] at hs ⊢
    exact h.apart p hp hs
  · rw [hcount] at hp hq
    have hpc : p ≠ pConn := by
      rintro rfl
      exact hs hself
    have hqc : q ≠ pConn := by
      rintro rfl
      exact hs (he.trans hself)
    rw [hother p hpc] at hs he
    rw [hother q hqc] at he
    exact h.owner p hp q hq hs he

end Tight

/-! ### What the thread does -/

/-- The listening sockets are what they were, and those that were in the set are in it still. -/
structure Spares (kept : Int → Prop) (before thread : CTCPStunThread) : Prop where
  socketTable : thread.socketTable = before.socketTable
  fListenSocketsOnEpoll : thread.fListenSocketsOnEpoll = before.fListenSocketsOnEpoll
  interest : ∀ fd, kept fd → before.spPolling.interest fd = true →
    thread.spPolling.interest fd = true

/-- After work that may open `sock`, everything open is accounted for again. -/
structure Moves (kept : Int → Prop) (sock : Int) (before thread : CTCPStunThread) : Prop where
  tight : Tight kept thread.connectionpool thread.isOpen
  opens : ∀ fd, thread.isOpen fd = true → before.isOpen fd = true ∨ fd = sock
  spares : Spares kept before thread

variable {kept : Int → Prop} {sock : Int} {thread thread' : CTCPStunThread}
  {filed : ConnectionTable → Int → Option ℕ} {free : List ℕ} {pConn : ℕ}

theorem Spares.refl (thread : CTCPStunThread) : Spares kept thread thread :=
  ⟨rfl, rfl, fun _ _ h => h⟩

theorem Spares.trans {before : CTCPStunThread} (h : Spares kept before thread)
    (h' : Spares kept thread thread') : Spares kept before thread' where
  socketTable := h'.socketTable.trans h.socketTable
  fListenSocketsOnEpoll := h'.fListenSocketsOnEpoll.trans h.fListenSocketsOnEpoll
  interest fd hkept hin := h'.interest fd hkept (h.interest fd hkept hin)

theorem Moves.refl (h : Tight kept thread.connectionpool thread.isOpen) (sock : Int) :
    Moves kept sock thread thread := ⟨h, fun _ => Or.inl, .refl thread⟩

theorem Moves.trans {before : CTCPStunThread} (h : Moves kept sock before thread)
    (h' : Moves kept sock thread thread') : Moves kept sock before thread' where
  tight := h'.tight
  opens fd hfd := (h'.opens fd hfd).elim (h.opens fd) Or.inr
  spares := h.spares.trans h'.spares

theorem interest_remove_of_ne {poll : CEpoll} {fd fd' : Int} (hne : fd' ≠ fd) :
    (poll.remove fd).2.interest fd' = poll.interest fd' := by
  unfold CEpoll.remove
  split_ifs
  · rfl
  · exact Function.update_of_ne hne _ _

theorem interest_add {poll : CEpoll} {fd fd' : Int} {fAdded : Bool}
    (h : poll.interest fd' = true) : (poll.add fd fAdded).2.interest fd' = true := by
  unfold CEpoll.add
  split_ifs
  · exact h
  · by_cases he : fd' = fd
    · subst he
      exact Function.update_self ..
    · exact (Function.update_of_ne he _ _).trans h

theorem moves_closeConnection (thread : CTCPStunThread)
    (h : Tight kept thread.connectionpool thread.isOpen)
    (hlt : pConn < thread.connectionpool.count) (hsock : thread.connectionpool.sock pConn ≠ -1)
    (sock : Int) : Moves kept sock thread (thread.closeConnection pConn) := by
  rw [closeConnection_eq hsock]
  refine ⟨h.release hlt hsock rfl ?_ fun q hq => ?_, fun fd hfd => ?_, rfl, rfl,
    fun fd hkept hin => ?_⟩
  · simp [CConnectionPool.sock, releaseConnection, CStunSocket.reset]
  · simp only [CConnectionPool.sock, releaseConnection, modify_heap_of_ne hq]
  · by_cases he : fd = thread.connectionpool.sock pConn
    · subst he
      simp at hfd
    · dsimp only at hfd
      rw [Function.update_of_ne he] at hfd
      exact Or.inl hfd
  · have hne : fd ≠ thread.connectionpool.sock pConn := by
      rintro rfl
      exact h.apart pConn hlt hsock hkept
    exact (interest_remove_of_ne hne).trans hin

theorem moves_closeAllConnections (h : Tight kept thread.connectionpool thread.isOpen)
    (hb : thread.Booked filed free none) {which : ConnectionTable}
    (hrun : thread.closeAllConnections which = some thread') (sock : Int) :
    Moves kept sock thread thread' := by
  let I := fun t : CTCPStunThread => (∃ filed' free', t.Booked filed' free' none) ∧
    Moves kept sock thread t
  have hkeeps : Loop.Keeps (closeFirst which) I I fun t => (t.tables which).size := by
    refine Loop.Keeps.of_pass ?_
    rintro t ⟨⟨filed', free', hbooked⟩, hmoves⟩
    by_cases hz : (t.tables which).size = 0
    · exact Or.inl ⟨t, closeFirst_empty hz, ⟨filed', free', hbooked⟩, hmoves⟩
    · obtain ⟨k, p, table, hrow, hk, hmap, hsize, hfsize⟩ :=
        (hbooked.books.isMap which).lookupByIndex_zero hz
      obtain ⟨hbooked', -, heq⟩ := hbooked.setTable hmap hsize hfsize
      obtain ⟨hbooked'', -, hsize', -⟩ := closeConnection_filed hbooked' hk
      obtain ⟨hlt, hs, hne, -⟩ := hbooked.books.entry which k p hk
      have hpass : closeFirst which t = .inr ((t.setTable which table).closeConnection p) := by
        rw [closeFirst, hrow]
      have htable : Moves kept sock t (t.setTable which table) :=
        ⟨hmoves.tight, fun _ => Or.inl, rfl, rfl, fun _ _ hin => hin⟩
      have hclose := moves_closeConnection (t.setTable which table) hmoves.tight hlt
        (by rw [← hs] at hne; exact hne) sock
      exact Or.inr ⟨_, hpass, ⟨⟨_, _, hbooked''⟩, hmoves.trans (htable.trans hclose)⟩, by omega⟩
  obtain ⟨t, hrun', -, hmoves⟩ :=
    hkeeps.run ⟨⟨filed, free, hb⟩, .refl h sock⟩ (Nat.lt_succ_self _)
  have hsame := hrun.symm.trans hrun'
  cases hsame
  exact hmoves

/-- A connection that has just been given its socket is closed again, or filed. -/
theorem moves_trackConnection (h : Tight kept thread.connectionpool thread.isOpen)
    (hlt : pConn < thread.connectionpool.count) (hsock : thread.connectionpool.sock pConn ≠ -1)
    (call : Accepted) (sock : Int) :
    Moves kept sock thread (thread.trackConnection pConn call).2 := by
  rw [trackConnection]
  dsimp only
  have hadded : ∀ fd, kept fd → thread.spPolling.interest fd = true →
      (thread.spPolling.add call.socktmp call.fAdded).2.interest fd = true :=
    fun fd _ => interest_add
  split_ifs with hadd hinsert
  · set thread₁ : CTCPStunThread :=
      { thread with spPolling := (thread.spPolling.add call.socktmp call.fAdded).2 }
    have hmoves : Moves kept sock thread thread₁ := ⟨h, fun _ => Or.inl, rfl, rfl, hadded⟩
    exact hmoves.trans (moves_closeConnection thread₁ h hlt hsock sock)
  all_goals
    set pool := thread.connectionpool.modify pConn fun conn =>
      { conn with idHashTable := thread.pNewConnList.id } with hpool
    have hp : pool.sock pConn = thread.connectionpool.sock pConn := by
      rw [hpool, CConnectionPool.sock, modify_heap_self, CConnectionPool.sock]
    have htight : Tight kept pool thread.isOpen := h.work rfl
    have hclose : ∀ t : CTCPStunThread, t.connectionpool = pool → t.isOpen = thread.isOpen →
        Spares kept thread t → Moves kept sock thread (t.closeConnection pConn) := by
      intro t ht ho hspares
      have htight' : Tight kept t.connectionpool t.isOpen := by
        rw [ht, ho]
        exact htight
      have hmoves : Moves kept sock thread t :=
        ⟨htight', fun fd hfd => Or.inl (ho ▸ hfd), hspares⟩
      refine hmoves.trans (moves_closeConnection t htight' ?_ ?_ sock)
      · rw [ht]
        exact hlt
      · rw [ht, hp]
        exact hsock
  · exact hclose _ (by rfl) (by rfl) ⟨rfl, rfl, hadded⟩
  · exact ⟨htight, fun _ => Or.inl, rfl, rfl, hadded⟩

theorem moves_acceptConnection (h : Tight kept thread.connectionpool thread.isOpen)
    (hb : thread.Booked filed free none) (role : SocketRole) {call : Accepted}
    (hfresh : call.IsFresh thread) :
    Moves kept call.socktmp thread (thread.acceptConnection role call).2 := by
  rw [acceptConnection]
  dsimp only
  by_cases hsock : call.socktmp = -1
  · rw [if_pos hsock]
    exact .refl h _
  rw [if_neg hsock]
  have hclosed := hfresh.resolve_left hsock
  have hkept : ¬kept call.socktmp := by
    intro hk
    rw [(h.isOpen_iff _).mpr (Or.inl hk)] at hclosed
    cases hclosed
  have hopens : ∀ fd, Function.update thread.isOpen call.socktmp true fd = true →
      thread.isOpen fd = true ∨ fd = call.socktmp := by
    intro fd hfd
    by_cases he : fd = call.socktmp
    · exact Or.inr he
    · rw [Function.update_of_ne he] at hfd
      exact Or.inl hfd
  have hcloses : ∀ pool, Tight kept pool thread.isOpen →
      Moves kept call.socktmp thread (({ thread with
        isOpen := Function.update thread.isOpen call.socktmp true
        connectionpool := pool } : CTCPStunThread).closeSocket call.socktmp) := by
    intro pool hpool
    refine ⟨(hpool.opened hsock hclosed).closed hkept, fun fd hfd => ?_, rfl, rfl,
      fun _ _ hin => hin⟩
    by_cases he : fd = call.socktmp
    · exact Or.inr he
    · refine hopens fd ?_
      rw [closeSocket] at hfd
      dsimp only at hfd
      rwa [Function.update_of_ne he] at hfd
  by_cases hpass : call.allowed_to_pass = false
  · rw [if_pos hpass]
    exact hcloses _ h
  rw [if_neg hpass, CConnectionPool.getConnection]
  dsimp only
  obtain ⟨free', hbooks, -⟩ := hb.books.refill call.available
  have htight := h.refill call.available
  generalize (if thread.connectionpool.freelist = none then
    thread.connectionpool.grow call.available else thread.connectionpool) = pool at hbooks htight ⊢
  cases hlist : pool.freelist with
  | none => exact hcloses pool htight
  | some p =>
    have hp : p ∈ free' := by
      have hchain := hbooks.freeList.chain
      cases free' with
      | nil =>
        rw [hbooks.freeList.chain.head_eq_none.mpr rfl] at hlist
        cases hlist
      | cons q free' =>
        have hq : some q = some p := hchain.1.symm.trans hlist
        exact List.mem_cons.mpr (Or.inl (Option.some.inj hq).symm)
    obtain ⟨hlt, hfree⟩ := (hbooks.freeList.mem_iff p).mp hp
    dsimp only
    set pool' := ({ pool with freelist := (pool.heap p).pNext } : CConnectionPool).modify p
      (prepConnection call.socktmp role call.names) with hpool'
    have hself : pool'.sock p = call.socktmp := by
      rw [hpool', CConnectionPool.sock, modify_heap_self]
      exact prepConnection_sock hsock role call.names _
    have htaken : Tight kept pool' (Function.update thread.isOpen call.socktmp true) :=
      (htight.opened hsock hclosed).take hsock hkept hlt hfree rfl hself
        fun q hq => sock_modify_of_ne hq _
    set thread₁ : CTCPStunThread := { thread with
      isOpen := Function.update thread.isOpen call.socktmp true, connectionpool := pool' }
    have hmoves : Moves kept call.socktmp thread thread₁ :=
      ⟨htaken, hopens, rfl, rfl, fun _ _ hin => hin⟩
    have hne : thread₁.connectionpool.sock p ≠ -1 := by
      change pool'.sock p ≠ -1
      rw [hself]
      exact hsock
    split_ifs
    · exact hmoves.trans (moves_closeConnection thread₁ htaken hlt hne _)
    · exact hmoves.trans (moves_trackConnection htaken hlt hne call _)

theorem moves_onConnection (h : Tight kept thread.connectionpool thread.isOpen)
    (hb : thread.Booked filed free none) {which : ConnectionTable} {k : Int}
    (hk : filed which k = some pConn) (incoming : List UInt8) {work : Session → Session}
    (hwork : ∀ s, (work s).conn.place = s.conn.place) (sock : Int) :
    Moves kept sock thread (thread.onConnection pConn incoming work) := by
  obtain ⟨hlt, hs, hne, -⟩ := hb.books.entry which k pConn hk
  unfold onConnection
  dsimp only
  set s := work (.create (thread.connectionpool.heap pConn) incoming) with hwork'
  have hplace : s.conn.stunsocket = (thread.connectionpool.heap pConn).stunsocket :=
    congrArg Prod.fst (hwork _)
  set thread₁ : CTCPStunThread := { thread with
    connectionpool := thread.connectionpool.modify pConn fun _ => s.conn }
  have htight : Tight kept thread₁.connectionpool thread₁.isOpen :=
    Tight.work (f := fun _ => s.conn) h hplace
  have hsock : thread₁.connectionpool.sock pConn ≠ -1 := by
    rw [CConnectionPool.sock, modify_heap_self, hplace]
    exact fun he => hne (hs.symm.trans he)
  have hmoves : Moves kept sock thread thread₁ :=
    ⟨htight, fun _ => Or.inl, rfl, rfl, fun _ _ hin => hin⟩
  split_ifs
  · exact hmoves.trans (moves_closeConnection thread₁ htight hlt hsock sock)
  · exact hmoves

theorem moves_processConnectionEvent (h : Tight kept thread.connectionpool thread.isOpen)
    (hb : thread.Booked filed free none) (D : Digests) (fd : Int) (io : SocketCall) (sock : Int) :
    Moves kept sock thread (thread.processConnectionEvent D fd io) := by
  unfold processConnectionEvent
  dsimp only
  rw [(hb.books.isMap _).lookup, (hb.books.isMap _).lookup]
  cases hp : (filed thread.pNewConnList fd).or (filed thread.pOldConnList fd) with
  | none => exact .refl h sock
  | some p =>
    obtain ⟨which, hk⟩ : ∃ which, filed which fd = some p := by
      rcases Option.or_eq_some_iff.mp hp with hnew | ⟨-, hold⟩
      · exact ⟨_, hnew⟩
      · exact ⟨_, hold⟩
    exact moves_onConnection h hb hk io.incoming Session.place_event sock

theorem Moves.apart (h : Moves kept sock thread thread') (p : Prop) :
    Tight kept thread'.connectionpool thread'.isOpen ∧
      (∀ fd, thread'.isOpen fd = true → thread.isOpen fd = true ∨ fd = sock) ∧
      (p → Spares kept thread thread') := ⟨h.tight, h.opens, fun _ => h.spares⟩

/-! ### The steps of `Run` -/

/-- The books are in order, the descriptors accounted for, and no connection is left at the exit. -/
structure Running.Settled (kept : Int → Prop) (s : Running) : Prop where
  fine : ∃ filed free, s.Fine filed free
  tight : Tight kept s.thread.connectionpool s.thread.isOpen
  exited : s.point = .exited →
    ∀ p < s.thread.connectionpool.count, s.thread.connectionpool.sock p = -1

/-- How many steps it is to the exit, once the thread is told to. -/
def RunPoint.distance : RunPoint → ℕ
  | .event _ => 5
  | .accepted _ => 4
  | .sweep => 3
  | .top => 2
  | .cleanup => 1
  | .exited => 0

theorem RunPoint.distance_le (point : RunPoint) : point.distance ≤ 5 := by
  cases point <;> simp [distance]

/-- Both tables are empty in the end. -/
theorem threadCleanup_spec (h : Tight kept thread.connectionpool thread.isOpen)
    (hb : thread.Booked filed free none) (sock : Int) :
    ∃ thread', thread.threadCleanup = some thread' ∧ Moves kept sock thread thread' ∧
      (∃ filed' free', thread'.Booked filed' free' none) ∧
      ∀ p < thread'.connectionpool.count, thread'.connectionpool.sock p = -1 := by
  obtain ⟨thread₁, filed₁, free₁, hrun₁, hbooked₁, hcloses₁, hzero₁, -⟩ :=
    closeAllConnections_spec hb thread.pOldConnList
  obtain ⟨thread₂, filed₂, free₂, hrun₂, hbooked₂, hcloses₂, hzero₂, -⟩ :=
    closeAllConnections_spec hbooked₁ thread₁.pNewConnList
  have hmoves₁ := moves_closeAllConnections h hb hrun₁ sock
  have hmoves₂ := moves_closeAllConnections hmoves₁.tight hbooked₁ hrun₂ sock
  refine ⟨thread₂, ?_, hmoves₁.trans hmoves₂, ⟨filed₂, free₂, hbooked₂⟩, fun p hp => ?_⟩
  · rw [threadCleanup, hrun₁]
    exact hrun₂
  by_contra hs
  obtain ⟨which, hw⟩ := hbooked₂.books.named p hp hs (by simp)
  have hempty : (thread₂.tables which).size = 0 := by
    rcases ConnectionTable.eq_or_eq_other which thread₁.pNewConnList with rfl | rfl
    · exact hzero₂
    · rw [hcloses₂.other, ← hbooked₁.lists, hcloses₁.pOldConnList]
      exact hzero₁
  rw [(hbooked₂.books.isMap which).size_eq_zero_iff.mp hempty] at hw
  cases hw

theorem Running.Settled.step {s : Running} (h : s.Settled kept) (D : Digests) {turn : Turn}
    (hfresh : turn.accepted.IsFresh s.thread) : ∃ s', s.step D turn = some s' ∧ s'.Settled kept ∧
      (∀ fd, s'.thread.isOpen fd = true →
        s.thread.isOpen fd = true ∨ fd = turn.accepted.socktmp) ∧
      (s.point ≠ .top → Spares kept s.thread s'.thread) ∧
      (turn.fNeedToExit = true → s'.point.distance ≤ s.point.distance - 1) := by
  obtain ⟨filed, free, hfine⟩ := h.fine
  obtain ⟨s', hrun, hsteps⟩ := hfine.step D hfresh
  have hbooked := hfine.booked
  have hmoves : (Tight kept s'.thread.connectionpool s'.thread.isOpen ∧
      (∀ fd, s'.thread.isOpen fd = true →
        s.thread.isOpen fd = true ∨ fd = turn.accepted.socktmp) ∧
      (s.point ≠ .top → Spares kept s.thread s'.thread)) ∧
      (s'.point = .exited →
        ∀ p < s'.thread.connectionpool.count, s'.thread.connectionpool.sock p = -1) ∧
      (turn.fNeedToExit = true → s'.point.distance ≤ s.point.distance - 1) := by
    obtain ⟨point, thread⟩ := s
    have htight : Tight kept thread.connectionpool thread.isOpen := h.tight
    cases point with
    | top =>
      cases hrun
      by_cases hexit : turn.fNeedToExit
      · rw [if_pos hexit]
        exact ⟨⟨htight, fun _ => Or.inl, fun hp => absurd rfl hp⟩,
          fun hp => RunPoint.noConfusion hp, fun _ => le_rfl⟩
      · rw [if_neg hexit]
        obtain ⟨point, poll, fListen, heq, -⟩ := wait_eq thread turn
        have hpoint : point ≠ .exited := by
          have hwait := congrArg Running.point heq
          rintro rfl
          unfold wait at hwait
          dsimp only at hwait
          split_ifs at hwait
          split at hwait
          · cases hwait
          · cases hwait
        rw [heq]
        exact ⟨⟨htight, fun _ => Or.inl, fun hp => absurd rfl hp⟩, fun hp => absurd hp hpoint,
          fun he => absurd he hexit⟩
    | event fd =>
      cases hrun
      unfold dispatch
      cases thread.getListenSocket fd with
      | none =>
        exact ⟨(moves_processConnectionEvent htight hbooked D fd turn.io _).apart _,
          fun hp => RunPoint.noConfusion hp, fun _ => Nat.le_succ 3⟩
      | some role =>
        have haccept := moves_acceptConnection htight hbooked role hfresh
        dsimp only
        split
        · exact ⟨haccept.apart _, fun hp => RunPoint.noConfusion hp, fun _ => le_rfl⟩
        · exact ⟨haccept.apart _, fun hp => RunPoint.noConfusion hp, fun _ => Nat.le_succ 3⟩
    | accepted p =>
      cases hrun
      obtain ⟨which, k, hk⟩ := hfine.accepted p rfl
      exact ⟨(moves_onConnection htight hbooked hk turn.io.incoming
        (Session.place_receive _) _).apart _,
        fun hp => RunPoint.noConfusion hp, fun _ => le_rfl⟩
    | sweep =>
      obtain ⟨thread', hsweep, hs'⟩ := Option.map_eq_some_iff.mp hrun
      subst hs'
      refine ⟨?_, fun hp => RunPoint.noConfusion hp, fun _ => le_rfl⟩
      unfold sweepDeadConnections at hsweep
      split_ifs at hsweep
      · obtain ⟨thread₁, hrun₁, hs'⟩ := Option.bind_eq_some_iff.mp hsweep
        cases hs'
        have hmoves := moves_closeAllConnections htight hbooked hrun₁ turn.accepted.socktmp
        exact ⟨hmoves.tight, hmoves.opens, fun _ => ⟨hmoves.spares.socketTable,
          hmoves.spares.fListenSocketsOnEpoll, hmoves.spares.interest⟩⟩
      · cases hsweep
        exact (Moves.refl htight _).apart _
    | cleanup =>
      obtain ⟨thread', hclean, hmoves, -, hgone⟩ :=
        threadCleanup_spec htight hbooked turn.accepted.socktmp
      obtain ⟨thread'', hclean', hs'⟩ := Option.map_eq_some_iff.mp hrun
      rw [hclean] at hclean'
      cases hclean'
      subst hs'
      exact ⟨hmoves.apart _, fun _ => hgone, fun _ => le_rfl⟩
    | exited =>
      cases hrun
      exact ⟨(Moves.refl htight _).apart _, h.exited, fun _ => le_rfl⟩
  obtain ⟨⟨htight, hopens, hspares⟩, hexited, hdistance⟩ := hmoves
  exact ⟨s', hrun, ⟨hsteps.fine, htight, hexited⟩, hopens, hspares, hdistance⟩

end CTCPStunThread
end StunServer

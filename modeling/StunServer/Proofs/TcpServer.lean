import StunServer.Spec.TcpServer
import StunServer.Proofs.ConnectionPool
import StunServer.Proofs.FastHashMap

/-! The books of `CTCPStunThread`: the two tables, the pool and the open descriptors agree
on which connection has which socket, whatever the thread does. -/

namespace StunServer

open CConnectionPool FastHash

namespace ConnectionTable

theorem id_injective {a b : ConnectionTable} (h : a.id = b.id) : a = b := by
  cases a <;> cases b
  · rfl
  · simp [id] at h
  · simp [id] at h
  · rfl

@[simp] theorem ofId_id (which : ConnectionTable) : ofId which.id = some which := by
  cases which <;> rfl

theorem other_ne (which : ConnectionTable) : which.other ≠ which := by
  cases which <;> decide

@[simp] theorem other_other (which : ConnectionTable) : which.other.other = which := by
  cases which <;> rfl

theorem eq_or_eq_other (a b : ConnectionTable) : a = b ∨ a = b.other := by
  cases a <;> cases b <;> decide

end ConnectionTable

open ConnectionTable

/-! ### Sessions leave a connection in its place -/

namespace Session

variable {call : ConnectionCall} {D : Digests} {tsa : TransportAddressSet}
  {spAuth : Option IStunAuth}

theorem place_finishWrite (s : Session) : (s.finishWrite call).conn.place = s.conn.place := by
  unfold finishWrite
  dsimp only
  split_ifs <;> rfl

theorem place_write (results : List IoResult) (s : Session) :
    (s.writeBytesForConnection call results).conn.place = s.conn.place := by
  induction results generalizing s with
  | nil => rfl
  | cons result results ih =>
    cases result with
    | wouldBlock => rfl
    | failed => rfl
    | count n =>
      unfold writeBytesForConnection
      dsimp only
      split_ifs
      · rfl
      · exact place_finishWrite _
      · exact ih _

theorem place_respond (results : List IoResult) (s : Session) :
    (s.respond call D tsa spAuth results).conn.place = s.conn.place := by
  unfold respond
  dsimp only
  split_ifs
  · rfl
  · rfl
  · exact place_write results _
  · rfl

theorem place_receive (results : List IoResult) (s : Session) :
    (s.receiveBytesForConnection call D tsa spAuth results).conn.place = s.conn.place := by
  induction results generalizing s with
  | nil =>
    unfold receiveBytesForConnection
    dsimp only
    split_ifs <;> rfl
  | cons result results ih =>
    unfold receiveBytesForConnection
    dsimp only
    split_ifs
    · rfl
    · cases result with
      | wouldBlock => rfl
      | failed => rfl
      | count n =>
        dsimp only
        split_ifs
        · rfl
        · rfl
        · exact place_respond results _
        · exact ih _

theorem place_event (s : Session) :
    (s.processConnectionEvent call D tsa spAuth).conn.place = s.conn.place := by
  unfold processConnectionEvent
  cases s.conn.state with
  | idle => rfl
  | receiving => exact place_receive _ s
  | transmitting => exact place_write _ s

end Session

/-! ### The books -/

/-- `filed` is what the tables hold and `free` what the free list visits. A connection that
is `loose` has its socket already and is in no table yet. -/
structure Books (pool : CConnectionPool) (tables : ConnectionTable → FastHash Int ℕ)
    (isOpen : Int → Bool) (filed : ConnectionTable → Int → Option ℕ) (free : List ℕ)
    (loose : Option ℕ) : Prop where
  isMap : ∀ which, IsMap (tables which) (filed which)
  freeList : FreeList pool free
  entry : ∀ which k p, filed which k = some p →
    p < pool.count ∧ pool.sock p = k ∧ k ≠ -1 ∧ loose ≠ some p ∧
      (pool.heap p).idHashTable = which.id
  named : ∀ p < pool.count, pool.sock p ≠ -1 → loose ≠ some p →
    ∃ which, filed which (pool.sock p) = some p
  owner : ∀ p < pool.count, ∀ q < pool.count, pool.sock p ≠ -1 → pool.sock p = pool.sock q → p = q
  isOpen : ∀ p < pool.count, pool.sock p ≠ -1 → isOpen (pool.sock p) = true
  loose : ∀ p, loose = some p → p < pool.count ∧ pool.sock p ≠ -1

/-- What the tables hold without a connection. -/
def without (filed : ConnectionTable → Int → Option ℕ) (pConn : ℕ) :
    ConnectionTable → Int → Option ℕ :=
  fun which k => if filed which k = some pConn then none else filed which k

namespace Books

variable {pool : CConnectionPool} {tables : ConnectionTable → FastHash Int ℕ} {isOpen : Int → Bool}
  {filed : ConnectionTable → Int → Option ℕ} {free : List ℕ} {loose : Option ℕ} {pConn : ℕ}

theorem create (fsize : ℕ) (isOpen : Int → Bool) :
    Books .create (fun _ => initTable fsize 0) isOpen (fun _ _ => none) [] none where
  isMap _ := (isMap_initTable fsize 0)
  freeList := .create
  entry := by simp
  named p hp := by simp [CConnectionPool.create] at hp
  owner p hp := by simp [CConnectionPool.create] at hp
  isOpen p hp := by simp [CConnectionPool.create] at hp
  loose := by simp

/-- Work on a connection in its place. -/
theorem work (h : Books pool tables isOpen filed free loose) {f : StunConnection → StunConnection}
    (hf : (f (pool.heap pConn)).place = (pool.heap pConn).place) :
    Books (pool.modify pConn f) tables isOpen filed free loose := by
  have hplace := place_modify hf
  have hsock : ∀ q, (pool.modify pConn f).sock q = pool.sock q :=
    fun q => sock_eq_of_place (hplace q)
  refine ⟨h.isMap, h.freeList.congr rfl rfl fun q => ⟨hsock q, ?_⟩, ?_, ?_, ?_, ?_, ?_⟩
  · exact congrArg (fun place => place.2.2) (hplace q)
  · intro which k p hp
    obtain ⟨hlt, hk, hne, hl, hid⟩ := h.entry which k p hp
    have hid' := congrArg (fun place => place.2.1) (hplace p)
    exact ⟨hlt, (hsock p).trans hk, hne, hl, hid'.trans hid⟩
  · intro p hp hne hl
    rw [hsock] at hne ⊢
    exact h.named p hp hne hl
  · intro p hp q hq
    rw [hsock, hsock]
    exact h.owner p hp q hq
  · intro p hp
    rw [hsock]
    exact h.isOpen p hp
  · intro p hp
    rw [hsock]
    exact h.loose p hp

/-- Another descriptor is opened. -/
theorem opened (h : Books pool tables isOpen filed free loose) (sock : Int) :
    Books pool tables (Function.update isOpen sock true) filed free loose where
  isMap := h.isMap
  freeList := h.freeList
  entry := h.entry
  named := h.named
  owner := h.owner
  isOpen p hp hne := by
    by_cases he : pool.sock p = sock
    · rw [he, Function.update_self]
    · rw [Function.update_of_ne he]
      exact h.isOpen p hp hne
  loose := h.loose

/-- A descriptor is closed that no connection has. -/
theorem closed (h : Books pool tables isOpen filed free loose) {sock : Int}
    (hsock : ∀ p < pool.count, pool.sock p ≠ sock) :
    Books pool tables (Function.update isOpen sock false) filed free loose where
  isMap := h.isMap
  freeList := h.freeList
  entry := h.entry
  named := h.named
  owner := h.owner
  isOpen p hp hne := by
    rw [Function.update_of_ne (hsock p hp)]
    exact h.isOpen p hp hne
  loose := h.loose

/-- A table that holds the same may be put in the place of another. -/
theorem setTable (h : Books pool tables isOpen filed free loose) {which : ConnectionTable}
    {table : FastHash Int ℕ} (ht : IsMap table (filed which)) :
    Books pool (Function.update tables which table) isOpen filed free loose where
  isMap which' := by
    by_cases he : which' = which
    · subst he
      rw [Function.update_self]
      exact ht
    · rw [Function.update_of_ne he]
      exact h.isMap which'
  freeList := h.freeList
  entry := h.entry
  named := h.named
  owner := h.owner
  isOpen := h.isOpen
  loose := h.loose

/-- Only the owner of a socket is filed under it. -/
theorem filed_eq (h : Books pool tables isOpen filed free loose) {which : ConnectionTable} {k : Int}
    {p q : ℕ} (hq : filed which k = some q) (hp : p < pool.count) (hk : pool.sock p = k) : q = p := by
  obtain ⟨hlt, hsock, hne, -⟩ := h.entry which k q hq
  exact h.owner q hlt p hp (by rw [hsock]; exact hne) (hsock.trans hk.symm)

/-- A descriptor that was not open belongs to no connection. -/
theorem sock_ne (h : Books pool tables isOpen filed free loose) {sock : Int} (hsock : sock ≠ -1)
    (hfresh : isOpen sock = false) : ∀ p < pool.count, pool.sock p ≠ sock := by
  intro p hp he
  have hopen := h.isOpen p hp (by rw [he]; exact hsock)
  rw [he, hfresh] at hopen
  cases hopen

/-! ### The pool -/

theorem growOne (h : Books pool tables isOpen filed free loose) :
    Books pool.growOne tables isOpen filed (pool.count :: free) loose := by
  have hsock : ∀ p < pool.count, pool.growOne.sock p = pool.sock p := by
    intro p hp
    rw [sock, growOne_heap_of_ne (by omega), sock]
  have hnew : pool.growOne.sock pool.count = -1 := by
    rw [sock, growOne_heap_self]
    rfl
  have hheap : ∀ p < pool.growOne.count, pool.growOne.sock p ≠ -1 → p < pool.count := by
    intro p hp hne
    have hle : p ≤ pool.count := Nat.lt_succ_iff.mp hp
    rcases Nat.lt_or_eq_of_le hle with hlt | rfl
    · exact hlt
    · exact absurd hnew hne
  refine ⟨h.isMap, h.freeList.growOne, ?_, ?_, ?_, ?_, ?_⟩
  · intro which k p hp
    obtain ⟨hlt, hk, hne, hl, hid⟩ := h.entry which k p hp
    refine ⟨Nat.lt_succ_of_lt hlt, (hsock p hlt).trans hk, hne, hl, ?_⟩
    rw [growOne_heap_of_ne (by omega)]
    exact hid
  · intro p hp hne hl
    have hlt := hheap p hp hne
    rw [hsock p hlt] at hne ⊢
    exact h.named p hlt hne hl
  · intro p hp q hq hne he
    have hlt := hheap p hp hne
    have hlt' := hheap q hq (by rw [← he]; exact hne)
    rw [hsock p hlt] at hne he
    rw [hsock q hlt'] at he
    exact h.owner p hlt q hlt' hne he
  · intro p hp hne
    have hlt := hheap p hp hne
    rw [hsock p hlt] at hne ⊢
    exact h.isOpen p hlt hne
  · intro p hp
    obtain ⟨hlt, hne⟩ := h.loose p hp
    exact ⟨Nat.lt_succ_of_lt hlt, by rw [hsock p hlt]; exact hne⟩

theorem grow (h : Books pool tables isOpen filed free loose) (available : ℕ) :
    ∃ free', Books (pool.grow available) tables isOpen filed free' loose ∧
      free'.length = free.length + min c_growrate available := by
  unfold CConnectionPool.grow
  induction min c_growrate available generalizing pool free with
  | zero => exact ⟨free, h, rfl⟩
  | succ n ih =>
    obtain ⟨free', hbooks, hlen⟩ := ih h.growOne
    exact ⟨free', hbooks, by rw [hlen, List.length_cons]; omega⟩

/-- The free list is empty after all only if there was no memory to grow. -/
theorem refill (h : Books pool tables isOpen filed free loose) (available : ℕ) :
    ∃ free', Books (if pool.freelist = none then pool.grow available else pool) tables isOpen filed
      free' loose ∧ (free' = [] ↔ pool.freelist = none ∧ available = 0) := by
  have hnil := h.freeList.chain.head_eq_none
  by_cases hf : pool.freelist = none
  · obtain ⟨free', hbooks, hlen⟩ := h.grow available
    rw [hnil.mp hf, List.length_nil, Nat.zero_add] at hlen
    refine ⟨free', by rw [if_pos hf]; exact hbooks, ?_⟩
    rw [← List.length_eq_zero_iff, hlen, c_growrate]
    constructor
    · intro hz
      exact ⟨hf, by omega⟩
    · rintro ⟨-, rfl⟩
      rfl
  · refine ⟨free, by rw [if_neg hf]; exact h, ?_⟩
    rw [← hnil]
    exact ⟨fun hn => absurd hn hf, fun hn => absurd hn.1 hf⟩

/-- A free connection gets a socket that nobody has. -/
theorem take (h : Books pool tables isOpen filed (pConn :: free) none) {sock : Int}
    (hsock : sock ≠ -1) (hfresh : isOpen sock = false) {f : StunConnection → StunConnection}
    (hf : (f (pool.heap pConn)).stunsocket.sock = sock) :
    Books (({ pool with freelist := (pool.heap pConn).pNext } : CConnectionPool).modify pConn f)
      tables (Function.update isOpen sock true) filed free (some pConn) := by
  obtain ⟨hlt, hp⟩ := (h.freeList.mem_iff pConn).mp (List.mem_cons_self ..)
  have hne := h.sock_ne hsock hfresh
  set pool' := ({ pool with freelist := (pool.heap pConn).pNext } : CConnectionPool).modify pConn f
    with hpool'
  have hself : pool'.sock pConn = sock := by
    rw [CConnectionPool.sock, hpool', modify_heap_self]
    exact hf
  have hother : ∀ q, q ≠ pConn → pool'.sock q = pool.sock q := fun q hq => sock_modify_of_ne hq f
  refine ⟨h.isMap, h.freeList.take (by rw [hf]; exact hsock), ?_, ?_, ?_, ?_, ?_⟩
  · intro which k p hk
    obtain ⟨hltp, hs, hk1, -, hid⟩ := h.entry which k p hk
    have hpne : p ≠ pConn := by
      rintro rfl
      rw [hp] at hs
      exact hk1 hs.symm
    refine ⟨hltp, (hother p hpne).trans hs, hk1, by simpa using Ne.symm hpne, ?_⟩
    rw [hpool', modify_heap_of_ne hpne]
    exact hid
  · intro p hltp hs hl
    have hpne : p ≠ pConn := fun he => hl (by rw [he])
    rw [hother p hpne] at hs ⊢
    exact h.named p hltp hs (by simp)
  · intro p hltp q hltq hs he
    by_cases hpc : p = pConn
    · by_cases hqc : q = pConn
      · rw [hpc, hqc]
      · rw [hpc, hself, hother q hqc] at he
        exact absurd he.symm (hne q hltq)
    · rw [hother p hpc] at hs he
      by_cases hqc : q = pConn
      · rw [hqc, hself] at he
        exact absurd he (hne p hltp)
      · rw [hother q hqc] at he
        exact h.owner p hltp q hltq hs he
  · intro p hltp hs
    by_cases hpc : p = pConn
    · rw [hpc, hself, Function.update_self]
    · rw [hother p hpc] at hs ⊢
      rw [Function.update_of_ne (hne p hltp)]
      exact h.isOpen p hltp hs
  · intro p he
    obtain rfl : pConn = p := by simpa using he
    exact ⟨hlt, by rw [hself]; exact hsock⟩

/-- A connection for a new socket, if there is one left. -/
theorem getConnection (h : Books pool tables isOpen filed free none) {sock : Int}
    (hsock : sock ≠ -1) (hfresh : isOpen sock = false) (role : SocketRole)
    (names : CStunSocket.Names) (available : ℕ) :
    (∃ pool', pool.getConnection sock role names available = (none, pool') ∧
      Books pool' tables isOpen filed [] none ∧ pool.freelist = none ∧ available = 0) ∨
    ∃ p pool' free', pool.getConnection sock role names available = (some p, pool') ∧
      Books pool' tables (Function.update isOpen sock true) filed free' (some p) ∧
      pool'.sock p = sock ∧ ¬(pool.freelist = none ∧ available = 0) := by
  obtain ⟨free', hbooks, hnil⟩ := h.refill available
  unfold CConnectionPool.getConnection
  dsimp only
  generalize (if pool.freelist = none then pool.grow available else pool) = pool₁ at hbooks ⊢
  cases free' with
  | nil =>
    have hlist := hbooks.freeList.chain.head_eq_none.mpr rfl
    obtain ⟨hf, hz⟩ := hnil.mp rfl
    refine Or.inl ⟨pool₁, ?_, hbooks, hf, hz⟩
    rw [hlist]
  | cons p free' =>
    have hlist : pool₁.freelist = some p := hbooks.freeList.chain.1
    refine Or.inr ⟨p, _, free', ?_, hbooks.take hsock hfresh
      (prepConnection_sock hsock role names (pool₁.heap p)), ?_, ?_⟩
    · rw [hlist]
    · rw [CConnectionPool.sock, modify_heap_self]
      exact prepConnection_sock hsock role names (pool₁.heap p)
    · intro hn
      exact absurd (hnil.mpr hn) (List.cons_ne_nil p free')

/-! ### Filing -/

/-- The table is noted on the connection before it is filed. -/
theorem note (h : Books pool tables isOpen filed free (some pConn)) (i : Int) :
    Books (pool.modify pConn fun conn => { conn with idHashTable := i }) tables isOpen filed free
      (some pConn) := by
  set pool' := pool.modify pConn fun conn => { conn with idHashTable := i } with hpool'
  have hheap : ∀ q, (pool'.heap q).stunsocket = (pool.heap q).stunsocket ∧
      (pool'.heap q).pNext = (pool.heap q).pNext := by
    intro q
    by_cases hq : q = pConn
    · subst hq
      rw [hpool', modify_heap_self]
      exact ⟨rfl, rfl⟩
    · rw [hpool', modify_heap_of_ne hq]
      exact ⟨rfl, rfl⟩
  have hsock : ∀ q, pool'.sock q = pool.sock q := fun q => congrArg CStunSocket.sock (hheap q).1
  refine ⟨h.isMap, h.freeList.congr rfl rfl fun q => ⟨hsock q, (hheap q).2⟩, ?_, ?_, ?_, ?_, ?_⟩
  · intro which k p hk
    obtain ⟨hlt, hs, hne, hl, hid⟩ := h.entry which k p hk
    have hpne : p ≠ pConn := fun he => hl (by rw [he])
    refine ⟨hlt, (hsock p).trans hs, hne, hl, ?_⟩
    rw [hpool', modify_heap_of_ne hpne]
    exact hid
  · intro p hp hne hl
    rw [hsock] at hne ⊢
    exact h.named p hp hne hl
  · intro p hp q hq
    rw [hsock, hsock]
    exact h.owner p hp q hq
  · intro p hp
    rw [hsock]
    exact h.isOpen p hp
  · intro p hp
    rw [hsock]
    exact h.loose p hp

/-- A loose connection is filed in the table that is noted on it, which has room. -/
theorem file (h : Books pool tables isOpen filed free (some pConn)) {which : ConnectionTable}
    (hid : (pool.heap pConn).idHashTable = which.id) {table : FastHash Int ℕ}
    (ht : IsMap table (Function.update (filed which) (pool.sock pConn) (some pConn))) :
    Books pool (Function.update tables which table) isOpen
      (Function.update filed which (Function.update (filed which) (pool.sock pConn) (some pConn)))
      free none := by
  obtain ⟨hlt, hsock⟩ := h.loose pConn rfl
  refine ⟨?_, h.freeList, ?_, ?_, h.owner, h.isOpen, by simp⟩
  · intro which'
    by_cases he : which' = which
    · subst he
      rw [Function.update_self, Function.update_self]
      exact ht
    · rw [Function.update_of_ne he, Function.update_of_ne he]
      exact h.isMap which'
  · intro which' k p hk
    have hcase : (which' = which ∧ k = pool.sock pConn ∧ p = pConn) ∨ filed which' k = some p := by
      by_cases he : which' = which
      · subst he
        rw [Function.update_self] at hk
        by_cases hks : k = pool.sock pConn
        · rw [hks, Function.update_self] at hk
          exact Or.inl ⟨rfl, hks, (Option.some.inj hk).symm⟩
        · rw [Function.update_of_ne hks] at hk
          exact Or.inr hk
      · rw [Function.update_of_ne he] at hk
        exact Or.inr hk
    rcases hcase with ⟨rfl, rfl, rfl⟩ | hold
    · exact ⟨hlt, rfl, hsock, by simp, hid⟩
    · obtain ⟨hltp, hs, hne, -, hidp⟩ := h.entry which' k p hold
      exact ⟨hltp, hs, hne, by simp, hidp⟩
  · intro p hp hne _
    by_cases hpc : p = pConn
    · subst hpc
      exact ⟨which, by rw [Function.update_self, Function.update_self]⟩
    · obtain ⟨which', hw⟩ := h.named p hp hne (by simpa using Ne.symm hpc)
      refine ⟨which', ?_⟩
      by_cases he : which' = which
      · subst he
        have hk : pool.sock p ≠ pool.sock pConn := fun hs => hpc (h.owner p hp _ hlt hne hs)
        rw [Function.update_self, Function.update_of_ne hk]
        exact hw
      · rw [Function.update_of_ne he]
        exact hw

/-- A loose connection is in no table. -/
theorem filed_loose (h : Books pool tables isOpen filed free (some pConn))
    (which : ConnectionTable) : filed which (pool.sock pConn) = none := by
  obtain ⟨hlt, -⟩ := h.loose pConn rfl
  cases hq : filed which (pool.sock pConn) with
  | none => rfl
  | some q =>
    obtain ⟨-, -, -, hl, -⟩ := h.entry which _ q hq
    exact absurd (by rw [h.filed_eq hq hlt rfl]) hl

/-! ### Taking out -/

theorem without_eq_some {filed : ConnectionTable → Int → Option ℕ} {which : ConnectionTable}
    {k : Int} {p : ℕ} :
    without filed pConn which k = some p ↔ filed which k = some p ∧ p ≠ pConn := by
  unfold without
  split_ifs with h
  · rw [h]
    simp [eq_comm]
  · constructor
    · intro hp
      exact ⟨hp, by rintro rfl; exact h hp⟩
    · exact And.left

/-- The table that a connection is taken out of. -/
theorem remove (h : Books pool tables isOpen filed free loose) (hlt : pConn < pool.count)
    {which : ConnectionTable} :
    IsMap ((tables which).remove (pool.sock pConn)).2 (without filed pConn which) := by
  have hout : without filed pConn which = Function.update (filed which) (pool.sock pConn) none := by
    funext k
    unfold without
    by_cases hk : k = pool.sock pConn
    · subst hk
      rw [Function.update_self]
      split_ifs with hp
      · rfl
      · cases hq : filed which (pool.sock pConn) with
        | none => rfl
        | some q => exact absurd (by rw [hq, h.filed_eq hq hlt rfl]) hp
    · rw [Function.update_of_ne hk, if_neg]
      intro hp
      exact hk (h.entry which k pConn hp).2.1.symm
  rw [hout]
  cases hq : filed which (pool.sock pConn) with
  | none =>
    rw [(h.isMap which).remove_absent hq, ← hq, Function.update_eq_self]
    exact h.isMap which
  | some q =>
    obtain ⟨t', hrun, hmap, -⟩ := (h.isMap which).remove hq
    rw [hrun]
    exact hmap

/-- The table that is not noted on the connection does not hold it. -/
theorem without_eq (h : Books pool tables isOpen filed free loose) {which : ConnectionTable}
    (hid : (pool.heap pConn).idHashTable ≠ which.id) :
    without filed pConn which = filed which := by
  funext k
  unfold without
  rw [if_neg]
  intro hp
  exact hid (h.entry which k pConn hp).2.2.2.2

/-- A connection is closed, taken out of the tables and given back. -/
theorem release (h : Books pool tables isOpen filed free loose) (hlt : pConn < pool.count)
    (hsock : pool.sock pConn ≠ -1) (hloose : loose = none ∨ loose = some pConn)
    {pool' : CConnectionPool} {tables' : ConnectionTable → FastHash Int ℕ}
    (hpool : pool' = pool.modify pConn fun conn => { conn with stunsocket := .reset })
    (htables : ∀ which, IsMap (tables' which) (without filed pConn which)) :
    Books (pool'.releaseConnection pConn) tables'
      (Function.update isOpen (pool.sock pConn) false) (without filed pConn) (pConn :: free)
      none := by
  have hheap : ∀ q, q ≠ pConn → (pool'.releaseConnection pConn).heap q = pool.heap q := by
    intro q hq
    rw [hpool]
    simp only [releaseConnection, modify_heap_of_ne hq]
  have hself : (pool'.releaseConnection pConn).sock pConn = -1 := by
    rw [CConnectionPool.sock, hpool]
    simp only [releaseConnection, modify_heap_self]
    rfl
  have hcount : (pool'.releaseConnection pConn).count = pool.count := by rw [hpool]; rfl
  have hother : ∀ q, q ≠ pConn → (pool'.releaseConnection pConn).sock q = pool.sock q :=
    fun q hq => by rw [CConnectionPool.sock, hheap q hq, CConnectionPool.sock]
  have hne : ∀ q, (pool'.releaseConnection pConn).sock q ≠ -1 → q ≠ pConn := by
    rintro q hq rfl
    exact hq hself
  refine ⟨htables, h.freeList.release hlt hsock hpool, ?_, ?_, ?_, ?_, by simp⟩
  · intro which k p hp
    obtain ⟨hk, hpc⟩ := without_eq_some.mp hp
    obtain ⟨hltp, hs, hk1, -, hid⟩ := h.entry which k p hk
    rw [hother p hpc, hheap p hpc, hcount]
    exact ⟨hltp, hs, hk1, by simp, hid⟩
  · intro p hltp hs _
    have hpc := hne p hs
    rw [hother p hpc] at hs ⊢
    rw [hcount] at hltp
    have hl : loose ≠ some p := by
      rcases hloose with rfl | rfl
      · simp
      · simpa using Ne.symm hpc
    obtain ⟨which, hw⟩ := h.named p hltp hs hl
    exact ⟨which, without_eq_some.mpr ⟨hw, hpc⟩⟩
  · intro p hltp q hltq hs he
    have hpc := hne p hs
    have hqc := hne q (by rw [← he]; exact hs)
    rw [hother p hpc] at hs he
    rw [hother q hqc] at he
    rw [hcount] at hltp hltq
    exact h.owner p hltp q hltq hs he
  · intro p hltp hs
    have hpc := hne p hs
    rw [hother p hpc] at hs ⊢
    rw [hcount] at hltp
    have hk : pool.sock p ≠ pool.sock pConn := fun he => hpc (h.owner p hltp _ hlt hs he)
    rw [Function.update_of_ne hk]
    exact h.isOpen p hltp hs

end Books

/-! ### The thread -/

namespace CTCPStunThread

/-- The books of a thread, whose tables have one width. -/
structure Booked (thread : CTCPStunThread) (filed : ConnectionTable → Int → Option ℕ)
    (free : List ℕ) (loose : Option ℕ) : Prop where
  books : Books thread.connectionpool thread.tables thread.isOpen filed free loose
  lists : thread.pOldConnList = thread.pNewConnList.other
  fsize : ∀ which, (thread.tables which).fsize = thread.maxConnections

variable {thread : CTCPStunThread} {filed : ConnectionTable → Int → Option ℕ} {free : List ℕ}
  {loose : Option ℕ} {pConn : ℕ}

theorem init_booked {tsaListen tsaHandler : TransportAddressSet} {pAuth : Option IStunAuth}
    {maxConnections : ℤ} {sockets : SocketRole → Int} {pipe : Int} {time : ℤ}
    (h : init tsaListen tsaHandler pAuth maxConnections sockets pipe time = .ok thread) :
    thread.Booked (fun _ _ => none) [] none := by
  unfold init at h
  dsimp only at h
  split_ifs at h <;> cases h <;> exact ⟨.create _ _, rfl, fun _ => rfl⟩

theorem init_connectionCount {tsaListen tsaHandler : TransportAddressSet}
    {pAuth : Option IStunAuth} {maxConnections : ℤ} {sockets : SocketRole → Int} {pipe : Int}
    {time : ℤ} (h : init tsaListen tsaHandler pAuth maxConnections sockets pipe time = .ok thread) :
    thread.connectionCount = 0 := by
  unfold init at h
  dsimp only at h
  split_ifs at h <;> cases h <;> rfl

/-- The tables are one the new and one the old one. -/
theorem Booked.connectionCount_eq (h : thread.Booked filed free loose) (which : ConnectionTable) :
    thread.connectionCount = (thread.tables which).size + (thread.tables which.other).size := by
  rw [connectionCount, h.lists]
  rcases eq_or_eq_other thread.pNewConnList which with he | he
  · rw [he]
  · rw [he, other_other, Nat.add_comm]

/-! ### Closing a connection -/

/-- What a thread keeps while it closes connections of one table. -/
structure Closes (which : ConnectionTable) (thread thread' : CTCPStunThread) : Prop where
  other : thread'.tables which.other = thread.tables which.other
  pNewConnList : thread'.pNewConnList = thread.pNewConnList
  pOldConnList : thread'.pOldConnList = thread.pOldConnList
  maxConnections : thread'.maxConnections = thread.maxConnections
  size : (thread'.tables which).size ≤ (thread.tables which).size

theorem Closes.refl (which : ConnectionTable) (thread : CTCPStunThread) :
    Closes which thread thread := ⟨rfl, rfl, rfl, rfl, le_rfl⟩

theorem Closes.trans {which : ConnectionTable} {thread' thread'' : CTCPStunThread}
    (h : Closes which thread thread') (h' : Closes which thread' thread'') :
    Closes which thread thread'' :=
  ⟨h'.other.trans h.other, h'.pNewConnList.trans h.pNewConnList,
    h'.pOldConnList.trans h.pOldConnList, h'.maxConnections.trans h.maxConnections,
    h'.size.trans h.size⟩

/-- A connection with a socket: what closing it comes to. -/
theorem closeConnection_eq (hsock : thread.connectionpool.sock pConn ≠ -1) :
    thread.closeConnection pConn =
      { thread with
        spPolling := (thread.spPolling.remove (thread.connectionpool.sock pConn)).2
        isOpen := Function.update thread.isOpen (thread.connectionpool.sock pConn) false
        connectionpool := (thread.connectionpool.modify pConn fun conn =>
          { conn with stunsocket := .reset }).releaseConnection pConn
        tables := match ofId (thread.connectionpool.heap pConn).idHashTable with
          | some which => Function.update thread.tables which
              ((thread.tables which).remove (thread.connectionpool.sock pConn)).2
          | none => thread.tables } := by
  have hs : (thread.connectionpool.heap pConn).stunsocket.sock ≠ -1 := hsock
  unfold closeConnection
  dsimp only
  rw [if_neg hs]
  cases ofId (thread.connectionpool.heap pConn).idHashTable with
  | none => rfl
  | some which => rfl

/-- A connection that is filed is closed. -/
theorem closeConnection_filed (h : thread.Booked filed free none) {which : ConnectionTable}
    {k : Int} (hk : filed which k = some pConn) :
    (thread.closeConnection pConn).Booked (without filed pConn) (pConn :: free) none ∧
      Closes which thread (thread.closeConnection pConn) ∧
      ((thread.closeConnection pConn).tables which).size + 1 = (thread.tables which).size ∧
      without filed pConn which.other = filed which.other := by
  obtain ⟨hlt, hs, hne, -, hid⟩ := h.books.entry which k pConn hk
  have hsock : thread.connectionpool.sock pConn ≠ -1 := by
    rw [hs]
    exact hne
  have hother : without filed pConn which.other = filed which.other := by
    apply h.books.without_eq
    rw [hid]
    exact fun he => other_ne which (id_injective he).symm
  rw [← hs] at hk
  obtain ⟨t', hrun, hmap, hsize, hfsize⟩ := (h.books.isMap which).remove hk
  have htables : (match ofId (thread.connectionpool.heap pConn).idHashTable with
      | some which => Function.update thread.tables which
          ((thread.tables which).remove (thread.connectionpool.sock pConn)).2
      | none => thread.tables) = Function.update thread.tables which t' := by
    rw [hid, ofId_id]
    dsimp only
    rw [hrun]
  have hmaps : ∀ which', IsMap (Function.update thread.tables which t' which')
      (without filed pConn which') := by
    intro which'
    rcases eq_or_eq_other which' which with rfl | rfl
    · have hremove : IsMap _ (without filed pConn which') := h.books.remove hlt
      rw [hrun] at hremove
      rw [Function.update_self]
      exact hremove
    · rw [Function.update_of_ne (other_ne which), hother]
      exact h.books.isMap which.other
  rw [closeConnection_eq hsock, htables]
  refine ⟨⟨h.books.release hlt hsock (Or.inl rfl) rfl hmaps, h.lists, ?_⟩,
    ⟨?_, rfl, rfl, rfl, ?_⟩, ?_, hother⟩
  · intro which'
    show (Function.update thread.tables which t' which').fsize = thread.maxConnections
    rcases eq_or_eq_other which' which with rfl | rfl
    · rw [Function.update_self, hfsize, h.fsize]
    · rw [Function.update_of_ne (other_ne which), h.fsize]
  · exact Function.update_of_ne (other_ne which) ..
  · show (Function.update thread.tables which t' which).size ≤ _
    rw [Function.update_self]
    omega
  · show (Function.update thread.tables which t' which).size + 1 = _
    rw [Function.update_self, hsize]

/-- What is left of an accept that failed. -/
structure Refuses (call : Accepted) (thread thread' : CTCPStunThread) : Prop where
  tables : thread'.tables = thread.tables
  pNewConnList : thread'.pNewConnList = thread.pNewConnList
  pOldConnList : thread'.pOldConnList = thread.pOldConnList
  maxConnections : thread'.maxConnections = thread.maxConnections
  closed : call.socktmp ≠ -1 → thread'.isOpen call.socktmp = false

/-- A connection that is in no table yet is closed. -/
theorem closeConnection_loose (h : thread.Booked filed free (some pConn)) {call : Accepted}
    (hcall : thread.connectionpool.sock pConn = call.socktmp) {thread₀ : CTCPStunThread}
    (htables : thread.tables = thread₀.tables) (hnew : thread.pNewConnList = thread₀.pNewConnList)
    (hold : thread.pOldConnList = thread₀.pOldConnList)
    (hmax : thread.maxConnections = thread₀.maxConnections) :
    (thread.closeConnection pConn).Booked filed (pConn :: free) none ∧
      Refuses call thread₀ (thread.closeConnection pConn) := by
  obtain ⟨hlt, hsock⟩ := h.books.loose pConn rfl
  have habsent := h.books.filed_loose
  have hout : without filed pConn = filed := by
    funext which k
    unfold without
    rw [if_neg]
    intro hp
    exact (h.books.entry which k pConn hp).2.2.2.1 rfl
  have hsame : (match ofId (thread.connectionpool.heap pConn).idHashTable with
      | some which => Function.update thread.tables which
          ((thread.tables which).remove (thread.connectionpool.sock pConn)).2
      | none => thread.tables) = thread.tables := by
    cases ofId (thread.connectionpool.heap pConn).idHashTable with
    | none => rfl
    | some which =>
      dsimp only
      rw [(h.books.isMap which).remove_absent (habsent which), Function.update_eq_self]
  have hmaps : ∀ which, IsMap (thread.tables which) (without filed pConn which) := by
    rw [hout]
    exact h.books.isMap
  have hbooks := h.books.release hlt hsock (Or.inr rfl) rfl hmaps
  rw [hout] at hbooks
  rw [closeConnection_eq hsock, hsame]
  refine ⟨⟨hbooks, h.lists, h.fsize⟩, htables, hnew, hold, hmax, fun _ => ?_⟩
  rw [← hcall]
  exact Function.update_self ..

/-! ### Closing all connections of a table -/

theorem setTable_self (thread : CTCPStunThread) (which : ConnectionTable) :
    thread.setTable which (thread.tables which) = thread := by
  rw [setTable, Function.update_eq_self]

/-- A table that is searched by index may be indexed anew. -/
theorem Booked.setTable (h : thread.Booked filed free none) {which : ConnectionTable}
    {table : FastHash Int ℕ} (ht : IsMap table (filed which))
    (hsize : table.size = (thread.tables which).size)
    (hfsize : table.fsize = (thread.tables which).fsize) :
    (thread.setTable which table).Booked filed free none ∧
      Closes which thread (thread.setTable which table) ∧
      ((thread.setTable which table).tables which).size = (thread.tables which).size := by
  refine ⟨⟨h.books.setTable ht, h.lists, fun which' => ?_⟩, ⟨?_, rfl, rfl, rfl, ?_⟩, ?_⟩
  · show (Function.update thread.tables which table which').fsize = thread.maxConnections
    rcases eq_or_eq_other which' which with rfl | rfl
    · rw [Function.update_self, hfsize, h.fsize]
    · rw [Function.update_of_ne (other_ne which), h.fsize]
  · exact Function.update_of_ne (other_ne which) ..
  · show (Function.update thread.tables which table which).size ≤ _
    rw [Function.update_self, hsize]
  · show (Function.update thread.tables which table which).size = _
    rw [Function.update_self, hsize]

theorem closeFirst_empty {which : ConnectionTable} (hz : (thread.tables which).size = 0) :
    closeFirst which thread = .inl thread := by
  rw [closeFirst, IsMap.lookupByIndex_empty _ hz]
  dsimp only
  rw [setTable_self]

/-- A turn of the loop closes one connection of the table. -/
theorem closeFirst_some (h : thread.Booked filed free none) {which : ConnectionTable}
    (hne : (thread.tables which).size ≠ 0) :
    ∃ thread' pConn, closeFirst which thread = .inr thread' ∧
      thread'.Booked (without filed pConn) (pConn :: free) none ∧ Closes which thread thread' ∧
      (thread'.tables which).size + 1 = (thread.tables which).size ∧
      without filed pConn which.other = filed which.other := by
  obtain ⟨k, p, t', hrun, hk, hmap, hsize, hfsize⟩ := (h.books.isMap which).lookupByIndex_zero hne
  obtain ⟨hbooked, hcloses, heq⟩ := h.setTable hmap hsize hfsize
  obtain ⟨hbooked', hcloses', hsize', hother⟩ := closeConnection_filed hbooked hk
  refine ⟨_, p, ?_, hbooked', hcloses.trans hcloses', hsize'.trans heq, hother⟩
  rw [closeFirst, hrun]

/-- The loop ends, with the table empty and the other one as it was. -/
theorem closeAllConnections_spec (h : thread.Booked filed free none) (which : ConnectionTable) :
    ∃ thread' filed' free', thread.closeAllConnections which = some thread' ∧
      thread'.Booked filed' free' none ∧ Closes which thread thread' ∧
      (thread'.tables which).size = 0 ∧ filed' which.other = filed which.other := by
  let I := fun t : CTCPStunThread => ∃ filed' free', t.Booked filed' free' none ∧
    Closes which thread t ∧ filed' which.other = filed which.other
  have hkeeps : Loop.Keeps (closeFirst which) I (fun t => I t ∧ (t.tables which).size = 0)
      (fun t => (t.tables which).size) := by
    refine Loop.Keeps.of_pass ?_
    rintro t ⟨filed', free', hbooked, hcloses, hother⟩
    by_cases hz : (t.tables which).size = 0
    · exact Or.inl ⟨t, closeFirst_empty hz, ⟨filed', free', hbooked, hcloses, hother⟩, hz⟩
    · obtain ⟨t', p, hrun, hbooked', hcloses', hsize, hother'⟩ := closeFirst_some hbooked hz
      exact Or.inr
        ⟨t', hrun, ⟨_, _, hbooked', hcloses.trans hcloses', hother'.trans hother⟩, by omega⟩
  obtain ⟨thread', hrun, ⟨filed', free', hbooked, hcloses, hother⟩, hz⟩ :=
    hkeeps.run ⟨filed, free, h, .refl which thread, rfl⟩ (Nat.lt_succ_self _)
  exact ⟨thread', filed', free', hrun, hbooked, hcloses, hz, hother⟩

/-- A thread whose connections did not get more. -/
theorem Closes.connectionCount_le {which : ConnectionTable} {thread' : CTCPStunThread}
    {filed' : ConnectionTable → Int → Option ℕ} {free' : List ℕ} {loose' : Option ℕ}
    (hc : Closes which thread thread') (h : thread.Booked filed free loose)
    (h' : thread'.Booked filed' free' loose') :
    thread'.connectionCount ≤ thread.connectionCount := by
  rw [h.connectionCount_eq which, h'.connectionCount_eq which, hc.other]
  exact Nat.add_le_add_right hc.size _

/-! ### Accepting -/

/-- An accept goes through, and the connection is filed in the new table. -/
structure Accepts (thread thread' : CTCPStunThread) (pConn : ℕ) : Prop where
  pNewConnList : thread'.pNewConnList = thread.pNewConnList
  maxConnections : thread'.maxConnections = thread.maxConnections
  size : (thread'.tables thread.pNewConnList).size = (thread.tables thread.pNewConnList).size + 1
  other : thread'.tables thread.pNewConnList.other = thread.tables thread.pNewConnList.other

theorem Booked.opened (h : thread.Booked filed free loose) (sock : Int) :
    ({ thread with isOpen := Function.update thread.isOpen sock true } : CTCPStunThread).Booked
      filed free loose :=
  ⟨h.books.opened sock, h.lists, h.fsize⟩

/-- A socket that nothing was done with yet is closed again. -/
theorem closeSocket_fresh (h : thread.Booked filed free none) {call : Accepted}
    (hsock : call.socktmp ≠ -1) (hfresh : thread.isOpen call.socktmp = false)
    {pool : CConnectionPool} {free' : List ℕ}
    (hpool : Books pool thread.tables thread.isOpen filed free' none) {thread' : CTCPStunThread}
    (ht : thread' = { thread with
      isOpen := Function.update thread.isOpen call.socktmp true, connectionpool := pool }) :
    (thread'.closeSocket call.socktmp).Booked filed free' none ∧
      Refuses call thread (thread'.closeSocket call.socktmp) := by
  subst ht
  have hclosed := (hpool.opened call.socktmp).closed (hpool.sock_ne hsock hfresh)
  exact ⟨⟨hclosed, h.lists, h.fsize⟩, rfl, rfl, rfl, rfl, fun _ => Function.update_self ..⟩

/-- A loose connection is filed in the new table, or closed again if the table is full. -/
theorem insert_loose (h : thread.Booked filed free (some pConn))
    (hid : (thread.connectionpool.heap pConn).idHashTable = thread.pNewConnList.id) :
    ((thread.tables thread.pNewConnList).size < thread.maxConnections ∧
      ∃ table, (thread.tables thread.pNewConnList).insert (thread.connectionpool.sock pConn) pConn =
          (1, table) ∧
        (thread.setTable thread.pNewConnList table).Booked
          (Function.update filed thread.pNewConnList (Function.update (filed thread.pNewConnList)
            (thread.connectionpool.sock pConn) (some pConn))) free none ∧
        Accepts thread (thread.setTable thread.pNewConnList table) pConn) ∨
    (¬(thread.tables thread.pNewConnList).size < thread.maxConnections ∧
      (thread.tables thread.pNewConnList).insert (thread.connectionpool.sock pConn) pConn =
        (-1, thread.tables thread.pNewConnList)) := by
  have hmap := h.books.isMap thread.pNewConnList
  have hle := hmap.size_le_fsize
  rw [h.fsize] at hle
  by_cases hroom : (thread.tables thread.pNewConnList).size < thread.maxConnections
  · have hroom' := hroom
    rw [← h.fsize thread.pNewConnList] at hroom'
    obtain ⟨table, hrun, hmap', hsize, hfsize⟩ :=
      hmap.insert (h.books.filed_loose thread.pNewConnList) hroom' pConn
    refine Or.inl ⟨hroom, table, hrun, ⟨h.books.file hid hmap', h.lists, fun which => ?_⟩,
      rfl, rfl, ?_, ?_⟩
    · show (Function.update thread.tables thread.pNewConnList table which).fsize = _
      rcases eq_or_eq_other which thread.pNewConnList with he | he
      · rw [he, Function.update_self, hfsize, h.fsize]
        rfl
      · rw [he, Function.update_of_ne (other_ne _), h.fsize]
        rfl
    · show (Function.update thread.tables thread.pNewConnList table thread.pNewConnList).size = _
      rw [Function.update_self, hsize]
    · exact Function.update_of_ne (other_ne _) ..
  · refine Or.inr ⟨hroom, hmap.insert_full ?_ _ _⟩
    rw [h.fsize]
    omega

/-- A connection that has its socket is tracked, or closed again. -/
theorem trackConnection_spec (h : thread.Booked filed free (some pConn)) {call : Accepted}
    (hp : thread.connectionpool.sock pConn = call.socktmp) :
    ((thread.spPolling.interest call.socktmp = false ∧ call.fAdded = true ∧
        (thread.tables thread.pNewConnList).size < thread.maxConnections) ∧
      ∃ thread' filed', thread.trackConnection pConn call = (some pConn, thread') ∧
        thread'.Booked filed' free none ∧ (∃ k, filed' thread'.pNewConnList k = some pConn) ∧
        Accepts thread thread' pConn) ∨
    (¬(thread.spPolling.interest call.socktmp = false ∧ call.fAdded = true ∧
        (thread.tables thread.pNewConnList).size < thread.maxConnections) ∧
      ∃ thread', thread.trackConnection pConn call = (none, thread') ∧
        thread'.Booked filed (pConn :: free) none ∧ Refuses call thread thread') := by
  have hsock : call.socktmp ≠ -1 := by
    rw [← hp]
    exact (h.books.loose pConn rfl).2
  unfold trackConnection CEpoll.add
  by_cases hadd : call.socktmp = -1 ∨ thread.spPolling.interest call.socktmp = true ∨
      call.fAdded = false
  · rw [if_pos hadd]
    obtain ⟨hbooked, hrefuses⟩ : _ ∧ Refuses call thread _ :=
      closeConnection_loose h hp rfl rfl rfl rfl
    refine Or.inr ⟨?_, _, rfl, hbooked, hrefuses⟩
    rintro ⟨hinterest, hadded, -⟩
    rcases hadd with hadd | hadd | hadd
    · exact hsock hadd
    · exact absurd (hadd.symm.trans hinterest) (by decide)
    · exact absurd (hadd.symm.trans hadded) (by decide)
  rw [if_neg hadd]
  obtain ⟨-, hadd⟩ := not_or.mp hadd
  obtain ⟨hinterest, hadded⟩ := not_or.mp hadd
  dsimp only
  rw [if_neg (by decide)]
  -- the connection is noted and filed
  set thread' : CTCPStunThread := { thread with
    spPolling := { thread.spPolling with
      interest := Function.update thread.spPolling.interest call.socktmp true }
    connectionpool := thread.connectionpool.modify pConn fun conn =>
      { conn with idHashTable := thread.pNewConnList.id } } with hthread'
  have hbooked : thread'.Booked filed free (some pConn) :=
    ⟨h.books.note thread.pNewConnList.id, h.lists, h.fsize⟩
  have hp' : thread'.connectionpool.sock pConn = call.socktmp := by
    rw [← hp, CConnectionPool.sock, hthread']
    dsimp only
    rw [modify_heap_self, CConnectionPool.sock]
  have hid : (thread'.connectionpool.heap pConn).idHashTable = thread'.pNewConnList.id := by
    rw [hthread']
    dsimp only
    rw [modify_heap_self]
  rcases insert_loose hbooked hid with ⟨hroom, table, hrun, hfiled, haccepts⟩ | ⟨hroom, hrun⟩
  · rw [hp'] at hrun
    rw [hrun]
    dsimp only
    rw [if_neg (by decide)]
    refine Or.inl ⟨⟨by simpa using hinterest, by simpa using hadded, hroom⟩, _, _, rfl, hfiled,
      ⟨thread'.connectionpool.sock pConn, ?_⟩, haccepts.pNewConnList, haccepts.maxConnections,
      haccepts.size, haccepts.other⟩
    rw [haccepts.pNewConnList, Function.update_self, Function.update_self]
  · rw [hp'] at hrun
    rw [hrun]
    dsimp only
    rw [if_pos rfl, setTable_self]
    obtain ⟨hbooked', hrefuses⟩ : _ ∧ Refuses call thread _ :=
      closeConnection_loose hbooked hp' rfl rfl rfl rfl
    exact Or.inr ⟨fun hg => hroom hg.2.2, _, rfl, hbooked', hrefuses⟩

/-- The spec of `AcceptConnection`: the connection is filed in the new table, or nothing is
left of it. -/
theorem acceptConnection_spec (h : thread.Booked filed free none) (role : SocketRole)
    {call : Accepted} (hfresh : call.IsFresh thread) :
    (call.GoesThrough thread ∧ ∃ p thread' filed' free',
      thread.acceptConnection role call = (some p, thread') ∧ thread'.Booked filed' free' none ∧
        (∃ k, filed' thread'.pNewConnList k = some p) ∧ (∀ which k, filed which k ≠ some p) ∧
        Accepts thread thread' p) ∨
    (¬call.GoesThrough thread ∧ ∃ thread' free',
      thread.acceptConnection role call = (none, thread') ∧ thread'.Booked filed free' none ∧
        Refuses call thread thread') := by
  unfold acceptConnection
  dsimp only
  by_cases hsock : call.socktmp = -1
  · rw [if_pos hsock]
    refine Or.inr ⟨fun hg => hg.socktmp hsock, thread, free, rfl, h, rfl, rfl, rfl, rfl, ?_⟩
    exact fun hne => absurd hsock hne
  rw [if_neg hsock]
  have hclosed := hfresh.resolve_left hsock
  by_cases hpass : call.allowed_to_pass = false
  · rw [if_pos hpass]
    obtain ⟨hbooked, hrefuses⟩ := closeSocket_fresh h hsock hclosed h.books rfl
    refine Or.inr ⟨fun hg => ?_, _, free, rfl, hbooked, hrefuses⟩
    rw [hg.allowed_to_pass] at hpass
    cases hpass
  rw [if_neg hpass]
  rcases h.books.getConnection hsock hclosed role call.names call.available with
    ⟨pool', hrun, hbooks, hlist, hmem⟩ | ⟨p, pool', free', hrun, hbooks, hp, hmem⟩
  · rw [hrun]
    obtain ⟨hbooked, hrefuses⟩ := closeSocket_fresh h hsock hclosed hbooks rfl
    exact Or.inr ⟨fun hg => hg.memory hlist hmem, _, [], rfl, hbooked, hrefuses⟩
  rw [hrun]
  dsimp only
  set thread₁ : CTCPStunThread := { thread with
    isOpen := Function.update thread.isOpen call.socktmp true, connectionpool := pool' }
  have hbooked : thread₁.Booked filed free' (some p) := ⟨hbooks, h.lists, h.fsize⟩
  by_cases hblock : call.fNonBlocking = false
  · rw [if_pos hblock]
    obtain ⟨hbooked', hrefuses⟩ : _ ∧ Refuses call thread _ :=
      closeConnection_loose hbooked hp rfl rfl rfl rfl
    refine Or.inr ⟨fun hg => ?_, _, _, rfl, hbooked', hrefuses⟩
    rw [hg.fNonBlocking] at hblock
    cases hblock
  rw [if_neg hblock]
  rcases trackConnection_spec hbooked hp with
    ⟨⟨hinterest, hadded, hroom⟩, thread', filed', hrun', hbooked', hfiled, haccepts⟩ |
    ⟨hno, thread', hrun', hbooked', hrefuses⟩
  · refine Or.inl ⟨⟨hsock, by simpa using hpass, fun hf hz => hmem ⟨hf, hz⟩, by simpa using hblock,
      hadded, hinterest, hroom⟩, p, thread', filed', free', hrun', hbooked', hfiled,
      fun which k hk => (hbooked.books.entry which k p hk).2.2.2.1 rfl, haccepts.pNewConnList,
      haccepts.maxConnections, haccepts.size, haccepts.other⟩
  · exact Or.inr ⟨fun hg => hno ⟨hg.interest, hg.fAdded, hg.room⟩, thread', _, hrun', hbooked',
      hrefuses.tables, hrefuses.pNewConnList, hrefuses.pOldConnList, hrefuses.maxConnections,
      hrefuses.closed⟩

theorem Accepts.connectionCount {thread' : CTCPStunThread}
    {filed' : ConnectionTable → Int → Option ℕ} {free' : List ℕ} (ha : Accepts thread thread' pConn)
    (h : thread.Booked filed free loose) (h' : thread'.Booked filed' free' none) :
    thread'.connectionCount = thread.connectionCount + 1 := by
  rw [h.connectionCount_eq thread.pNewConnList, h'.connectionCount_eq thread.pNewConnList, ha.size,
    ha.other]
  omega

theorem Refuses.connectionCount {thread' : CTCPStunThread} {call : Accepted}
    (hr : Refuses call thread thread') : thread'.connectionCount = thread.connectionCount := by
  rw [CTCPStunThread.connectionCount, hr.tables, hr.pNewConnList, hr.pOldConnList,
    CTCPStunThread.connectionCount]

/-! ### The steps of a run -/

/-- The books are in order, and a connection just accepted is filed. -/
structure Running.Fine (s : Running) (filed : ConnectionTable → Int → Option ℕ) (free : List ℕ) :
    Prop where
  booked : s.thread.Booked filed free none
  accepted : ∀ p, s.point = .accepted p → ∃ which k, filed which k = some p

/-- The thread is in order afterwards, and has no more connections than before. -/
structure Keeps (thread thread' : CTCPStunThread) : Prop where
  booked : ∃ filed free, thread'.Booked filed free none
  maxConnections : thread'.maxConnections = thread.maxConnections
  connectionCount : thread'.connectionCount ≤ thread.connectionCount

/-- Whatever is done on a filed connection. -/
theorem onConnection_keeps (h : thread.Booked filed free none) {which : ConnectionTable} {k : Int}
    (hk : filed which k = some pConn) (incoming : List UInt8) {work : Session → Session}
    (hwork : ∀ s, (work s).conn.place = s.conn.place) :
    Keeps thread (thread.onConnection pConn incoming work) := by
  unfold onConnection
  dsimp only
  set s := work (.create (thread.connectionpool.heap pConn) incoming) with hs
  have hplace : s.conn.place = (thread.connectionpool.heap pConn).place := by
    rw [hs, hwork]
    rfl
  have hbooks := h.books.work (f := fun _ => s.conn) hplace
  have hbooked : ({ thread with
      connectionpool := thread.connectionpool.modify pConn fun _ => s.conn } :
        CTCPStunThread).Booked filed free none := ⟨hbooks, h.lists, h.fsize⟩
  split_ifs
  · obtain ⟨hbooked', hcloses, -⟩ := closeConnection_filed hbooked hk
    exact ⟨⟨_, _, hbooked'⟩, hcloses.maxConnections, hcloses.connectionCount_le hbooked hbooked'⟩
  · exact ⟨⟨filed, free, hbooked⟩, rfl, le_rfl⟩

theorem processConnectionEvent_keeps (h : thread.Booked filed free none) (D : Digests) (sock : Int)
    (io : SocketCall) : Keeps thread (thread.processConnectionEvent D sock io) := by
  unfold processConnectionEvent
  dsimp only
  rw [(h.books.isMap _).lookup, (h.books.isMap _).lookup]
  cases hp : (filed thread.pNewConnList sock).or (filed thread.pOldConnList sock) with
  | none => exact ⟨⟨filed, free, h⟩, rfl, le_rfl⟩
  | some p =>
    have hfiled : ∃ which, filed which sock = some p := by
      rcases Option.or_eq_some_iff.mp hp with hnew | ⟨-, hold⟩
      · exact ⟨_, hnew⟩
      · exact ⟨_, hold⟩
    obtain ⟨which, hk⟩ := hfiled
    exact onConnection_keeps h hk io.incoming Session.place_event

theorem sweepDeadConnections_keeps (h : thread.Booked filed free none) (timeCurrent timeSwept : ℤ) :
    ∃ thread', thread.sweepDeadConnections timeCurrent timeSwept = some thread' ∧
      Keeps thread thread' := by
  unfold sweepDeadConnections
  split_ifs
  · obtain ⟨thread', filed', free', hrun, hbooked, hcloses, -⟩ :=
      closeAllConnections_spec h thread.pOldConnList
    have hle := hcloses.connectionCount_le h hbooked
    rw [hrun]
    refine ⟨_, rfl, ⟨filed', free', hbooked.books, ?_, hbooked.fsize⟩, hcloses.maxConnections, ?_⟩
    · show thread'.pNewConnList = thread'.pOldConnList.other
      rw [hbooked.lists, other_other]
    · refine le_trans (le_of_eq ?_) hle
      exact Nat.add_comm _ _
  · exact ⟨thread, rfl, ⟨filed, free, h⟩, rfl, le_rfl⟩

theorem threadCleanup_keeps (h : thread.Booked filed free none) :
    ∃ thread', thread.threadCleanup = some thread' ∧ Keeps thread thread' := by
  obtain ⟨thread₁, filed₁, free₁, hrun₁, hbooked₁, hcloses₁, -⟩ :=
    closeAllConnections_spec h thread.pOldConnList
  obtain ⟨thread₂, filed₂, free₂, hrun₂, hbooked₂, hcloses₂, -⟩ :=
    closeAllConnections_spec hbooked₁ thread₁.pNewConnList
  refine ⟨thread₂, ?_, ⟨filed₂, free₂, hbooked₂⟩,
    hcloses₂.maxConnections.trans hcloses₁.maxConnections,
    (hcloses₂.connectionCount_le hbooked₁ hbooked₂).trans (hcloses₁.connectionCount_le h hbooked₁)⟩
  rw [threadCleanup, hrun₁]
  exact hrun₂

/-- Waiting touches nothing but the polling instance. -/
theorem wait_eq (thread : CTCPStunThread) (turn : Turn) :
    ∃ point poll fListen, thread.wait turn =
      ⟨point, { thread with spPolling := poll, fListenSocketsOnEpoll := fListen }⟩ ∧
        ∀ p, point ≠ .accepted p := by
  have hlisten : ∀ fEnable fAdded, ∃ poll fListen,
      thread.setListenSocketsOnEpoll fEnable fAdded =
        { thread with spPolling := poll, fListenSocketsOnEpoll := fListen } := by
    intro fEnable fAdded
    unfold setListenSocketsOnEpoll
    split_ifs
    · exact ⟨_, _, rfl⟩
    · exact ⟨_, _, rfl⟩
  obtain ⟨poll, fListen, heq⟩ := hlisten (!thread.isConnectionCountAtMax) turn.fListenAdded
  unfold wait
  dsimp only
  rw [heq]
  split_ifs
  · exact ⟨_, _, _, rfl, fun p => RunPoint.noConfusion⟩
  · cases (poll.waitForNextEvent turn.ready).1 with
    | some fd => exact ⟨_, _, _, rfl, fun p => RunPoint.noConfusion⟩
    | none => exact ⟨_, _, _, rfl, fun p => RunPoint.noConfusion⟩

/-- What a step does to the books and to the number of connections. -/
structure Running.Steps (s : Running) (turn : Turn) (s' : Running) : Prop where
  fine : ∃ filed free, s'.Fine filed free
  maxConnections : s'.thread.maxConnections = s.thread.maxConnections
  accepts : s.AcceptsOne turn → s'.thread.connectionCount = s.thread.connectionCount + 1
  others : ¬s.AcceptsOne turn → s'.thread.connectionCount ≤ s.thread.connectionCount

/-- A step that is no accept and goes on at a point of another kind. -/
theorem Keeps.steps {s : Running} {turn : Turn} {thread' : CTCPStunThread} {point : RunPoint}
    (h : Keeps s.thread thread') (hlisten : ¬s.Listens) (hpoint : ∀ p, point ≠ .accepted p) :
    s.Steps turn ⟨point, thread'⟩ := by
  obtain ⟨filed, free, hbooked⟩ := h.booked
  exact ⟨⟨filed, free, hbooked, fun p hp => absurd hp (hpoint p)⟩, h.maxConnections,
    fun ha => absurd ha.1 hlisten, fun _ => h.connectionCount⟩

theorem dispatch_steps {D : Digests} {fd : Int} {turn : Turn} (h : thread.Booked filed free none)
    (hfresh : turn.accepted.IsFresh thread) :
    Running.Steps ⟨.event fd, thread⟩ turn (thread.dispatch D fd turn) := by
  have hlistens : Running.Listens ⟨.event fd, thread⟩ ↔ (thread.getListenSocket fd).isSome = true := by
    constructor
    · rintro ⟨fd', hfd, hl⟩
      cases hfd
      exact hl
    · exact fun hl => ⟨fd, rfl, hl⟩
  unfold dispatch
  cases hrole : thread.getListenSocket fd with
  | none =>
    refine (processConnectionEvent_keeps h D fd turn.io).steps ?_ fun p => RunPoint.noConfusion
    rw [hlistens, hrole]
    exact Bool.false_ne_true
  | some role =>
    have hl : Running.Listens ⟨.event fd, thread⟩ := by
      rw [hlistens, hrole]
      rfl
    dsimp only
    rcases acceptConnection_spec h role hfresh with
      ⟨hg, p, thread', filed', free', hrun, hbooked, hfiled, -, haccepts⟩ |
      ⟨hg, thread', free', hrun, hbooked, hrefuses⟩
    · rw [hrun]
      refine ⟨⟨filed', free', hbooked, fun p' hp => ?_⟩, haccepts.maxConnections,
        fun _ => haccepts.connectionCount h hbooked, fun ha => absurd ⟨hl, hg⟩ ha⟩
      cases hp
      exact ⟨_, hfiled⟩
    · rw [hrun]
      exact ⟨⟨filed, free', hbooked, fun p => RunPoint.noConfusion⟩, hrefuses.maxConnections,
        fun ha => absurd ha.2 hg, fun _ => hrefuses.connectionCount.le⟩

/-- The step lemma: a step can always be made, and leaves the books in order. -/
theorem Running.Fine.step {s : Running} (h : s.Fine filed free) (D : Digests) {turn : Turn}
    (hfresh : turn.accepted.IsFresh s.thread) :
    ∃ s', s.step D turn = some s' ∧ s.Steps turn s' := by
  obtain ⟨point, thread⟩ := s
  have hbooked : thread.Booked filed free none := h.booked
  have hself : Keeps thread thread := ⟨⟨filed, free, hbooked⟩, rfl, le_rfl⟩
  have hlisten : (∀ fd, point ≠ .event fd) → ¬Running.Listens ⟨point, thread⟩ := by
    rintro hne ⟨fd, hfd, -⟩
    exact hne fd hfd
  cases point with
  | top =>
    refine ⟨_, rfl, ?_⟩
    have hl := hlisten fun fd => RunPoint.noConfusion
    split_ifs
    · exact hself.steps hl fun p => RunPoint.noConfusion
    · obtain ⟨point, poll, fListen, heq, hpoint⟩ := wait_eq thread turn
      have hkeeps : Keeps thread
          { thread with spPolling := poll, fListenSocketsOnEpoll := fListen } :=
        ⟨⟨filed, free, hbooked.books, hbooked.lists, hbooked.fsize⟩, rfl, le_rfl⟩
      rw [heq]
      exact hkeeps.steps hl hpoint
  | event fd => exact ⟨_, rfl, dispatch_steps hbooked hfresh⟩
  | accepted p =>
    obtain ⟨which, k, hk⟩ := h.accepted p rfl
    exact ⟨_, rfl, (onConnection_keeps hbooked hk turn.io.incoming (Session.place_receive _)).steps
      (hlisten fun fd => RunPoint.noConfusion) fun p => RunPoint.noConfusion⟩
  | sweep =>
    obtain ⟨thread', hrun, hkeeps⟩ :=
      sweepDeadConnections_keeps hbooked turn.timeCurrent turn.timeSwept
    refine ⟨⟨.top, thread'⟩, ?_, hkeeps.steps (hlisten fun fd => RunPoint.noConfusion)
      fun p => RunPoint.noConfusion⟩
    simp only [Running.step, hrun, Option.map_some]
  | cleanup =>
    obtain ⟨thread', hrun, hkeeps⟩ := threadCleanup_keeps hbooked
    refine ⟨⟨.exited, thread'⟩, ?_, hkeeps.steps (hlisten fun fd => RunPoint.noConfusion)
      fun p => RunPoint.noConfusion⟩
    simp only [Running.step, hrun, Option.map_some]
  | exited =>
    exact ⟨_, rfl, hself.steps (hlisten fun fd => RunPoint.noConfusion)
      fun p => RunPoint.noConfusion⟩

/-- The run lemma. -/
theorem Run.fine {D : Digests} {past : List (Running × Turn)} {s : Running} (h : Run D past s) :
    ∃ filed free, s.Fine filed free := by
  induction h with
  | start h => exact ⟨_, _, init_booked h, fun p => RunPoint.noConfusion⟩
  | step h hfresh hstep ih =>
    obtain ⟨filed, free, hfine⟩ := ih
    obtain ⟨s', hrun, hsteps⟩ := hfine.step D hfresh
    rw [hstep] at hrun
    cases hrun
    exact hsteps.fine

end CTCPStunThread
end StunServer

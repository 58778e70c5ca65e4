import StunServer.Core.StunConnection
import StunServer.Lib.Chain

/-! The free list of `CConnectionPool` as a list: it visits every connection without a
socket, each once. -/

namespace StunServer

open Chain

/-- What links a connection to its socket, its table and the free list. -/
def StunConnection.place (conn : StunConnection) : CStunSocket × Int × Option ℕ :=
  (conn.stunsocket, conn.idHashTable, conn.pNext)

namespace CConnectionPool

/-- The descriptor a connection has, or -1. -/
def sock (pool : CConnectionPool) (pConn : ℕ) : Int := (pool.heap pConn).stunsocket.sock

structure FreeList (pool : CConnectionPool) (free : List ℕ) : Prop where
  chain : IsChain (fun p => (pool.heap p).pNext) pool.freelist free
  nodup : free.Nodup
  mem_iff : ∀ p, p ∈ free ↔ p < pool.count ∧ pool.sock p = -1

variable {pool : CConnectionPool} {free : List ℕ} {pConn : ℕ}

@[simp] theorem modify_heap_self (f : StunConnection → StunConnection) :
    (pool.modify pConn f).heap pConn = f (pool.heap pConn) := Function.update_self ..

@[simp] theorem modify_heap_of_ne {q : ℕ} (h : q ≠ pConn) (f : StunConnection → StunConnection) :
    (pool.modify pConn f).heap q = pool.heap q := Function.update_of_ne h ..

theorem sock_modify_of_ne {q : ℕ} (h : q ≠ pConn) (f : StunConnection → StunConnection) :
    (pool.modify pConn f).sock q = pool.sock q := by
  rw [sock, modify_heap_of_ne h, sock]

theorem growOne_heap_self :
    pool.growOne.heap pool.count = { StunConnection.create with pNext := pool.freelist } :=
  Function.update_self ..

theorem growOne_heap_of_ne {q : ℕ} (h : q ≠ pool.count) : pool.growOne.heap q = pool.heap q :=
  Function.update_of_ne h ..

/-- Work on a connection that leaves it in its place. -/
theorem place_modify {f : StunConnection → StunConnection}
    (hf : (f (pool.heap pConn)).place = (pool.heap pConn).place) (q : ℕ) :
    ((pool.modify pConn f).heap q).place = (pool.heap q).place := by
  by_cases hq : q = pConn
  · subst hq
    rw [modify_heap_self, hf]
  · rw [modify_heap_of_ne hq]

theorem sock_eq_of_place {pool' : CConnectionPool} {q : ℕ}
    (h : (pool'.heap q).place = (pool.heap q).place) : pool'.sock q = pool.sock q :=
  congrArg (fun place => place.1.sock) h

theorem prepConnection_sock {sock : Int} (hsock : sock ≠ -1) (role : SocketRole)
    (names : CStunSocket.Names) (conn : StunConnection) :
    (prepConnection sock role names conn).stunsocket.sock = sock := by
  have hattach : ((conn.stunsocket.attach sock names).sock) = sock := by
    unfold CStunSocket.attach
    rw [if_neg hsock]
    split_ifs with hs
    · rfl
    · exact (not_not.mp hs).symm
  exact hattach

namespace FreeList

theorem create : FreeList .create [] where
  chain := rfl
  nodup := List.nodup_nil
  mem_iff p := by simp [CConnectionPool.create]

theorem not_mem (h : FreeList pool free) (hsock : pool.sock pConn ≠ -1) : pConn ∉ free :=
  fun hmem => hsock ((h.mem_iff pConn).mp hmem).2

/-- Nothing but the sockets and the links matters. -/
theorem congr (h : FreeList pool free) {pool' : CConnectionPool} (hcount : pool'.count = pool.count)
    (hlist : pool'.freelist = pool.freelist)
    (hplace : ∀ q, (pool'.heap q).stunsocket.sock = (pool.heap q).stunsocket.sock ∧
      (pool'.heap q).pNext = (pool.heap q).pNext) : FreeList pool' free where
  chain := by
    rw [hlist]
    exact h.chain.frame fun q _ => (hplace q).2
  nodup := h.nodup
  mem_iff q := by
    rw [hcount, sock, (hplace q).1]
    exact h.mem_iff q

theorem growOne (h : FreeList pool free) : FreeList pool.growOne (pool.count :: free) := by
  have hnew : pool.count ∉ free := fun hmem => by
    have hlt := ((h.mem_iff _).mp hmem).1
    omega
  refine ⟨⟨rfl, ?_⟩, List.nodup_cons.mpr ⟨hnew, h.nodup⟩, ?_⟩
  · dsimp only
    rw [growOne_heap_self]
    refine h.chain.frame fun q hq => ?_
    rw [growOne_heap_of_ne (by rintro rfl; exact hnew hq)]
  · intro q
    rw [List.mem_cons, h.mem_iff, sock, sock]
    have hcount : pool.growOne.count = pool.count + 1 := rfl
    by_cases hq : q = pool.count
    · subst hq
      rw [growOne_heap_self, hcount]
      exact ⟨fun _ => ⟨Nat.lt_succ_self _, rfl⟩, fun _ => Or.inl rfl⟩
    · rw [growOne_heap_of_ne hq, hcount, or_iff_right hq]
      constructor
      · rintro ⟨hlt, hs⟩
        exact ⟨by omega, hs⟩
      · rintro ⟨hlt, hs⟩
        exact ⟨by omega, hs⟩

/-- The first free connection gets a socket. -/
theorem take (h : FreeList pool (pConn :: free)) {f : StunConnection → StunConnection}
    (hsock : (f (pool.heap pConn)).stunsocket.sock ≠ -1) :
    FreeList (({ pool with freelist := (pool.heap pConn).pNext } : CConnectionPool).modify pConn f)
      free := by
  obtain ⟨hnew, hnd⟩ := List.nodup_cons.mp h.nodup
  refine ⟨?_, hnd, ?_⟩
  · refine h.chain.2.frame fun q hq => ?_
    rw [modify_heap_of_ne (by rintro rfl; exact hnew hq)]
  · intro q
    by_cases hq : q = pConn
    · subst hq
      rw [sock, modify_heap_self]
      exact ⟨fun hmem => absurd hmem hnew, fun hs => absurd hs.2 hsock⟩
    · rw [sock_modify_of_ne hq]
      have hmem := h.mem_iff q
      rw [List.mem_cons, or_iff_right hq] at hmem
      exact hmem

/-- A connection that lost its socket is given back. -/
theorem release (h : FreeList pool free) (hlt : pConn < pool.count) (hsock : pool.sock pConn ≠ -1)
    {pool' : CConnectionPool}
    (hpool : pool' = pool.modify pConn fun conn => { conn with stunsocket := .reset }) :
    FreeList (pool'.releaseConnection pConn) (pConn :: free) := by
  subst hpool
  have hnew := h.not_mem hsock
  refine ⟨⟨rfl, ?_⟩, List.nodup_cons.mpr ⟨hnew, h.nodup⟩, ?_⟩
  · simp only [releaseConnection, modify_heap_self]
    refine h.chain.frame fun q hq => ?_
    have hne : q ≠ pConn := by
      rintro rfl
      exact hnew hq
    rw [modify_heap_of_ne hne, modify_heap_of_ne hne]
  · intro q
    rw [List.mem_cons, h.mem_iff]
    simp only [releaseConnection, sock]
    by_cases hq : q = pConn
    · subst hq
      rw [modify_heap_self, modify_heap_self]
      exact ⟨fun _ => ⟨hlt, rfl⟩, fun _ => Or.inl rfl⟩
    · rw [modify_heap_of_ne hq, modify_heap_of_ne hq, or_iff_right hq]
      rfl

end FreeList

end CConnectionPool
end StunServer

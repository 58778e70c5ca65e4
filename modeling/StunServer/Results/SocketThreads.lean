import StunServer.Proofs.SocketThreads
import StunServer.Results.Isolation

/-! Several threads with one limiter: whatever the order of their steps, they answer as if each
turn were made at one go, and as one thread alone would answer. -/

namespace StunServer

open CStunSocketThread

section

variable {D : Digests} {tsa : TransportAddressSet} {spAuth : Option IStunAuth}

theorem whole_effect {m : SocketRole → CStunSocketThread} (h : ∀ role, (m role).Prepared tsa spAuth)
    (spLimiter : Option RateLimiter) (role : SocketRole) (turn : Turn) :
    let res := (threadWork D).whole (m, spLimiter) (role, turn)
    res.1 = turn.effect D tsa spAuth (m role).msgIn.addrRemote spLimiter ∧
      (∀ r, (res.2.1 r).Prepared tsa spAuth) ∧
      (fun r => (res.2.1 r).msgIn.addrRemote) = Function.update (fun r => (m r).msgIn.addrRemote) role
        (turn.rateCall (m role).msgIn.addrRemote).addr ∧
      res.2.2 = turn.limiter (m role).msgIn.addrRemote spLimiter := by
  obtain ⟨heffect, hafter, hkept, hlimiter⟩ :=
    runOnce_effect (D := D) ((h role).withLimiter spLimiter) turn
  dsimp only
  rw [whole_eq]
  refine ⟨heffect, fun r => ?_, funext fun r => ?_, hlimiter⟩
  · dsimp only
    by_cases hr : r = role
    · subst hr
      rw [Function.update_self]
      exact hafter.withLimiter none
    · rw [Function.update_of_ne hr]
      exact h r
  · dsimp only
    by_cases hr : r = role
    · subst hr
      rw [Function.update_self, Function.update_self]
      exact hkept
    · rw [Function.update_of_ne hr, Function.update_of_ne hr]

/-- Turns at one go come to what the limiter and the kept addresses say. -/
theorem trace_whole {m : SocketRole → CStunSocketThread} (h : ∀ role, (m role).Prepared tsa spAuth)
    (spLimiter : Option RateLimiter) (order : List (SocketRole × Turn)) :
    Machine.trace (threadWork D).whole (m, spLimiter) order =
      order.zip (effects D tsa spAuth (fun role => (m role).msgIn.addrRemote) spLimiter order) := by
  induction order generalizing m spLimiter with
  | nil => rfl
  | cons job order ih =>
    obtain ⟨role, turn⟩ := job
    have hwhole := whole_effect (D := D) h spLimiter role turn
    rw [Machine.trace, effects, List.zip_cons_cons]
    generalize (threadWork D).whole (m, spLimiter) (role, turn) = res at hwhole ⊢
    obtain ⟨effect, m', spLimiter'⟩ := res
    obtain ⟨heffect, hprepared, hkept, hlimiter⟩ := hwhole
    dsimp only at heffect hprepared hkept hlimiter ⊢
    rw [ih hprepared spLimiter', hkept, hlimiter, heffect]

/-- One thread alone comes to the same, as long as every turn brings something. -/
theorem trace_runOnce {thread : CStunSocketThread} (h : thread.Prepared tsa spAuth)
    (kept : SocketRole → CSocketAddress) (order : List (SocketRole × Turn))
    (hbrings : thread.spLimiter = none ∨ ∀ job ∈ order, job.2.msg.Brings) :
    (Machine.trace (runOnce D) thread (order.map Prod.snd)).map Prod.snd =
      effects D tsa spAuth kept thread.spLimiter order := by
  induction order generalizing thread kept with
  | nil => rfl
  | cons job order ih =>
    obtain ⟨role, turn⟩ := job
    obtain ⟨heffect, hprepared, -, hlimiter⟩ := runOnce_effect (D := D) h turn
    have hsame : turn.effect D tsa spAuth thread.msgIn.addrRemote thread.spLimiter =
          turn.effect D tsa spAuth (kept role) thread.spLimiter ∧
        turn.limiter thread.msgIn.addrRemote thread.spLimiter =
          turn.limiter (kept role) thread.spLimiter := by
      rcases hbrings with hnone | hbrings
      · rw [hnone, Turn.effect, Turn.effect, Turn.limiter, Turn.limiter]
        simp only [Option.elim_none, Option.map_none, and_self]
      · have hcall : turn.rateCall thread.msgIn.addrRemote = turn.rateCall (kept role) := by
          have hmsg := hbrings (role, turn) (List.mem_cons_self ..)
          rw [Turn.rateCall, Turn.rateCall]
          dsimp only at hmsg
          cases hm : turn.msg with
          | failed =>
            rw [hm] at hmsg
            exact hmsg.elim
          | datagram data addr pktinfo =>
            rw [hm] at hmsg
            rw [RecvMsg.keptAddress, RecvMsg.keptAddress, if_neg hmsg, if_neg hmsg]
        rw [Turn.effect, Turn.effect, Turn.limiter, Turn.limiter, hcall]
        exact ⟨rfl, rfl⟩
    have hrest : (thread.runOnce D turn).2.spLimiter = none ∨ ∀ job ∈ order, job.2.msg.Brings := by
      refine hbrings.imp (fun hnone => ?_) fun hb job hjob => hb job (List.mem_cons_of_mem _ hjob)
      rw [hlimiter, hnone]
      rfl
    rw [List.map_cons, Machine.trace, List.map_cons, ih hprepared
      (Function.update kept role (turn.rateCall (kept role)).addr) hrest, effects, heffect,
      hlimiter, hsame.1, hsame.2]

end

/-- In whatever order the steps of the threads come, what each of them has sent, charged and let
pass is what the turns come to one after the other in the order of their rate checks, up to the
turn that it is at. -/
theorem threads_serialize (D : Digests) (tsa : TransportAddressSet) (spAuth : Option IStunAuth)
    (spLimiter : Option RateLimiter) (events : List (SocketRole × Interleave.Part Turn)) :
    let s := threadsWith D tsa spAuth spLimiter events
    (∀ role, ∃ pending,
      Interleave.results role
          (s.order.zip (effects D tsa spAuth (fun _ => .create) spLimiter s.order)) =
        s.done role ++ pending ∧ pending.length ≤ 1 ∧
      ∀ thread, s.point role = .free thread → pending = []) ∧
    ∀ more, s.order <+: (threadsWith D tsa spAuth spLimiter (events ++ more)).order := by
  intro s
  obtain ⟨-, hdone⟩ := (threadWork D).serializes (fun _ : SocketRole => initWith tsa spAuth none)
    spLimiter events
  rw [trace_whole (fun _ => prepared_initWith tsa spAuth none)] at hdone
  refine ⟨fun role => ?_, fun more => ?_⟩
  · obtain ⟨pending, hresults, hlen, hfree⟩ := hdone role
    exact ⟨pending, hresults, hlen, fun thread hpoint => (hfree thread hpoint).1⟩
  · have hmore : threadsWith D tsa spAuth spLimiter (events ++ more) =
        more.foldl (threadWork D).step s := List.foldl_append
    rw [hmore]
    exact Interleave.Work.order_prefix s more

/-- Without a limiter, or as long as every receive brings at least a byte, several threads answer
like one that takes the same datagrams in the order of their rate checks. -/
theorem threads_answer_like_one (D : Digests) (tsa : TransportAddressSet) (spAuth : Option IStunAuth)
    (spLimiter : Option RateLimiter) (events : List (SocketRole × Interleave.Part Turn)) :
    let s := threadsWith D tsa spAuth spLimiter events
    let alone := Machine.trace (runOnce D) (initWith tsa spAuth spLimiter) (s.order.map Prod.snd)
    (spLimiter = none ∨ ∀ job ∈ s.order, job.2.msg.Brings) →
      ∀ role, ∃ pending, Interleave.results role (s.order.zip (alone.map Prod.snd)) =
          s.done role ++ pending ∧ pending.length ≤ 1 ∧
        ∀ thread, s.point role = .free thread → pending = [] := by
  intro s alone hbrings
  have halone : alone.map Prod.snd = effects D tsa spAuth (fun _ => .create) spLimiter s.order :=
    trace_runOnce (prepared_initWith tsa spAuth spLimiter) _ s.order hbrings
  rw [halone]
  obtain ⟨-, hdone⟩ := (threadWork D).serializes (fun _ : SocketRole => initWith tsa spAuth none)
    spLimiter events
  rw [trace_whole (fun _ => prepared_initWith tsa spAuth none)] at hdone
  intro role
  obtain ⟨pending, hresults, hlen, hfree⟩ := hdone role
  exact ⟨pending, hresults, hlen, fun thread hpoint => (hfree thread hpoint).1⟩

/-- Two threads that are at work at the same time; the one that begins last is charged first. -/
def overlapping : List (SocketRole × Interleave.Part Turn) :=
  [(.rolePP, .begins ⟨⟨.rolePP, .create⟩, .datagram sampleRequest.encode (.addr4 2 3) none, 0, false⟩),
    (.roleAA, .begins ⟨⟨.roleAA, .create⟩, .datagram [1, 2, 3] (.addr4 4 5) none, 0, false⟩),
    (.roleAA, .shares), (.rolePP, .shares), (.rolePP, .ends)]

theorem threads_answer_like_one_sample :
    let s := threadsWith sampleDigests sampleArrival.addrSet none (some (.create 10)) overlapping
    let alone := Machine.trace (runOnce sampleDigests)
      (initWith sampleArrival.addrSet none (some (.create 10))) (s.order.map Prod.snd)
    s.order.map Prod.fst = [.roleAA, .rolePP] ∧
      ∀ role, ∃ pending, Interleave.results role (s.order.zip (alone.map Prod.snd)) =
          s.done role ++ pending ∧ pending.length ≤ 1 ∧
        ∀ thread, s.point role = .free thread → pending = [] := by
  intro s alone
  have horder : s.order =
      [(.roleAA, ⟨⟨.roleAA, .create⟩, .datagram [1, 2, 3] (.addr4 4 5) none, 0, false⟩),
        (.rolePP,
          ⟨⟨.rolePP, .create⟩, .datagram sampleRequest.encode (.addr4 2 3) none, 0, false⟩)] := rfl
  have hbrings : ∀ job ∈ s.order, job.2.msg.Brings := by
    intro job hjob
    rw [horder, List.mem_cons, List.mem_singleton] at hjob
    rcases hjob with rfl | rfl
    · exact List.cons_ne_nil _ _
    · intro hempty
      have hlen := congrArg List.length hempty
      rw [Message.encode_length] at hlen
      exact absurd hlen (by simp)
  refine ⟨by rw [horder]; rfl, ?_⟩
  exact threads_answer_like_one sampleDigests sampleArrival.addrSet none (some (.create 10))
    overlapping (Or.inr hbrings)

end StunServer

import StunServer.Core.TcpServer

/-! The runs of a TCP thread: what the system may come back with, and the states of a run. -/

namespace StunServer.CTCPStunThread

/-- The system never hands out a descriptor that is still open. -/
def Accepted.IsFresh (call : Accepted) (thread : CTCPStunThread) : Prop :=
  call.socktmp = -1 ∨ thread.isOpen call.socktmp = false

/-- Nothing that `AcceptConnection` asks for is refused, and the new table has room. -/
structure Accepted.GoesThrough (call : Accepted) (thread : CTCPStunThread) : Prop where
  socktmp : call.socktmp ≠ -1
  allowed_to_pass : call.allowed_to_pass = true
  memory : thread.connectionpool.freelist = none → call.available ≠ 0
  fNonBlocking : call.fNonBlocking = true
  fAdded : call.fAdded = true
  interest : thread.spPolling.interest call.socktmp = false
  room : (thread.tables thread.pNewConnList).size < thread.maxConnections

/-- A run of the thread, with the states it was in and what each step got from outside. -/
inductive Run (D : Digests) : List (Running × Turn) → Running → Prop where
  | start {tsaListen tsaHandler : TransportAddressSet} {pAuth : Option IStunAuth}
      {maxConnections : ℤ} {sockets : SocketRole → Int} {pipe : Int} {time : ℤ}
      {thread : CTCPStunThread}
      (h : init tsaListen tsaHandler pAuth maxConnections sockets pipe time = .ok thread) :
      Run D [] ⟨.top, thread⟩
  | step {past : List (Running × Turn)} {s s' : Running} {turn : Turn} (h : Run D past s)
      (hfresh : turn.accepted.IsFresh s.thread) (hstep : s.step D turn = some s') :
      Run D (past ++ [(s, turn)]) s'

/-- The states of a run. -/
def states (past : List (Running × Turn)) (s : Running) : List Running := past.map Prod.fst ++ [s]

/-- The step takes an event of a listening socket. -/
def Running.Listens (s : Running) : Prop :=
  ∃ fd, s.point = .event fd ∧ (s.thread.getListenSocket fd).isSome = true

/-- An accept goes through in this step. -/
def Running.AcceptsOne (s : Running) (turn : Turn) : Prop :=
  s.Listens ∧ turn.accepted.GoesThrough s.thread

/-- No two roles are listened on with the same socket. -/
def ListensApart (thread : CTCPStunThread) : Prop :=
  ∀ role role', thread.socketTable role ≠ -1 →
    thread.socketTable role = thread.socketTable role' → role = role'

/-- A pass begins with the tables at the limit, and the event of a listening socket comes up in
it all the same: it is the next one of a batch that was fetched before, or nothing is left of
that batch and the socket is in the set, because an attempt to put all of them back failed. -/
structure Running.HearsAtLimit (s : Running) (turn : Turn) (fd : Int) : Prop where
  point : s.point = .top
  goesOn : turn.fNeedToExit = false ∧ turn.fNeedToExitThen = false ∧ fd ≠ s.thread.pipe
  atMax : s.thread.isConnectionCountAtMax = true
  listening : (s.thread.getListenSocket fd).isSome = true
  event : s.thread.spPolling.events.head? = some fd ∨
    s.thread.spPolling.events = [] ∧ s.thread.fListenSocketsOnEpoll = false ∧
      ((turn.ready.filter fun fd => s.thread.spPolling.interest fd).take
        s.thread.spPolling.sizeEvents).head? = some fd

/-! ### The age of connections -/

/-- There is such a connection, and it has a socket. -/
def hasOpen (thread : CTCPStunThread) (pConn : ℕ) : Bool :=
  pConn < thread.connectionpool.count ∧
    (thread.connectionpool.heap pConn).stunsocket.isValid = true

/-- What the clock shows in a run, at the beginning and at the end of each step. -/
def readings (past : List (Running × Turn)) : List ℤ :=
  past.flatMap fun e => [e.2.timeCurrent, e.2.timeSwept]

/-- The step is a sweep that swaps the tables. -/
def sweeps (e : Running × Turn) : Bool :=
  e.1.point = .sweep ∧ e.2.timeCurrent - e.1.thread.timeLastSweep ≥ c_sweepTimeoutSeconds

/-- The connection was accepted right before the steps `later`, which led to `s`, and was not
closed since. -/
structure OpenSince (pConn : ℕ) (later : List (Running × Turn)) (s : Running) : Prop where
  accepted : (states later s).head?.map Running.point = some (.accepted pConn)
  isOpen : ∀ v ∈ states later s, v.thread.hasOpen pConn = true

/-! ### Following some turns -/

instance (call : Accepted) (thread : CTCPStunThread) : Decidable (call.IsFresh thread) :=
  inferInstanceAs (Decidable (_ ∨ _))

/-- The state that some turns lead to, if each is one that the system may come back with. -/
def follow (D : Digests) : Running → List Turn → Option Running
  | s, [] => some s
  | s, turn :: turns =>
    if turn.accepted.IsFresh s.thread then (s.step D turn).bind fun s' => follow D s' turns
    else none

theorem Run.follow {D : Digests} {past : List (Running × Turn)} {s : Running} (h : Run D past s)
    {turns : List Turn} {s' : Running} (hrun : CTCPStunThread.follow D s turns = some s') :
    ∃ later, Run D (past ++ later) s' ∧ later.map Prod.snd = turns := by
  induction turns generalizing past s with
  | nil =>
    cases hrun
    exact ⟨[], by rwa [List.append_nil], rfl⟩
  | cons turn turns ih =>
    rw [CTCPStunThread.follow] at hrun
    split_ifs at hrun with hfresh
    obtain ⟨s₁, hstep, hrest⟩ := Option.bind_eq_some_iff.mp hrun
    obtain ⟨later, hlater, hturns⟩ := ih (h.step hfresh hstep) hrest
    rw [List.append_assoc] at hlater
    exact ⟨(s, turn) :: later, hlater, congrArg (turn :: ·) hturns⟩

end StunServer.CTCPStunThread

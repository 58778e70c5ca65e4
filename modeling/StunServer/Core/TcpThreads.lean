import StunServer.Core.ListenSockets
import StunServer.Core.UdpServer

/-! `CTCPStunThread` from `Init` to `Stop`, and `CTCPServer` with its thread objects. What the
system has against a call is given to it, as the `errno` or as nothing. -/

namespace StunServer

open Descriptors

/-- The calls that set up a listening socket. -/
structure ListenCalls where
  init : SocketCalls
  fcntl : Option UInt32
  listen : Option UInt32

/-- The calls that `Init` makes. -/
structure TcpInitCalls where
  sockets : SocketRole → ListenCalls
  pipe : Option UInt32
  /-- `epoll_create` comes back with a descriptor. -/
  fEpollCreated : Bool
  /-- `epoll_ctl` for the listening sockets and for the pipe. -/
  listenCtl : SocketRole → Polling.EpollCtl
  pipeCtl : Polling.EpollCtl

/-- `CTCPStunThread` with the members that `Init` sets up. -/
structure TcpThread where
  socketListenArray : SocketRole → CStunSocket
  /-- The read end and the write end. -/
  pipe : Option (ℕ × ℕ)
  /-- As `Init` leaves it; `Run` goes on with its own. -/
  spPolling : Polling.CEpoll
  fListenSocketsOnEpoll : Bool
  fThreadIsValid : Bool
  /-- Where `Run` is, or where it begins. -/
  work : Option CTCPStunThread.Running

/-- The thread in a process with the descriptors `fds`. -/
structure TcpSetup where
  fds : Finset ℕ
  thread : TcpThread

namespace TcpThread

open CTCPStunThread (Turn)

def EPOLL_PIPE_EVENT_SET : UInt32 := Polling.IPOLLING_READ

def create : TcpThread := ⟨fun _ => .reset, none, .create, false, false, none⟩

def socketTable (thread : TcpThread) (role : SocketRole) : Int := (thread.socketListenArray role).sock

/-! ### `Init` -/

def tcpInit (role : SocketRole) (calls : SocketCalls) : Hr TcpSetup Unit := fun s =>
  let (hr, fds, socket) := (s.thread.socketListenArray role).initCommon role true calls s.fds
  let s := ⟨fds, { s.thread with
    socketListenArray := Function.update s.thread.socketListenArray role socket }⟩
  if FAILED hr then .error hr s else .ok () s

def createListenSocket (role : SocketRole) (calls : ListenCalls) : Hr TcpSetup Unit := do
  tcpInit role calls.init
  Hr.chk (calls.fcntl.elim S_OK Polling.ERRNOHR)
  Hr.chk (calls.listen.elim S_OK Polling.ERRNOHR)

def createListenSockets (tsaListen : TransportAddressSet) (calls : SocketRole → ListenCalls) :
    List SocketRole → Hr TcpSetup Unit
  | [] => pure ()
  | role :: roles => do
    Hr.when ((tsaListen.set role).fValid = true) (createListenSocket role (calls role))
    createListenSockets tsaListen calls roles

def createPipes (err : Option UInt32) : Hr TcpSetup Unit := fun s =>
  match err with
  | some errno => .error (Polling.ERRNOHR errno) s
  | none =>
    let pipe0 := lowest s.fds
    let fds := insert pipe0 s.fds
    let pipe1 := lowest fds
    .ok () ⟨insert pipe1 fds, { s.thread with pipe := some (pipe0, pipe1) }⟩

/-- `CreatePollingInstance` where there is `epoll`. -/
def createPolling (maxSockets : ℕ) (fCreated : Bool) : Hr TcpSetup Unit := fun s =>
  let created : Int := if fCreated then lowest s.fds else -1
  let fds := if fCreated then insert (lowest s.fds) s.fds else s.fds
  let (hr, poll) := Polling.CEpoll.create.initializeWith maxSockets created
  let s := ⟨fds, { s.thread with spPolling := poll }⟩
  if FAILED hr then .error hr s else .ok () s

def setListenSocketsOnEpoll (fEnable : Bool) (ctl : SocketRole → Polling.EpollCtl) :
    Hr TcpSetup Unit :=
  Hr.on
    (fun s => ⟨s.thread.spPolling, s.thread.fListenSocketsOnEpoll, s.thread.socketTable⟩)
    (fun s sockets => { s with thread := { s.thread with
      spPolling := sockets.spPolling
      fListenSocketsOnEpoll := sockets.fListenSocketsOnEpoll } })
    (Polling.ListenSockets.setListenSocketsOnEpoll fEnable ctl)

/-- The read end of the pipe is added to epoll. -/
def addPipe (ctl : Polling.EpollCtl) : Hr TcpSetup Unit := do
  let pipe0 : Int := (← get).thread.pipe.elim (-1) fun pipe => pipe.1
  Hr.on (fun s => s.thread.spPolling)
    (fun s poll => { s with thread := { s.thread with spPolling := poll } })
    (Polling.CEpoll.add pipe0 EPOLL_PIPE_EVENT_SET ctl)

/-- The tables are made, and `Run` may begin. -/
def prepare (call : TcpInitCall) (pAuth : Option IStunAuth) : Hr TcpSetup Unit := do
  let thread := (← get).thread
  let work ← Hr.ofExcept (CTCPStunThread.init call.tsaListen call.tsaHandler pAuth
    call.maxConnections thread.socketTable (thread.pipe.elim (-1) fun pipe => pipe.1) 0)
  modify fun s => { s with thread := { s.thread with work := some ⟨.top, work⟩ } }

def maxSockets (call : TcpInitCall) : ℕ :=
  (if call.maxConnections > 0 then call.maxConnections.toNat
    else CTCPStunThread.c_MaxNumberOfConnectionsDefault) + 5

def setUp (call : TcpInitCall) (pAuth : Option IStunAuth) (calls : TcpInitCalls) :
    Hr TcpSetup Unit := do
  let thread := (← get).thread
  -- we shouldn't be initialized at this point
  Hr.chkIf (thread.pipe ≠ none) E_UNEXPECTED
  Hr.chkIf (thread.fThreadIsValid = true) E_UNEXPECTED
  Hr.ofExcept call.checked
  createListenSockets call.tsaListen calls.sockets CTCPStunThread.roles
  createPipes calls.pipe
  createPolling (maxSockets call) calls.fEpollCreated
  setListenSocketsOnEpoll true calls.listenCtl
  addPipe calls.pipeCtl
  prepare call pAuth

/-! ### `Reset` -/

def closePolling (s : TcpSetup) : TcpSetup :=
  let epollfd := s.thread.spPolling.epollfd
  ⟨if epollfd = -1 then s.fds else s.fds.erase epollfd.toNat, { s.thread with spPolling := .create }⟩

def closeListenSocket (s : TcpSetup) (role : SocketRole) : TcpSetup :=
  let (fds, socket) := (s.thread.socketListenArray role).close s.fds
  ⟨fds, { s.thread with
    socketListenArray := Function.update s.thread.socketListenArray role socket }⟩

def closePipes (s : TcpSetup) : TcpSetup :=
  ⟨s.thread.pipe.elim s.fds fun pipe => (s.fds.erase pipe.1).erase pipe.2,
    { s.thread with pipe := none }⟩

def reset (s : TcpSetup) : TcpSetup :=
  let s := closePipes (CTCPStunThread.roles.foldl closeListenSocket (closePolling s))
  { s with thread := { s.thread with
    fListenSocketsOnEpoll := false
    fThreadIsValid := false
    work := none } }

def init (call : TcpInitCall) (pAuth : Option IStunAuth) (calls : TcpInitCalls) (s : TcpSetup) :
    HRESULT × TcpSetup :=
  match setUp call pAuth calls s with
  | .ok () s => (S_OK, s)
  | .error hr s => (hr, reset s)

/-! ### `Start`, `Run` and `Stop` -/

/-- The time is that at which `Run` begins. -/
def start (pthread_create : Option UInt32) (time : ℤ) (thread : TcpThread) : HRESULT × TcpThread :=
  if thread.fThreadIsValid then (E_FAIL, thread)
  else if thread.pipe = none then (E_UNEXPECTED, thread) -- Init hasn't been called
  else
    match pthread_create with
    | some err => (Polling.ERRNOHR err, thread)
    | none =>
      (S_OK, { thread with
        fThreadIsValid := true
        work := thread.work.map fun s =>
          { s with thread := { s.thread with timeLastSweep := time } } })

/-- The descriptor that `accept` returns is the lowest there is. -/
def handedOut (fds : Finset ℕ) (turn : Turn) : Turn :=
  { turn with accepted := { turn.accepted with
    socktmp := if turn.accepted.socktmp = -1 then -1 else lowest fds } }

/-- The descriptors of the process after a step of a thread that had `before` open. -/
def changed (fds : Finset ℕ) (before after : Int → Bool) : Finset ℕ :=
  (insert (lowest fds) fds).filter fun fd => after fd ∨ (fd ∈ fds ∧ before fd = false)

variable (D : Digests)

/-- The thread function goes one step further. -/
def step (s : TcpSetup) (turn : Turn) : TcpSetup :=
  if s.thread.fThreadIsValid = false then s
  else
    match s.thread.work with
    | none => s
    | some work =>
      match work.step D (handedOut s.fds turn) with
      | none => s
      | some work' => ⟨changed s.fds work.thread.isOpen work'.thread.isOpen,
          { s.thread with work := some work' }⟩

/-- What a thread still does when it is told to exit: some turns until it notices, and the turn
in which it does. -/
structure Exit where
  turns : List Turn
  last : Turn

/-- From no point of `Run` is it further to the exit. -/
def c_stepsToExit : ℕ := 5

/-- `pthread_join`. -/
def join (exit : Exit) (s : TcpSetup) : TcpSetup :=
  let last : Turn := { exit.last with fNeedToExit := true, fNeedToExitThen := true }
  (exit.turns ++ List.replicate c_stepsToExit last).foldl (step D) s

def stop (exit : Exit) (s : TcpSetup) : TcpSetup :=
  reset (if s.thread.fThreadIsValid then join D exit s else s)

end TcpThread

/-! ### The server -/

/-- `CTCPServer` in a process with the descriptors `fds`. A thread object is known by its number,
the order in which they were made. -/
structure TcpServer where
  fds : Finset ℕ
  heap : List TcpThread
  threads : SocketRole → Option ℕ

namespace TcpServer

def create (fds : Finset ℕ) : TcpServer := ⟨fds, [], fun _ => none⟩

/-- A method of a thread object is called. -/
def onThread (s : TcpServer) (pThread : ℕ) (f : TcpSetup → TcpSetup) : TcpServer :=
  match s.heap[pThread]? with
  | none => s
  | some thread =>
    let setup := f ⟨s.fds, thread⟩
    { s with fds := setup.fds, heap := s.heap.set pThread setup.thread }

section

variable (D : Digests)

/-- The destructor stops the thread. -/
def deleteThread (exits : SocketRole → TcpThread.Exit) (s : TcpServer) (role : SocketRole) :
    TcpServer :=
  match s.threads role with
  | none => s
  | some pThread =>
    { s.onThread pThread (TcpThread.stop D (exits role)) with
      threads := Function.update s.threads role none }

def shutdown (exits : SocketRole → TcpThread.Exit) (s : TcpServer) : TcpServer :=
  CTCPStunThread.roles.foldl (deleteThread D exits) s

end

/-- A new thread object, whose pointer takes the place of the one that is there. -/
def addThread (role : SocketRole) (call : TcpInitCall) (spAuth : Option IStunAuth)
    (calls : TcpInitCalls) : Hr TcpServer Unit := fun s =>
  let (hr, setup) := TcpThread.init call spAuth calls ⟨s.fds, .create⟩
  let s := ⟨setup.fds, s.heap ++ [setup.thread],
    Function.update s.threads role (some s.heap.length)⟩
  if FAILED hr then .error hr s else .ok () s

def addThreads (config : CStunServerConfig) (spAuth : Option IStunAuth)
    (calls : SocketRole → TcpInitCalls) : List SocketRole → Hr TcpServer Unit
  | [] => pure ()
  | role :: roles => do
    Hr.when (((CTCPServer.tsaHandler config).set role).fValid = true)
      (addThread role ⟨CTCPServer.tsaListen config role, CTCPServer.tsaHandler config,
        config.nMaxConnections.toInt32.toInt⟩ spAuth (calls role))
    addThreads config spAuth calls roles

def setUp (config : CStunServerConfig) (spAuth : Option IStunAuth)
    (calls : SocketRole → TcpInitCalls) : Hr TcpServer Unit := do
  Hr.chkIf ((← get).threads .rolePP ≠ none) E_UNEXPECTED
  if config.fMultiThreadedMode = false then
    addThread .rolePP ⟨CTCPServer.tsaListenAll config, CTCPServer.tsaHandler config,
      config.nMaxConnections.toInt32.toInt⟩ spAuth (calls .rolePP)
  else addThreads config spAuth calls CTCPStunThread.roles

/-- The loop of `Start`, with what comes of creating the thread and the time at which it begins. -/
def startThreads (calls : SocketRole → Option UInt32 × ℤ) : List SocketRole → Hr TcpServer Unit
  | [] => pure ()
  | role :: roles => do
    let s ← get
    match (s.threads role).bind fun pThread => s.heap[pThread]?.map (pThread, ·) with
    | none => startThreads calls roles
    | some (pThread, thread) => do
      let (hr, thread) := thread.start (calls role).1 (calls role).2
      set { s with heap := s.heap.set pThread thread }
      Hr.chk hr
      startThreads calls roles

def start (calls : SocketRole → Option UInt32 × ℤ) (s : TcpServer) : HRESULT × TcpServer :=
  match startThreads calls CTCPStunThread.roles s with
  | .ok () s => (S_OK, s)
  | .error hr s => (hr, s)

variable (D : Digests)

/-- `Initialize`; `spAuth` is what the optional code there sets it to. -/
def initializeWith (config : CStunServerConfig) (spAuth : Option IStunAuth)
    (calls : SocketRole → TcpInitCalls) (exits : SocketRole → TcpThread.Exit) (s : TcpServer) :
    HRESULT × TcpServer :=
  match setUp config spAuth calls s with
  | .ok () s => (S_OK, s)
  | .error hr s => (hr, s.shutdown D exits)

/-! ### Runs -/

inductive Event where
  | initializeWith (config : CStunServerConfig) (spAuth : Option IStunAuth)
      (calls : SocketRole → TcpInitCalls) (exits : SocketRole → TcpThread.Exit)
  | start (calls : SocketRole → Option UInt32 × ℤ)
  /-- `Stop` or `Shutdown`, which are equivalent. -/
  | shutdown (exits : SocketRole → TcpThread.Exit)
  /-- The thread of an object goes one step further. -/
  | turn (pThread : ℕ) (turn : CTCPStunThread.Turn)

/-- The code that is returned, if it is a call, and the server after it. -/
def step (s : TcpServer) : Event → Option HRESULT × TcpServer
  | .initializeWith config spAuth calls exits =>
    let (hr, s) := s.initializeWith D config spAuth calls exits
    (some hr, s)
  | .start calls =>
    let (hr, s) := s.start calls
    (some hr, s)
  | .shutdown exits => (some S_OK, s.shutdown D exits)
  | .turn pThread turn => (none, s.onThread pThread fun setup => TcpThread.step D setup turn)

end TcpServer
end StunServer

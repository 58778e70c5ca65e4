import StunServer.Core.TcpThreads

/-! What `CTCPServer` is to whoever starts and stops it: for each role no thread, one that is
ready or one that runs, and the codes that the calls return. And what a thread object holds of
the descriptors of the process. -/

namespace StunServer

/-! ### Failures -/

/-- The first thing the system has against the calls for a listening socket. -/
def ListenCalls.failure (calls : ListenCalls) : Option UInt32 :=
  (calls.init.socket.or (calls.init.setsockopt.or calls.init.bind)).or (calls.fcntl.or calls.listen)

def Polling.EpollCtl.failure (ctl : Polling.EpollCtl) : Option UInt32 :=
  if ctl.fRefused = true then some ctl.errno else none

def TcpInitCall.listened (call : TcpInitCall) : List SocketRole :=
  CTCPStunThread.roles.filter fun role => (call.tsaListen.set role).fValid

/-- The code that `Init` fails with. Without a descriptor for the polling instance it is the
first socket that cannot be added. -/
def TcpInitCalls.failure (calls : TcpInitCalls) (call : TcpInitCall) : Option HRESULT :=
  (match call.checked with
    | .error hr => some hr
    | .ok () => none).or <|
  (((call.listened.findSome? fun role => (calls.sockets role).failure).or calls.pipe).map
    Polling.ERRNOHR).or <|
  (if calls.fEpollCreated = false then some E_UNEXPECTED else none).or <|
  ((call.listened.findSome? fun role => (calls.listenCtl role).failure).or
    calls.pipeCtl.failure).map Polling.ERRNOHR

namespace CStunServerConfig

variable (config : CStunServerConfig)

/-- The places in the array of threads that are filled. -/
def threadRoles : List SocketRole :=
  if config.fMultiThreadedMode = false then [.rolePP] else CTCPStunThread.roles.filter config.fHas

def tcpCall (role : SocketRole) : TcpInitCall where
  tsaListen :=
    if config.fMultiThreadedMode = false then CTCPServer.tsaListenAll config
    else CTCPServer.tsaListen config role
  tsaHandler := CTCPServer.tsaHandler config
  maxConnections := config.nMaxConnections.toInt32.toInt

def tcpFailure (calls : SocketRole → TcpInitCalls) : Option HRESULT :=
  config.threadRoles.findSome? fun role => (calls role).failure (config.tcpCall role)

end CStunServerConfig

/-! ### Phases -/

/-- For each role whether there is a thread, and whether it was started. -/
abbrev TcpPhase := SocketRole → Option Bool

namespace TcpPhase

def down : TcpPhase := fun _ => none

/-- Threads are started up to the first one that cannot be. -/
def start (calls : SocketRole → Option UInt32 × ℤ) :
    List SocketRole → TcpPhase → HRESULT × TcpPhase
  | [], phase => (S_OK, phase)
  | role :: roles, phase =>
    match phase role with
    | none => start calls roles phase
    | some true => (E_FAIL, phase)
    | some false =>
      match (calls role).1 with
      | some err => (Polling.ERRNOHR err, phase)
      | none => start calls roles (Function.update phase role (some true))

/-- It is only looked at whether there is a thread in the first place. -/
def initializeWith (config : CStunServerConfig) (calls : SocketRole → TcpInitCalls)
    (phase : TcpPhase) : HRESULT × TcpPhase :=
  if phase .rolePP ≠ none then (E_UNEXPECTED, down)
  else
    match config.tcpFailure calls with
    | some hr => (hr, down)
    | none => (S_OK, fun role => if role ∈ config.threadRoles then some false else phase role)

def step (phase : TcpPhase) : TcpServer.Event → Option HRESULT × TcpPhase
  | .initializeWith config _ calls _ =>
    (some (phase.initializeWith config calls).1, (phase.initializeWith config calls).2)
  | .start calls =>
    (some (start calls CTCPStunThread.roles phase).1, (start calls CTCPStunThread.roles phase).2)
  | .shutdown _ => (some S_OK, down)
  | .turn _ _ => (none, phase)

/-- No pointer to a thread is overwritten: where there is a thread, there is one in the first
place. -/
def Careful (phase : TcpPhase) : TcpServer.Event → Prop
  | .initializeWith _ _ _ _ => phase .rolePP = none → phase = down
  | _ => True

end TcpPhase

def TcpServer.phase (s : TcpServer) : TcpPhase := fun role =>
  (s.threads role).bind fun pThread => s.heap[pThread]?.map TcpThread.fThreadIsValid

/-! ### Descriptors -/

/-- What a thread object may hold a descriptor for. -/
inductive Holder where
  | listener (role : SocketRole)
  | pipe0
  | pipe1
  | polling
  | connection (pConn : ℕ)
deriving DecidableEq

namespace TcpThread

def holds (thread : TcpThread) : Holder → Option ℕ
  | .listener role => (thread.socketListenArray role).descriptor
  | .pipe0 => thread.pipe.map Prod.fst
  | .pipe1 => thread.pipe.map Prod.snd
  | .polling =>
    if thread.spPolling.epollfd = -1 then none else some thread.spPolling.epollfd.toNat
  | .connection pConn =>
    thread.work.bind fun s =>
      if pConn < s.thread.connectionpool.count then
        (s.thread.connectionpool.heap pConn).stunsocket.descriptor
      else none

end TcpThread

/-- The descriptors of all thread objects. -/
def TcpServer.table (s : TcpServer) (pThread : ℕ) (holder : Holder) : Option ℕ :=
  s.heap[pThread]?.bind fun thread => thread.holds holder

/-- A pointer leads to the thread object. -/
def TcpServer.Owns (s : TcpServer) (pThread : ℕ) : Prop := ∃ role, s.threads role = some pThread

end StunServer

import StunServer.Core.UdpServer
import StunServer.Proofs.StunSocketThread

/-! What `CStunServer` is to whoever starts and stops it: four phases, and the codes that the
calls return in each. -/

namespace StunServer

/-- The first thing the system has against the calls for a socket. -/
def SocketCalls.failure (fSetReuseFlag : Bool) (calls : SocketCalls) : Option UInt32 :=
  calls.socket.or
    (((if fSetReuseFlag then calls.setsockopt else none).or calls.bind).or calls.pktinfo)

namespace CStunServerConfig

variable (config : CStunServerConfig)

/-- The sockets that are asked for. -/
def sockets : List SocketRole := CTCPStunThread.roles.filter config.fHas

/-- The sockets that each thread listens on. -/
def listeners : List (List SocketRole) :=
  if config.fMultiThreadedMode = false then [config.sockets] else config.sockets.map fun role => [role]

/-- The addresses that are shown to clients. -/
def addrSet : TransportAddressSet :=
  ⟨fun role =>
    if config.fHas role then
      ⟨UdpServer.advertise (config.addr role) (config.addrAdvertised role), true⟩
    else ⟨.create, false⟩⟩

def firstFailure (calls : SocketRole → SocketCalls) (roles : List SocketRole) : Option UInt32 :=
  roles.findSome? fun role =>
    if config.fHas role then (calls role).failure config.fReuseAddr else none

/-- What `Initialize` returns. -/
def initResult (calls : SocketRole → SocketCalls) : HRESULT :=
  match config.firstFailure calls CTCPStunThread.roles with
  | some errno => Polling.ERRNOHR errno
  | none => if config.sockets = [] then E_INVALIDARG else S_OK

/-- The first thread that cannot be created. -/
def threadFailure (errs : List (Option UInt32)) : Option UInt32 :=
  (errs.take config.listeners.length).findSome? id

end CStunServerConfig

/-- A server that is up has its configuration and its provider. -/
inductive ServerPhase where
  | down
  | ready (config : CStunServerConfig) (spAuth : Option IStunAuth)
  | running (config : CStunServerConfig) (spAuth : Option IStunAuth)
  | stopped (config : CStunServerConfig) (spAuth : Option IStunAuth)

namespace ServerPhase

/-- The threads cannot be started a second time, and one that runs is stopped by the attempt. -/
def start (errs : List (Option UInt32)) : ServerPhase → HRESULT × ServerPhase
  | down => (E_UNEXPECTED, down)
  | ready config spAuth =>
    match config.threadFailure errs with
    | some err => (Polling.ERRNOHR err, stopped config spAuth)
    | none => (S_OK, running config spAuth)
  | running config spAuth => (E_UNEXPECTED, stopped config spAuth)
  | stopped config spAuth => (E_FAIL, stopped config spAuth)

def stop : ServerPhase → ServerPhase
  | down => down
  | ready config spAuth => stopped config spAuth
  | running config spAuth => stopped config spAuth
  | stopped config spAuth => stopped config spAuth

/-- The code that is returned, if it is a call, and the phase after it. -/
def step (phase : ServerPhase) : UdpServer.Event → Option HRESULT × ServerPhase
  | .initializeWith config spAuth calls =>
    (some (config.initResult calls),
      if FAILED (config.initResult calls) then down else ready config spAuth)
  | .start errs => (some (phase.start errs).1, (phase.start errs).2)
  | .stop => (some S_OK, phase.stop)
  | .shutdown => (some S_OK, down)
  | .pass _ _ => (none, phase)

end ServerPhase

/-! ### The server in a phase -/

namespace UdpServer

/-- The descriptors in the array of sockets. -/
def table (s : UdpServer) (role : SocketRole) : Option ℕ := (s.arrSockets role).descriptor

/-- A thread that was set up and not started. -/
def readyThread (config : CStunServerConfig) (spAuth : Option IStunAuth) (socks : List SocketRole) :
    UdpThread :=
  { UdpThread.create with socks := socks, work := some (.initWith config.addrSet spAuth none) }

/-- A thread that was started and not stopped. It may have left its loop. -/
structure Started (config : CStunServerConfig) (spAuth : Option IStunAuth)
    (listened : List SocketRole) (thread : UdpThread) : Prop where
  socks : thread.socks = listened
  fThreadIsValid : thread.fThreadIsValid = true
  rotation : thread.rotation < listened.length
  work : ∃ work, thread.work = some work ∧ work.Prepared config.addrSet spAuth

/-- The sockets that are asked for are open, and nothing else is. -/
structure Up (rest : Finset ℕ) (config : CStunServerConfig) (s : UdpServer) : Prop where
  accounts : Descriptors.Accounts rest s.fds s.table
  isValid : ∀ role, (s.arrSockets role).isValid = config.fHas role
  role : ∀ role, config.fHas role = true → (s.arrSockets role).role = role
  sockets_ne : config.sockets ≠ []

/-- What the threads of a server are in each phase. -/
def InPhase (rest : Finset ℕ) (s : UdpServer) : ServerPhase → Prop
  | .down => s.fds = rest ∧ s.table = (fun _ => none) ∧ s.threads = []
  | .ready config spAuth =>
    Up rest config s ∧ s.threads = config.listeners.map (readyThread config spAuth)
  | .running config spAuth =>
    Up rest config s ∧ List.Forall₂ (Started config spAuth) config.listeners s.threads
  | .stopped config _ =>
    Up rest config s ∧ s.threads.length = config.listeners.length ∧
      ∀ thread ∈ s.threads, thread.stop = thread

end UdpServer
end StunServer

import StunServer.Core.Polling
import StunServer.Core.Server
import StunServer.Core.StunSocketThread
import StunServer.Lib.Descriptors
import StunServer.Lib.RoundRobin

/-! `CStunServer` with its sockets and its threads, and the loop of a thread. What the system has
against a call is given to it, as the `errno` or as nothing. -/

namespace StunServer

open Descriptors

/-! ### Sockets -/

/-- The calls that set up a socket. -/
structure SocketCalls where
  socket : Option UInt32
  /-- For the reuse flag. -/
  setsockopt : Option UInt32
  bind : Option UInt32
  /-- The addresses of the socket once it is bound. -/
  names : CStunSocket.Names
  /-- The last of the options that are tried for the packet info. -/
  pktinfo : Option UInt32

namespace CStunSocket

def descriptor (s : CStunSocket) : Option ℕ := if s.sock = -1 then none else some s.sock.toNat

def close (fds : Finset ℕ) (s : CStunSocket) : Finset ℕ × CStunSocket :=
  (s.descriptor.elim fds fds.erase, reset)

/-- `InitCommon`, for `UDPInit` and for `TCPInit`. -/
def initCommon (role : SocketRole) (fSetReuseFlag : Bool) (calls : SocketCalls) (fds : Finset ℕ)
    (s : CStunSocket) : HRESULT × Finset ℕ × CStunSocket :=
  match calls.socket with
  | some errno => (Polling.ERRNOHR errno, fds, s)
  | none =>
    let sock := lowest fds
    let fds := insert sock fds
    match (if fSetReuseFlag then calls.setsockopt else none).or calls.bind with
    | some errno => (Polling.ERRNOHR errno, fds.erase sock, s)
    | none =>
      -- another socket than the one it has makes `Attach` close that
      let fds := if (sock : Int) ≠ s.sock then (s.close fds).1 else fds
      (S_OK, fds, { s.attach sock calls.names with role := role })

def boundSocket (s : CStunSocket) : BoundSocket := ⟨s.role, s.addrlocal⟩

end CStunSocket

/-! ### Threads -/

/-- `CStunSocketThread` with the members that have to do with starting and stopping it. -/
structure UdpThread where
  /-- `_socks`, by the places in the array of the server. -/
  socks : List SocketRole
  fNeedToExit : Bool
  fThreadIsValid : Bool
  /-- `Run` has not come to its end. -/
  fRunning : Bool
  rotation : ℕ
  /-- What `Run` works on, as long as the buffers are there. The limiter is not here but where
  all threads have it. -/
  work : Option CStunSocketThread

/-- What a pass of the loop in `Run` meets with. -/
structure Pass where
  /-- The exit flag at the head of the loop, after the wait, and after the rate check. -/
  fNeedToExit : Bool
  fNeedToExitWaited : Bool
  fNeedToExitReceived : Bool
  /-- What `select` leaves in the set. -/
  ready : SocketRole → Bool
  msg : RecvMsg
  currentTime : ℤ

/-- What comes of a pass. -/
structure Passed where
  /-- The socket that was received from, if it came to that. -/
  received : Option (BoundSocket × CStunSocketThread.Effect)
  /-- The loop is left. -/
  fExit : Bool

namespace UdpThread

def create : UdpThread := ⟨[], false, false, false, 0, none⟩

def init (arrSockets : SocketRole → CStunSocket) (tsa : TransportAddressSet)
    (pAuth : Option IStunAuth) (rolePrimaryRecv : Option SocketRole) (thread : UdpThread) :
    Except HRESULT UdpThread := do
  chkIf (thread.fThreadIsValid = true) E_UNEXPECTED
  chkIf (rolePrimaryRecv.any fun role => !(arrSockets role).isValid) E_UNEXPECTED
  let socks :=
    match rolePrimaryRecv with
    | some role => [role]
    | none => CTCPStunThread.roles.filter fun role => (arrSockets role).isValid
  return { thread with
    socks := thread.socks ++ socks
    fNeedToExit := false
    rotation := 0
    work := some (.initWith tsa pAuth none) }

def start (pthread_create : Option UInt32) (thread : UdpThread) : HRESULT × UdpThread :=
  if thread.fThreadIsValid then (E_UNEXPECTED, thread)
  else if thread.socks = [] then (E_FAIL, thread)
  else
    match pthread_create with
    | some err => (Polling.ERRNOHR err, thread)
    | none => (S_OK, { thread with fThreadIsValid := true, fRunning := true })

/-- `SignalForStop` and `WaitForStopAndClose`; the thread has come to its end in between. -/
def stop (thread : UdpThread) : UdpThread :=
  { thread with
    socks := []
    fNeedToExit := true
    fThreadIsValid := false
    fRunning := false
    work := none }

/-- The socket, if there is one that is ready. -/
def waitForSocketData (ready : SocketRole → Bool) (thread : UdpThread) :
    Option SocketRole × UdpThread :=
  let (index, rotation) := RoundRobin.step thread.socks.length thread.rotation fun index =>
    thread.socks[index]?.any ready
  (index.bind (thread.socks[·]?), { thread with rotation := rotation })

/-- Something is received from the socket and dealt with. -/
def receiveFrom (D : Digests) (spLimiter : Option RateLimiter) (pSocket : BoundSocket) (p : Pass)
    (thread : UdpThread) : Passed × UdpThread × Option RateLimiter :=
  match thread.work with
  | none => (⟨none, true⟩, thread, spLimiter)
  | some work =>
    let res := { work with spLimiter := spLimiter }.runOnce D
      ⟨pSocket, p.msg, p.currentTime, p.fNeedToExitReceived⟩
    (⟨some (pSocket, res.1), p.fNeedToExitReceived⟩,
      { thread with work := some { res.2 with spLimiter := none } }, res.2.spLimiter)

/-- A pass of the loop in `Run`; the limiter is that of all threads. -/
def pass (D : Digests) (arrSockets : SocketRole → CStunSocket) (spLimiter : Option RateLimiter)
    (p : Pass) (thread : UdpThread) : Passed × UdpThread × Option RateLimiter :=
  if p.fNeedToExit then (⟨none, true⟩, thread, spLimiter)
  else if thread.socks.length > 1 then
    let (pSocket, thread) := thread.waitForSocketData p.ready
    if p.fNeedToExitWaited then (⟨none, true⟩, thread, spLimiter)
    else
      match pSocket with
      | none => (⟨none, false⟩, thread, spLimiter) -- just go back to waiting
      | some role => thread.receiveFrom D spLimiter (arrSockets role).boundSocket p
  else
    match thread.socks with
    | [] => (⟨none, true⟩, thread, spLimiter)
    | role :: _ => thread.receiveFrom D spLimiter (arrSockets role).boundSocket p

end UdpThread

/-! ### The server -/

/-- `CStunServer` in a process with the descriptors `fds`. -/
structure UdpServer where
  fds : Finset ℕ
  arrSockets : SocketRole → CStunSocket
  threads : List UdpThread
  /-- What the `_spLimiter` of each thread points to. -/
  spLimiter : Option RateLimiter

/-- The server with the local variables of `Initialize`. -/
structure UdpSetup where
  tsa : TransportAddressSet
  server : UdpServer

namespace UdpServer

def create (fds : Finset ℕ) : UdpServer := ⟨fds, fun _ => .reset, [], none⟩

def putSocket (s : UdpServer) (role : SocketRole) (socket : Finset ℕ × CStunSocket) : UdpServer :=
  { s with fds := socket.1, arrSockets := Function.update s.arrSockets role socket.2 }

def udpInit (role : SocketRole) (fSetReuseFlag : Bool) (calls : SocketCalls) : Hr UdpSetup Unit :=
  fun s =>
    let (hr, socket) :=
      (s.server.arrSockets role).initCommon role fSetReuseFlag calls s.server.fds
    let s := { s with server := s.server.putSocket role socket }
    if FAILED hr then .error hr s else .ok () s

/-- `addrListen` as it is shown to clients. -/
def advertise (addrListen addrAdvertise : CSocketAddress) : CSocketAddress :=
  if addrAdvertise.isIPAddressZero = false then addrAdvertise.setPort addrListen.getPort
  else addrListen

def addSocket (role : SocketRole) (addrListen addrAdvertise : CSocketAddress)
    (fSetReuseFlag : Bool) (calls : SocketCalls) : Hr UdpSetup Unit := do
  udpInit role fSetReuseFlag calls
  Hr.chk (calls.pktinfo.elim S_OK Polling.ERRNOHR)
  modify fun s =>
    { s with tsa := ⟨Function.update s.tsa.set role ⟨advertise addrListen addrAdvertise, true⟩⟩ }

def addSockets (config : CStunServerConfig) (calls : SocketRole → SocketCalls) :
    List SocketRole → Hr UdpSetup Unit
  | [] => pure ()
  | role :: roles => do
    Hr.when (config.fHas role = true)
      (addSocket role (config.addr role) (config.addrAdvertised role) config.fReuseAddr (calls role))
    addSockets config calls roles

/-- A new thread object, set up for one socket or for all of them. -/
def addThread (spAuth : Option IStunAuth) (rolePrimaryRecv : Option SocketRole) :
    Hr UdpSetup Unit := fun s =>
  let push := fun thread =>
    { s with server := { s.server with threads := s.server.threads ++ [thread] } }
  match UdpThread.create.init s.server.arrSockets s.tsa spAuth rolePrimaryRecv with
  | .error hr => .error hr (push .create)
  | .ok thread => .ok () (push thread)

/-- One thread for every socket. -/
def addThreads (spAuth : Option IStunAuth) : List SocketRole → Hr UdpSetup Unit
  | [] => pure ()
  | role :: roles => do
    let pSocket := (← get).server.arrSockets role
    Hr.when (pSocket.isValid = true) (addThread spAuth (some pSocket.role))
    addThreads spAuth roles

def setUp (config : CStunServerConfig) (spAuth : Option IStunAuth)
    (calls : SocketRole → SocketCalls) : Hr UdpSetup Unit := do
  addSockets config calls CTCPStunThread.roles
  Hr.chkIf (∀ role ∈ CTCPStunThread.roles, config.fHas role = false) E_INVALIDARG
  modify fun s => { s with server := { s.server with
    spLimiter := if config.fEnableDosProtection then some (.create 25000) else none } }
  if config.fMultiThreadedMode = false then addThread spAuth none
  else addThreads spAuth CTCPStunThread.roles

def stop (s : UdpServer) : UdpServer := { s with threads := s.threads.map UdpThread.stop }

def closeSocket (s : UdpServer) (role : SocketRole) : UdpServer :=
  s.putSocket role ((s.arrSockets role).close s.fds)

/-- The limiter goes with the last thread. -/
def shutdown (s : UdpServer) : UdpServer :=
  { CTCPStunThread.roles.foldl closeSocket s.stop with threads := [], spLimiter := none }

/-- `Initialize`; `spAuth` is what the optional code there sets it to. -/
def initializeWith (config : CStunServerConfig) (spAuth : Option IStunAuth)
    (calls : SocketRole → SocketCalls) (s : UdpServer) : HRESULT × UdpServer :=
  match setUp config spAuth calls ⟨⟨fun _ => ⟨.create, false⟩⟩, s.shutdown⟩ with
  | .ok () s => (S_OK, s.server)
  | .error hr s => (hr, s.server.shutdown)

/-- The loop of `Start`. -/
def startThreads : List (Option UInt32) → List UdpThread → HRESULT × List UdpThread
  | _, [] => (S_OK, [])
  | errs, thread :: threads =>
    let (hr, thread) := thread.start (errs.headD none)
    if FAILED hr then (hr, thread :: threads)
    else
      let (hr, threads) := startThreads errs.tail threads
      (hr, thread :: threads)

def start (errs : List (Option UInt32)) (s : UdpServer) : HRESULT × UdpServer :=
  let (hr, threads) := if s.threads = [] then (E_UNEXPECTED, []) else startThreads errs s.threads
  let s := { s with threads := threads }
  (hr, if FAILED hr then s.stop else s)

/-! ### Runs -/

inductive Event where
  | initializeWith (config : CStunServerConfig) (spAuth : Option IStunAuth)
      (calls : SocketRole → SocketCalls)
  | start (errs : List (Option UInt32))
  | stop
  | shutdown
  /-- The thread at `index` makes a pass of its loop. -/
  | pass (index : ℕ) (p : Pass)

inductive Outcome where
  | returned (hr : HRESULT)
  | passed (passed : Passed)
  /-- There is no such thread. -/
  | nothing

variable (D : Digests)

def runThread (s : UdpServer) (index : ℕ) (p : Pass) : Outcome × UdpServer :=
  match s.threads[index]? with
  | none => (.nothing, s)
  | some thread =>
    if thread.fRunning = false then (.nothing, s)
    else
      let (passed, thread, spLimiter) := thread.pass D s.arrSockets s.spLimiter p
      let thread := { thread with fRunning := !passed.fExit }
      (.passed passed, { s with threads := s.threads.set index thread, spLimiter := spLimiter })

def step (s : UdpServer) : Event → Outcome × UdpServer
  | .initializeWith config spAuth calls =>
    let (hr, s) := s.initializeWith config spAuth calls
    (.returned hr, s)
  | .start errs =>
    let (hr, s) := s.start errs
    (.returned hr, s)
  | .stop => (.returned S_OK, s.stop)
  | .shutdown => (.returned S_OK, s.shutdown)
  | .pass index p => s.runThread D index p

end UdpServer
end StunServer

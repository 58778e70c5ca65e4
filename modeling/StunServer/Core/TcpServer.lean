import StunServer.Core.TcpConnection
import StunServer.Common.FastHash
import StunServer.Lib.Loop

/-! `CEpoll` of `networkutils/polling.cpp`, and `CTCPStunThread`. What the system calls and
the clock come back with is given to each step. -/

namespace StunServer

/-! ### The polling instance -/

structure CEpoll where
  /-- The descriptors that were added and not removed. -/
  interest : Int → Bool
  sizeEvents : ℕ
  /-- Fetched by `epoll_wait` and not handed out yet. -/
  events : List Int

namespace CEpoll

/-- A new instance, once `Initialize` is through. -/
def create (maxSockets : ℕ) : CEpoll := ⟨fun _ => false, maxSockets, []⟩

/-- No descriptor is added twice; `fAdded` is whether there is anything else against it. -/
def add (poll : CEpoll) (fd : Int) (fAdded : Bool) : Bool × CEpoll :=
  if fd = -1 ∨ poll.interest fd ∨ fAdded = false then (false, poll)
  else (true, { poll with interest := Function.update poll.interest fd true })

/-- It doesn't bother to look for the descriptor among the events. -/
def remove (poll : CEpoll) (fd : Int) : Bool × CEpoll :=
  if fd = -1 ∨ poll.interest fd = false then (false, poll)
  else (true, { poll with interest := Function.update poll.interest fd false })

/-- `ready` is what `epoll_wait` would come back with, if it is called. -/
def waitForNextEvent (poll : CEpoll) (ready : List Int) : Option Int × CEpoll :=
  let events :=
    if poll.events = [] then (ready.filter fun fd => poll.interest fd).take poll.sizeEvents
    else poll.events
  (events.head?, { poll with events := events.tail })

end CEpoll

/-! ### The thread -/

/-- The two tables of connections, of which one is the new one. -/
inductive ConnectionTable where
  | hashConnections1
  | hashConnections2
deriving DecidableEq, Repr

namespace ConnectionTable

def other : ConnectionTable → ConnectionTable
  | hashConnections1 => hashConnections2
  | hashConnections2 => hashConnections1

/-- What `_idHashTable` calls it. -/
def id : ConnectionTable → Int
  | hashConnections1 => 1
  | hashConnections2 => 2

def ofId (idHashTable : Int) : Option ConnectionTable :=
  if idHashTable = 1 then some hashConnections1
  else if idHashTable = 2 then some hashConnections2
  else none

end ConnectionTable

structure CTCPStunThread where
  spPolling : CEpoll
  fListenSocketsOnEpoll : Bool
  /-- -1 for a role that is not listened on. -/
  socketTable : SocketRole → Int
  pipe : Int
  spAuth : Option IStunAuth
  tsa : TransportAddressSet
  maxConnections : ℕ
  connectionpool : CConnectionPool
  tables : ConnectionTable → FastHash Int ℕ
  pNewConnList : ConnectionTable
  pOldConnList : ConnectionTable
  timeLastSweep : ℤ
  /-- The descriptors this thread has open. -/
  isOpen : Int → Bool

namespace CTCPStunThread

def c_MaxNumberOfConnectionsDefault : ℕ := 1000

def c_sweepTimeoutSeconds : ℤ := 60

def roles : List SocketRole := [.rolePP, .rolePA, .roleAP, .roleAA]

def countValid (tsa : TransportAddressSet) : ℕ := roles.countP fun role => (tsa.set role).fValid

/-- `Init`, with the descriptors of the sockets and of the read end of the pipe, where no
system call fails, and the time at which `Run` starts. -/
def init (tsaListen tsaHandler : TransportAddressSet) (pAuth : Option IStunAuth)
    (maxConnections : ℤ) (sockets : SocketRole → Int) (pipe : Int) (time : ℤ) :
    Except HRESULT CTCPStunThread :=
  let maxConnections :=
    if maxConnections > 0 then maxConnections.toNat else c_MaxNumberOfConnectionsDefault
  if maxConnections ≥ 100000 then .error E_INVALIDARG
  else if countValid tsaListen = 0 then .error E_INVALIDARG
  else if countValid tsaHandler = 0 then .error E_INVALIDARG
  else
    let socketTable := fun role => if (tsaListen.set role).fValid then sockets role else -1
    let listening := fun fd => decide (fd ≠ -1 ∧ (fd = pipe ∨ fd ∈ roles.map socketTable))
    .ok
      { spPolling := { CEpoll.create (maxConnections + 5) with interest := listening }
        fListenSocketsOnEpoll := true
        socketTable := socketTable
        pipe := pipe
        spAuth := pAuth
        tsa := tsaHandler
        maxConnections := maxConnections
        connectionpool := .create
        tables := fun _ => FastHash.initTable maxConnections 0
        pNewConnList := .hashConnections1
        pOldConnList := .hashConnections2
        timeLastSweep := time
        isOpen := listening }

/-- The loop of `SetListenSocketsOnEpoll`, which the first failure ends. -/
def setListenSockets (fEnable : Bool) (fAdded : Int → Bool) : List Int → CEpoll → Bool × CEpoll
  | [], poll => (true, poll)
  | sock :: socks, poll =>
    if sock = -1 then setListenSockets fEnable fAdded socks poll
    else
      let (succeeded, poll) := if fEnable then poll.add sock (fAdded sock) else poll.remove sock
      if succeeded then setListenSockets fEnable fAdded socks poll else (false, poll)

def setListenSocketsOnEpoll (thread : CTCPStunThread) (fEnable : Bool) (fAdded : Int → Bool) :
    CTCPStunThread :=
  if fEnable = thread.fListenSocketsOnEpoll then thread
  else
    let (succeeded, poll) :=
      setListenSockets fEnable fAdded (roles.map thread.socketTable) thread.spPolling
    { thread with
      spPolling := poll
      fListenSocketsOnEpoll := if succeeded then fEnable else thread.fListenSocketsOnEpoll }

/-- The role of the listening socket, if it is one. -/
def getListenSocket (thread : CTCPStunThread) (sock : Int) : Option SocketRole :=
  if sock = -1 then none else roles.find? fun role => thread.socketTable role = sock

def connectionCount (thread : CTCPStunThread) : ℕ :=
  (thread.tables thread.pNewConnList).size + (thread.tables thread.pOldConnList).size

def isConnectionCountAtMax (thread : CTCPStunThread) : Bool :=
  thread.connectionCount ≥ thread.maxConnections

/-! ### Closing -/

/-- `close`. -/
def closeSocket (thread : CTCPStunThread) (sock : Int) : CTCPStunThread :=
  { thread with isOpen := Function.update thread.isOpen sock false }

def setTable (thread : CTCPStunThread) (which : ConnectionTable) (table : FastHash Int ℕ) :
    CTCPStunThread :=
  { thread with tables := Function.update thread.tables which table }

def closeConnection (thread : CTCPStunThread) (pConn : ℕ) : CTCPStunThread :=
  let conn := thread.connectionpool.heap pConn
  let sock := conn.stunsocket.sock
  let thread := { thread with spPolling := (thread.spPolling.remove sock).2 }
  let thread := if sock = -1 then thread else thread.closeSocket sock
  let thread := { thread with
    connectionpool :=
      thread.connectionpool.modify pConn fun conn => { conn with stunsocket := .reset } }
  -- now figure out which hash table we were in
  let thread :=
    match ConnectionTable.ofId conn.idHashTable with
    | some which => thread.setTable which ((thread.tables which).remove sock).2
    | none => thread
  { thread with connectionpool := thread.connectionpool.releaseConnection pConn }

/-- One turn of the loop in `CloseAllConnections`. -/
def closeFirst (which : ConnectionTable) (thread : CTCPStunThread) :
    CTCPStunThread ⊕ CTCPStunThread :=
  let (pItem, table) := (thread.tables which).lookupByIndex 0
  let thread := thread.setTable which table
  match pItem with
  | none => .inl thread
  | some item => .inr (thread.closeConnection item.value)

/-- `none` if the loop is not done when there was a turn for every entry. -/
def closeAllConnections (thread : CTCPStunThread) (which : ConnectionTable) :
    Option CTCPStunThread :=
  Loop.run (closeFirst which) ((thread.tables which).size + 1) thread

/-- The clock is read again after the connections are closed. -/
def sweepDeadConnections (thread : CTCPStunThread) (timeCurrent timeSwept : ℤ) :
    Option CTCPStunThread :=
  if timeCurrent - thread.timeLastSweep ≥ c_sweepTimeoutSeconds then do
    let thread ← thread.closeAllConnections thread.pOldConnList
    return { thread with
      timeLastSweep := timeSwept
      pOldConnList := thread.pNewConnList
      pNewConnList := thread.pOldConnList }
  else some thread

def threadCleanup (thread : CTCPStunThread) : Option CTCPStunThread := do
  let thread ← thread.closeAllConnections thread.pOldConnList
  thread.closeAllConnections thread.pNewConnList

/-! ### Accepting -/

/-- What `AcceptConnection` gets from outside. -/
structure Accepted where
  /-- The return of `accept`. -/
  socktmp : Int
  allowed_to_pass : Bool
  /-- There is memory for so many connections more. -/
  available : ℕ
  names : CStunSocket.Names
  fNonBlocking : Bool
  fAdded : Bool

/-- The rest of `AcceptConnection`, once there is a connection for the socket. -/
def trackConnection (thread : CTCPStunThread) (pConn : ℕ) (call : Accepted) :
    Option ℕ × CTCPStunThread :=
  let (succeeded, poll) := thread.spPolling.add call.socktmp call.fAdded
  let thread := { thread with spPolling := poll }
  if succeeded = false then (none, thread.closeConnection pConn)
  else
    -- add connection to our tracking tables
    let thread := { thread with
      connectionpool := thread.connectionpool.modify pConn fun conn =>
        { conn with idHashTable := thread.pNewConnList.id } }
    let (insertresult, table) := (thread.tables thread.pNewConnList).insert call.socktmp pConn
    let thread := thread.setTable thread.pNewConnList table
    if insertresult = -1 then (none, thread.closeConnection pConn) else (some pConn, thread)

def acceptConnection (thread : CTCPStunThread) (role : SocketRole) (call : Accepted) :
    Option ℕ × CTCPStunThread :=
  let socktmp := call.socktmp
  if socktmp = -1 then (none, thread)
  else
    let thread := { thread with isOpen := Function.update thread.isOpen socktmp true }
    if call.allowed_to_pass = false then (none, thread.closeSocket socktmp)
    else
      let (pConn, pool) :=
        thread.connectionpool.getConnection socktmp role call.names call.available
      let thread := { thread with connectionpool := pool }
      match pConn with
      | none => (none, thread.closeSocket socktmp)
      | some pConn =>
        if call.fNonBlocking = false then (none, thread.closeConnection pConn)
        else thread.trackConnection pConn call

/-! ### Events -/

/-- What an event on a socket meets with. -/
structure SocketCall where
  /-- What the peer has sent and was not received yet. -/
  incoming : List UInt8
  call : ConnectionCall

section

variable (D : Digests)

/-- The connection is worked on, and closed if it comes to that. -/
def onConnection (thread : CTCPStunThread) (pConn : ℕ) (incoming : List UInt8)
    (work : Session → Session) : CTCPStunThread :=
  let s := work (.create (thread.connectionpool.heap pConn) incoming)
  let thread := { thread with connectionpool := thread.connectionpool.modify pConn fun _ => s.conn }
  if s.fClosed then thread.closeConnection pConn else thread

def receiveBytesForConnection (thread : CTCPStunThread) (pConn : ℕ) (io : SocketCall) :
    CTCPStunThread :=
  thread.onConnection pConn io.incoming fun s =>
    s.receiveBytesForConnection io.call D thread.tsa thread.spAuth io.call.results

def processConnectionEvent (thread : CTCPStunThread) (sock : Int) (io : SocketCall) :
    CTCPStunThread :=
  let ppConn := ((thread.tables thread.pNewConnList).lookup sock).or
    ((thread.tables thread.pOldConnList).lookup sock)
  match ppConn with
  | none => thread -- could not resolve socket into connection
  | some pConn =>
    thread.onConnection pConn io.incoming fun s =>
      s.processConnectionEvent io.call D thread.tsa thread.spAuth

/-! ### The thread function -/

/-- Where `Run` is. -/
inductive RunPoint where
  | top
  | event (fd : Int)
  | accepted (pConn : ℕ)
  | sweep
  | cleanup
  | exited
deriving DecidableEq

structure Running where
  point : RunPoint
  thread : CTCPStunThread

/-- What a step of `Run` gets from outside. -/
structure Turn where
  /-- The exit flag at the head of the loop, and after the wait. -/
  fNeedToExit : Bool
  fNeedToExitThen : Bool
  fListenAdded : Int → Bool
  /-- For `epoll_wait`; nothing if it fails. -/
  ready : List Int
  accepted : Accepted
  io : SocketCall
  timeCurrent : ℤ
  timeSwept : ℤ

/-- The events are waited for; an event that was not filled in has descriptor 0. -/
def wait (thread : CTCPStunThread) (turn : Turn) : Running :=
  let thread := thread.setListenSocketsOnEpoll (!thread.isConnectionCountAtMax) turn.fListenAdded
  let (pollevent, poll) := thread.spPolling.waitForNextEvent turn.ready
  let thread := { thread with spPolling := poll }
  if turn.fNeedToExitThen ∨ pollevent.getD 0 = thread.pipe then ⟨.cleanup, thread⟩
  else
    match pollevent with
    | some fd => ⟨.event fd, thread⟩
    | none => ⟨.sweep, thread⟩

def dispatch (thread : CTCPStunThread) (fd : Int) (turn : Turn) : Running :=
  match thread.getListenSocket fd with
  | some role =>
    let (pConn, thread) := thread.acceptConnection role turn.accepted
    match pConn with
    | some pConn => ⟨.accepted pConn, thread⟩
    | none => ⟨.sweep, thread⟩
  | none => ⟨.sweep, thread.processConnectionEvent D fd turn.io⟩

/-- From one point of `Run` to the next. -/
def Running.step (s : Running) (turn : Turn) : Option Running :=
  match s.point with
  | .top => some (if turn.fNeedToExit then ⟨.cleanup, s.thread⟩ else s.thread.wait turn)
  | .event fd => some (s.thread.dispatch D fd turn)
  -- as an optimization - see if we can do a read on the new connection
  | .accepted pConn => some ⟨.sweep, s.thread.receiveBytesForConnection D pConn turn.io⟩
  | .sweep => (s.thread.sweepDeadConnections turn.timeCurrent turn.timeSwept).map (⟨.top, ·⟩)
  | .cleanup => s.thread.threadCleanup.map (⟨.exited, ·⟩)
  | .exited => some s

end

end CTCPStunThread
end StunServer

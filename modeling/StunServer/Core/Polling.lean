import StunServer.Common.FastHash
import StunServer.Common.HResult

/-! `networkutils/polling.cpp`: `IPolling` and its two implementations. What a system call
comes back with is given to the method that makes it. -/

namespace StunServer.Polling

def IPOLLING_READ : UInt32 := (0x01 : UInt32) <<< 0
def IPOLLING_WRITE : UInt32 := (0x01 : UInt32) <<< 1
def IPOLLING_EDGETRIGGER : UInt32 := (0x01 : UInt32) <<< 2
def IPOLLING_RDHUP : UInt32 := (0x01 : UInt32) <<< 3
def IPOLLING_HUP : UInt32 := (0x01 : UInt32) <<< 4
def IPOLLING_PRI : UInt32 := (0x01 : UInt32) <<< 5
def IPOLLING_ERROR : UInt32 := (0x01 : UInt32) <<< 6

def IPOLLING_TYPE_BEST : UInt32 := (0x01 : UInt32) <<< 0
def IPOLLING_TYPE_EPOLL : UInt32 := (0x01 : UInt32) <<< 1
def IPOLLING_TYPE_POLL : UInt32 := (0x01 : UInt32) <<< 2

structure PollEvent where
  fd : Int
  eventflags : UInt32
deriving DecidableEq

/-- `ERRNOHR`; the macro is applied twice, which changes nothing. -/
def ERRNOHR (errno : UInt32) : HRESULT := (0x88000000 ||| errno).toInt32

/-- The flags on the right of the pairs whose flag on the left is set. -/
def translate (pairs : List (UInt32 × UInt32)) (eventflags : UInt32) : UInt32 :=
  pairs.foldl (fun result p => if eventflags &&& p.1 ≠ 0 then result ||| p.2 else result) 0

/-! ### `CEpoll` -/

def EPOLLIN : UInt32 := 0x001
def EPOLLPRI : UInt32 := 0x002
def EPOLLOUT : UInt32 := 0x004
def EPOLLERR : UInt32 := 0x008
def EPOLLHUP : UInt32 := 0x010
def EPOLLRDHUP : UInt32 := 0x2000
def EPOLLET : UInt32 := 0x80000000

structure EpollEvent where
  events : UInt32
  fd : Int

/-- What `epoll_ctl` has against a call, apart from what is in the set already. -/
structure EpollCtl where
  fRefused : Bool
  errno : UInt32

/-- What `epoll_wait` returns and writes. -/
structure EpollWait where
  ret : Int32
  ready : ℕ → EpollEvent
  errno : UInt32

structure CEpoll where
  epollfd : Int
  /-- The set that the system keeps for `_epollfd`, with the flags of each descriptor. -/
  interest : Int → Option UInt32
  events : ℕ → EpollEvent
  sizeEvents : ℕ
  pendingCount : ℕ
  currentEventIndex : ℕ

namespace CEpoll

def create : CEpoll := ⟨-1, fun _ => none, fun _ => ⟨0, 0⟩, 0, 0, 0⟩

def toNativeFlags (eventflags : UInt32) : UInt32 :=
  translate [(IPOLLING_READ, EPOLLIN), (IPOLLING_WRITE, EPOLLOUT), (IPOLLING_EDGETRIGGER, EPOLLET),
    (IPOLLING_RDHUP, EPOLLRDHUP), (IPOLLING_HUP, EPOLLHUP), (IPOLLING_PRI, EPOLLPRI),
    (IPOLLING_ERROR, EPOLLERR)] eventflags

def fromNativeFlags (eventflags : UInt32) : UInt32 :=
  translate [(EPOLLIN, IPOLLING_READ), (EPOLLOUT, IPOLLING_WRITE), (EPOLLET, IPOLLING_EDGETRIGGER),
    (EPOLLRDHUP, IPOLLING_RDHUP), (EPOLLHUP, IPOLLING_HUP), (EPOLLPRI, IPOLLING_PRI),
    (EPOLLERR, IPOLLING_ERROR)] eventflags

/-- The set goes with its descriptor. -/
def close (poll : CEpoll) : CEpoll :=
  { poll with
    epollfd := -1
    interest := fun _ => none
    sizeEvents := 0
    pendingCount := 0
    currentEventIndex := 0 }

/-- `created` is the return of `epoll_create`. -/
def initializeWith (poll : CEpoll) (maxSockets : ℕ) (created : Int) : HRESULT × CEpoll :=
  let poll := { poll.close with epollfd := created }
  if created = -1 then
    -- `hr` has failed here, but it is not what is returned
    (S_OK, poll.close)
  else (S_OK, { poll with sizeEvents := maxSockets, pendingCount := 0, currentEventIndex := 0 })

section

variable (fd : Int) (eventflags : UInt32) (ctl : EpollCtl)

/-- The checks of `Add`, `Remove` and `ChangeEventSet`, and `epoll_ctl`, which wants the
descriptor to be in the set or not to be, and gives it other flags or takes it out. -/
def control (fMember : Bool) (flags : Option UInt32) : Hr CEpoll Unit := do
  let poll ← get
  Hr.chkIf (fd = -1) E_INVALIDARG
  Hr.chkIf (poll.epollfd = -1) E_UNEXPECTED
  Hr.chkIf ((poll.interest fd).isSome ≠ fMember ∨ ctl.fRefused = true) (ERRNOHR ctl.errno)
  set { poll with interest := Function.update poll.interest fd flags }

def add : Hr CEpoll Unit := control fd ctl false (some (toNativeFlags eventflags))

/-- It doesn't bother to look for the descriptor among the events. -/
def remove : Hr CEpoll Unit := control fd ctl true none

def changeEventSet : Hr CEpoll Unit := control fd ctl true (some (toNativeFlags eventflags))

end

/-- The event that is next in the array. -/
def takeEvent (poll : CEpoll) : PollEvent × CEpoll :=
  let pEvent := poll.events poll.currentEventIndex
  (⟨pEvent.fd, fromNativeFlags pEvent.events⟩,
    { poll with currentEventIndex := poll.currentEventIndex + 1 })

/-- The code and the event; without a new event it is the caller's. -/
def waitForNextEvent (pollEvent : PollEvent) (wait : EpollWait) :
    Hr CEpoll (HRESULT × PollEvent) := fun poll =>
  if poll.epollfd = -1 then .error E_UNEXPECTED poll
  else if poll.currentEventIndex < poll.pendingCount then
    let (event, poll) := poll.takeEvent
    .ok (S_OK, event) poll
  else
    let poll := { poll with
      currentEventIndex := 0
      pendingCount := 0
      events := fun i => if (i : ℤ) < wait.ret.toInt then wait.ready i else poll.events i }
    if wait.ret ≤ -1 then .error (ERRNOHR wait.errno) poll
    else if wait.ret = 0 then .ok (S_FALSE, pollEvent) poll
    else
      let (event, poll) := { poll with pendingCount := wait.ret.toNatClampNeg }.takeEvent
      .ok (S_OK, event) poll

end CEpoll

/-! ### `CPoll` -/

def POLLIN : UInt32 := 0x001
def POLLPRI : UInt32 := 0x002
def POLLOUT : UInt32 := 0x004
def POLLERR : UInt32 := 0x008
def POLLHUP : UInt32 := 0x010
def POLLRDHUP : UInt32 := 0x2000

structure Pollfd where
  fd : Int
  events : UInt16
  revents : UInt16

/-- What `poll` returns and marks. -/
structure PollCall where
  ret : Int32
  revents : ℕ → UInt16
  errno : UInt32

/-- The entries after the call, which leaves them alone if it fails. -/
def PollCall.mark (call : PollCall) (fds : List Pollfd) : List Pollfd :=
  if call.ret < 0 then fds else fds.mapIdx fun i entry => { entry with revents := call.revents i }

structure CPoll where
  fds : List Pollfd
  rotation : UInt32
  unreadcount : UInt32
  fInitialized : Bool
  /-- maps socket to position in fds -/
  hashtable : FastHash Int ℕ

namespace CPoll

def create : CPoll := ⟨[], 0, 0, false, .create 0 0⟩

def toNativeFlags (eventflags : UInt32) : UInt32 :=
  translate [(IPOLLING_READ, POLLIN), (IPOLLING_WRITE, POLLOUT), (IPOLLING_RDHUP, POLLRDHUP),
    (IPOLLING_HUP, POLLHUP), (IPOLLING_PRI, POLLPRI), (IPOLLING_ERROR, POLLERR)] eventflags

def fromNativeFlags (eventflags : UInt32) : UInt32 :=
  translate [(POLLIN, IPOLLING_READ), (POLLOUT, IPOLLING_WRITE), (POLLRDHUP, IPOLLING_RDHUP),
    (POLLHUP, IPOLLING_HUP), (POLLPRI, IPOLLING_PRI), (POLLERR, IPOLLING_ERROR)] eventflags

/-- A table for no sockets is left as it was. -/
def initializeWith (poll : CPoll) (maxSockets : ℕ) : HRESULT × CPoll :=
  (S_OK,
    { poll with
      rotation := 0
      unreadcount := 0
      hashtable := if maxSockets = 0 then poll.hashtable else .initTable maxSockets 0
      fInitialized := true })

def close (poll : CPoll) : CPoll := { poll with fds := [], fInitialized := false }

/-- Nobody looks at what the insertion returns. -/
def add (fd : Int) (eventflags : UInt32) : Hr CPoll Unit := do
  let poll ← get
  let pos := poll.fds.length
  Hr.chkIf (poll.fInitialized = false) E_FAIL
  Hr.chkIf (poll.hashtable.lookup fd ≠ none) E_UNEXPECTED
  let pfd := ⟨fd, (toNativeFlags eventflags).toUInt16, 0⟩
  set { poll with
    fds := poll.fds ++ [pfd]
    hashtable := (poll.hashtable.insert fd pos).2 }

/-- The position of a descriptor, as `Remove` and `ChangeEventSet` look it up. -/
def position (fd : Int) : Hr CPoll ℕ := do
  let poll ← get
  let size := poll.fds.length
  Hr.chkIf (poll.fInitialized = false) E_FAIL
  Hr.chkIf (size = 0) E_FAIL
  match poll.hashtable.lookup fd with
  | none => throw E_FAIL
  | some pos =>
    Hr.chkIf (pos ≥ size) E_FAIL
    Hr.chkIf (poll.fds[pos]?.map Pollfd.fd ≠ some fd) E_FAIL
    return pos

/-- The last entry takes the place of the one that goes. Its own place in the table is written
through the pointer that `Lookup` returns; see `crashes` for a null pointer. -/
def fillHole (poll : CPoll) (pos : ℕ) : CPoll :=
  match poll.fds.getLast? with
  | none => poll
  | some last =>
    if pos = poll.fds.length - 1 then poll
    else
      { poll with
        fds := poll.fds.set pos last
        hashtable := poll.hashtable.store last.fd pos }

def remove (fd : Int) : Hr CPoll Unit := do
  let pos ← position fd
  let poll ← get
  let poll := poll.fillHole pos
  set { poll with
    hashtable := (poll.hashtable.remove fd).2
    fds := poll.fds.dropLast }

def changeEventSet (fd : Int) (eventflags : UInt32) : Hr CPoll Unit := do
  let pos ← position fd
  let poll ← get
  set { poll with
    fds := poll.fds.modify pos fun entry =>
      { entry with events := (toNativeFlags eventflags).toUInt16 } }

/-- The scan goes once around, from `_rotation` on. -/
def findNextEvent (poll : CPoll) : Option PollEvent × CPoll :=
  let size := poll.fds.length
  if poll.unreadcount = 0 then (none, poll)
  else
    let rotation := if poll.rotation.toNat ≥ size then 0 else poll.rotation
    let poll := { poll with rotation := rotation }
    let slots := (List.range size).map fun index => (index + rotation.toNat) % size
    match slots.find? fun slot => (poll.fds[slot]?.map Pollfd.revents).getD 0 ≠ 0 with
    | none => (none, poll)
    | some slotindex =>
      (poll.fds[slotindex]?.map fun entry => ⟨entry.fd, fromNativeFlags entry.revents.toUInt32⟩,
        { poll with
          fds := poll.fds.modify slotindex fun entry => { entry with revents := 0 }
          rotation := rotation + 1
          unreadcount := poll.unreadcount - 1 })

/-- The events of the last call are used up. -/
def pollSockets (call : PollCall) (pollEvent : PollEvent) : Hr CPoll (HRESULT × PollEvent) :=
  fun poll =>
    let poll := { poll with unreadcount := 0, fds := call.mark poll.fds }
    if call.ret < 0 then .error (ERRNOHR call.errno) poll
    else if call.ret = 0 then .ok (S_FALSE, pollEvent) poll
    else
      match { poll with unreadcount := call.ret.toUInt32 }.findNextEvent with
      | (some event, poll) => .ok (S_OK, event) poll
      | (none, poll) => .ok (S_FALSE, pollEvent) poll

/-- The code and the event; without a new event it is the caller's, with its flags cleared. -/
def waitForNextEvent (pPollEvent : Option PollEvent) (call : PollCall) :
    Hr CPoll (HRESULT × PollEvent) := fun poll =>
  if poll.fInitialized = false then .error E_FAIL poll
  else
    match pPollEvent with
    | none => .error E_INVALIDARG poll
    | some pollEvent =>
      let pollEvent := { pollEvent with eventflags := 0 }
      if poll.fds.length = 0 then .ok (S_FALSE, pollEvent) poll
      else
        match poll.findNextEvent with
        | (some event, poll) => .ok (S_OK, event) poll
        | (none, poll) => pollSockets call pollEvent poll

end CPoll

/-! ### `IPolling` -/

inductive IPolling where
  | epoll (poll : CEpoll)
  | poll (poll : CPoll)

/-- `hasEpoll` is `HAS_EPOLL`, and `created` the return of `epoll_create` if it is called. -/
def createPollingInstance (hasEpoll : Bool) (type : UInt32) (maxSockets : ℕ) (created : Int) :
    Except HRESULT IPolling :=
  let type :=
    if type = IPOLLING_TYPE_BEST then
      if hasEpoll then IPOLLING_TYPE_EPOLL else IPOLLING_TYPE_POLL
    else type
  if type = IPOLLING_TYPE_EPOLL then
    if hasEpoll = false then .error E_FAIL
    else
      let (hr, poll) := CEpoll.create.initializeWith maxSockets created
      if FAILED hr then .error hr else .ok (.epoll poll)
  else if type = IPOLLING_TYPE_POLL then
    let (hr, poll) := CPoll.create.initializeWith maxSockets
    if FAILED hr then .error hr else .ok (.poll poll)
  else .error E_FAIL -- unknown type

end StunServer.Polling

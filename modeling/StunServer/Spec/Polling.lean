import StunServer.Core.Polling

/-! Runs of a polling instance, and what its users see of them: which descriptors are in its
set, and whose events are still to be reported. -/

namespace StunServer.Polling

/-- The calls on an instance. -/
inductive PollOp where
  | add (fd : Int) (eventflags : UInt32)
  | remove (fd : Int)
  | changeEventSet (fd : Int) (eventflags : UInt32)
  | waitForNextEvent (pPollEvent : Option PollEvent)

/-- What the system calls come back with, whichever are made. -/
structure SystemCalls where
  ctl : EpollCtl
  wait : EpollWait
  poll : PollCall

/-- Nothing is refused, and nothing happens. -/
def SystemCalls.quiet : SystemCalls :=
  ⟨⟨false, 0⟩, ⟨0, fun _ => ⟨0, 0⟩, 0⟩, ⟨0, fun _ => 0, 0⟩⟩

/-- What becomes known of a call. -/
inductive PollEntry where
  | added (fd : Int)
  | removed (fd : Int)
  /-- `poll` was called, and has marked these descriptors. -/
  | polled (marked : List Int)
  | reported (fd : Int)
deriving DecidableEq

def PollEntry.isPolled : PollEntry → Bool
  | polled _ => true
  | _ => false

/-- The entry is about the event of `fd`. -/
def PollEntry.concerns (fd : Int) : PollEntry → Bool
  | removed fd' => fd' = fd
  | reported fd' => fd' = fd
  | _ => false

/-! ### Logs -/

def registerStep (fds : List Int) : PollEntry → List Int
  | .added fd => fds ++ [fd]
  | .removed fd => fds.erase fd
  | .polled _ => fds
  | .reported _ => fds

/-- The descriptors that were added and not removed. -/
def registered (log : List PollEntry) : List Int := log.foldl registerStep []

def pendingStep (fds : List Int) : PollEntry → List Int
  | .added _ => fds
  | .removed fd => fds.erase fd
  | .polled marked => marked
  | .reported fd => fds.erase fd

/-- The descriptors that the last `poll` has marked and that were neither reported nor removed
since. -/
def pending (log : List PollEntry) : List Int := log.foldl pendingStep []

/-- The event of `fd` is either reported, and then once only, or gone with the descriptor. -/
def SettledOnce (fd : Int) (log : List PollEntry) : Prop :=
  ∃ e rest, log.filter (·.concerns fd) = e :: rest ∧ .reported fd ∉ rest

/-- No descriptor went since the last `poll` while its event was still to be reported. -/
def NoneLost (log : List PollEntry) : Prop :=
  ∀ l₁ fd l₂, log = l₁ ++ .removed fd :: l₂ → (∀ e ∈ l₂, e.isPolled = false) → fd ∉ pending l₁

/-! ### Runs -/

/-- What is known of a call that returns nothing but its code. -/
def outcome {σ : Type} (entries : List PollEntry) :
    EStateM.Result HRESULT σ Unit → HRESULT × List PollEntry × σ
  | .ok _ s => (S_OK, entries, s)
  | .error hr s => (hr, [], s)

namespace CPoll

def hasEvent (entry : Pollfd) : Bool := entry.revents ≠ 0

/-- `WaitForNextEvent` has no event left and asks for new ones. -/
def callsPoll (poll : CPoll) (pPollEvent : Option PollEvent) : Bool :=
  poll.fInitialized && pPollEvent.isSome && poll.fds.length ≠ 0 && poll.findNextEvent.1.isNone

/-- The descriptors whose event is still to be reported. -/
def unreported (fds : List Pollfd) : List Int := (fds.filter hasEvent).map Pollfd.fd

def marked (call : PollCall) (fds : List Pollfd) : List Int :=
  if call.ret < 0 then [] else unreported (call.mark fds)

/-- A call, with its code. -/
def step (poll : CPoll) (op : PollOp) (call : PollCall) : HRESULT × List PollEntry × CPoll :=
  match op with
  | .add fd eventflags => outcome [.added fd] (add fd eventflags poll)
  | .remove fd => outcome [.removed fd] (remove fd poll)
  | .changeEventSet fd eventflags => outcome [] (changeEventSet fd eventflags poll)
  | .waitForNextEvent pPollEvent =>
    let polled := if poll.callsPoll pPollEvent then [.polled (marked call poll.fds)] else []
    match waitForNextEvent pPollEvent call poll with
    | .ok (hr, pollEvent) poll =>
      (hr, polled ++ if hr = S_OK then [.reported pollEvent.fd] else [], poll)
    | .error hr poll => (hr, polled, poll)

/-- The call ends the program: a lookup in a table of no width divides by 0, and the last entry
has no place in the table when there was no room for it. -/
def crashes (poll : CPoll) : PollOp → Bool
  | .add _ _ => poll.fInitialized && poll.hashtable.tsize = 0
  | .remove fd =>
    match position fd poll, poll.fds.getLast? with
    | .ok pos _, some last =>
      pos ≠ poll.fds.length - 1 && poll.hashtable.lookup last.fd = none
    | _, _ => false
  | .changeEventSet _ _ => false
  | .waitForNextEvent _ => false

end CPoll

/-- `poll` returns the number of entries that it marks. -/
def PollCall.Counts (call : PollCall) (fds : List Pollfd) : Prop :=
  0 ≤ call.ret → call.ret.toInt = (call.mark fds).countP CPoll.hasEvent

instance (call : PollCall) (fds : List Pollfd) : Decidable (call.Counts fds) :=
  inferInstanceAs (Decidable (_ → _))

/-- What an instance for `maxSockets` descriptors comes to, with what became known on the way. -/
inductive CPoll.Run (maxSockets : ℕ) : List PollEntry → CPoll → Prop where
  | start : Run maxSockets [] (CPoll.create.initializeWith maxSockets).2
  | next {log : List PollEntry} {poll : CPoll} (op : PollOp) (call : PollCall) :
      Run maxSockets log poll → poll.crashes op = false → call.Counts poll.fds →
        Run maxSockets (log ++ (poll.step op call).2.1) (poll.step op call).2.2

def CEpoll.step (poll : CEpoll) (op : PollOp) (sys : SystemCalls) :
    HRESULT × List PollEntry × CEpoll :=
  match op with
  | .add fd eventflags => outcome [.added fd] (CEpoll.add fd eventflags sys.ctl poll)
  | .remove fd => outcome [.removed fd] (CEpoll.remove fd sys.ctl poll)
  | .changeEventSet fd eventflags =>
    outcome [] (CEpoll.changeEventSet fd eventflags sys.ctl poll)
  | .waitForNextEvent pPollEvent =>
    match CEpoll.waitForNextEvent (pPollEvent.getD ⟨0, 0⟩) sys.wait poll with
    | .ok (hr, pollEvent) poll => (hr, if hr = S_OK then [.reported pollEvent.fd] else [], poll)
    | .error hr poll => (hr, [], poll)

namespace IPolling

def step (polling : IPolling) (op : PollOp) (sys : SystemCalls) :
    HRESULT × List PollEntry × IPolling :=
  match polling with
  | .epoll p => let (hr, entries, p) := p.step op sys; (hr, entries, .epoll p)
  | .poll p => let (hr, entries, p) := p.step op sys.poll; (hr, entries, .poll p)

/-- `CEpoll` doesn't check the pointer to the event. -/
def crashes : IPolling → PollOp → Bool
  | .epoll _, .waitForNextEvent pPollEvent => pPollEvent.isNone
  | .epoll _, _ => false
  | .poll p, op => p.crashes op

def Counts : IPolling → SystemCalls → Prop
  | .epoll _, _ => True
  | .poll p, sys => sys.poll.Counts p.fds

/-- The descriptor is in the set of the instance. -/
def has : IPolling → Int → Prop
  | .epoll p, fd => p.interest fd ≠ none
  | .poll p, fd => fd ∈ p.fds.map Pollfd.fd

inductive Run (start : IPolling) : List PollEntry → IPolling → Prop where
  | start : Run start [] start
  | next {log : List PollEntry} {polling : IPolling} (op : PollOp) (sys : SystemCalls) :
      Run start log polling → polling.crashes op = false → polling.Counts sys →
        Run start (log ++ (polling.step op sys).2.1) (polling.step op sys).2.2

/-- The descriptor is in the set and can be removed, unless the system refuses that. -/
def CanRemove (polling : IPolling) (fd : Int) : Prop :=
  polling.has fd ∧ ∀ sys, sys.ctl.fRefused = false →
    polling.crashes (.remove fd) = false ∧ (polling.step (.remove fd) sys).1 = S_OK

/-- A descriptor is accepted, unless it is in the set or the system refuses it; one that is
accepted now, or was before, is in the set and can be removed; and a call that fails leaves the
set alone. -/
structure Lawful (log : List PollEntry) (polling : IPolling) : Prop where
  accepts : ∀ fd eventflags sys, fd ∉ registered log → fd ≠ -1 → sys.ctl.fRefused = false →
    polling.crashes (.add fd eventflags) = false ∧
      (polling.step (.add fd eventflags) sys).1 = S_OK
  adds : ∀ fd eventflags sys, polling.crashes (.add fd eventflags) = false →
    (polling.step (.add fd eventflags) sys).1 = S_OK →
      (polling.step (.add fd eventflags) sys).2.2.CanRemove fd
  removes : ∀ fd ∈ registered log, polling.CanRemove fd
  keeps : ∀ op sys fd, polling.crashes op = false → FAILED (polling.step op sys).1 = true →
    ((polling.step op sys).2.2.has fd ↔ polling.has fd)

/-- `epoll_create` has not failed, or there is room for one more descriptor in the table. -/
def HasRoom (maxSockets : ℕ) (created : Int) (log : List PollEntry) : IPolling → Prop
  | .epoll _ => created ≠ -1
  | .poll _ => (registered log).length < maxSockets

end IPolling

end StunServer.Polling

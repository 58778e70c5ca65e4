import StunServer.Core.StunSocketThread
import StunServer.Lib.Interleave

/-! The threads of `CStunServer` in multi-threaded mode, side by side. Between a receive and a send
a thread touches nothing that the others have but the limiter, and the lock of the limiter makes
a check one step. -/

namespace StunServer.CStunSocketThread

/-- A thread that has received, with the return of `recvfromex`. -/
structure Received where
  ret : Int
  thread : CStunSocketThread

/-- A thread that has been through the rate check. -/
structure Checked where
  ret : Int
  charged : Option CSocketAddress
  allowed_to_pass : Bool
  thread : CStunSocketThread

/-- The thread with the limiter, or with none. -/
def withLimiter (thread : CStunSocketThread) (spLimiter : Option RateLimiter) : CStunSocketThread :=
  { thread with spLimiter := spLimiter }

/-- A turn of the loop in `Run`, in three parts. The limiter that is shared is not in the
threads. -/
def threadWork (D : Digests) :
    Interleave.Work CStunSocketThread Received Checked (Option RateLimiter) Turn Effect where
  begins thread turn :=
    let received := thread.receive turn
    ⟨received.1, received.2⟩
  shares received turn spLimiter :=
    let thread := received.thread.withLimiter spLimiter
    let checked := thread.rateCheck turn.currentTime
    (⟨received.ret, thread.spLimiter.map fun _ => thread.msgIn.addrRemote, checked.1,
      checked.2.withLimiter none⟩, checked.2.spLimiter)
  ends checked turn :=
    if checked.ret < 0 ∨ checked.allowed_to_pass = false then
      (⟨checked.charged, checked.allowed_to_pass, none⟩, checked.thread)
    else if turn.fNeedToExit then
      (⟨checked.charged, checked.allowed_to_pass, none⟩, checked.thread)
    else
      let thread := { checked.thread with
        spBufferIn := (checked.thread.spBufferIn.setSize checked.ret.toNat).2
        msgIn := { checked.thread.msgIn with socketrole := turn.pSocket.role } }
      let res := thread.processRequestAndSendResponse D
      (⟨checked.charged, checked.allowed_to_pass, res.1⟩, res.2)

/-- The threads of the sockets as `Init` sets them up, with their limiter. -/
def threadsWith (D : Digests) (tsa : TransportAddressSet) (spAuth : Option IStunAuth)
    (spLimiter : Option RateLimiter) (events : List (SocketRole × Interleave.Part Turn)) :
    Interleave.System SocketRole CStunSocketThread Received Checked (Option RateLimiter) Turn
      Effect :=
  events.foldl (threadWork D).step
    (Interleave.Work.start (fun _ => initWith tsa spAuth none) spLimiter)

end StunServer.CStunSocketThread

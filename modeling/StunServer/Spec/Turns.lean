import StunServer.Core.SocketThreads
import StunServer.Proofs.StunSocketThread

/-! A server that keeps nothing but the limiter and, for each thread, the address it charges. -/

namespace StunServer

/-- Something is received that has at least one byte. -/
def RecvMsg.Brings : RecvMsg → Prop
  | failed => False
  | datagram data _ _ => data ≠ []

namespace CStunSocketThread

/-- What the limiter is asked in a turn, given the address that is kept. -/
def Turn.rateCall (turn : Turn) (addrRemote : CSocketAddress) : RateCall :=
  ⟨turn.msg.keptAddress addrRemote, turn.currentTime⟩

section

variable (D : Digests) (tsa : TransportAddressSet) (spAuth : Option IStunAuth)

/-- A turn charges the kept address, and is answered if it is let pass. -/
noncomputable def Turn.effect (turn : Turn) (addrRemote : CSocketAddress)
    (spLimiter : Option RateLimiter) : Effect :=
  let allowed_to_pass := spLimiter.elim true fun l => (l.rateCheck (turn.rateCall addrRemote)).1
  { charged := spLimiter.map fun _ => (turn.rateCall addrRemote).addr
    allowed_to_pass := allowed_to_pass
    sent := if allowed_to_pass = true ∧ turn.fNeedToExit = false then turn.answer D tsa spAuth
      else none }

/-- The limiter after a turn. -/
def Turn.limiter (turn : Turn) (addrRemote : CSocketAddress) (spLimiter : Option RateLimiter) :
    Option RateLimiter :=
  spLimiter.map fun l => (l.rateCheck (turn.rateCall addrRemote)).2

/-- What turns come to one after the other, each on one of the threads. -/
noncomputable def effects : (SocketRole → CSocketAddress) → Option RateLimiter →
    List (SocketRole × Turn) → List Effect
  | _, _, [] => []
  | kept, spLimiter, (role, turn) :: order =>
    turn.effect D tsa spAuth (kept role) spLimiter ::
      effects (Function.update kept role (turn.rateCall (kept role)).addr)
        (turn.limiter (kept role) spLimiter) order

end

end CStunSocketThread
end StunServer

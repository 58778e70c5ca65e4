import StunServer.Core.UdpClient
import StunServer.Lib.Deadline
import StunServer.Spec.ClientRun

/-! What the loop over UDP is to the client logic: calls, each with a buffer of its own and with
just what was received; and when the passes come, by the clock. -/

namespace StunServer

/-- What `GetNextMessage` fetches, but for the buffer that it is in. -/
def ClientAnswer.request (answer : ClientAnswer) : Option (List UInt8 × CSocketAddress) :=
  answer.msg.map fun msg => (msg.1.bytes, msg.2)

/-- The response that a pass has received, as it is passed on. -/
def UdpFed.call (fed : UdpFed) : ClientCall :=
  .processResponse (.initNoAlloc fed.spMsg.bytes) fed.addrRemote fed.addrLocal

/-- The call for what is received, if it has a byte. -/
def UdpWait.call (stunSocket : CStunSocket) : UdpWait → Option ClientCall
  | .timedOut => none
  | .failed => none
  | .ready .failed => none
  | .ready (.datagram data addrRemote pktinfo) =>
    if data = [] then none
    else some (.processResponse (.initNoAlloc (data.take MAX_STUN_MESSAGE_SIZE)) addrRemote
      ((pktinfo.getD (initSocketAddress addrRemote)).setPort stunSocket.addrlocal.getPort))

namespace UdpTurn

def poll (turn : UdpTurn) : ClientCall :=
  .getNextMessage turn.entropy (.initWithAllocation MAX_STUN_MESSAGE_SIZE)
    (getMillisecondCounter turn.milliseconds)

/-- The calls of a pass that goes on. -/
def calls (stunSocket : CStunSocket) (turn : UdpTurn) : List ClientCall :=
  turn.poll :: (turn.wait.call stunSocket).toList

/-- All the calls of some passes. -/
def callsOf (stunSocket : CStunSocket) (passes : List (UdpTurn × UdpPassed)) : List ClientCall :=
  passes.flatMap fun e => e.1.calls stunSocket

/-- How long `select` waits. -/
def delay (config : StunClientLogicConfig) : ℕ := 1000 * config.timeoutSeconds.toNat + 500

/-- How long a request has for its response. -/
def limit (config : StunClientLogicConfig) : ℕ :=
  1000 * (CStunClientLogic.configure config).timeoutSeconds.toNat

/-- One pass follows on another: the clock does not go back, a wait takes its time, and the
counter does not come round to where it was. -/
structure Precedes (config : StunClientLogicConfig) (turn next : UdpTurn) : Prop where
  clock : turn.milliseconds ≤ next.milliseconds
  waited : turn.wait = .timedOut → turn.milliseconds + delay config ≤ next.milliseconds
  window : next.milliseconds + limit config < turn.milliseconds + 2 ^ 32

end UdpTurn

/-- A pass, as the timer of the requests sees it. -/
def UdpPassed.timed (e : UdpTurn × UdpPassed) : Deadline.Pass where
  time := e.1.milliseconds
  restarts := e.2.sent.isSome
  waits := e.1.wait = .timedOut

end StunServer

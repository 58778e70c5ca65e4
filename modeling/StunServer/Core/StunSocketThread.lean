import StunServer.Core.MessageHandler
import StunServer.Core.RateLimiter

/-! `recvfromex` and `CStunSocketThread`. The system calls are inputs: what `recvmsg` comes
back with, which socket is ready, what the clock says. -/

namespace StunServer

open Bytes

/-! ### Receiving -/

/-- A return of `recvmsg`: an error, or a datagram with its source and, if the control data
names it, the address it was sent to. -/
inductive RecvMsg where
  | failed
  | datagram (data : List UInt8) (addrRemote : CSocketAddress) (pktinfo : Option CSocketAddress)
deriving DecidableEq

/-- `InitSocketAddress`: the zero address of the same family. -/
def initSocketAddress : CSocketAddress → CSocketAddress
  | .addr4 .. => .addr4 0 0
  | .addr6 .. => .addr6 0 (List.Vector.replicate 16 0)

structure RecvResult where
  ret : Int
  /-- What is copied to the buffer. -/
  data : List UInt8
  srcAddr : CSocketAddress
  dstAddr : CSocketAddress

/-- The addresses keep their old value unless something was received. What does not fit the
buffer is lost. -/
def recvfromex (len : ℕ) (msg : RecvMsg) (srcAddr dstAddr : CSocketAddress) : RecvResult :=
  match msg with
  | .failed => ⟨-1, [], srcAddr, dstAddr⟩
  | .datagram data addrRemote pktinfo =>
    if (data.take len).length > 0 then
      ⟨(data.take len).length, data.take len, addrRemote,
        (pktinfo.map (CSocketAddress.setPort 0)).getD (initSocketAddress addrRemote)⟩
    else ⟨0, [], srcAddr, dstAddr⟩

/-! ### The thread -/

/-- A socket that was bound to an address, with its role. -/
structure BoundSocket where
  role : SocketRole
  addrlocal : CSocketAddress

structure CStunSocketThread where
  tsa : TransportAddressSet
  spAuth : Option IStunAuth
  reader : CStunMessageReader
  /-- Shared with the stream of the reader. -/
  spBufferReader : CBuffer
  spBufferIn : CBuffer
  msgIn : StunMessageIn
  /-- Its buffer is `_spBufferOut`. -/
  msgOut : StunMessageOut
  spLimiter : Option RateLimiter

/-- What goes out through `sendto`. -/
structure SentPacket where
  socketrole : SocketRole
  addrDest : CSocketAddress
  data : List UInt8
deriving DecidableEq

namespace CStunSocketThread

/-- `Init`, with the buffers of `InitThreadBuffers`. -/
def initWith (tsa : TransportAddressSet) (spAuth : Option IStunAuth)
    (spLimiter : Option RateLimiter) : CStunSocketThread where
  tsa := tsa
  spAuth := spAuth
  reader := CStunMessageReader.create.attachStream (CBuffer.initWithAllocation MAX_STUN_MESSAGE_SIZE)
  spBufferReader := CBuffer.initWithAllocation MAX_STUN_MESSAGE_SIZE
  spBufferIn := CBuffer.initWithAllocation MAX_STUN_MESSAGE_SIZE
  msgIn := ⟨.rolePP, .create, .create, none, false⟩
  msgOut := ⟨.rolePP, .create, some (CBuffer.initWithAllocation MAX_STUN_MESSAGE_SIZE)⟩
  spLimiter := spLimiter

/-- The reader is reset, its buffer attached again, and the datagram added. -/
def readDatagram (thread : CStunSocketThread) : CStunSocketThread :=
  let spBufferReader := (thread.spBufferReader.setSize 0).2
  let reader := thread.reader.reset.attachStream spBufferReader
  let reader := (reader.addBytes (some thread.spBufferIn.bytes)
    (UInt32.ofNat thread.spBufferIn.getSize)).2
  { thread with
    reader := reader
    spBufferReader := reader.stream.sharedBuffer.getD spBufferReader }

section

variable (D : Digests)

def processRequestAndSendResponse (thread : CStunSocketThread) :
    Option SentPacket × CStunSocketThread :=
  let thread := thread.readDatagram
  if thread.reader.getState ≠ .bodyValidated then (none, thread)
  else
    let (hr, msgOut) := CStunRequestHandler.processRequest D
      { thread.msgIn with pReader := some thread.reader } thread.msgOut (some thread.tsa)
      thread.spAuth
    let thread := { thread with msgOut := msgOut }
    if FAILED hr then (none, thread)
    else
      -- the socket that matches the role in `msgOut`
      (some ⟨msgOut.socketrole, msgOut.addrDest, msgOut.spBufferOut.elim [] CBuffer.bytes⟩, thread)

/-- What one turn of the loop in `Run` gets from outside. -/
structure Turn where
  /-- The socket that is ready. -/
  pSocket : BoundSocket
  msg : RecvMsg
  currentTime : ℤ
  /-- The exit flag as it is found after the rate check. -/
  fNeedToExit : Bool

/-- What one turn does to the outside. -/
structure Effect where
  /-- The address `RateCheck` was called for. -/
  charged : Option CSocketAddress
  allowed_to_pass : Bool
  sent : Option SentPacket

/-- The datagram is received into the buffer and the addresses of `_msgIn`. -/
def receive (thread : CStunSocketThread) (turn : Turn) : Int × CStunSocketThread :=
  let spBufferIn := (thread.spBufferIn.setSize 0).2
  let res := recvfromex spBufferIn.getAllocatedSize turn.msg thread.msgIn.addrRemote
    thread.msgIn.addrLocal
  let addrLocal :=
    if res.ret ≥ 0 then res.dstAddr.setPort turn.pSocket.addrlocal.getPort else res.dstAddr
  (res.ret, { thread with
    spBufferIn := { spBufferIn with data := overwrite spBufferIn.data 0 res.data }
    msgIn := { thread.msgIn with addrRemote := res.srcAddr, addrLocal := addrLocal } })

/-- The check is made for whatever address `_msgIn` holds. -/
def rateCheck (thread : CStunSocketThread) (currentTime : ℤ) : Bool × CStunSocketThread :=
  match thread.spLimiter with
  | none => (true, thread)
  | some limiter =>
    let (allowed_to_pass, limiter) := limiter.rateCheck ⟨thread.msgIn.addrRemote, currentTime⟩
    (allowed_to_pass, { thread with spLimiter := some limiter })

/-- One turn of the loop in `Run`. -/
def runOnce (thread : CStunSocketThread) (turn : Turn) : Effect × CStunSocketThread :=
  let (ret, thread) := thread.receive turn
  let charged := thread.spLimiter.map fun _ => thread.msgIn.addrRemote
  let (allowed_to_pass, thread) := thread.rateCheck turn.currentTime
  if ret < 0 ∨ allowed_to_pass = false then (⟨charged, allowed_to_pass, none⟩, thread)
  else if turn.fNeedToExit then (⟨charged, allowed_to_pass, none⟩, thread)
  else
    let thread := { thread with
      spBufferIn := (thread.spBufferIn.setSize ret.toNat).2
      msgIn := { thread.msgIn with socketrole := turn.pSocket.role } }
    let (sent, thread) := thread.processRequestAndSendResponse D
    (⟨charged, allowed_to_pass, sent⟩, thread)

end

end CStunSocketThread
end StunServer

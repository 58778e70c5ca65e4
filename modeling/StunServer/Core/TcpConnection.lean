import StunServer.Core.StunConnection

/-! One connection of `CTCPStunThread`: `ReceiveBytesForConnection` and
`WriteBytesForConnection`. What `recv`, `send`, the rate limiter, which other threads use
as well, and the polling instance come back with is given to each call. -/

namespace StunServer

open Bytes

/-- A return of `recv` or `send`: a count, one of the errors that mean to come back later,
or anything else, such as the end of the stream. -/
inductive IoResult where
  | count (n : ℕ)
  | wouldBlock
  | failed
deriving DecidableEq

/-- What an event of a connection meets with. -/
structure ConnectionCall where
  /-- One for each `recv` and `send`; after these they would block. -/
  results : List IoResult
  allowed_to_pass : Bool
  /-- Whether `ChangeEventSet` succeeds, to write events and to read events. -/
  fWriteEventSet : Bool
  fReadEventSet : Bool

inductive IoEvent where
  | received (data : List UInt8)
  | sent (data : List UInt8)
  | rateChecked (addr : CSocketAddress)
deriving DecidableEq

/-- A connection, what its peer has sent to it, and what was done with it. -/
structure Session where
  conn : StunConnection
  /-- Not received yet. -/
  incoming : List UInt8
  log : List IoEvent
  /-- Whether every `ASSERT` so far held. -/
  assertsHeld : Bool
  /-- `CloseConnection` is called. -/
  fClosed : Bool

namespace Session

def create (conn : StunConnection) (incoming : List UInt8) : Session :=
  ⟨conn, incoming, [], true, false⟩

def ASSERT (expr : Bool) (s : Session) : Session := { s with assertsHeld := s.assertsHeld && expr }

/-- The assertions in front of `send`. -/
def assertTransmitting (s : Session) : Session :=
  (s.ASSERT (s.conn.state = .transmitting)).ASSERT
    (s.conn.spOutputBuffer.getSize > s.conn.txCount)

/-- The assertions in front of `recv`; the last one is that of `ChkIfA`. -/
def assertReceiving (s : Session) : Session :=
  (((s.ASSERT (s.conn.state = .receiving)).ASSERT (s.conn.reader.getState ≠ .parseError)).ASSERT
    (s.conn.reader.getState ≠ .bodyValidated)).ASSERT (s.conn.reader.howManyBytesNeeded ≠ 0)

def logged (event : IoEvent) (s : Session) : Session := { s with log := s.log ++ [event] }

def close (s : Session) : Session := { s with fClosed := true }

section

variable (call : ConnectionCall)

/-- The response is out: back to receiving. -/
def finishWrite (s : Session) : Session :=
  let s := { s with conn := s.conn.resetConnection }
  if call.fReadEventSet then s else s.close

def writeBytesForConnection (results : List IoResult) (s : Session) : Session :=
  let s := s.assertTransmitting
  let bytestotal := s.conn.spOutputBuffer.getSize
  let bytesremaining := bytestotal - s.conn.txCount
  match results with
  | [] => s
  | .wouldBlock :: _ => s
  | .failed :: _ => s.close
  | .count n :: results =>
    let sent := min (max n 1) bytesremaining
    if sent = 0 then s.close
    else
      let s := s.logged (.sent (slice s.conn.spOutputBuffer.data s.conn.txCount sent))
      let s := { s with conn := { s.conn with txCount := s.conn.txCount + sent } }
      let s := s.ASSERT (s.conn.txCount ≤ bytestotal)
      if s.conn.txCount ≥ bytestotal then s.finishWrite call
      else writeBytesForConnection results s

variable (D : Digests) (tsa : TransportAddressSet) (spAuth : Option IStunAuth)

/-- The message is complete: it is answered, unless the sender is too fast or it is not a
request. -/
def respond (results : List IoResult) (s : Session) : Session :=
  let stunsocket := s.conn.stunsocket
  let msgIn : StunMessageIn :=
    ⟨stunsocket.role, stunsocket.addrlocal, stunsocket.addrremote, some s.conn.reader, true⟩
  let msgOut : StunMessageOut := ⟨.rolePP, .create, some s.conn.spOutputBuffer⟩
  let s := s.logged (.rateChecked msgIn.addrRemote)
  if call.allowed_to_pass = false then s.close
  else
    let (hr, msgOut) := CStunRequestHandler.processRequest D msgIn msgOut (some tsa) spAuth
    let s := { s with conn :=
      { s.conn with spOutputBuffer := msgOut.spBufferOut.getD s.conn.spOutputBuffer } }
    if FAILED hr then s.close
    else
      let s := { s with conn := { s.conn with state := .transmitting } }
      if call.fWriteEventSet then s.writeBytesForConnection call results else s.close

def receiveBytesForConnection (results : List IoResult) (s : Session) : Session :=
  let s := s.assertReceiving
  let bytesneeded := s.conn.reader.howManyBytesNeeded.toNat
  if bytesneeded = 0 then s.close
  else
    match results with
    | [] => s
    | .wouldBlock :: _ => s
    | .failed :: _ => s.close
    | .count n :: results =>
      let buffer := s.incoming.take (min (max n 1) bytesneeded)
      if buffer = [] then s -- nothing has arrived
      else
        let s := { s with incoming := s.incoming.drop buffer.length }
        let s := s.logged (.received buffer)
        let (readerstate, conn) := s.conn.addBytes buffer
        let s := { s with conn := conn }
        if readerstate = .parseError then s.close
        else if readerstate = .bodyValidated then s.respond call D tsa spAuth results
        else receiveBytesForConnection results s

/-- An event on the socket of the connection. -/
def processConnectionEvent (s : Session) : Session :=
  match s.conn.state with
  | .receiving => s.receiveBytesForConnection call D tsa spAuth call.results
  | .transmitting => s.writeBytesForConnection call call.results
  | .idle => s

/-- Once it is closed nothing happens on the connection. -/
def event (s : Session) : Session :=
  if s.fClosed then s else s.processConnectionEvent call D tsa spAuth

/-- One event after the other. -/
def run (calls : List ConnectionCall) (s : Session) : Session :=
  calls.foldl (fun s call => s.event call D tsa spAuth) s

end

end Session
end StunServer

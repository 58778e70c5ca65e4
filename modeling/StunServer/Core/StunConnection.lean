import StunServer.Core.MessageHandler

/-! `StunConnection` and `CConnectionPool` of `server/stunconnection.cpp`. A connection
object is known by its number, the order in which the pool allocated it. -/

namespace StunServer

inductive StunConnectionState where
  | idle
  | receiving
  | transmitting
deriving DecidableEq, Repr

/-- `_sock` is -1 when there is no socket. -/
structure CStunSocket where
  sock : Int
  addrlocal : CSocketAddress
  addrremote : CSocketAddress
  role : SocketRole

namespace CStunSocket

def reset : CStunSocket := ⟨-1, .ofHostOrder 0 0, .ofHostOrder 0 0, .rolePP⟩

/-- What the system knows about the two ends of a socket, as far as it knows. -/
structure Names where
  sockname : Option CSocketAddress
  peername : Option CSocketAddress

def updateAddresses (s : CStunSocket) (names : Names) : CStunSocket :=
  { s with
    addrlocal := names.sockname.getD s.addrlocal
    addrremote := names.peername.getD s.addrremote }

/-- Another socket than the one it has makes it start over. -/
def attach (s : CStunSocket) (sock : Int) (names : Names) : CStunSocket :=
  if sock = -1 then s
  else if sock ≠ s.sock then updateAddresses { reset with sock := sock } names
  else updateAddresses s names

def isValid (s : CStunSocket) : Bool := s.sock ≠ -1

end CStunSocket

structure StunConnection where
  state : StunConnectionState
  stunsocket : CStunSocket
  reader : CStunMessageReader
  /-- Shared with the stream of the reader. -/
  spReaderBuffer : CBuffer
  /-- Contains the response. -/
  spOutputBuffer : CBuffer
  txCount : ℕ
  /-- Hints at which hash table the connection got inserted into. -/
  idHashTable : Int
  pNext : Option ℕ

namespace StunConnection

/-- A connection just allocated, with the buffers `Grow` gives it. -/
def create : StunConnection where
  state := .idle
  stunsocket := .reset
  reader := .create
  spReaderBuffer := CBuffer.initWithAllocation MAX_STUN_MESSAGE_SIZE
  spOutputBuffer := CBuffer.initWithAllocation MAX_STUN_MESSAGE_SIZE
  txCount := 0
  idHashTable := 0
  pNext := none

/-- The buffer as the stream of the reader leaves it. -/
def withReader (conn : StunConnection) (reader : CStunMessageReader) : StunConnection :=
  { conn with
    reader := reader
    spReaderBuffer := reader.stream.sharedBuffer.getD conn.spReaderBuffer }

/-- `_reader.Reset()` and the buffer attached again. -/
def resetReader (conn : StunConnection) : StunConnection :=
  conn.withReader (conn.reader.reset.attachStream conn.spReaderBuffer)

/-- `_reader.AddBytes`. -/
def addBytes (conn : StunConnection) (bytes : List UInt8) : ReaderParseState × StunConnection :=
  let (readerstate, reader) := conn.reader.addBytes (some bytes) (UInt32.ofNat bytes.length)
  (readerstate, conn.withReader reader)

end StunConnection

/-- Every connection ever allocated is in `heap`, below `count`. -/
structure CConnectionPool where
  heap : ℕ → StunConnection
  count : ℕ
  freelist : Option ℕ

namespace CConnectionPool

def create : CConnectionPool := ⟨fun _ => .create, 0, none⟩

/-- An assignment to a connection. -/
def modify (pool : CConnectionPool) (pConn : ℕ) (f : StunConnection → StunConnection) :
    CConnectionPool :=
  { pool with heap := Function.update pool.heap pConn (f (pool.heap pConn)) }

/-- One turn of the loop in `Grow`. -/
def growOne (pool : CConnectionPool) : CConnectionPool where
  heap := Function.update pool.heap pool.count { StunConnection.create with pNext := pool.freelist }
  count := pool.count + 1
  freelist := some pool.count

def c_growrate : ℕ := 50

/-- There is memory for `available` connections more. -/
def grow (pool : CConnectionPool) (available : ℕ) : CConnectionPool :=
  growOne^[min c_growrate available] pool

/-- The preparation of a connection for a socket. -/
def prepConnection (sock : Int) (role : SocketRole) (names : CStunSocket.Names)
    (conn : StunConnection) : StunConnection :=
  let conn := { conn with pNext := none }.resetReader
  { conn with
    state := .receiving
    stunsocket := { conn.stunsocket.attach sock names with role := role }
    txCount := 0
    idHashTable := -1 }

def getConnection (pool : CConnectionPool) (sock : Int) (role : SocketRole)
    (names : CStunSocket.Names) (available : ℕ) : Option ℕ × CConnectionPool :=
  let pool := if pool.freelist = none then pool.grow available else pool
  match pool.freelist with
  | none => (none, pool) -- out of memory
  | some pConn =>
    let pool := { pool with freelist := (pool.heap pConn).pNext }
    (some pConn, pool.modify pConn (prepConnection sock role names))

def releaseConnection (pool : CConnectionPool) (pConn : ℕ) : CConnectionPool :=
  let pool := pool.modify pConn fun conn => { conn with pNext := pool.freelist }
  { pool with freelist := some pConn }

end CConnectionPool

/-- `CConnectionPool::ResetConnection`: the streams are reset for the next message. -/
def StunConnection.resetConnection (conn : StunConnection) : StunConnection :=
  { conn.resetReader with state := .receiving, txCount := 0 }

end StunServer

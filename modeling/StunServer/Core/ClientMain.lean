import StunServer.Core.NetworkUtils
import StunServer.Core.StunClientLogic

/-! `client/clientmain.cpp`: from the command line to the configuration, and the loop that runs
the tests over TCP. What the socket calls, the clock and the random generator come back with is
given to each pass of the loop. -/

namespace StunServer

open Bytes

structure ClientCmdLineArgs where
  strRemoteServer : List UInt8
  strRemotePort : List UInt8
  strLocalAddr : List UInt8
  strLocalPort : List UInt8
  strMode : List UInt8
  strFamily : List UInt8
  strProtocol : List UInt8

inductive SockType where
  | sockDgram
  | sockStream
deriving DecidableEq, Repr

structure ClientSocketConfig where
  family : UInt16
  socktype : SockType
  addrLocal : CSocketAddress

/-! ### `CreateConfigFromCommandLine` -/

namespace ClientCmdLineArgs

variable (host : Host) (args : ClientCmdLineArgs)

def family : Except HRESULT UInt16 :=
  if StringHelper.isNullOrEmpty args.strFamily then .ok AF_INET
  else if atoi args.strFamily = 4 then .ok AF_INET
  else if atoi args.strFamily = 6 then .ok AF_INET6
  else .error E_INVALIDARG

/-- Whether it is TCP. -/
def protocol : Except HRESULT Bool :=
  let strProtocol := StringHelper.toLower args.strProtocol
  if StringHelper.isNullOrEmpty strProtocol then .ok false
  else if strProtocol ≠ chars "udp" ∧ strProtocol ≠ chars "tcp" then .error E_INVALIDARG
  else .ok (strProtocol = chars "tcp")

/-- A port option, or its default. -/
def port (str : List UInt8) (default : UInt16) : Except HRESULT UInt16 :=
  if StringHelper.isNullOrEmpty str then .ok default
  else
    match StringHelper.validateNumberString str 1 0xffff with
    | .error _ => .error E_INVALIDARG
    | .ok nPort => .ok (UInt16.ofNat nPort.toNat)

def localAddress (family port : UInt16) : Except HRESULT CSocketAddress :=
  if StringHelper.isNullOrEmpty args.strLocalAddr = false then
    host.getSocketAddressForAdapter family args.strLocalAddr port
  else if family = AF_INET6 then .ok (.addr6 (htons port) (List.Vector.replicate 16 0))
  else .ok (.ofHostOrder 0 port)

/-- The two flags of the mode. A mode that is not known is only logged. -/
def mode (fTCP : Bool) : Bool × Bool :=
  let strMode := StringHelper.toLower args.strMode
  if strMode = chars "full" then (true, fTCP = false)
  else if strMode = chars "behavior" then (true, false)
  else if strMode = chars "filtering" then (false, true)
  else (false, false)

def createConfigFromCommandLine : Except HRESULT (StunClientLogicConfig × ClientSocketConfig) := do
  let family ← args.family
  let fTCP ← args.protocol
  let remoteport ← port args.strRemotePort DEFAULT_STUN_PORT
  chkIf (StringHelper.isNullOrEmpty args.strRemoteServer = true) E_INVALIDARG
  let addrServer ← host.resolveHostName args.strRemoteServer family false
  let localport ← port args.strLocalPort 0
  let addrLocal ← args.localAddress host family localport
  let (fBehaviorTest, fFilteringTest) := args.mode fTCP
  return (
    { addrServer := addrServer.setPort remoteport
      fTimeoutIsInstant := false
      timeoutSeconds := 0
      uMaxAttempts := if fTCP then 1 else 0
      fBehaviorTest := fBehaviorTest
      fFilteringTest := fFilteringTest },
    { family := family
      socktype := if fTCP then .sockStream else .sockDgram
      addrLocal := addrLocal })

end ClientCmdLineArgs

/-! ### `TcpClientLoop` -/

/-- A return of `recv`: an error, or what has arrived. Nothing has when the peer has closed the
connection. -/
inductive TcpRecv where
  | failed (hr : HRESULT)
  | received (data : List UInt8)
deriving DecidableEq

/-- What one pass of the loop meets with. Behind the returns that are given, `send` takes all
that is left, and the peer closes the connection. -/
structure TcpTurn where
  tcpInit : HRESULT
  entropy : CStunMessageBuilder.Entropy
  timeCurrentMilliseconds : UInt32
  connect : HRESULT
  sends : List (Except HRESULT ℕ)
  recvs : List TcpRecv
  /-- The address of the socket once it is connected. -/
  addrLocal : CSocketAddress

/-- The variables that live through the loop. -/
structure TcpClient where
  clientlogic : CStunClientLogic
  spMsg : CBuffer
  spMsgReader : CBuffer
  reader : CStunMessageReader
  addrLocal : CSocketAddress

/-- A response as it is passed to the client logic, with the bytes received for it. -/
structure TcpFed where
  received : List UInt8
  spMsg : CBuffer
  /-- `ProcessResponse` succeeds. -/
  accepted : Bool

inductive TcpEnd where
  /-- `Initialize` fails; the loop is not entered. -/
  | notInitialized (hr : HRESULT)
  | socketFails (hr : HRESULT)
  /-- `Chk` of what `GetNextMessage` returned. -/
  | stops (hr : HRESULT)
  /-- The results are printed. -/
  | prints (results : StunClientResults)

namespace TcpClient

/-- The loop around `send`. -/
def sendAll (bytes_to_send : ℕ) : ℕ → List (Except HRESULT ℕ) → Except HRESULT Unit
  | _, [] => .ok ()
  | bytes_sent, ret :: sends =>
    if bytes_sent < bytes_to_send then
      match ret with
      | .error hr => .error hr
      | .ok n => sendAll bytes_to_send (bytes_sent + n) sends
    else .ok ()

/-- The variables of the loop around `recv`; `received` is what it has stored so far. -/
structure Receiving where
  reader : CStunMessageReader
  spMsg : CBuffer
  bytes_recv : ℕ
  received : List UInt8

namespace Receiving

/-- What `recv` is asked for, unless the loop is left before. -/
def readsize (s : Receiving) : Option ℕ :=
  let remaining := s.spMsg.getAllocatedSize - s.bytes_recv
  let readsize := s.reader.howManyBytesNeeded.toNat
  if remaining > 0 ∧ readsize ≠ 0 ∧ readsize ≤ remaining then some readsize else none

/-- The bytes are stored, the reader is fed, and the size is set. -/
def store (data : List UInt8) (s : Receiving) : Receiving :=
  let bytes_recv := s.bytes_recv + data.length
  let spMsg := CDataStream.poke s.spMsg s.bytes_recv data
  { reader := (s.reader.addBytes (some data) (UInt32.ofNat data.length)).2
    spMsg := (spMsg.setSize bytes_recv).2
    bytes_recv := bytes_recv
    received := s.received ++ data }

def loop : List TcpRecv → Receiving → Except HRESULT Receiving
  | [], s => .ok s
  | ret :: recvs, s =>
    match s.readsize with
    | none => .ok s
    | some readsize =>
      match ret with
      | .failed hr => .error hr
      | .received data => if data = [] then .ok s else loop recvs (s.store (data.take readsize))

end Receiving

/-- The response is read into the buffer that the request was sent from. -/
def receive (client : TcpClient) (recvs : List TcpRecv) : Except HRESULT Receiving :=
  Receiving.loop recvs
    { reader := client.reader.reset.attachStream client.spMsgReader
      spMsg := client.spMsg
      bytes_recv := 0
      received := [] }

/-- What is left of a pass once `GetNextMessage` has a message. -/
def exchange (turn : TcpTurn) (client : TcpClient) (addrDest : CSocketAddress) :
    Except TcpEnd (TcpFed × TcpClient) := do
  if FAILED turn.connect then throw (.socketFails turn.connect)
  match sendAll client.spMsg.getSize 0 turn.sends with
  | .error hr => throw (.socketFails hr)
  | .ok () =>
    match client.receive turn.recvs with
    | .error hr => throw (.socketFails hr)
    | .ok s =>
      let process := CStunClientLogic.processResponse s.spMsg addrDest turn.addrLocal
      return (⟨s.received, s.spMsg, process.succeeds client.clientlogic⟩,
        { clientlogic := process.after client.clientlogic
          spMsg := s.spMsg
          spMsgReader := s.reader.stream.sharedBuffer.getD client.spMsgReader
          reader := s.reader
          addrLocal := turn.addrLocal })

/-- A pass of the loop: what `GetNextMessage` returns, if it is called, and how the pass ends. -/
def pass (turn : TcpTurn) (client : TcpClient) :
    Option HRESULT × Except TcpEnd (TcpFed × TcpClient) :=
  if FAILED turn.tcpInit then (none, .error (.socketFails turn.tcpInit))
  else
    match CStunClientLogic.getNextMessage turn.entropy client.spMsg turn.timeCurrentMilliseconds
      client.clientlogic with
    | .error hr clientlogic =>
      (some hr, .error
        (if hr = E_STUNCLIENT_RESULTS_READY then .prints clientlogic.getResults else .stops hr))
    | .ok (spMsg, addrDest) clientlogic =>
      (some S_OK, exchange turn { client with clientlogic := clientlogic, spMsg := spMsg } addrDest)

end TcpClient

/-- All that `GetNextMessage` returns, all that is passed to `ProcessResponse`, and how the loop
ends if it does. -/
structure TcpRun where
  polls : List HRESULT
  fed : List (TcpTurn × TcpFed)
  ending : Option TcpEnd

namespace TcpClient

def loop : List TcpTurn → TcpClient → TcpRun
  | [], _ => ⟨[], [], none⟩
  | turn :: turns, client =>
    match client.pass turn with
    | (hrRet, .error ending) => ⟨hrRet.toList, [], some ending⟩
    | (hrRet, .ok (fed, client)) =>
      let run := loop turns client
      ⟨hrRet.toList ++ run.polls, (turn, fed) :: run.fed, run.ending⟩

/-- The variables in front of the loop. -/
def start (clientlogic : CStunClientLogic) (socketconfig : ClientSocketConfig) : TcpClient where
  clientlogic := clientlogic
  spMsg := .initWithAllocation 1500
  spMsgReader := .initWithAllocation 1500
  reader := .create
  addrLocal := socketconfig.addrLocal

end TcpClient

def tcpClientLoop (config : StunClientLogicConfig) (socketconfig : ClientSocketConfig)
    (turns : List TcpTurn) : TcpRun :=
  match CStunClientLogic.initializeWith config .create with
  | .error hr _ => ⟨[], [], some (.notInitialized hr)⟩
  | .ok () clientlogic => TcpClient.loop turns (.start clientlogic socketconfig)

end StunServer

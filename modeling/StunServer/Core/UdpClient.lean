import StunServer.Core.ClientMain
import StunServer.Core.UdpServer

/-! The loop of `client/clientmain.cpp` that runs the tests over UDP. What the system comes back
with is given to each pass; whether `sendto` succeeds is only logged. -/

namespace StunServer

open Bytes

/-- `GetMillisecondCounter`: the low 32 bits of the clock. -/
def getMillisecondCounter (milliseconds : ℕ) : UInt32 := UInt32.ofNat milliseconds

/-- The wait for a response: `select`, and `recvfromex` once the socket is ready. -/
inductive UdpWait where
  | timedOut
  | failed
  | ready (msg : RecvMsg)
deriving DecidableEq

/-- What one pass of the loop meets with. -/
structure UdpTurn where
  entropy : CStunMessageBuilder.Entropy
  milliseconds : ℕ
  wait : UdpWait

/-- The variables that live through the loop. -/
structure UdpClient where
  clientlogic : CStunClientLogic
  spMsg : CBuffer
  addrRemote : CSocketAddress
  addrLocal : CSocketAddress

/-- A response as it is passed to the client logic. -/
structure UdpFed where
  spMsg : CBuffer
  addrRemote : CSocketAddress
  addrLocal : CSocketAddress

/-- What a pass sends, and what it passes to the client logic. -/
structure UdpPassed where
  sent : Option (List UInt8 × CSocketAddress)
  fed : Option UdpFed

inductive UdpEnd where
  /-- `Initialize` fails, or there is no socket; the loop is not entered. -/
  | notInitialized (hr : HRESULT)
  | noSocket (hr : HRESULT)
  /-- `Chk` of what `GetNextMessage` returned. -/
  | stops (hr : HRESULT)
  /-- The results are printed. -/
  | prints (results : StunClientResults)

namespace UdpClient

section

variable (stunSocket : CStunSocket)

/-- What is left of a pass once `GetNextMessage` has been called. -/
def receive (wait : UdpWait) (client : UdpClient) : Option UdpFed × UdpClient :=
  let spMsg := (client.spMsg.setSize 0).2
  match wait with
  | .timedOut => (none, { client with spMsg := spMsg })
  | .failed => (none, { client with spMsg := spMsg })
  | .ready msg =>
    let res := recvfromex spMsg.getAllocatedSize msg client.addrRemote client.addrLocal
    let spMsg := { spMsg with data := overwrite spMsg.data 0 res.data }
    if res.ret > 0 then
      -- `recvfromex` does not fill in the port
      let addrLocal := res.dstAddr.setPort stunSocket.addrlocal.getPort
      let spMsg := (spMsg.setSize res.ret.toNat).2
      (some ⟨spMsg, res.srcAddr, addrLocal⟩,
        { clientlogic :=
            (CStunClientLogic.processResponse spMsg res.srcAddr addrLocal).after client.clientlogic
          spMsg := spMsg
          addrRemote := res.srcAddr
          addrLocal := addrLocal })
    else
      (none, { client with spMsg := spMsg, addrRemote := res.srcAddr, addrLocal := res.dstAddr })

/-- A pass of the loop. -/
def pass (turn : UdpTurn) (client : UdpClient) : Except UdpEnd (UdpPassed × UdpClient) :=
  let spMsg := (client.spMsg.setSize 0).2
  match CStunClientLogic.getNextMessage turn.entropy spMsg
    (getMillisecondCounter turn.milliseconds) client.clientlogic with
  | .ok (spMsg, addrDest) clientlogic =>
    let res := receive stunSocket turn.wait { client with clientlogic := clientlogic, spMsg := spMsg }
    .ok (⟨some (spMsg.bytes, addrDest), res.1⟩, res.2)
  | .error hrRet clientlogic =>
    if hrRet = E_STUNCLIENT_STILL_WAITING then
      let res := receive stunSocket turn.wait
        { client with clientlogic := clientlogic, spMsg := spMsg }
      .ok (⟨none, res.1⟩, res.2)
    else if hrRet = E_STUNCLIENT_RESULTS_READY then .error (.prints clientlogic.getResults)
    else .error (.stops hrRet)

end

end UdpClient

/-- What the passes come to, and how the loop ends if it does. -/
structure UdpRun where
  passes : List (UdpTurn × UdpPassed)
  ending : Option UdpEnd

namespace UdpClient

def loop (stunSocket : CStunSocket) : List UdpTurn → UdpClient → UdpRun
  | [], _ => ⟨[], none⟩
  | turn :: turns, client =>
    match client.pass stunSocket turn with
    | .error ending => ⟨[], some ending⟩
    | .ok (passed, client) =>
      let run := loop stunSocket turns client
      ⟨(turn, passed) :: run.passes, run.ending⟩

/-- The variables in front of the loop. -/
def start (clientlogic : CStunClientLogic) : UdpClient where
  clientlogic := clientlogic
  spMsg := .initWithAllocation MAX_STUN_MESSAGE_SIZE
  addrRemote := .create
  addrLocal := .create

end UdpClient

/-- `fds` are the descriptors that the process has. The option for the packet info is asked for,
but not insisted on. -/
def udpClientLoop (config : StunClientLogicConfig) (calls : SocketCalls) (fds : Finset ℕ)
    (turns : List UdpTurn) : UdpRun :=
  match CStunClientLogic.initializeWith config .create with
  | .error hr _ => ⟨[], some (.notInitialized hr)⟩
  | .ok () clientlogic =>
    match CStunSocket.initCommon .rolePP false calls fds .reset with
    | (hr, _, stunSocket) =>
      if FAILED hr then ⟨[], some (.noSocket hr)⟩
      else UdpClient.loop stunSocket turns (.start clientlogic)

end StunServer

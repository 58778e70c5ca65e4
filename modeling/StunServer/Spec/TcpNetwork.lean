import StunServer.Core.ClientMain
import StunServer.Proofs.TcpConnection
import StunServer.Spec.Network

/-! The loop over TCP, and the server: the connection of a pass is accepted at the endpoint that
it goes to, and what the client receives on it is what the server sends. -/

namespace StunServer

/-- A pass of the loop in which the calls of the client succeed, and the connection of the server
that it meets. -/
structure TcpExchange where
  entropy : CStunMessageBuilder.Entropy
  timeCurrentMilliseconds : UInt32
  /-- What each `send` of the client takes. -/
  sends : List ℕ
  /-- What each `recv` of the client finds, as far as it asks for that much. -/
  recvs : List ℕ
  /-- The connection that the server takes from its pool, and its socket. -/
  conn : StunConnection
  sock : Int
  /-- The events of the connection. -/
  calls : List ConnectionCall

namespace TcpClient

/-- The variables of the loop around `recv`, in front of it. -/
def attached (client : TcpClient) (spMsg : CBuffer) : Receiving :=
  ⟨client.reader.reset.attachStream client.spMsgReader, spMsg, 0, []⟩

/-- Bytes, as `recv` hands them over. -/
def Receiving.pieces : List ℕ → List UInt8 → Receiving → List TcpRecv
  | [], _, _ => []
  | n :: recvs, bytes, s =>
    match s.readsize with
    | none => []
    | some readsize =>
      let data := bytes.take (min (max n 1) readsize)
      .received data :: pieces recvs (bytes.drop data.length) (s.store data)

end TcpClient

namespace Site

variable (site : Site)

/-- What the server sends on a connection. -/
def served (exchange : TcpExchange) (addrDest : CSocketAddress) (data : List UInt8) : List UInt8 :=
  (site.grid.roleAt addrDest).elim [] fun role =>
    let opened := CConnectionPool.prepConnection exchange.sock role
      ⟨some addrDest, some (site.map addrDest)⟩ exchange.conn
    sentBytes ((Session.create opened data).run site.D site.grid.addrSet none exchange.calls).log

/-- The pass, as the loop meets with it. -/
def tcpTurn (client : TcpClient) (exchange : TcpExchange) : TcpTurn where
  tcpInit := S_OK
  entropy := exchange.entropy
  timeCurrentMilliseconds := exchange.timeCurrentMilliseconds
  connect := S_OK
  sends := exchange.sends.map .ok
  recvs :=
    match client.clientlogic.getNextMessage exchange.entropy client.spMsg
      exchange.timeCurrentMilliseconds with
    | .error _ _ => []
    | .ok (spMsg, addrDest) _ =>
      (client.attached spMsg).pieces exchange.recvs (site.served exchange addrDest spMsg.bytes)
  addrLocal := site.addrLocal

def tcpTurns : List TcpExchange → TcpClient → List TcpTurn
  | [], _ => []
  | exchange :: exchanges, client =>
    let turn := site.tcpTurn client exchange
    turn :: match (client.pass turn).2 with
      | .error _ => []
      | .ok (_, client) => tcpTurns exchanges client

end Site

/-- The calls of the server succeed, and both ends keep at it. -/
structure TcpExchange.Succeeds (site : Site) (exchange : TcpExchange) : Prop where
  pooled : Pooled site.D site.grid.addrSet none exchange.conn
  socket : exchange.sock ≠ -1
  smooth : ∀ call ∈ exchange.calls, call.Smooth
  events : 2 * MAX_STUN_MESSAGE_SIZE ≤ exchange.calls.countP (·.Eager)
  recvs : MAX_STUN_MESSAGE_SIZE ≤ exchange.recvs.length

end StunServer

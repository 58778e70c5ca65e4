import StunServer.Core.StunClientLogic
import StunServer.Proofs.Answer
import StunServer.Results.Reader

/-! A client behind a NAT, and a server at four endpoints. Requests reach the server; what
it sends back may be delayed, lost, duplicated or reordered on its way to the NAT. -/

namespace StunServer

open CStunRequestHandler

/-! ### The NAT -/

inductive FilterRule where
  | endpointIndependent
  | addressDependent
  | addressAndPortDependent
deriving DecidableEq, Repr

namespace FilterRule

/-- Whether a datagram passes once the endpoints `contacted` have been sent to. -/
def passes (contacted : List CSocketAddress) (source : CSocketAddress) : FilterRule → Bool
  | endpointIndependent => true
  | addressDependent => contacted.any fun addr => addr.isSameIP source
  | addressAndPortDependent => contacted.any fun addr => addr.isSameIP_and_Port source

def filtering : FilterRule → NatFiltering
  | endpointIndependent => .endpointIndependentFiltering
  | addressDependent => .addressDependentFiltering
  | addressAndPortDependent => .addressAndPortDependentFiltering

end FilterRule

/-! ### The server -/

/-- Two addresses of a family and two ports. -/
structure Grid where
  addrP : CSocketAddress
  addrA : CSocketAddress
  portP : UInt16
  portA : UInt16
  family : addrP.getFamily = addrA.getFamily
  distinct : addrP.isSameIP addrA = false
  addrP_ne : addrP.isIPAddressZero = false
  addrA_ne : addrA.isIPAddressZero = false
  ports : portP ≠ portA
  portP_ne : portP ≠ 0
  portA_ne : portA ≠ 0

namespace Grid

variable (grid : Grid)

def endpoint : SocketRole → CSocketAddress
  | .rolePP => grid.addrP.setPort grid.portP
  | .rolePA => grid.addrP.setPort grid.portA
  | .roleAP => grid.addrA.setPort grid.portP
  | .roleAA => grid.addrA.setPort grid.portA

/-- All four sockets are in use. -/
def addrSet : TransportAddressSet := ⟨fun role => ⟨grid.endpoint role, true⟩⟩

/-- The socket at an endpoint. -/
def roleAt (addr : CSocketAddress) : Option SocketRole :=
  [.rolePP, .rolePA, .roleAP, .roleAA].find? fun role => grid.endpoint role = addr

end Grid

/-! ### The client and what is between them -/

/-- A client configured for one of the endpoints, and the NAT in front of it. -/
structure Site where
  D : Digests
  grid : Grid
  target : SocketRole
  config : StunClientLogicConfig
  addrServer : config.addrServer = grid.endpoint target
  addrLocal : CSocketAddress
  /-- The address that the client has for whoever is at an endpoint. -/
  map : CSocketAddress → CSocketAddress
  map_ne : ∀ addr, (map addr).isIPAddressZero = false
  rule : FilterRule

/-- A request, with the test it was sent for. -/
structure Request where
  test : IStunClientTest
  addrDest : CSocketAddress
  data : List UInt8

structure World where
  client : CStunClientLogic
  /-- All requests so far. The server answers each, and none of its responses is used up. -/
  requests : List Request
  /-- The last result of `GetNextMessage`. -/
  polled : HRESULT
  /-- The tests whose responses pass the filter as it is when their request is sent. -/
  due : List IStunClientTest
  /-- The tests of which a response has come in while they were the current one. -/
  reached : List IStunClientTest

inductive Event where
  | poll (entropy : CStunMessageBuilder.Entropy) (spMsg : CBuffer)
      (timeCurrentMilliseconds : UInt32)
  /-- A response to one of the requests gets to the NAT. -/
  | deliver (index : ℕ)

namespace Site

variable (site : Site)

/-- The client, set up with the configuration. -/
def start : World where
  client := (CStunClientLogic.initializeWith site.config).after .create
  requests := []
  polled := S_OK
  due := []
  reached := []

/-- What `ProcessRequest` makes of a request, on the socket that the request goes to. -/
def respond (request : Request) : Option SentPacket :=
  (site.grid.roleAt request.addrDest).bind fun role =>
    packetOf (processRequest site.D
      ⟨role, request.addrDest, site.map request.addrDest, some (readBack request.data), false⟩
      ⟨.rolePP, .create, some (.initWithAllocation MAX_STUN_MESSAGE_SIZE)⟩
      (some site.grid.addrSet) none)

/-- The response to a request, if the NAT has a mapping for it and lets it through. -/
def arriving (requests : List Request) (request : Request) : Option SentPacket :=
  (site.respond request).filter fun packet =>
    requests.any (fun r => site.map r.addrDest = packet.addrDest) &&
      site.rule.passes (requests.map Request.addrDest) (site.grid.endpoint packet.socketrole)

def send (w : World) (client : CStunClientLogic) (request : Request) : World :=
  let requests := w.requests ++ [request]
  { w with
    client := client
    requests := requests
    polled := S_OK
    due := if (site.arriving requests request).isSome then request.test :: w.due else w.due }

def receive (w : World) (request : Request) (packet : SentPacket) : World :=
  { w with
    client := (CStunClientLogic.processResponse (.initNoAlloc packet.data)
      (site.grid.endpoint packet.socketrole) site.addrLocal).after w.client
    reached :=
      if w.client.currentTest = some request.test then request.test :: w.reached else w.reached }

def step (w : World) : Event → World
  | .poll entropy spMsg timeCurrentMilliseconds =>
    match w.client.getNextMessage entropy spMsg timeCurrentMilliseconds with
    | .error hr client => { w with client := client, polled := hr }
    | .ok (msg, addrDest) client =>
      match client.currentTest with
      | none => { w with client := client, polled := S_OK }
      | some test => site.send w client ⟨test, addrDest, msg.bytes⟩
  | .deliver index =>
    match w.requests[index]? with
    | none => w
    | some request =>
      match site.arriving w.requests request with
      | none => w
      | some packet => site.receive w request packet

def run (events : List Event) : World := events.foldl site.step site.start

/-! ### What the client should find -/

/-- The role with the other port, that with the other address, and that with both. -/
def rolePA : SocketRole := socketRoleSwapPort site.target
def roleAP : SocketRole := socketRoleSwapIP site.target
def roleAA : SocketRole := socketRoleSwapIP (socketRoleSwapPort site.target)

/-- The address that a socket of the server sees. -/
def mapped (role : SocketRole) : CSocketAddress := site.map (site.grid.endpoint role)

def behavior : NatBehavior :=
  if site.addrLocal = site.mapped site.target then .directMapping
  else if site.mapped site.roleAP = site.mapped site.target then .endpointIndependentMapping
  else if site.mapped site.roleAA = site.mapped site.roleAP then .addressDependentMapping
  else .addressAndPortDependentMapping

/-- The results have the addresses right. -/
structure Found (r : StunClientResults) : Prop where
  binding : r.fBindingTestSuccess = true
  direct : r.fIsDirect = true ↔ site.addrLocal = site.mapped site.target
  addrLocal : r.addrLocal = site.addrLocal
  addrMapped : r.addrMapped = site.mapped site.target
  hasOther : r.fHasOtherAddress = true
  addrPA : r.addrPA = site.grid.endpoint site.rolePA
  addrAP : r.addrAP = site.grid.endpoint site.roleAP
  addrAA : r.addrAA = site.grid.endpoint site.roleAA

/-- They also say what the NAT does, as far as that was asked for. -/
structure Classified (r : StunClientResults) : Prop extends site.Found r where
  behaviorSuccess : r.fBehaviorTestSuccess = site.config.fBehaviorTest
  behavior : r.behavior = if site.config.fBehaviorTest then site.behavior else .unknownBehavior
  filteringSuccess : r.fFilteringTestSuccess = site.config.fFilteringTest
  filtering : r.filtering =
    if site.config.fFilteringTest then site.rule.filtering else .unknownFiltering

end Site

/-- No two tests have drawn the same transaction id. -/
def CStunClientLogic.DistinctIds (c : CStunClientLogic) : Prop :=
  ∀ t t', t ≠ t' → isTransactionIdValid (c.test t).transid = true →
    (c.test t).transid ≠ (c.test t').transid

end StunServer

import StunServer.Common.RefCount
import StunServer.Core.TcpServer

/-! `CStunServer` and `CTCPServer`: the threads they set up for a configuration, and what becomes
of the pointers to an authentication provider that is created in `Initialize`. -/

namespace StunServer

structure CStunServerConfig where
  fHasPP : Bool
  fHasPA : Bool
  fHasAP : Bool
  fHasAA : Bool
  fMultiThreadedMode : Bool
  fTCP : Bool
  nMaxConnections : UInt32
  addrPP : CSocketAddress
  addrPA : CSocketAddress
  addrAP : CSocketAddress
  addrAA : CSocketAddress
  addrPrimaryAdvertised : CSocketAddress
  addrAlternateAdvertised : CSocketAddress
  fEnableDosProtection : Bool
  fReuseAddr : Bool
deriving DecidableEq

namespace CStunServerConfig

def create : CStunServerConfig where
  fHasPP := false
  fHasPA := false
  fHasAP := false
  fHasAA := false
  fMultiThreadedMode := false
  fTCP := false
  nMaxConnections := 0
  addrPP := .create
  addrPA := .create
  addrAP := .create
  addrAA := .create
  addrPrimaryAdvertised := .create
  addrAlternateAdvertised := .create
  fEnableDosProtection := false
  fReuseAddr := false

/-! The fields by role. -/

def fHas (config : CStunServerConfig) : SocketRole → Bool
  | .rolePP => config.fHasPP
  | .rolePA => config.fHasPA
  | .roleAP => config.fHasAP
  | .roleAA => config.fHasAA

def addr (config : CStunServerConfig) : SocketRole → CSocketAddress
  | .rolePP => config.addrPP
  | .rolePA => config.addrPA
  | .roleAP => config.addrAP
  | .roleAA => config.addrAA

def addrAdvertised (config : CStunServerConfig) : SocketRole → CSocketAddress
  | .rolePP => config.addrPrimaryAdvertised
  | .rolePA => config.addrPrimaryAdvertised
  | .roleAP => config.addrAlternateAdvertised
  | .roleAA => config.addrAlternateAdvertised

end CStunServerConfig

/-! ### The threads of `CTCPServer` -/

/-- The arguments of a call of `CTCPStunThread::Init`, without the provider and the limiter. -/
structure TcpInitCall where
  tsaListen : TransportAddressSet
  tsaHandler : TransportAddressSet
  maxConnections : ℤ

namespace CTCPServer

def initTSA (fValid : Bool) (addrListen addrAdvertise : CSocketAddress) : TransportAddress :=
  if fValid = false then ⟨.create, false⟩
  else if addrAdvertise.isIPAddressZero then ⟨addrListen, true⟩
  else ⟨addrAdvertise.setPort addrListen.getPort, true⟩

def tsaHandler (config : CStunServerConfig) : TransportAddressSet :=
  ⟨fun role => initTSA (config.fHas role) (config.addr role) (config.addrAdvertised role)⟩

def tsaListenAll (config : CStunServerConfig) : TransportAddressSet :=
  ⟨fun role => initTSA (config.fHas role) (config.addr role) .create⟩

/-- All but one of the addresses are taken out. -/
def tsaListen (config : CStunServerConfig) (threadindex : SocketRole) : TransportAddressSet :=
  ⟨fun temp => if temp = threadindex then (tsaListenAll config).set temp else ⟨.create, false⟩⟩

/-- The calls of `Init` that `Initialize` makes as long as they succeed. The limit is passed as
an `int`. -/
def initCalls (config : CStunServerConfig) : List TcpInitCall :=
  let maxConnections := config.nMaxConnections.toInt32.toInt
  if config.fMultiThreadedMode = false then
    [⟨tsaListenAll config, tsaHandler config, maxConnections⟩]
  else
    (CTCPStunThread.roles.filter fun threadindex =>
      ((tsaHandler config).set threadindex).fValid).map fun threadindex =>
        ⟨tsaListen config threadindex, tsaHandler config, maxConnections⟩

end CTCPServer

/-- What `CTCPStunThread::Init` says about its arguments, before any system call. -/
def TcpInitCall.checked (call : TcpInitCall) : Except HRESULT Unit :=
  (CTCPStunThread.init call.tsaListen call.tsaHandler none call.maxConnections
    (fun _ => -1) (-1) 0).map fun _ => ()

/-! ### The pointers to the provider -/

/-- The count, the final releases, and the pointers that are not null. -/
structure AuthView where
  m_nRefs : ℤ
  finalReleases : ℕ
  holders : ℕ
deriving DecidableEq, Repr

/-- The provider with all the pointers to it, and how they have been seen so far. -/
structure AuthState where
  provider : CBasicRefCount
  /-- The local variable of that name in `CStunServer::Initialize`. -/
  spAuthLocal : CRefCountedPtr
  /-- The member of the server. -/
  spAuth : CRefCountedPtr
  /-- The `_spAuth` of each thread object. -/
  threads : List CRefCountedPtr
  seen : List AuthView

namespace AuthState

def pointers (s : AuthState) : List CRefCountedPtr := s.spAuthLocal :: s.spAuth :: s.threads

def view (s : AuthState) : AuthView :=
  ⟨s.provider.m_nRefs, s.provider.finalReleases, s.pointers.countP CRefCountedPtr.m_ptr⟩

/-- Each change is seen. -/
def note (s : AuthState) : AuthState := { s with seen := s.seen ++ [s.view] }

/-- A new thread object, which attaches the pointer it is passed. -/
def attachThread (pAuth : Bool) (s : AuthState) : AuthState :=
  let (sp, provider) := CRefCountedPtr.null.attach pAuth s.provider
  { s with provider := provider, threads := s.threads ++ [sp] }.note

/-- A new thread object that comes to nothing. -/
def addThread (s : AuthState) : AuthState :=
  { s with threads := s.threads ++ [CRefCountedPtr.null] }.note

/-- The pointer of the last thread object is reset. -/
def resetThread (s : AuthState) : AuthState :=
  let (sp, provider) := (s.threads.getLast?.getD .null).releaseAndClear s.provider
  { s with provider := provider, threads := s.threads.dropLast ++ [sp] }.note

/-- The first thread object is deleted. -/
def deleteThread (s : AuthState) : AuthState :=
  let (_, provider) := (s.threads.head?.getD .null).releaseAndClear s.provider
  { s with provider := provider, threads := s.threads.tail }.note

def deleteThreads (s : AuthState) : AuthState := s.threads.foldl (fun s _ => s.deleteThread) s

def releaseLocal (s : AuthState) : AuthState :=
  let (sp, provider) := s.spAuthLocal.releaseAndClear s.provider
  { s with provider := provider, spAuthLocal := sp }.note

def releaseMember (s : AuthState) : AuthState :=
  let (sp, provider) := s.spAuth.releaseAndClear s.provider
  { s with provider := provider, spAuth := sp }.note

/-- `Shutdown` of either server: the threads are deleted, then the member is released. -/
def shutdown (s : AuthState) : AuthState := s.deleteThreads.releaseMember

end AuthState

inductive ServerCall where
  | start
  | stop
  | shutdown
  /-- The destructor. -/
  | destroy
deriving DecidableEq, Repr

/-! #### `CStunServer` -/

namespace CStunServer

/-- The provider is created into the local variable. -/
def created : AuthState :=
  AuthState.note ⟨.createInstance, .owner, .null, [], []⟩

/-- `AddSocket` for the roles that are configured, with what each call comes back with. -/
def addSockets (config : CStunServerConfig) (addSocket : SocketRole → HRESULT) :
    List SocketRole → Except HRESULT Unit
  | [] => .ok ()
  | role :: roles => do
    chkIf (config.fHas role = true ∧ FAILED (addSocket role) = true) (addSocket role)
    addSockets config addSocket roles

def openSockets (config : CStunServerConfig) (addSocket : SocketRole → HRESULT) :
    Except HRESULT Unit := do
  addSockets config addSocket CTCPStunThread.roles
  chkIf (∀ role ∈ CTCPStunThread.roles, config.fHas role = false) E_INVALIDARG

/-- One thread for all the sockets, or one for each of them. None of the checks in
`CStunSocketThread::Init` fails. -/
def initThreads (config : CStunServerConfig) (s : AuthState) : AuthState :=
  if config.fMultiThreadedMode = false then s.attachThread s.spAuthLocal.m_ptr
  else
    (CTCPStunThread.roles.filter config.fHas).foldl
      (fun s _ => s.attachThread s.spAuthLocal.m_ptr) s

/-- From the hook to the end of `Initialize`, where the local variable goes out of scope. -/
def initializeWith (config : CStunServerConfig) (addSocket : SocketRole → HRESULT) (s : AuthState) :
    AuthState :=
  match openSockets config addSocket with
  | .error _ => s.shutdown.releaseLocal
  | .ok () => (initThreads config s).releaseLocal

def call (s : AuthState) : ServerCall → AuthState
  | .start => s
  | .stop => s
  | .shutdown => s.shutdown
  | .destroy => s.shutdown.releaseMember

def run (config : CStunServerConfig) (addSocket : SocketRole → HRESULT)
    (calls : List ServerCall) : AuthState :=
  calls.foldl call (initializeWith config addSocket created)

end CStunServer

/-! #### `CTCPServer` -/

namespace CTCPServer

/-- The provider is created into the member. -/
def created : AuthState :=
  AuthState.note ⟨.createInstance, .null, .owner, [], []⟩

/-- `Init` of a new thread object. The pointer is attached once the arguments have been checked;
when one of the calls behind that fails, `Reset` releases it again. -/
def initThread (call : TcpInitCall) (rest : HRESULT) (s : AuthState) : HRESULT × AuthState :=
  match call.checked with
  | .error hr => (hr, s.addThread)
  | .ok () =>
    let s := s.attachThread s.spAuth.m_ptr
    if FAILED rest then (rest, s.resetThread) else (S_OK, s)

/-- The first failure ends it. The list says what comes of the calls behind the checks in each
`Init`. -/
def initThreads : List TcpInitCall → List HRESULT → AuthState → HRESULT × AuthState
  | [], _, s => (S_OK, s)
  | call :: calls, rests, s =>
    let (hr, s) := initThread call (rests.headD S_OK) s
    if FAILED hr then (hr, s) else initThreads calls rests.tail s

/-- From the hook to the end of `Initialize`. -/
def initializeWith (config : CStunServerConfig) (rests : List HRESULT) (s : AuthState) : AuthState :=
  let (hr, s) := initThreads (initCalls config) rests s
  if FAILED hr then s.shutdown else s

/-- `Stop` is `Shutdown`. -/
def call (s : AuthState) : ServerCall → AuthState
  | .start => s
  | .stop => s.shutdown
  | .shutdown => s.shutdown
  | .destroy => s.shutdown.releaseMember

def run (config : CStunServerConfig) (rests : List HRESULT) (calls : List ServerCall) : AuthState :=
  calls.foldl call (initializeWith config rests created)

end CTCPServer
end StunServer

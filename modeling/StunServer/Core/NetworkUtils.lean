import StunServer.Common.StringHelper
import StunServer.Core.SocketAddress

/-! `networkutils/adapters.cpp` and `resolvehostname.cpp`, over what the system knows of its
adapters and of names and address strings. -/

namespace StunServer

def DEFAULT_STUN_PORT : UInt16 := 3478

structure IfAddrs where
  ifa_name : Option (List UInt8)
  /-- `none` is a null pointer or an address of another family. -/
  ifa_addr : Option CSocketAddress
  fUp : Bool
  fLoopback : Bool
deriving DecidableEq

structure Host where
  getifaddrs : Except HRESULT (List IfAddrs)
  /-- The first address found for a name, if the call succeeds. -/
  getaddrinfo : List UInt8 → UInt16 → Bool → Except HRESULT (Option CSocketAddress)
  /-- The address bytes of a string that the function accepts. -/
  inet_pton4 : List UInt8 → Option UInt32
  inet_pton6 : List UInt8 → Option (List.Vector UInt8 16)

/-- `sa_family` of the address is the one asked for. -/
def IfAddrs.hasFamily (pAdapter : IfAddrs) (family : UInt16) : Bool :=
  pAdapter.ifa_addr.any fun addr => addr.getFamily = family

namespace Host

variable (host : Host)

/-- The first two adapters of the family that are up and not loopback. -/
def getDefaultAdapters (family : UInt16) (pList : List IfAddrs) :
    Option IfAddrs × Option IfAddrs :=
  match pList.filter fun p => p.hasFamily family && p.fUp && !p.fLoopback with
  | [] => (none, none)
  | [p] => (some p, none)
  | p :: p' :: _ => (some p, some p')

def hasAtLeastTwoAdapters (family : UInt16) : Bool :=
  match host.getifaddrs with
  | .error _ => false
  | .ok pList =>
    let (pAdapter1, pAdapter2) := getDefaultAdapters family pList
    pAdapter1.isSome && pAdapter2.isSome

def getBestAddressForSocketBind (fPrimary : Bool) (family port : UInt16) :
    Except HRESULT CSocketAddress := do
  let pList ← host.getifaddrs
  let (pAdapter1, pAdapter2) := getDefaultAdapters family pList
  match if fPrimary then pAdapter1 else pAdapter2 with
  | none => throw E_FAIL
  | some pAdapter =>
    match pAdapter.ifa_addr with
    | none => throw E_UNEXPECTED
    | some addr => return addr.setPort port

/-- An address of the family with the IP that the string stands for. -/
def parseAddress (family : UInt16) (psz : List UInt8) : Option CSocketAddress :=
  if family = AF_INET then (host.inet_pton4 (cstr psz)).map (CSocketAddress.addr4 0)
  else if family = AF_INET6 then (host.inet_pton6 (cstr psz)).map (CSocketAddress.addr6 0)
  else none

/-- The adapter of that name, or else the one with the address that the name spells. -/
def findAdapter (family : UInt16) (pszAdapterName : List UInt8) (pList : List IfAddrs) :
    Option IfAddrs :=
  (pList.find? fun p => p.hasFamily family && p.ifa_name.any (cstr · = cstr pszAdapterName)).or
    ((host.parseAddress family pszAdapterName).bind fun addr =>
      pList.find? fun p => p.ifa_addr.any addr.isSameIP)

def getSocketAddressForAdapter (family : UInt16) (pszAdapterName : List UInt8) (port : UInt16) :
    Except HRESULT CSocketAddress := do
  chkIf (StringHelper.isNullOrEmpty pszAdapterName = true) E_INVALIDARG
  let pList ← host.getifaddrs
  match (host.findAdapter family pszAdapterName pList).bind IfAddrs.ifa_addr with
  | none => throw E_FAIL
  | some addr => return addr.setPort port

def resolveHostName (pszHostName : List UInt8) (family : UInt16) (fNumericOnly : Bool) :
    Except HRESULT CSocketAddress := do
  let strHostName := StringHelper.trim (cstr pszHostName)
  chkIf (strHostName.length = 0) E_INVALIDARG
  match ← host.getaddrinfo strHostName family fNumericOnly with
  | none => throw E_FAIL
  | some addr => return addr

def numericIPToAddress (family : UInt16) (pszIP : List UInt8) : Except HRESULT CSocketAddress :=
  if family ≠ AF_INET ∧ family ≠ AF_INET6 then .error E_INVALIDARG
  else
    match host.parseAddress family pszIP with
    | none => .error E_FAIL
    | some addr => .ok addr

end Host
end StunServer

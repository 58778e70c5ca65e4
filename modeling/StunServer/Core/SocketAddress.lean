import StunServer.Core.StunTypes
import StunServer.Core.DataStream
import Mathlib.Data.Vector.Zip

/-! `CSocketAddress` and the address parser of `stuncore/stunutils.cpp`. The union is a
sum of its two families; ports and IPv4 addresses are held as the program holds them,
in network order. The flow label and scope of an IPv6 address are never looked at. -/

namespace StunServer

open Bytes

inductive CSocketAddress where
  | addr4 (sin_port : UInt16) (s_addr : UInt32)
  | addr6 (sin6_port : UInt16) (s6_addr : List.Vector UInt8 16)
deriving DecidableEq

def AF_INET : UInt16 := 2
def AF_INET6 : UInt16 := 10

namespace CSocketAddress

/-- The default address is `0.0.0.0:0`. -/
def create : CSocketAddress := addr4 0 0

def ofHostOrder (ipHostByteOrder : UInt32) (port : UInt16) : CSocketAddress :=
  addr4 (htons port) (htonl ipHostByteOrder)

def getFamily : CSocketAddress → UInt16
  | addr4 .. => AF_INET
  | addr6 .. => AF_INET6

def getPort_NBO : CSocketAddress → UInt16
  | addr4 port _ => port
  | addr6 port _ => port

def getPort (a : CSocketAddress) : UInt16 := ntohs a.getPort_NBO

def setPort (port : UInt16) : CSocketAddress → CSocketAddress
  | addr4 _ ip => addr4 (htons port) ip
  | addr6 _ ip => addr6 (htons port) ip

def getIPLength : CSocketAddress → ℕ
  | addr4 .. => STUN_IPV4_LENGTH
  | addr6 .. => STUN_IPV6_LENGTH

/-- The bytes copied to a buffer of `length` bytes, none when it is too small. -/
def getIPImpl (a : CSocketAddress) (length : ℕ) (fNBO : Bool) : List UInt8 :=
  if length < a.getIPLength then []
  else
    match a with
    | addr4 _ ip => mem32 (if fNBO then ip else htonl ip)
    | addr6 _ ip => ip.toList

def getIP (a : CSocketAddress) (length : ℕ) : List UInt8 := a.getIPImpl length false

def getIP_NBO (a : CSocketAddress) (length : ℕ) : List UInt8 := a.getIPImpl length true

def applyStunXorMap (transid : StunTransactionId) : CSocketAddress → CSocketAddress
  | addr4 port ip =>
    addr4 (load16 (List.zipWith (· ^^^ ·) (mem16 port) transid.toList))
      (load32 (List.zipWith (· ^^^ ·) (mem32 ip) transid.toList))
  | addr6 port ip =>
    addr6 (load16 (List.zipWith (· ^^^ ·) (mem16 port) transid.toList))
      (List.Vector.zipWith (· ^^^ ·) ip transid)

def isSameIP : CSocketAddress → CSocketAddress → Bool
  | addr4 _ ip, addr4 _ ip' => mem32 ip = mem32 ip'
  | addr6 _ ip, addr6 _ ip' => ip.toList = ip'.toList
  | _, _ => false

def isSameIP_and_Port (a other : CSocketAddress) : Bool :=
  a.isSameIP other && (a.getPort = other.getPort)

def isIPAddressZero : CSocketAddress → Bool
  | addr4 _ ip => mem32 ip = List.replicate 4 0
  | addr6 _ ip => ip.toList = List.replicate 16 0

end CSocketAddress

/-- `GetMappedAddress`: parse the value of an address attribute. -/
def getMappedAddress (pData : List UInt8) : Except HRESULT CSocketAddress :=
  let parse : Hr CDataStream CSocketAddress := do
    CDataStream.seekDirect 1 -- skip over the zero byte
    let attributeid ← CDataStream.readUint8
    let port ← CDataStream.readUint16
    let port := ntohs port
    if attributeid = STUN_ATTRIBUTE_FIELD_IPV4 then
      let ip4 ← CDataStream.readUint32
      return CSocketAddress.ofHostOrder (ntohl ip4) port
    else
      let ip6 ← CDataStream.read STUN_IPV6_LENGTH
      return CSocketAddress.addr6 (htons port) ip6
  match parse (CDataStream.ofBuffer (CBuffer.initNoAlloc pData)) with
  | .ok addr _ => .ok addr
  | .error e _ => .error e

end StunServer

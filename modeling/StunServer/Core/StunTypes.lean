import Mathlib.Data.Vector.Basic

/-! Constants and enumerations of `stuncore/stuntypes.h` and `stuncore/socketrole.h`,
and the digest functions of the libraries the program links against. -/

namespace StunServer

def STUN_ATTRIBUTE_MAPPEDADDRESS : UInt16 := 0x0001
def STUN_ATTRIBUTE_CHANGEREQUEST : UInt16 := 0x0003
def STUN_ATTRIBUTE_SOURCEADDRESS : UInt16 := 0x0004
def STUN_ATTRIBUTE_CHANGEDADDRESS : UInt16 := 0x0005
def STUN_ATTRIBUTE_USERNAME : UInt16 := 0x0006
def STUN_ATTRIBUTE_LEGACY_PASSWORD : UInt16 := 0x0007
def STUN_ATTRIBUTE_MESSAGEINTEGRITY : UInt16 := 0x0008
def STUN_ATTRIBUTE_ERRORCODE : UInt16 := 0x0009
def STUN_ATTRIBUTE_UNKNOWNATTRIBUTES : UInt16 := 0x000A
def STUN_ATTRIBUTE_REALM : UInt16 := 0x0014
def STUN_ATTRIBUTE_NONCE : UInt16 := 0x0015
def STUN_ATTRIBUTE_XORMAPPEDADDRESS : UInt16 := 0x0020
def STUN_ATTRIBUTE_PADDING : UInt16 := 0x0026
def STUN_ATTRIBUTE_RESPONSE_PORT : UInt16 := 0x0027
def STUN_ATTRIBUTE_XORMAPPEDADDRESS_OPTIONAL : UInt16 := 0x8020
def STUN_ATTRIBUTE_FINGERPRINT : UInt16 := 0x8028
def STUN_ATTRIBUTE_RESPONSE_ORIGIN : UInt16 := 0x802b
def STUN_ATTRIBUTE_OTHER_ADDRESS : UInt16 := 0x802c

def STUN_ATTRIBUTE_FIELD_IPV4 : UInt8 := 1
def STUN_ATTRIBUTE_FIELD_IPV6 : UInt8 := 2

def STUN_IPV4_LENGTH : ℕ := 4
def STUN_IPV6_LENGTH : ℕ := 16

def STUN_ERROR_BADREQUEST : UInt16 := 400
def STUN_ERROR_UNAUTHORIZED : UInt16 := 401
def STUN_ERROR_UNKNOWNATTRIB : UInt16 := 420
def STUN_ERROR_STALENONCE : UInt16 := 438

def STUN_ATTRIBUTE_MAPPEDADDRESS_SIZE_IPV4 : UInt16 := 8
def STUN_ATTRIBUTE_MAPPEDADDRESS_SIZE_IPV6 : UInt16 := 20
def STUN_ATTRIBUTE_RESPONSE_PORT_SIZE : UInt16 := 2
def STUN_ATTRIBUTE_CHANGEREQUEST_SIZE : UInt16 := 4

def STUN_COOKIE : UInt32 := 0x2112A442
def STUN_FINGERPRINT_XOR : UInt32 := 0x5354554e

def STUN_HEADER_SIZE : ℕ := 20
def MAX_STUN_MESSAGE_SIZE : ℕ := 800
def MAX_STUN_ATTRIBUTE_SIZE : ℕ := 780
def MAX_STUN_AUTH_STRING_SIZE : ℕ := 64

inductive StunMessageClass where
  | request
  | indication
  | successResponse
  | failureResponse
  | invalidMessageClass
deriving DecidableEq, Repr

def StunMessageClass.code : StunMessageClass → UInt16
  | request => 0x00
  | indication => 0x01
  | successResponse => 0x02
  | failureResponse => 0x03
  | invalidMessageClass => 0xff

/-- `StunMessageType` is the method number; `StunMsgTypeBinding` is the one in use. -/
def StunMsgTypeBinding : UInt16 := 0x0001

structure StunAttribute where
  attributeType : UInt16
  size : UInt16
  offset : UInt16
deriving DecidableEq, Repr

structure StunChangeRequestAttribute where
  fChangeIP : Bool
  fChangePort : Bool
deriving DecidableEq, Repr

def STUN_IS_REQUEST (msgType : UInt16) : Bool := msgType &&& 0x0110 = 0x0000
def STUN_IS_INDICATION (msgType : UInt16) : Bool := msgType &&& 0x0110 = 0x0010
def STUN_IS_SUCCESS_RESP (msgType : UInt16) : Bool := msgType &&& 0x0110 = 0x0100
def STUN_IS_ERR_RESP (msgType : UInt16) : Bool := msgType &&& 0x0110 = 0x0110

/-- `STUN_TRANSACTION_ID_LENGTH` bytes, usually the cookie and twelve more. -/
abbrev StunTransactionId := List.Vector UInt8 16

inductive NatBehavior where
  | unknownBehavior
  | directMapping
  | endpointIndependentMapping
  | addressDependentMapping
  | addressAndPortDependentMapping
deriving DecidableEq, Repr

inductive NatFiltering where
  | unknownFiltering
  | directConnectionFiltering
  | endpointIndependentFiltering
  | addressDependentFiltering
  | addressAndPortDependentFiltering
deriving DecidableEq, Repr

/-- Primary or alternate address, primary or alternate port. The type has no other
values, so `IsValidSocketRole` always holds. -/
inductive SocketRole where
  | rolePP
  | rolePA
  | roleAP
  | roleAA
deriving DecidableEq, Repr

namespace SocketRole

def code : SocketRole → Fin 4
  | rolePP => 0
  | rolePA => 1
  | roleAP => 2
  | roleAA => 3

def ofCode : Fin 4 → SocketRole
  | 0 => rolePP
  | 1 => rolePA
  | 2 => roleAP
  | 3 => roleAA

end SocketRole

def socketRoleSwapPort (sr : SocketRole) : SocketRole := .ofCode (sr.code ^^^ 0x01)

def socketRoleSwapIP (sr : SocketRole) : SocketRole := .ofCode (sr.code ^^^ 0x02)

/-- HMAC-SHA1 and MD5 come from OpenSSL, CRC-32 from boost. Feeding a digest in pieces
is feeding it their concatenation. -/
structure Digests where
  hmacSha1 : List UInt8 → List UInt8 → List.Vector UInt8 20
  md5 : List UInt8 → List.Vector UInt8 16
  crc32 : List UInt8 → UInt32

end StunServer

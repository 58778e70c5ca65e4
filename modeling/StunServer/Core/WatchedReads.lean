import StunServer.Lib.Span
import StunServer.Common.Watched
import StunServer.Core.StunReader

/-! The accessors of the reader once more, on memory that notes the bytes they read. -/

namespace StunServer

open Bytes

/-- A stream, and the bytes of a message that have been read. -/
abbrev WatchedStream := Watched Span CDataStream

namespace WatchedStream

open Watched

/-- `n` bytes read through the data pointer of the message. -/
def peek (off n : ℕ) : Hr WatchedStream (List.Vector UInt8 n) := do
  let stream ← getObject
  note ⟨off, n⟩
  return stream.peek off n

/-- As many bytes as there are, read through the data pointer of the message. -/
def copy (off n : ℕ) : Hr WatchedStream (List UInt8) := do
  let stream ← getObject
  note ⟨off, n⟩
  return slice stream.data off n

section

-- where in the message the memory of the stream starts
variable (base : ℕ)

/-- `Read` copies only what it has checked. -/
def read (size : ℕ) : Hr WatchedStream (List.Vector UInt8 size) := fun w =>
  match CDataStream.read size w.object with
  | .ok v s => .ok v ⟨s, w.events ++ [⟨base + w.object.pos, size⟩]⟩
  | .error e s => .error e ⟨s, w.events⟩

def readUint8 : Hr WatchedStream UInt8 := do
  let v ← read base 1
  return v.head

def readUint16 : Hr WatchedStream UInt16 := do
  let v ← read base 2
  return load16 v.toList

def readUint32 : Hr WatchedStream UInt32 := do
  let v ← read base 4
  return load32 v.toList

def getMappedAddress : Hr WatchedStream CSocketAddress := do
  quiet (CDataStream.seekDirect 1) -- skip over the zero byte
  let attributeid ← readUint8 base
  let port ← readUint16 base
  let port := ntohs port
  if attributeid = STUN_ATTRIBUTE_FIELD_IPV4 then
    let ip4 ← readUint32 base
    return CSocketAddress.ofHostOrder (ntohl ip4) port
  else
    let ip6 ← read base STUN_IPV6_LENGTH
    return CSocketAddress.addr6 (htons port) ip6

def feedChunks : ℕ → List UInt8 → Hr WatchedStream (List UInt8)
  | 0, ctx => pure ctx
  | nChunks + 1, ctx => do
    let chunk32 ← readUint32 base
    feedChunks nChunks (ctx ++ mem32 chunk32)

def feedHmac (fFingerprintAdjustment : Bool) (offset : UInt16) :
    Hr WatchedStream (List UInt8) := do
  let chunk16 ← readUint16 base
  let ctx := mem16 chunk16
  let chunk16 ← readUint16 base
  let chunk16 := if fFingerprintAdjustment then htons (ntohs chunk16 - 8) else chunk16
  let ctx := ctx ++ mem16 chunk16
  let len := offset.toNat - 4 - 4
  feedChunks base (len / 4) ctx

end

end WatchedStream

namespace CStunMessageReader

open Watched WatchedStream

def getErrorCodeWatched (r : CStunMessageReader) : Hr WatchedStream UInt16 :=
  match r.mapAttributes.lookup STUN_ATTRIBUTE_ERRORCODE with
  | none => throw E_FAIL
  | some pAttrib => do
    let ptr ← peek (pAttrib.offset.toNat + 2) 2
    let cl := ptr.get 0 &&& 0x07
    let num := ptr.get 1
    return cl.toUInt16 * 100 + num.toUInt16

def getResponsePortWatched (r : CStunMessageReader) : Hr WatchedStream UInt16 :=
  match r.mapAttributes.lookup STUN_ATTRIBUTE_RESPONSE_PORT with
  | none => throw E_FAIL
  | some pAttrib =>
    if pAttrib.size ≠ STUN_ATTRIBUTE_RESPONSE_PORT_SIZE then throw E_UNEXPECTED
    else do
      let portNBO ← peek pAttrib.offset.toNat 2
      return ntohs (load16 portNBO.toList)

def getChangeRequestWatched (r : CStunMessageReader) :
    Hr WatchedStream StunChangeRequestAttribute :=
  match r.mapAttributes.lookup STUN_ATTRIBUTE_CHANGEREQUEST with
  | none => throw E_FAIL
  | some pAttrib =>
    if pAttrib.size ≠ STUN_ATTRIBUTE_CHANGEREQUEST_SIZE then throw E_UNEXPECTED
    else do
      let value ← peek pAttrib.offset.toNat 4
      let value := ntohl (load32 value.toList)
      return ⟨value &&& 0x0004 ≠ 0, value &&& 0x0002 ≠ 0⟩

def getAddressHelperWatched (r : CStunMessageReader) (attribType : UInt16) :
    Hr WatchedStream CSocketAddress :=
  match r.mapAttributes.lookup attribType with
  | none => throw E_FAIL
  | some pAttrib =>
    let pAddrStart := slice r.stream.data pAttrib.offset.toNat pAttrib.size.toNat
    through (.ofBuffer (.initNoAlloc pAddrStart))
      (WatchedStream.getMappedAddress pAttrib.offset.toNat)

def getMappedAddressWatched (r : CStunMessageReader) : Hr WatchedStream CSocketAddress :=
  r.getAddressHelperWatched STUN_ATTRIBUTE_MAPPEDADDRESS

def getOtherAddressWatched (r : CStunMessageReader) : Hr WatchedStream CSocketAddress :=
  orElse (r.getAddressHelperWatched STUN_ATTRIBUTE_OTHER_ADDRESS)
    (r.getAddressHelperWatched STUN_ATTRIBUTE_CHANGEDADDRESS)

def getXorMappedAddressWatched (r : CStunMessageReader) : Hr WatchedStream CSocketAddress := do
  let addr ← orElse (r.getAddressHelperWatched STUN_ATTRIBUTE_XORMAPPEDADDRESS)
    (r.getAddressHelperWatched STUN_ATTRIBUTE_XORMAPPEDADDRESS_OPTIONAL)
  return addr.applyStunXorMap r.transactionid

def getResponseOriginAddressWatched (r : CStunMessageReader) :
    Hr WatchedStream CSocketAddress :=
  orElse (r.getAddressHelperWatched STUN_ATTRIBUTE_RESPONSE_ORIGIN)
    (r.getAddressHelperWatched STUN_ATTRIBUTE_SOURCEADDRESS)

def getStringAttributeByTypeWatched (r : CStunMessageReader) (attributeType : UInt16) {size : ℕ}
    (pszValue : List.Vector UInt8 size) : Hr WatchedStream (List.Vector UInt8 size) :=
  match r.mapAttributes.lookup attributeType with
  | none => throw E_INVALIDARG
  | some pAttrib =>
    if pAttrib.size.toNat ≥ size then throw E_INVALIDARG
    else do
      let value ← copy pAttrib.offset.toNat pAttrib.size.toNat
      return memcpy pszValue (value ++ [0])

section

variable (D : Digests)

/-- Success stands for the value `true`. -/
def isFingerprintAttributeValidWatched (r : CStunMessageReader) : Hr WatchedStream Unit :=
  match r.mapAttributes.lookup STUN_ATTRIBUTE_FINGERPRINT with
  | none => throw E_FAIL
  | some pAttrib =>
    if pAttrib.attributeType ≠ STUN_ATTRIBUTE_FINGERPRINT then throw E_FAIL
    else if pAttrib.size ≠ 4 then throw E_FAIL
    else if r.state ≠ .bodyValidated then throw E_FAIL
    else
      let size := r.stream.getSize
      if size < STUN_HEADER_SIZE then throw E_FAIL
      else do
        let crc ← copy 0 (size - 8)
        let computedValue := D.crc32 crc ^^^ STUN_FINGERPRINT_XOR
        let readValue ← peek pAttrib.offset.toNat 4
        let readValue := ntohl (load32 readValue.toList)
        if readValue = computedValue then return else throw E_FAIL

def validateMessageIntegrityWatched (r : CStunMessageReader) (key : List UInt8) :
    Hr WatchedStream Unit :=
  let lastAttributeIndex := r.countAttributes - 1
  if r.state ≠ .bodyValidated then throw E_FAIL
  else if r.countAttributes = 0 then throw E_FAIL
  else if r.indexMessageIntegrity = -1 then throw E_FAIL
  else if key.length = 0 then throw E_INVALIDARG
  else
    match r.mapAttributes.lookup STUN_ATTRIBUTE_MESSAGEINTEGRITY with
    | none => throw E_FAIL
    | some pAttribIntegrity =>
      if pAttribIntegrity.size ≠ 20 then throw E_FAIL
      else if ¬ (r.indexMessageIntegrity = lastAttributeIndex ∨
          (r.indexMessageIntegrity = lastAttributeIndex - 1 ∧
            r.indexFingerprint = lastAttributeIndex)) then throw E_FAIL
      else do
        let fFingerprintAdjustment := decide (r.indexMessageIntegrity = lastAttributeIndex - 1)
        let stream := { CDataStream.create with pBuffer := r.stream.pBuffer }
        let ctx ← through stream
          (WatchedStream.feedHmac 0 fFingerprintAdjustment pAttribIntegrity.offset)
        let hmaccomputed := D.hmacSha1 key ctx
        let hash ← peek pAttribIntegrity.offset.toNat 20
        if hmaccomputed = hash then return else throw E_FAIL

end

/-- The memory of the message, nothing of it read. -/
def watched (r : CStunMessageReader) : WatchedStream := .start r.stream

end CStunMessageReader

end StunServer

import StunServer.Core.SocketAddress

/-! `CStunMessageBuilder`. A `const char*` argument is the memory it points to; every
method but `AddMessageIntegrityShortTerm` treats a null pointer as an empty string.
`AddUnknownAttributes` refuses a null array as it refuses an empty one. -/

namespace StunServer

open Bytes

structure CStunMessageBuilder where
  stream : CDataStream
  transactionid : StunTransactionId
  fLegacyMode : Bool

namespace CStunMessageBuilder

def create : CStunMessageBuilder :=
  ⟨CDataStream.create, List.Vector.replicate _ 0, false⟩

def setLegacyMode (b : CStunMessageBuilder) (fLegacyMode : Bool) : CStunMessageBuilder :=
  { b with fLegacyMode := fLegacyMode }

/-- `GetStream().Attach(buf, true)`. -/
def attachStream (b : CStunMessageBuilder) (buf : CBuffer) : CStunMessageBuilder :=
  { b with stream := b.stream.attach buf true }

/-- A call on `_stream`. -/
def onStream {α : Type} (m : Hr CDataStream α) : Hr CStunMessageBuilder α :=
  Hr.on stream (fun b s => { b with stream := s }) m

def writeUint8 (val : UInt8) : Hr CStunMessageBuilder Unit := onStream (CDataStream.writeUint8 val)

def writeUint16 (val : UInt16) : Hr CStunMessageBuilder Unit :=
  onStream (CDataStream.writeUint16 val)

def write (data : List UInt8) : Hr CStunMessageBuilder Unit :=
  onStream (CDataStream.write (some data) data.length)

/-- The type and class bits, with the leading zero bits, merged into one field. -/
def mergeType (msgType : UInt16) (msgClass : StunMessageClass) : UInt16 :=
  let msgTypeField := (msgType &&& (0x0f80 : UInt16)) <<< 2
  let msgTypeField := msgTypeField ||| ((msgType &&& (0x0070 : UInt16)) <<< 1)
  let msgTypeField := msgTypeField ||| (msgType &&& (0x000f : UInt16))
  let msgTypeField := msgTypeField ||| ((msgClass.code &&& (0x02 : UInt16)) <<< 7)
  msgTypeField ||| ((msgClass.code &&& (0x01 : UInt16)) <<< 4)

def addHeader (msgType : UInt16) (msgClass : StunMessageClass) : Hr CStunMessageBuilder Unit := do
  onStream (CDataStream.setSizeHint 200)
  writeUint16 (htons (mergeType msgType msgClass))
  writeUint16 0 -- place holder for length

def addBindingRequestHeader : Hr CStunMessageBuilder Unit := addHeader StunMsgTypeBinding .request

def addTransactionId (transid : StunTransactionId) : Hr CStunMessageBuilder Unit := do
  modify fun b => { b with transactionid := transid }
  write transid.toList

/-- What a new transaction id is made from: the results of eight calls of `rand() % 256`,
and what the local variable held before. -/
structure Entropy where
  rand : List.Vector UInt8 8
  transid : StunTransactionId

/-- The cookie and the random bytes are stored; nothing is stored behind them. -/
def randomTransactionId (entropy : Entropy) : StunTransactionId :=
  memcpy entropy.transid (mem32 (htonl STUN_COOKIE) ++ entropy.rand.toList)

/-- The id is also handed to the caller. -/
def addRandomTransactionId (entropy : Entropy) : Hr CStunMessageBuilder Unit :=
  addTransactionId (randomTransactionId entropy)

def addAttributeHeader (attribType size : UInt16) : Hr CStunMessageBuilder Unit := do
  writeUint16 (htons attribType)
  writeUint16 (htons size)

/-- The zero bytes that bring a value of `size` bytes to a 4-byte boundary. -/
def padding (size : ℕ) : ℕ := if size % 4 ≠ 0 then 4 - size % 4 else 0

def writePadding (padding : ℕ) : Hr CStunMessageBuilder Unit := do
  if padding > 0 then
    write (List.replicate padding 0)

def addAttribute (attribType : UInt16) (data : Option (List UInt8)) (size : UInt16) :
    Hr CStunMessageBuilder Unit := do
  let sizeheader := size
  let size := if data = none then 0 else size
  let pad := padding size.toNat
  -- in legacy mode the size in the header includes the padding
  let sizeheader :=
    if (← get).fLegacyMode then sizeheader + UInt16.ofNat pad else sizeheader
  addAttributeHeader attribType sizeheader
  if size > 0 then
    onStream (CDataStream.write data size.toNat)
  writePadding pad

def addStringAttribute (attribType : UInt16) (pstr : List UInt8) : Hr CStunMessageBuilder Unit := do
  Hr.chkIf (strlen pstr = 0) E_INVALIDARG
  addAttribute attribType (some (cstr pstr)) (UInt16.ofNat (strlen pstr))

def addErrorCode (errorNumber : UInt16) (pszReason : List UInt8) : Hr CStunMessageBuilder Unit := do
  let strsize := strlen pszReason
  let size := strsize + 4
  Hr.chkIf (strsize ≥ 128) E_INVALIDARG
  Hr.chkIf (errorNumber < 300) E_INVALIDARG
  Hr.chkIf (errorNumber > 600) E_INVALIDARG
  let pad := padding size
  let sizeheader := if (← get).fLegacyMode then size + pad else size
  addAttributeHeader STUN_ATTRIBUTE_ERRORCODE (UInt16.ofNat sizeheader)
  onStream (CDataStream.writeInt16 0)
  writeUint8 (errorNumber / 100).toUInt8
  writeUint8 (errorNumber % 100).toUInt8
  if strsize > 0 then
    Hr.ignore (write (cstr pszReason))
  writePadding pad

def addUnknownAttributes (arr : List UInt16) : Hr CStunMessageBuilder Unit := do
  let count := arr.length
  let unpaddedsize := UInt16.ofNat (count * 2)
  Hr.chkIf (count = 0) E_INVALIDARG
  -- legacy clients cannot handle padding, so an odd list has its last member twice
  let fPad := (← get).fLegacyMode && count % 2 ≠ 0
  let size := if fPad then unpaddedsize + 2 else unpaddedsize
  addAttributeHeader STUN_ATTRIBUTE_UNKNOWNATTRIBUTES size
  onStream (CDataStream.write (some (arr.flatMap mem16)) unpaddedsize.toNat)
  if fPad then
    Hr.ignore (write (mem16 (arr.getLastD 0)))

def addMappedAddressImpl (attribType : UInt16) (addr : CSocketAddress) :
    Hr CStunMessageBuilder Unit := do
  let family :=
    if addr.getFamily = AF_INET then STUN_ATTRIBUTE_FIELD_IPV4 else STUN_ATTRIBUTE_FIELD_IPV6
  let attributeSize :=
    if family = STUN_ATTRIBUTE_FIELD_IPV4 then STUN_ATTRIBUTE_MAPPEDADDRESS_SIZE_IPV4
    else STUN_ATTRIBUTE_MAPPEDADDRESS_SIZE_IPV6
  addAttributeHeader attribType attributeSize
  let port := addr.getPort_NBO
  let ip := addr.getIP_NBO STUN_IPV6_LENGTH
  writeUint8 0
  writeUint8 family
  writeUint16 port
  write ip

def addXorMappedAddress (addr : CSocketAddress) : Hr CStunMessageBuilder Unit := do
  let b ← get
  let attributeID :=
    if b.fLegacyMode then STUN_ATTRIBUTE_XORMAPPEDADDRESS_OPTIONAL
    else STUN_ATTRIBUTE_XORMAPPEDADDRESS
  addMappedAddressImpl attributeID (addr.applyStunXorMap b.transactionid)

def addMappedAddress (addr : CSocketAddress) : Hr CStunMessageBuilder Unit :=
  addMappedAddressImpl STUN_ATTRIBUTE_MAPPEDADDRESS addr

def addResponseOriginAddress (addr : CSocketAddress) : Hr CStunMessageBuilder Unit := do
  let attribid :=
    if (← get).fLegacyMode then STUN_ATTRIBUTE_SOURCEADDRESS else STUN_ATTRIBUTE_RESPONSE_ORIGIN
  addMappedAddressImpl attribid addr

def addOtherAddress (addr : CSocketAddress) : Hr CStunMessageBuilder Unit := do
  let attribid :=
    if (← get).fLegacyMode then STUN_ATTRIBUTE_CHANGEDADDRESS else STUN_ATTRIBUTE_OTHER_ADDRESS
  addMappedAddressImpl attribid addr

def addResponsePort (port : UInt16) : Hr CStunMessageBuilder Unit :=
  -- convert to network byte order
  addAttribute STUN_ATTRIBUTE_RESPONSE_PORT (some (mem16 (htons port))) 2

def PADDING_BUFFER_SIZE : UInt16 := 128

/-- Every turn writes at least one byte, so fuel for every byte is enough. -/
def writePaddingBlocks : ℕ → UInt16 → Hr CStunMessageBuilder Unit
  | 0, _ => pure ()
  | fuel + 1, paddingSize =>
    if paddingSize > 0 then do
      let blocksize :=
        if paddingSize ≥ PADDING_BUFFER_SIZE then PADDING_BUFFER_SIZE else paddingSize
      write (List.replicate blocksize.toNat 0)
      writePaddingBlocks fuel (paddingSize - blocksize)
    else pure ()

def addPaddingAttribute (paddingSize : UInt16) : Hr CStunMessageBuilder Unit := do
  -- round up so we're a multiple of 4
  let paddingSize :=
    if paddingSize % 4 ≠ 0 then paddingSize + 4 - paddingSize % 4 else paddingSize
  addAttributeHeader STUN_ATTRIBUTE_PADDING paddingSize
  writePaddingBlocks paddingSize.toNat paddingSize

def addChangeRequest (changeAttrib : StunChangeRequestAttribute) : Hr CStunMessageBuilder Unit :=
  let changeData : UInt32 := 0
  let changeData := if changeAttrib.fChangeIP then changeData ||| 0x04 else changeData
  let changeData := if changeAttrib.fChangePort then changeData ||| 0x02 else changeData
  addAttribute STUN_ATTRIBUTE_CHANGEREQUEST (some (mem32 (htonl changeData))) 4

def fixLengthField : Hr CStunMessageBuilder Unit := do
  let size := (← get).stream.getSize
  let currentPos := (← get).stream.getPos
  Hr.chkIf (size < STUN_HEADER_SIZE) E_UNEXPECTED
  let size := size - STUN_HEADER_SIZE
  onStream (CDataStream.seekDirect 2) -- 2 bytes into the stream is the length
  writeUint16 (ntohs (UInt16.ofNat size))
  onStream (CDataStream.seekDirect currentPos)

/-- The buffer handed to the caller, with its size set to what was written. -/
def getResult : Hr CStunMessageBuilder (Option CBuffer) := do
  fixLengthField
  return (← get).stream.pBuffer

section

variable (D : Digests)

def addFingerprintAttribute : Hr CStunMessageBuilder Unit := do
  writeUint16 (htons STUN_ATTRIBUTE_FINGERPRINT)
  writeUint16 (htons 4) -- field length is 4 bytes
  onStream (CDataStream.writeUint32 0) -- dummy value for start
  fixLengthField
  -- now do a CRC-32 on everything but the last 8 bytes
  let s := (← get).stream
  let value := D.crc32 (s.data.take (s.getSize - 8)) ^^^ STUN_FINGERPRINT_XOR
  onStream (CDataStream.seekRelative (-4))
  onStream (CDataStream.writeUint32 (htonl value))

/-- Bytes stored straight into the stream's buffer. -/
def storeInBuffer (pos : ℕ) (bytes : List UInt8) : Hr CStunMessageBuilder Unit :=
  modify fun b =>
    { b with stream := { b.stream with
        pBuffer := b.stream.pBuffer.map fun buf => CDataStream.poke buf pos bytes } }

def addMessageIntegrityImpl (key : List UInt8) : Hr CStunMessageBuilder Unit := do
  Hr.chkIf (key.length = 0) E_INVALIDARG
  -- a zero HMAC value; with its header it adds 24 bytes to the length
  addAttribute STUN_ATTRIBUTE_MESSAGEINTEGRITY (some (List.replicate 20 0)) 20
  fixLengthField
  let s := (← get).stream
  let length := s.getSize - 24
  storeInBuffer (length + 4) (D.hmacSha1 key (s.data.take length)).toList

def addMessageIntegrityShortTerm (pszPassword : List UInt8) : Hr CStunMessageBuilder Unit :=
  addMessageIntegrityImpl D (cstr pszPassword)

/-- The text that is hashed into a long-term key. -/
def longTermKey (pszUserName pszRealm pszPassword : List UInt8) : List UInt8 :=
  cstr pszUserName ++ [(':' : Char).toUInt8] ++ cstr pszRealm ++ [(':' : Char).toUInt8] ++
    cstr pszPassword

def MAX_KEY_SIZE : ℕ := MAX_STUN_AUTH_STRING_SIZE * 3 + 2

def addMessageIntegrityLongTerm (pszUserName pszRealm pszPassword : List UInt8) :
    Hr CStunMessageBuilder Unit := do
  let lenTotal := strlen pszUserName + strlen pszRealm + strlen pszPassword + 2
  Hr.chkIf (lenTotal > MAX_KEY_SIZE) E_INVALIDARG
  addMessageIntegrityImpl D (D.md5 (longTermKey pszUserName pszRealm pszPassword)).toList

end

end CStunMessageBuilder
end StunServer

import StunServer.Common.FastHash
import StunServer.Core.SocketAddress

/-! `CStunMessageReader`: the incremental parser and its accessors. -/

namespace StunServer

open Bytes

inductive ReaderParseState where
  | headerNotRead
  | headerValidated
  | bodyValidated
  | parseError
deriving DecidableEq, Repr

structure CStunMessageReader where
  stream : CDataStream
  fAllowLegacyFormat : Bool
  fMessageIsLegacyFormat : Bool
  state : ReaderParseState
  mapAttributes : FastHash UInt16 StunAttribute
  indexFingerprint : Int
  indexMessageIntegrity : Int
  countAttributes : Int
  transactionid : StunTransactionId
  msgTypeNormalized : UInt16
  msgClass : StunMessageClass
  msgLength : UInt16

namespace CStunMessageReader

def MAX_NUM_ATTRIBUTES : ℕ := 30

/-- The width of the attribute table, a prime. -/
def ATTRIBUTE_TABLE_WIDTH : ℕ := 53

/-- `Reset()`, which is all the constructor does. -/
def create : CStunMessageReader where
  stream := CDataStream.create
  fAllowLegacyFormat := true
  fMessageIsLegacyFormat := false
  state := .headerNotRead
  mapAttributes := FastHash.create MAX_NUM_ATTRIBUTES ATTRIBUTE_TABLE_WIDTH
  indexFingerprint := -1
  indexMessageIntegrity := -1
  countAttributes := 0
  transactionid := List.Vector.replicate _ 0
  msgTypeNormalized := 0xffff
  msgClass := .invalidMessageClass
  msgLength := 0

/-- The table keeps its arrays; everything else starts over. -/
def reset (r : CStunMessageReader) : CStunMessageReader :=
  { create with mapAttributes := r.mapAttributes.reset }

def setAllowLegacyFormat (r : CStunMessageReader) (fAllowLegacyFormat : Bool) :
    CStunMessageReader :=
  { r with fAllowLegacyFormat := fAllowLegacyFormat }

def isMessageLegacyFormat (r : CStunMessageReader) : Bool := r.fMessageIsLegacyFormat

/-- A call on `_stream`. -/
def onStream {α : Type} (m : Hr CDataStream α) : Hr CStunMessageReader α :=
  Hr.on stream (fun r s => { r with stream := s }) m

/-- `GetStream().Attach(buf, true)`. -/
def attachStream (r : CStunMessageReader) (buf : CBuffer) : CStunMessageReader :=
  { r with stream := r.stream.attach buf true }

/-! ### Parsing -/

/-- The method, from the twelve bits around the two class bits. -/
def normalizeType (msgType : UInt16) : UInt16 :=
  (msgType &&& (0x000f : UInt16)) ||| ((msgType &&& (0x00e0 : UInt16)) >>> 1) |||
    ((msgType &&& (0x3E00 : UInt16)) >>> 2)

def classOfType (msgType : UInt16) : StunMessageClass :=
  if STUN_IS_REQUEST msgType then .request
  else if STUN_IS_INDICATION msgType then .indication
  else if STUN_IS_SUCCESS_RESP msgType then .successResponse
  else if STUN_IS_ERR_RESP msgType then .failureResponse
  else .invalidMessageClass

/-- The part of `ReadHeader` that follows the reads, with the fields in host order. -/
def storeHeader (msgType msgLength : UInt16) (transID : StunTransactionId) :
    Hr CStunMessageReader Unit := do
  let cookie := ntohl (load32 (transID.toList.take 4))
  modify fun r => { r with fMessageIsLegacyFormat := !(cookie = STUN_COOKIE) }
  let r ← get
  let fHeaderValid := (msgType &&& 0xc000 = 0) && (msgLength % 4 = 0)
  let fHeaderValid := fHeaderValid && (r.fAllowLegacyFormat || !r.fMessageIsLegacyFormat)
  Hr.chkIf (fHeaderValid = false) E_FAIL
  modify fun r =>
    { r with
      msgTypeNormalized := normalizeType msgType
      msgLength := msgLength
      transactionid := transID }
  Hr.chkIf (msgLength.toNat > MAX_STUN_MESSAGE_SIZE) E_UNEXPECTED
  modify fun r => { r with msgClass := classOfType msgType }
  Hr.chkIf (classOfType msgType = .invalidMessageClass) E_FAIL

def readHeader : Hr CStunMessageReader Unit := do
  onStream (CDataStream.seekDirect 0)
  let msgType ← onStream CDataStream.readUint16
  let msgLength ← onStream CDataStream.readUint16
  let transID ← onStream (CDataStream.read 16)
  -- convert from big endian to native type
  storeHeader (ntohs msgType) (ntohs msgLength) transID

def insertAttribute (attrib : StunAttribute) : Hr CStunMessageReader Unit := fun r =>
  let (result, table) := r.mapAttributes.insert attrib.attributeType attrib
  let r := { r with mapAttributes := table }
  if result ≥ 0 then .ok () r else .error E_FAIL r

/-- The part of a turn of the loop in `ReadBody` that follows the attribute header; the
result is what the turn adds to `bytesConsumed`. -/
def storeAttribute (attributeType attributeLength attributeOffset : UInt16) :
    Hr CStunMessageReader ℕ := do
  let paddingLength :=
    if attributeLength.toNat % 4 ≠ 0 then 4 - attributeLength.toNat % 4 else 0
  Hr.chkIf (¬ attributeLength.toNat ≤ MAX_STUN_ATTRIBUTE_SIZE) E_FAIL
  insertAttribute ⟨attributeType, attributeLength, attributeOffset⟩
  modify fun r =>
    { r with
      indexFingerprint :=
        if attributeType = STUN_ATTRIBUTE_FINGERPRINT then r.countAttributes
        else r.indexFingerprint
      indexMessageIntegrity :=
        if attributeType = STUN_ATTRIBUTE_MESSAGEINTEGRITY then r.countAttributes
        else r.indexMessageIntegrity
      countAttributes := r.countAttributes + 1 }
  onStream (CDataStream.seekRelative attributeLength.toNat)
  -- consume the padding
  if paddingLength > 0 then
    onStream (CDataStream.seekRelative paddingLength)
  return 2 + 2 + attributeLength.toNat + paddingLength

def readAttribute : Hr CStunMessageReader ℕ := do
  let attributeType ← onStream CDataStream.readUint16
  let attributeLength ← onStream CDataStream.readUint16
  let attributeOffset := UInt16.ofNat (← get).stream.getPos
  storeAttribute (ntohs attributeType) (ntohs attributeLength) attributeOffset

/-- The loop runs while the last turn succeeded and bytes are left; every turn consumes
at least four, so fuel for every byte is enough. -/
def readBodyLoop (currentSize : ℕ) : ℕ → ℕ → CStunMessageReader → ℕ × CStunMessageReader
  | 0, bytesConsumed, r => (bytesConsumed, r)
  | fuel + 1, bytesConsumed, r =>
    if bytesConsumed < currentSize then
      match readAttribute r with
      | .ok n r' => readBodyLoop currentSize fuel (bytesConsumed + n) r'
      | .error _ r' => (bytesConsumed, r')
    else (bytesConsumed, r)

def readBody : Hr CStunMessageReader Unit := do
  let currentSize := (← get).stream.getSize
  onStream (CDataStream.seekDirect STUN_HEADER_SIZE)
  let r ← get
  let (bytesConsumed, r) := readBodyLoop currentSize currentSize STUN_HEADER_SIZE r
  set r
  Hr.chkIf (bytesConsumed ≠ currentSize) E_FAIL

/-- The three blocks of `AddBytes` that follow the write, each acting on the state the
one before it left. -/
def parseHeaderBlock (r : CStunMessageReader) : CStunMessageReader :=
  if r.state = .headerNotRead ∧ r.stream.getSize ≥ STUN_HEADER_SIZE then
    match readHeader r with
    | .ok _ r' =>
      if r'.msgLength = 0 then { r' with state := .bodyValidated }
      else { r' with state := .headerValidated }
    | .error _ r' => { r' with state := .parseError }
  else r

def parseBodyBlock (r : CStunMessageReader) : CStunMessageReader :=
  let currentSize := r.stream.getSize
  if r.state = .headerValidated ∧ currentSize ≥ r.msgLength.toNat + STUN_HEADER_SIZE then
    if currentSize = r.msgLength.toNat + STUN_HEADER_SIZE then
      match readBody r with
      | .ok _ r' => { r' with state := .bodyValidated }
      | .error _ r' => { r' with state := .parseError }
    else { r with state := .parseError } -- too many bytes fed in
  else r

def surplusBlock (r : CStunMessageReader) : CStunMessageReader :=
  if r.state = .bodyValidated ∧ r.stream.getSize > r.msgLength.toNat + STUN_HEADER_SIZE then
    { r with state := .parseError }
  else r

def addBytes (r : CStunMessageReader) (pData : Option (List UInt8)) (size : UInt32) :
    ReaderParseState × CStunMessageReader :=
  if r.state = .parseError then (.parseError, r)
  else if size = 0 then (r.state, r)
  else
    -- seek to the end of the stream
    let r := Hr.after (onStream (CDataStream.seekDirect r.stream.getSize)) r
    match onStream (CDataStream.write pData size.toNat) r with
    | .error _ r' => (.parseError, r')
    | .ok _ r' =>
      let r' := surplusBlock (parseBodyBlock (parseHeaderBlock r'))
      (r'.state, r')

def getState (r : CStunMessageReader) : ReaderParseState := r.state

/-- The difference is one of `size_t`, of which 16 bits are returned. -/
def howManyBytesNeeded (r : CStunMessageReader) : UInt16 :=
  let currentSize := UInt16.ofNat r.stream.getSize
  match r.state with
  | .headerNotRead => UInt16.ofNat STUN_HEADER_SIZE - currentSize
  | .headerValidated => r.msgLength + UInt16.ofNat STUN_HEADER_SIZE - currentSize
  | .bodyValidated => 0
  | .parseError => 0

/-! ### Accessors -/

def getTransactionId (r : CStunMessageReader) : StunTransactionId := r.transactionid

def getMessageClass (r : CStunMessageReader) : StunMessageClass := r.msgClass

def getMessageType (r : CStunMessageReader) : UInt16 := r.msgTypeNormalized

/-- No attribute is ever removed, so the index of the table is not rebuilt here. A
negative index converts to one beyond any table. -/
def getAttributeByIndex (r : CStunMessageReader) (index : Int) : Except HRESULT StunAttribute :=
  match (r.mapAttributes.lookupValueByIndex (index % 2 ^ 64).toNat).1 with
  | some pFound => .ok pFound
  | none => .error E_FAIL

def getAttributeByType (r : CStunMessageReader) (attributeType : UInt16) :
    Except HRESULT StunAttribute :=
  match r.mapAttributes.lookup attributeType with
  | some pFound => .ok pFound
  | none => .error E_FAIL

def getAttributeCount (r : CStunMessageReader) : ℕ := r.mapAttributes.size

def hasFingerprintAttribute (r : CStunMessageReader) : Bool :=
  (r.mapAttributes.lookup STUN_ATTRIBUTE_FINGERPRINT).isSome

def hasMessageIntegrityAttribute (r : CStunMessageReader) : Bool :=
  (r.mapAttributes.lookup STUN_ATTRIBUTE_MESSAGEINTEGRITY).isSome

def getResponsePort (r : CStunMessageReader) : Except HRESULT UInt16 :=
  match r.mapAttributes.lookup STUN_ATTRIBUTE_RESPONSE_PORT with
  | none => .error E_FAIL
  | some pAttrib =>
    if pAttrib.size ≠ STUN_ATTRIBUTE_RESPONSE_PORT_SIZE then .error E_UNEXPECTED
    else .ok (ntohs (load16 (r.stream.peek pAttrib.offset.toNat 2).toList))

/-- On failure the caller's flags are cleared. -/
def getChangeRequest (r : CStunMessageReader) : Except HRESULT StunChangeRequestAttribute :=
  match r.mapAttributes.lookup STUN_ATTRIBUTE_CHANGEREQUEST with
  | none => .error E_FAIL
  | some pAttrib =>
    if pAttrib.size ≠ STUN_ATTRIBUTE_CHANGEREQUEST_SIZE then .error E_UNEXPECTED
    else
      let value := ntohl (load32 (r.stream.peek pAttrib.offset.toNat 4).toList)
      .ok ⟨value &&& 0x0004 ≠ 0, value &&& 0x0002 ≠ 0⟩

def getPaddingAttributeSize (r : CStunMessageReader) : Except HRESULT UInt16 :=
  match r.mapAttributes.lookup STUN_ATTRIBUTE_PADDING with
  | none => .error E_FAIL
  | some pAttrib => .ok pAttrib.size

/-- The literals below are positions of two bytes. -/
instance neZero_two : NeZero 2 := ⟨two_ne_zero⟩

def getErrorCode (r : CStunMessageReader) : Except HRESULT UInt16 :=
  match r.mapAttributes.lookup STUN_ATTRIBUTE_ERRORCODE with
  | none => .error E_FAIL
  | some pAttrib =>
    let ptr := r.stream.peek (pAttrib.offset.toNat + 2) 2
    let cl := ptr.get 0 &&& 0x07
    let num := ptr.get 1
    .ok (cl.toUInt16 * 100 + num.toUInt16)

def getAddressHelper (r : CStunMessageReader) (attribType : UInt16) :
    Except HRESULT CSocketAddress :=
  match r.mapAttributes.lookup attribType with
  | none => .error E_FAIL
  | some pAttrib =>
    StunServer.getMappedAddress (slice r.stream.data pAttrib.offset.toNat pAttrib.size.toNat)

def getMappedAddress (r : CStunMessageReader) : Except HRESULT CSocketAddress :=
  r.getAddressHelper STUN_ATTRIBUTE_MAPPEDADDRESS

/-- The address in an attribute, or in the one a legacy server would send for it. -/
def getAddressOrLegacy (r : CStunMessageReader) (attribType legacyType : UInt16) :
    Except HRESULT CSocketAddress :=
  match r.getAddressHelper attribType with
  | .ok addr => .ok addr
  | .error _ => r.getAddressHelper legacyType

def getOtherAddress (r : CStunMessageReader) : Except HRESULT CSocketAddress :=
  r.getAddressOrLegacy STUN_ATTRIBUTE_OTHER_ADDRESS STUN_ATTRIBUTE_CHANGEDADDRESS

def getXorMappedAddress (r : CStunMessageReader) : Except HRESULT CSocketAddress :=
  (r.getAddressOrLegacy STUN_ATTRIBUTE_XORMAPPEDADDRESS
    STUN_ATTRIBUTE_XORMAPPEDADDRESS_OPTIONAL).map (CSocketAddress.applyStunXorMap r.transactionid)

def getResponseOriginAddress (r : CStunMessageReader) : Except HRESULT CSocketAddress :=
  r.getAddressOrLegacy STUN_ATTRIBUTE_RESPONSE_ORIGIN STUN_ATTRIBUTE_SOURCEADDRESS

/-- The value and a terminator, copied to the front of the caller's array. -/
def getStringAttributeByType (r : CStunMessageReader) (attributeType : UInt16) {size : ℕ}
    (pszValue : List.Vector UInt8 size) : Except HRESULT (List.Vector UInt8 size) :=
  match r.mapAttributes.lookup attributeType with
  | none => .error E_INVALIDARG
  | some pAttrib =>
    -- one byte more than the value, for the null character
    if pAttrib.size.toNat ≥ size then .error E_INVALIDARG
    else
      .ok (memcpy pszValue
        (slice r.stream.data pAttrib.offset.toNat pAttrib.size.toNat ++ [0]))

/-! ### Fingerprint and message integrity -/

section

variable (D : Digests)

def isFingerprintAttributeValid (r : CStunMessageReader) : Bool :=
  match r.mapAttributes.lookup STUN_ATTRIBUTE_FINGERPRINT with
  | none => false
  | some pAttrib =>
    if pAttrib.attributeType ≠ STUN_ATTRIBUTE_FINGERPRINT then false
    else if pAttrib.size ≠ 4 then false
    else if r.state ≠ .bodyValidated then false
    else
      let size := r.stream.getSize
      if size < STUN_HEADER_SIZE then false
      else
        -- -8 because the fingerprint is assumed to be the last attribute in the stream
        let computedValue := D.crc32 (r.stream.data.take (size - 8)) ^^^ STUN_FINGERPRINT_XOR
        let readValue := ntohl (load32 (r.stream.peek pAttrib.offset.toNat 4).toList)
        readValue = computedValue

def feedChunks : ℕ → List UInt8 → Hr CDataStream (List UInt8)
  | 0, ctx => pure ctx
  | nChunks + 1, ctx => do
    let chunk32 ← CDataStream.readUint32
    feedChunks nChunks (ctx ++ mem32 chunk32)

/-- What goes through `HMAC_Update`: the type, the length as it was when the integrity
attribute was last, and everything up to that attribute. -/
def feedHmac (fFingerprintAdjustment : Bool) (offset : UInt16) :
    Hr CDataStream (List UInt8) := do
  let chunk16 ← CDataStream.readUint16
  let ctx := mem16 chunk16
  let chunk16 ← CDataStream.readUint16
  let chunk16 := if fFingerprintAdjustment then htons (ntohs chunk16 - 8) else chunk16
  let ctx := ctx ++ mem16 chunk16
  let len := offset.toNat - 4 - 4
  feedChunks (len / 4) ctx

/-- `ValidateMessageIntegrity` up to `HMAC_Final`: the attribute that holds the hash and
the bytes fed. -/
def hmacInput (r : CStunMessageReader) (key : List UInt8) :
    Except HRESULT (StunAttribute × List UInt8) :=
  let lastAttributeIndex := r.countAttributes - 1
  if r.state ≠ .bodyValidated then .error E_FAIL
  else if r.countAttributes = 0 then .error E_FAIL
  else if r.indexMessageIntegrity = -1 then .error E_FAIL
  else if key.length = 0 then .error E_INVALIDARG
  else
    match r.mapAttributes.lookup STUN_ATTRIBUTE_MESSAGEINTEGRITY with
    | none => .error E_FAIL
    | some pAttribIntegrity =>
      if pAttribIntegrity.size ≠ 20 then .error E_FAIL
      -- no other attribute than a fingerprint may follow the message integrity
      else if ¬ (r.indexMessageIntegrity = lastAttributeIndex ∨
          (r.indexMessageIntegrity = lastAttributeIndex - 1 ∧
            r.indexFingerprint = lastAttributeIndex)) then .error E_FAIL
      else
        let fFingerprintAdjustment := decide (r.indexMessageIntegrity = lastAttributeIndex - 1)
        let stream := { CDataStream.create with pBuffer := r.stream.pBuffer }
        match feedHmac fFingerprintAdjustment pAttribIntegrity.offset stream with
        | .error e _ => .error e
        | .ok ctx _ => .ok (pAttribIntegrity, ctx)

def validateMessageIntegrity (r : CStunMessageReader) (key : List UInt8) :
    Except HRESULT Unit :=
  match r.hmacInput key with
  | .error e => .error e
  | .ok (pAttribIntegrity, ctx) =>
    let hmaccomputed := D.hmacSha1 key ctx
    if hmaccomputed = r.stream.peek pAttribIntegrity.offset.toNat 20 then .ok ()
    else .error E_FAIL

def validateMessageIntegrityShort (r : CStunMessageReader) (pszPassword : List UInt8) :
    Except HRESULT Unit :=
  r.validateMessageIntegrity D (cstr pszPassword)

/-- The text that is hashed into a long-term key. -/
def longTermKey (pszUser pszRealm pszPassword : List UInt8) : List UInt8 :=
  cstr pszUser ++ [(':' : Char).toUInt8] ++ cstr pszRealm ++ [(':' : Char).toUInt8] ++
    cstr pszPassword

def validateMessageIntegrityLong (r : CStunMessageReader)
    (pszUser pszRealm pszPassword : List UInt8) : Except HRESULT Unit :=
  if r.state ≠ .bodyValidated then .error E_FAIL
  else if r.stream.pBuffer = none then .error E_FAIL
  else r.validateMessageIntegrity D (D.md5 (longTermKey pszUser pszRealm pszPassword)).toList

end

end CStunMessageReader
end StunServer

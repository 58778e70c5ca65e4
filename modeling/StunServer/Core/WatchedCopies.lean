import StunServer.Lib.Span
import StunServer.Common.Watched
import StunServer.Core.MessageHandler

/-! The handling of a request once more, with the strings that are scanned and the bytes that are
written to arrays and to the response. -/

namespace StunServer

open Bytes Watched

/-- What the code does to memory with strings. -/
inductive Access where
  /-- The terminator of a string is looked for; the array it should be in. -/
  | scan (mem : List UInt8)
  /-- Bytes are written to memory that holds `capacity` of them. -/
  | write (capacity : ℕ) (span : Span)
deriving DecidableEq, Repr

namespace Access

/-- A string ends in its array, and what is written lies within its destination. -/
def InBounds : Access → Prop
  | scan mem => 0 ∈ mem
  | write capacity span => span.stop ≤ capacity

variable {σ : Type}

def strlen (mem : List UInt8) : Hr (Watched Access σ) ℕ := do
  note (.scan mem)
  return StunServer.strlen mem

def strcpy {n : ℕ} (dst : List.Vector UInt8 n) (src : List UInt8) :
    Hr (Watched Access σ) (List.Vector UInt8 n) := do
  let len ← strlen src
  note (.write n ⟨0, len + 1⟩)
  return StunServer.strcpy dst src

/-- Bytes copied to a place in an array of `capacity` bytes. -/
def store (capacity : ℕ) (dst : List UInt8) (pos : ℕ) (bytes : List UInt8) :
    Hr (Watched Access σ) (List UInt8) := do
  note (.write capacity ⟨pos, bytes.length⟩)
  return overwrite dst pos bytes

end Access

/-! ### The reader -/

namespace CStunMessageReader

section

variable {σ : Type} (D : Digests) (r : CStunMessageReader)

def getStringAttributeByTypeCopied (attributeType : UInt16) {size : ℕ}
    (pszValue : List.Vector UInt8 size) : Hr (Watched Access σ) (List.Vector UInt8 size) :=
  match r.mapAttributes.lookup attributeType with
  | none => throw E_INVALIDARG
  | some pAttrib =>
    if pAttrib.size.toNat ≥ size then throw E_INVALIDARG
    else do
      note (.write size ⟨0, pAttrib.size.toNat⟩)
      note (.write size ⟨pAttrib.size.toNat, 1⟩)
      return memcpy pszValue
        (slice r.stream.data pAttrib.offset.toNat pAttrib.size.toNat ++ [0])

def validateMessageIntegrityShortCopied (pszPassword : List UInt8) :
    Hr (Watched Access σ) Unit := do
  let len ← Access.strlen pszPassword
  Hr.ofExcept (r.validateMessageIntegrity D (pszPassword.take len))

/-- Long enough for 64-char strings, two colons and a null char. -/
def KEY_CAPACITY : ℕ := MAX_STUN_AUTH_STRING_SIZE * 3 + 2 + 1

/-- A string is copied to the key, if it is not empty. -/
def appendString (key : List UInt8) (pDst : ℕ) (psz : List UInt8) (length : ℕ) :
    Hr (Watched Access σ) (List UInt8) :=
  if length > 0 then Access.store KEY_CAPACITY key pDst (psz.take length) else pure key

/-- The lengths are not checked here. -/
def validateMessageIntegrityLongCopied (pszUser pszRealm pszPassword : List UInt8) :
    Hr (Watched Access σ) Unit := do
  let passwordlength ← Access.strlen pszPassword
  let userLength ← Access.strlen pszUser
  let realmLength ← Access.strlen pszRealm
  Hr.chkIf (r.state ≠ .bodyValidated) E_FAIL
  let totallength := userLength + realmLength + passwordlength + 2 -- +2 for two colons
  Hr.chkIf (r.stream.pBuffer = none) E_FAIL
  let key := List.replicate KEY_CAPACITY 0
  let key ← appendString key 0 pszUser userLength
  let key ← Access.store KEY_CAPACITY key userLength [(':' : Char).toUInt8]
  let key ← appendString key (userLength + 1) pszRealm realmLength
  let key ← Access.store KEY_CAPACITY key (userLength + 1 + realmLength) [(':' : Char).toUInt8]
  let key ← appendString key (userLength + 1 + realmLength + 1) pszPassword passwordlength
  -- not hashed
  let key ← Access.store KEY_CAPACITY key (userLength + 1 + realmLength + 1 + passwordlength)
    [('0' : Char).toUInt8]
  Hr.ofExcept (r.validateMessageIntegrity D (D.md5 (key.take totallength)).toList)

end

end CStunMessageReader

/-! ### The builder -/

namespace CStunMessageBuilder

/-- The stream grows before it is written to. -/
def streamWrite (data : Option (List UInt8)) (size : ℕ) :
    Hr (Watched Access CStunMessageBuilder) Unit := do
  let stream := (← getObject).stream
  quiet (onStream (CDataStream.write data size))
  let grown := (CDataStream.grow (size + stream.pos)).after stream
  note (.write grown.getAllocatedSize ⟨stream.pos, size⟩)

def writeCopied (data : List UInt8) : Hr (Watched Access CStunMessageBuilder) Unit :=
  streamWrite (some data) data.length

def writeUint16Copied (val : UInt16) : Hr (Watched Access CStunMessageBuilder) Unit :=
  streamWrite (some (mem16 val)) 2

def addHeaderCopied (msgType : UInt16) (msgClass : StunMessageClass) :
    Hr (Watched Access CStunMessageBuilder) Unit := do
  quiet (onStream (CDataStream.setSizeHint 200))
  writeUint16Copied (htons (mergeType msgType msgClass))
  writeUint16Copied 0

def addTransactionIdCopied (transid : StunTransactionId) :
    Hr (Watched Access CStunMessageBuilder) Unit := do
  quiet (modify fun b => { b with transactionid := transid })
  writeCopied transid.toList

def addAttributeHeaderCopied (attribType size : UInt16) :
    Hr (Watched Access CStunMessageBuilder) Unit := do
  writeUint16Copied (htons attribType)
  writeUint16Copied (htons size)

def writePaddingCopied (padding : ℕ) : Hr (Watched Access CStunMessageBuilder) Unit := do
  if padding > 0 then
    writeCopied (List.replicate padding 0)

def addAttributeCopied (attribType : UInt16) (data : Option (List UInt8)) (size : UInt16) :
    Hr (Watched Access CStunMessageBuilder) Unit := do
  let sizeheader := size
  let size := if data = none then 0 else size
  let pad := padding size.toNat
  let sizeheader :=
    if (← getObject).fLegacyMode then sizeheader + UInt16.ofNat pad else sizeheader
  addAttributeHeaderCopied attribType sizeheader
  if size > 0 then
    streamWrite data size.toNat
  writePaddingCopied pad

def addStringAttributeCopied (attribType : UInt16) (pstr : List UInt8) :
    Hr (Watched Access CStunMessageBuilder) Unit := do
  let len ← Access.strlen pstr
  Hr.chkIf (len = 0) E_INVALIDARG
  addAttributeCopied attribType (some (pstr.take len)) (UInt16.ofNat len)

def addErrorCodeCopied (errorNumber : UInt16) (pszReason : List UInt8) :
    Hr (Watched Access CStunMessageBuilder) Unit := do
  let strsize ← Access.strlen pszReason
  let size := strsize + 4
  Hr.chkIf (strsize ≥ 128) E_INVALIDARG
  Hr.chkIf (errorNumber < 300) E_INVALIDARG
  Hr.chkIf (errorNumber > 600) E_INVALIDARG
  let pad := padding size
  let sizeheader := if (← getObject).fLegacyMode then size + pad else size
  addAttributeHeaderCopied STUN_ATTRIBUTE_ERRORCODE (UInt16.ofNat sizeheader)
  streamWrite (some (mem16 (0 : Int16).toUInt16)) 2
  streamWrite (some [(errorNumber / 100).toUInt8]) 1
  streamWrite (some [(errorNumber % 100).toUInt8]) 1
  if strsize > 0 then
    Hr.ignore (writeCopied (pszReason.take strsize))
  writePaddingCopied pad

def addUnknownAttributesCopied (arr : List UInt16) :
    Hr (Watched Access CStunMessageBuilder) Unit := do
  let count := arr.length
  let unpaddedsize := UInt16.ofNat (count * 2)
  Hr.chkIf (count = 0) E_INVALIDARG
  let fPad := (← getObject).fLegacyMode && count % 2 ≠ 0
  let size := if fPad then unpaddedsize + 2 else unpaddedsize
  addAttributeHeaderCopied STUN_ATTRIBUTE_UNKNOWNATTRIBUTES size
  streamWrite (some (arr.flatMap mem16)) unpaddedsize.toNat
  if fPad then
    Hr.ignore (writeCopied (mem16 (arr.getLastD 0)))

def fixLengthFieldCopied : Hr (Watched Access CStunMessageBuilder) Unit := do
  let size := (← getObject).stream.getSize
  let currentPos := (← getObject).stream.getPos
  Hr.chkIf (size < STUN_HEADER_SIZE) E_UNEXPECTED
  let size := size - STUN_HEADER_SIZE
  quiet (onStream (CDataStream.seekDirect 2))
  writeUint16Copied (ntohs (UInt16.ofNat size))
  quiet (onStream (CDataStream.seekDirect currentPos))

def getResultCopied : Hr (Watched Access CStunMessageBuilder) (Option CBuffer) := do
  fixLengthFieldCopied
  return (← getObject).stream.pBuffer

section

variable (D : Digests)

def addMessageIntegrityShortTermCopied (pszPassword : List UInt8) :
    Hr (Watched Access CStunMessageBuilder) Unit := do
  let len ← Access.strlen pszPassword
  quiet (addMessageIntegrityImpl D (pszPassword.take len))

/-- The lengths are checked before the key is put together. -/
def addMessageIntegrityLongTermCopied (pszUserName pszRealm pszPassword : List UInt8) :
    Hr (Watched Access CStunMessageBuilder) Unit := do
  let lenUserName ← Access.strlen pszUserName
  let lenRealm ← Access.strlen pszRealm
  let lenPassword ← Access.strlen pszPassword
  let lenTotal := lenUserName + lenRealm + lenPassword + 2
  Hr.chkIf (lenTotal > MAX_KEY_SIZE) E_INVALIDARG
  let capacity := MAX_KEY_SIZE + 1
  let key := List.replicate capacity 0
  let key ← Access.store capacity key 0 (pszUserName.take lenUserName)
  let key ← Access.store capacity key lenUserName [(':' : Char).toUInt8]
  let key ← Access.store capacity key (lenUserName + 1) (pszRealm.take lenRealm)
  let key ← Access.store capacity key (lenUserName + 1 + lenRealm) [(':' : Char).toUInt8]
  let key ← Access.store capacity key (lenUserName + 1 + lenRealm + 1)
    (pszPassword.take lenPassword)
  -- not hashed
  let key ← Access.store capacity key (lenUserName + 1 + lenRealm + 1 + lenPassword) [0]
  quiet (addMessageIntegrityImpl D (D.md5 (key.take lenTotal)).toList)

end

end CStunMessageBuilder

/-! ### The handler -/

namespace CStunRequestHandler

section

variable (D : Digests)

section

variable {σ : Type}

def fetchStringCopied (reader : CStunMessageReader) (attributeType : UInt16) :
    Hr (Watched Access σ) AuthString := do
  let call ← attempt (reader.getStringAttributeByTypeCopied attributeType AuthString.zero)
  return outOr call AuthString.zero

def authAttributesCopied (reader : CStunMessageReader) : Hr (Watched Access σ) AuthAttributes := do
  let szUser ← fetchStringCopied reader STUN_ATTRIBUTE_USERNAME
  let szRealm ← fetchStringCopied reader STUN_ATTRIBUTE_REALM
  let szNonce ← fetchStringCopied reader STUN_ATTRIBUTE_NONCE
  let szLegacyPassword ← fetchStringCopied reader STUN_ATTRIBUTE_LEGACY_PASSWORD
  return ⟨szUser, szRealm, szNonce, szLegacyPassword, reader.hasMessageIntegrityAttribute⟩

def checkIntegrityCopied (reader : CStunMessageReader) (authattributes : AuthAttributes)
    (authresponse : AuthResponse) : Hr (Watched Access σ) Unit :=
  if authresponse.authCredMech = .authCredLongTerm then
    reader.validateMessageIntegrityLongCopied D authattributes.szUser.toList
      authattributes.szRealm.toList authresponse.szPassword.toList
  else reader.validateMessageIntegrityShortCopied D authresponse.szPassword.toList

def terminateCopied (authresponse : AuthResponse) : Hr (Watched Access σ) AuthResponse := do
  note (.write 65 ⟨64, 1⟩)
  note (.write 65 ⟨64, 1⟩)
  note (.write 65 ⟨64, 1⟩)
  return terminate authresponse

end

/-- The three strings are kept for the response. -/
def keepCredentials (authattributes : AuthAttributes) (authresponse : AuthResponse) :
    Hr (Watched Access CStunRequestHandler) Unit := do
  let h ← getObject
  let szPassword ← Access.strcpy h.integrity.szPassword authresponse.szPassword.toList
  let szUser ← Access.strcpy h.integrity.szUser authattributes.szUser.toList
  let szRealm ← Access.strcpy h.integrity.szRealm authattributes.szRealm.toList
  quiet (modify fun h => { h with integrity :=
    { fSendWithIntegrity := true
      fUseLongTerm := authresponse.authCredMech = .authCredLongTerm
      szUser := szUser
      szRealm := szRealm
      szPassword := szPassword } })

def applyAuthResponseCopied (authattributes : AuthAttributes) (authresponse : AuthResponse) :
    Hr (Watched Access CStunRequestHandler) Unit :=
  match authresponse.responseType with
  | .staleNonce => quiet (modify (setErrorCode STUN_ERROR_STALENONCE))
  | .unauthorized => quiet (modify (setErrorCode STUN_ERROR_UNAUTHORIZED))
  | .reject => quiet (modify (setErrorCode STUN_ERROR_BADREQUEST))
  | .allow => pure ()
  | .allowConditional => do
    let hrRet ← attempt
      (checkIntegrityCopied D (← getObject).reader authattributes authresponse)
    match hrRet with
    | .ok _ => keepCredentials authattributes authresponse
    | .error _ => quiet (modify (setErrorCode STUN_ERROR_UNAUTHORIZED))

def storeChallengeCopied (authresponse : AuthResponse) :
    Hr (Watched Access CStunRequestHandler) Unit := do
  let h ← getObject
  if h.error.errorcode = STUN_ERROR_UNAUTHORIZED ∨ h.error.errorcode = STUN_ERROR_STALENONCE then
    let szRealm ← Access.strcpy h.error.szRealm authresponse.szRealm.toList
    let szNonce ← Access.strcpy h.error.szNonce authresponse.szNonce.toList
    quiet (modify fun h => { h with error := { h.error with
      szRealm := szRealm
      szNonce := szNonce } })
  else pure ()

def validateAuthCopied : Hr (Watched Access CStunRequestHandler) Unit := do
  let h ← getObject
  match h.pAuth with
  | none => return
  | some pAuth =>
    let authattributes ← authAttributesCopied h.reader
    let (hr, authresponse) := pAuth.doAuthCheck authattributes
    Hr.chk hr
    let authresponse ← terminateCopied authresponse
    applyAuthResponseCopied D authattributes authresponse
    storeChallengeCopied authresponse

def addIntegrityCopied (integrity : StunMessageIntegrity) :
    Hr (Watched Access CStunMessageBuilder) Unit :=
  if integrity.fUseLongTerm = false then
    CStunMessageBuilder.addMessageIntegrityShortTermCopied D integrity.szPassword.toList
  else
    CStunMessageBuilder.addMessageIntegrityLongTermCopied D integrity.szUser.toList
      integrity.szRealm.toList integrity.szPassword.toList

def writeBindingResponseCopied (h : CStunRequestHandler) (socketOutput : SocketRole) :
    Hr (Watched Access CStunMessageBuilder) Unit := do
  let addrOrigin := h.addrOrigin socketOutput
  Hr.ignore (quiet (CStunMessageBuilder.addHeader StunMsgTypeBinding .successResponse))
  Hr.ignore (quiet (CStunMessageBuilder.addTransactionId h.transid))
  Hr.ignore (quiet (CStunMessageBuilder.addMappedAddress h.msgIn.addrRemote))
  Hr.when (addrOrigin.isIPAddressZero = false)
    (Hr.ignore (quiet (CStunMessageBuilder.addResponseOriginAddress addrOrigin)))
  Hr.ignore (quiet (addOther h.otherAddress))
  Hr.ignore (quiet (CStunMessageBuilder.addXorMappedAddress h.msgIn.addrRemote))
  Hr.when (h.integrity.fSendWithIntegrity = true) (Hr.ignore (addIntegrityCopied D h.integrity))
  Hr.ignore (quiet CStunMessageBuilder.fixLengthField)

def processBindingRequestCopied : Hr (Watched Access CStunRequestHandler) Unit := do
  let builder := (← getObject).attachBuilder
  quiet (modify (leaveBuilder builder))
  quiet checkPadding
  let socketOutput ← quiet chooseSocket
  quiet (modify fun h => { h with msgOut := { h.msgOut with socketrole := socketOutput } })
  let builder ← afterwards builder (writeBindingResponseCopied D (← getObject) socketOutput)
  quiet (modify (leaveBuilder builder))

def addChallengeCopied (error : StunErrorCode) : Hr (Watched Access CStunMessageBuilder) Unit := do
  Hr.when (error.szNonce.head ≠ 0)
    (Hr.ignore (CStunMessageBuilder.addStringAttributeCopied STUN_ATTRIBUTE_NONCE
      error.szNonce.toList))
  Hr.when (error.szRealm.head ≠ 0)
    (Hr.ignore (CStunMessageBuilder.addStringAttributeCopied STUN_ATTRIBUTE_REALM
      error.szRealm.toList))

def addErrorDetailsCopied (error : StunErrorCode) : Hr (Watched Access CStunMessageBuilder) Unit :=
  if error.errorcode = STUN_ERROR_UNKNOWNATTRIB ∧ error.attribUnknown ≠ 0 then
    Hr.ignore (CStunMessageBuilder.addUnknownAttributesCopied [error.attribUnknown])
  else if error.errorcode = STUN_ERROR_STALENONCE ∨ error.errorcode = STUN_ERROR_UNAUTHORIZED then
    addChallengeCopied error
  else pure ()

def writeErrorResponseCopied (h : CStunRequestHandler) :
    Hr (Watched Access CStunMessageBuilder) Unit := do
  Hr.ignore (CStunMessageBuilder.addHeaderCopied h.error.msgtype h.error.msgclass)
  Hr.ignore (CStunMessageBuilder.addTransactionIdCopied h.transid)
  Hr.ignore (CStunMessageBuilder.addErrorCodeCopied h.error.errorcode pszFailed)
  addErrorDetailsCopied h.error
  Hr.ignore CStunMessageBuilder.fixLengthFieldCopied
  Hr.ignore CStunMessageBuilder.getResultCopied

def buildErrorResponseCopied : Hr (Watched Access CStunRequestHandler) Unit := do
  let h ← getObject
  let builder ← afterwards h.attachBuilder (writeErrorResponseCopied h)
  quiet (modify (leaveBuilder builder))

def guardedCopied (step : Hr (Watched Access CStunRequestHandler) Unit) :
    Hr (Watched Access CStunRequestHandler) Unit := do
  if (← getObject).error.errorcode = 0 then
    match ← attempt step with
    | .ok _ => pure ()
    | .error _ =>
      if (← getObject).error.errorcode = 0 then
        quiet (modify (setErrorCode STUN_ERROR_BADREQUEST))
      else pure ()
  else pure ()

def processRequestImplCopied : Hr (Watched Access CStunRequestHandler) Unit := do
  let reader := (← getObject).reader
  Hr.chkIf (reader.getMessageClass ≠ .request) E_FAIL
  quiet (modify prepare)
  quiet (modify honorResponsePort)
  quiet (modify checkMethod)
  guardedCopied (validateAuthCopied D)
  guardedCopied (processBindingRequestCopied D)
  if (← getObject).error.errorcode ≠ 0 then
    buildErrorResponseCopied

end

end CStunRequestHandler

end StunServer

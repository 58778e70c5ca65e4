import StunServer.Core.StunReader
import StunServer.Core.StunBuilder

/-! `CStunRequestHandler`, with the structures of `stunauth.h` and `messagehandler.h`:
from a request to the response and where it goes. -/

namespace StunServer

open Bytes

/-- `char[MAX_STUN_AUTH_STRING_SIZE+1]`. -/
abbrev AuthString := List.Vector UInt8 65

namespace AuthString

/-- `memset` to zero. -/
def zero : AuthString := List.Vector.replicate 65 0

/-- The last character is made a terminator. -/
def terminate (s : AuthString) : AuthString := s.set 64 0

end AuthString

structure AuthAttributes where
  szUser : AuthString
  szRealm : AuthString
  szNonce : AuthString
  szLegacyPassword : AuthString
  fMessageIntegrityPresent : Bool

inductive AuthCredentialMechanism where
  | authCredShortTerm
  | authCredLongTerm
deriving DecidableEq, Repr

inductive AuthResponseType where
  | allow
  | allowConditional
  | staleNonce
  | reject
  | unauthorized
deriving DecidableEq, Repr

structure AuthResponse where
  responseType : AuthResponseType
  authCredMech : AuthCredentialMechanism
  szPassword : AuthString
  szRealm : AuthString
  szNonce : AuthString

/-- `DoAuthCheck`: its result code and the response as it leaves it in memory. -/
structure IStunAuth where
  doAuthCheck : AuthAttributes → HRESULT × AuthResponse

structure StunMessageIn where
  socketrole : SocketRole
  addrLocal : CSocketAddress
  addrRemote : CSocketAddress
  pReader : Option CStunMessageReader
  fConnectionOriented : Bool

structure StunMessageOut where
  socketrole : SocketRole
  addrDest : CSocketAddress
  spBufferOut : Option CBuffer
deriving DecidableEq

structure StunMessageIntegrity where
  fSendWithIntegrity : Bool
  fUseLongTerm : Bool
  szUser : AuthString
  szRealm : AuthString
  szPassword : AuthString

structure TransportAddress where
  addr : CSocketAddress
  fValid : Bool

/-- One entry for each role. -/
structure TransportAddressSet where
  set : SocketRole → TransportAddress

structure StunErrorCode where
  errorcode : UInt16
  msgclass : StunMessageClass
  msgtype : UInt16
  attribUnknown : UInt16
  szNonce : AuthString
  szRealm : AuthString

/-- `reader` stands for `*(_pMsgIn->pReader)`, which every method takes as an alias. -/
structure CStunRequestHandler where
  pAuth : Option IStunAuth
  addrSet : TransportAddressSet
  msgIn : StunMessageIn
  reader : CStunMessageReader
  msgOut : StunMessageOut
  integrity : StunMessageIntegrity
  error : StunErrorCode
  fRequestHasResponsePort : Bool
  transid : StunTransactionId
  fLegacyMode : Bool

namespace CStunRequestHandler

/-- A handler just constructed, with its four pointers set. -/
def create (pAuth : Option IStunAuth) (addrSet : TransportAddressSet) (msgIn : StunMessageIn)
    (reader : CStunMessageReader) (msgOut : StunMessageOut) : CStunRequestHandler where
  pAuth := pAuth
  addrSet := addrSet
  msgIn := msgIn
  reader := reader
  msgOut := msgOut
  integrity := ⟨false, false, .zero, .zero, .zero⟩
  error := ⟨0, .request, 0, 0, .zero, .zero⟩
  fRequestHasResponsePort := false
  transid := List.Vector.replicate _ 0
  fLegacyMode := false

def setErrorCode (errorcode : UInt16) (h : CStunRequestHandler) : CStunRequestHandler :=
  { h with error := { h.error with errorcode := errorcode } }

def hasAddress (h : CStunRequestHandler) (role : SocketRole) : Bool := (h.addrSet.set role).fValid

def isIPAddressZeroOrInvalid (h : CStunRequestHandler) (role : SocketRole) : Bool :=
  let fValid := h.hasAddress role && !(h.addrSet.set role).addr.isIPAddressZero
  !fValid

/-- A builder attached to the caller's buffer, in the mode of the request. -/
def attachBuilder (h : CStunRequestHandler) : CStunMessageBuilder :=
  let builder :=
    match h.msgOut.spBufferOut with
    | some buf => CStunMessageBuilder.create.attachStream (buf.setSize 0).2
    | none => CStunMessageBuilder.create
  builder.setLegacyMode h.fLegacyMode

/-- The caller's buffer after the builder has worked on it. -/
def leaveBuilder (builder : CStunMessageBuilder) (h : CStunRequestHandler) : CStunRequestHandler :=
  { h with msgOut := { h.msgOut with spBufferOut := builder.stream.sharedBuffer } }

/-! ### Authentication -/

section

variable (D : Digests)

/-- A string attribute, in memory that was zero before. -/
def fetchString (reader : CStunMessageReader) (attributeType : UInt16) : AuthString :=
  outOr (reader.getStringAttributeByType attributeType AuthString.zero) AuthString.zero

def authAttributes (reader : CStunMessageReader) : AuthAttributes where
  szUser := fetchString reader STUN_ATTRIBUTE_USERNAME
  szRealm := fetchString reader STUN_ATTRIBUTE_REALM
  szNonce := fetchString reader STUN_ATTRIBUTE_NONCE
  szLegacyPassword := fetchString reader STUN_ATTRIBUTE_LEGACY_PASSWORD
  fMessageIntegrityPresent := reader.hasMessageIntegrityAttribute

/-- The check of an `AllowConditional` response against the message. -/
def checkIntegrity (reader : CStunMessageReader) (authattributes : AuthAttributes)
    (authresponse : AuthResponse) : Except HRESULT Unit :=
  if authresponse.authCredMech = .authCredLongTerm then
    reader.validateMessageIntegrityLong D authattributes.szUser.toList
      authattributes.szRealm.toList authresponse.szPassword.toList
  else reader.validateMessageIntegrityShort D authresponse.szPassword.toList

/-- What `ValidateAuth` does with each type of response. -/
def applyAuthResponse (authattributes : AuthAttributes) (authresponse : AuthResponse)
    (h : CStunRequestHandler) : CStunRequestHandler :=
  match authresponse.responseType with
  | .staleNonce => h.setErrorCode STUN_ERROR_STALENONCE
  | .unauthorized => h.setErrorCode STUN_ERROR_UNAUTHORIZED
  | .reject => h.setErrorCode STUN_ERROR_BADREQUEST
  | .allow => h
  | .allowConditional =>
    match checkIntegrity D h.reader authattributes authresponse with
    | .ok _ =>
      { h with integrity :=
        { fSendWithIntegrity := true
          fUseLongTerm := authresponse.authCredMech = .authCredLongTerm
          szUser := strcpy h.integrity.szUser authattributes.szUser.toList
          szRealm := strcpy h.integrity.szRealm authattributes.szRealm.toList
          szPassword := strcpy h.integrity.szPassword authresponse.szPassword.toList } }
    -- bad password, so this turns into a 401
    | .error _ => h.setErrorCode STUN_ERROR_UNAUTHORIZED

/-- Everything is made null terminated. -/
def terminate (authresponse : AuthResponse) : AuthResponse :=
  { authresponse with
    szNonce := authresponse.szNonce.terminate
    szRealm := authresponse.szRealm.terminate
    szPassword := authresponse.szPassword.terminate }

/-- Nonce and realm are kept for the errors that send them. -/
def storeChallenge (authresponse : AuthResponse) (h : CStunRequestHandler) : CStunRequestHandler :=
  if h.error.errorcode = STUN_ERROR_UNAUTHORIZED ∨ h.error.errorcode = STUN_ERROR_STALENONCE then
    { h with error := { h.error with
        szRealm := strcpy h.error.szRealm authresponse.szRealm.toList
        szNonce := strcpy h.error.szNonce authresponse.szNonce.toList } }
  else h

def validateAuth : Hr CStunRequestHandler Unit := do
  let h ← get
  match h.pAuth with
  | none => return -- nothing to do if there is no auth mechanism in place
  | some pAuth =>
    let authattributes := authAttributes h.reader
    let (hr, authresponse) := pAuth.doAuthCheck authattributes
    Hr.chk hr
    let authresponse := terminate authresponse
    modify (applyAuthResponse D authattributes authresponse)
    modify (storeChallenge authresponse)

/-! ### The Binding response -/

/-- A request that has both a response port and padding is refused. -/
def checkPadding : Hr CStunRequestHandler Unit := do
  let h ← get
  let fRequestHasPaddingAttribute := h.reader.getPaddingAttributeSize.isOk
  if h.fRequestHasResponsePort && fRequestHasPaddingAttribute then
    modify (setErrorCode STUN_ERROR_BADREQUEST)
    throw E_FAIL

/-- The socket a change request asks for. -/
def changeSocket (changerequest : StunChangeRequestAttribute) (socketOutput : SocketRole) :
    SocketRole :=
  let socketOutput :=
    if changerequest.fChangeIP then socketRoleSwapIP socketOutput else socketOutput
  if changerequest.fChangePort then socketRoleSwapPort socketOutput else socketOutput

/-- The socket to answer from; a change request may ask for another one. -/
def chooseSocket : Hr CStunRequestHandler SocketRole := do
  let h ← get
  let hrResult := h.reader.getChangeRequest
  let changerequest := outOr hrResult ⟨false, false⟩
  if hrResult.isOk && (changerequest.fChangeIP || changerequest.fChangePort) then
    let socketOutput := changeSocket changerequest h.msgIn.socketrole
    -- TCP cannot answer from another port
    if h.hasAddress socketOutput = false || h.msgIn.fConnectionOriented then
      modify (setErrorCode STUN_ERROR_BADREQUEST)
      throw E_FAIL
    else return socketOutput
  else return h.msgIn.socketrole

/-- The address opposite to the one the request came in on, if all four are in use and it
is known. -/
def otherAddress (h : CStunRequestHandler) : Option CSocketAddress :=
  let fSendOtherAddress :=
    h.hasAddress .rolePP && h.hasAddress .rolePA && h.hasAddress .roleAP && h.hasAddress .roleAA
  if fSendOtherAddress then
    let socketOther := socketRoleSwapIP (socketRoleSwapPort h.msgIn.socketrole)
    if h.isIPAddressZeroOrInvalid socketOther = false then some (h.addrSet.set socketOther).addr
    else none
  else none

/-- The address the response leaves from, as far as it is known. -/
def addrOrigin (h : CStunRequestHandler) (socketOutput : SocketRole) : CSocketAddress :=
  let addrOrigin := (h.addrSet.set socketOutput).addr
  if addrOrigin.isIPAddressZero then
    if socketOutput = h.msgIn.socketrole then h.msgIn.addrLocal else addrOrigin
  else addrOrigin

/-- `AddMessageIntegrityShortTerm` or `AddMessageIntegrityLongTerm`. -/
def addIntegrity (integrity : StunMessageIntegrity) : Hr CStunMessageBuilder Unit :=
  if integrity.fUseLongTerm = false then
    CStunMessageBuilder.addMessageIntegrityShortTerm D integrity.szPassword.toList
  else
    CStunMessageBuilder.addMessageIntegrityLongTerm D integrity.szUser.toList
      integrity.szRealm.toList integrity.szPassword.toList

/-- `AddOtherAddress`, if there is an address to send. -/
def addOther : Option CSocketAddress → Hr CStunMessageBuilder Unit
  | some addrOther => CStunMessageBuilder.addOtherAddress addrOther
  | none => pure ()

/-- The calls on the builder; nobody looks at their result codes. The order of the
attributes is the one old clients are used to. -/
def writeBindingResponse (h : CStunRequestHandler) (socketOutput : SocketRole) :
    Hr CStunMessageBuilder Unit := do
  let addrOrigin := h.addrOrigin socketOutput
  Hr.ignore (CStunMessageBuilder.addHeader StunMsgTypeBinding .successResponse)
  Hr.ignore (CStunMessageBuilder.addTransactionId h.transid)
  Hr.ignore (CStunMessageBuilder.addMappedAddress h.msgIn.addrRemote)
  Hr.when (addrOrigin.isIPAddressZero = false)
    (Hr.ignore (CStunMessageBuilder.addResponseOriginAddress addrOrigin))
  Hr.ignore (addOther h.otherAddress)
  Hr.ignore (CStunMessageBuilder.addXorMappedAddress h.msgIn.addrRemote)
  Hr.when (h.integrity.fSendWithIntegrity = true) (Hr.ignore (addIntegrity D h.integrity))
  Hr.ignore CStunMessageBuilder.fixLengthField

def processBindingRequest : Hr CStunRequestHandler Unit := do
  let builder := (← get).attachBuilder
  modify (leaveBuilder builder)
  checkPadding
  let socketOutput ← chooseSocket
  modify fun h => { h with msgOut := { h.msgOut with socketrole := socketOutput } }
  modify fun h => h.leaveBuilder ((writeBindingResponse D h socketOutput).after builder)

/-! ### The error response -/

/-- `"FAILED"`. -/
def pszFailed : List UInt8 := ['F', 'A', 'I', 'L', 'E', 'D'].map Char.toUInt8 ++ [0]

/-- Nonce and realm, those that are not empty. -/
def addChallenge (error : StunErrorCode) : Hr CStunMessageBuilder Unit := do
  Hr.when (error.szNonce.head ≠ 0)
    (Hr.ignore (CStunMessageBuilder.addStringAttribute STUN_ATTRIBUTE_NONCE error.szNonce.toList))
  Hr.when (error.szRealm.head ≠ 0)
    (Hr.ignore (CStunMessageBuilder.addStringAttribute STUN_ATTRIBUTE_REALM error.szRealm.toList))

/-- The attributes that some of the errors have. -/
def addErrorDetails (error : StunErrorCode) : Hr CStunMessageBuilder Unit :=
  if error.errorcode = STUN_ERROR_UNKNOWNATTRIB ∧ error.attribUnknown ≠ 0 then
    Hr.ignore (CStunMessageBuilder.addUnknownAttributes [error.attribUnknown])
  else if error.errorcode = STUN_ERROR_STALENONCE ∨ error.errorcode = STUN_ERROR_UNAUTHORIZED then
    addChallenge error
  else pure ()

def writeErrorResponse (h : CStunRequestHandler) : Hr CStunMessageBuilder Unit := do
  Hr.ignore (CStunMessageBuilder.addHeader h.error.msgtype h.error.msgclass)
  Hr.ignore (CStunMessageBuilder.addTransactionId h.transid)
  Hr.ignore (CStunMessageBuilder.addErrorCode h.error.errorcode pszFailed)
  addErrorDetails h.error
  Hr.ignore CStunMessageBuilder.fixLengthField
  Hr.ignore CStunMessageBuilder.getResult

def buildErrorResponse (h : CStunRequestHandler) : CStunRequestHandler :=
  h.leaveBuilder ((writeErrorResponse h).after h.attachBuilder)

/-! ### The request -/

/-- We always try to honor the response port. -/
def honorResponsePort (h : CStunRequestHandler) : CStunRequestHandler :=
  let responseport := outOr h.reader.getResponsePort 0
  if responseport ≠ 0 then
    let h := { h with fRequestHasResponsePort := true }
    -- there is no other port to answer to on a connection
    if h.msgIn.fConnectionOriented then h.setErrorCode STUN_ERROR_BADREQUEST
    else { h with msgOut := { h.msgOut with addrDest := h.msgOut.addrDest.setPort responseport } }
  else h

/-- We send back an error response for requests that are not Binding requests. -/
def checkMethod (h : CStunRequestHandler) : CStunRequestHandler :=
  if h.error.errorcode = 0 then
    if h.reader.getMessageType ≠ StunMsgTypeBinding then h.setErrorCode STUN_ERROR_BADREQUEST
    else h
  else h

/-- A step that is taken while there is no error yet; when it fails without saying
which error it is, that is a 400. -/
def guarded (step : Hr CStunRequestHandler Unit) (h : CStunRequestHandler) :
    CStunRequestHandler :=
  if h.error.errorcode = 0 then
    match step h with
    | .ok _ h' => h'
    | .error _ h' =>
      if h'.error.errorcode = 0 then h'.setErrorCode STUN_ERROR_BADREQUEST else h'
  else h

/-- The fields of the request that both kinds of response repeat. -/
def prepare (h : CStunRequestHandler) : CStunRequestHandler :=
  { h with
    error := { h.error with
      msgtype := h.reader.getMessageType
      msgclass := .failureResponse }
    transid := h.reader.getTransactionId
    fLegacyMode := h.reader.isMessageLegacyFormat }

def processRequestImpl : Hr CStunRequestHandler Unit := do
  let reader := (← get).reader
  -- ignore anything that is not a request
  Hr.chkIf (reader.getMessageClass ≠ .request) E_FAIL
  modify prepare
  modify honorResponsePort
  modify checkMethod
  modify (guarded (validateAuth D))
  modify (guarded (processBindingRequest D))
  if (← get).error.errorcode ≠ 0 then
    modify buildErrorResponse

/-- The checks in the order of the source; nothing is touched before they have passed. -/
def processRequest (msgIn : StunMessageIn) (msgOut : StunMessageOut)
    (pAddressSet : Option TransportAddressSet) (pAuth : Option IStunAuth) :
    HRESULT × StunMessageOut :=
  match msgIn.pReader, msgOut.spBufferOut, pAddressSet with
  | none, _, _ => (E_INVALIDARG, msgOut)
  | some _, none, _ => (E_INVALIDARG, msgOut)
  | some reader, some buf, pAddressSet =>
    if buf.getAllocatedSize < MAX_STUN_MESSAGE_SIZE then (E_INVALIDARG, msgOut)
    else
      match pAddressSet with
      | none => (E_INVALIDARG, msgOut)
      | some addrSet =>
        -- no response to what is not a message
        if reader.getState ≠ .bodyValidated then (E_UNEXPECTED, msgOut)
        else
          let msgOut : StunMessageOut :=
            { socketrole := msgIn.socketrole
              addrDest := msgIn.addrRemote
              spBufferOut := some (buf.setSize 0).2 }
          match processRequestImpl D (create pAuth addrSet msgIn reader msgOut) with
          | .ok _ h => (S_OK, h.msgOut)
          | .error hr h => (hr, h.msgOut)

end

end CStunRequestHandler
end StunServer

import StunServer.Core.StunBuilder
import StunServer.Lib.Log
import StunServer.Spec.Message

/-! Messages as sequences of calls of the attribute writers, and what every call is to
leave behind: one record, or nothing when it fails. -/

namespace StunServer.CStunMessageBuilder

open Bytes Tlv

/-- A call of an attribute writer. The memory behind a data pointer is as large as the
call says; for a string and for a list of types a null pointer is the empty one. -/
inductive AttributeCall where
  | plainAttribute (attribType : UInt16) (data : Option (List UInt8)) (size : UInt16)
      (readable : ∀ d, data = some d → size.toNat ≤ d.length)
  | stringAttribute (attribType : UInt16) (pstr : List UInt8)
  | errorCode (errorNumber : UInt16) (pszReason : List UInt8)
  | unknownAttributes (arr : List UInt16)
  | mappedAddress (addr : CSocketAddress)
  | xorMappedAddress (addr : CSocketAddress)
  | responseOriginAddress (addr : CSocketAddress)
  | otherAddress (addr : CSocketAddress)
  | responsePort (port : UInt16)
  | paddingAttribute (paddingSize : UInt16)
  | changeRequest (changeAttrib : StunChangeRequestAttribute)

namespace AttributeCall

def run : AttributeCall → Hr CStunMessageBuilder Unit
  | plainAttribute t data size _ => addAttribute t data size
  | stringAttribute t pstr => addStringAttribute t pstr
  | errorCode n pszReason => addErrorCode n pszReason
  | unknownAttributes arr => addUnknownAttributes arr
  | mappedAddress addr => addMappedAddress addr
  | xorMappedAddress addr => addXorMappedAddress addr
  | responseOriginAddress addr => addResponseOriginAddress addr
  | otherAddress addr => addOtherAddress addr
  | responsePort port => addResponsePort port
  | paddingAttribute n => addPaddingAttribute n
  | changeRequest c => addChangeRequest c

/-- The type of the attribute that the call adds. -/
def type (fLegacyMode : Bool) : AttributeCall → UInt16
  | plainAttribute t _ _ _ => t
  | stringAttribute t _ => t
  | errorCode .. => STUN_ATTRIBUTE_ERRORCODE
  | unknownAttributes _ => STUN_ATTRIBUTE_UNKNOWNATTRIBUTES
  | mappedAddress _ => STUN_ATTRIBUTE_MAPPEDADDRESS
  | xorMappedAddress _ =>
    if fLegacyMode then STUN_ATTRIBUTE_XORMAPPEDADDRESS_OPTIONAL
    else STUN_ATTRIBUTE_XORMAPPEDADDRESS
  | responseOriginAddress _ =>
    if fLegacyMode then STUN_ATTRIBUTE_SOURCEADDRESS else STUN_ATTRIBUTE_RESPONSE_ORIGIN
  | otherAddress _ =>
    if fLegacyMode then STUN_ATTRIBUTE_CHANGEDADDRESS else STUN_ATTRIBUTE_OTHER_ADDRESS
  | responsePort _ => STUN_ATTRIBUTE_RESPONSE_PORT
  | paddingAttribute _ => STUN_ATTRIBUTE_PADDING
  | changeRequest _ => STUN_ATTRIBUTE_CHANGEREQUEST

end AttributeCall

/-- The calls after which the writers leave a record: no data announced that is not there,
no size that 16 bits cannot hold with its padding, and no list of types that is left
unpadded or whose size is nothing in 16 bits. -/
def AttributeCall.Sound (fLegacyMode : Bool) : AttributeCall → Prop
  | plainAttribute _ none size _ => size = 0
  | plainAttribute _ (some _) size _ => fLegacyMode = true → size.toNat ≤ 65532
  | stringAttribute _ pstr => fLegacyMode = true → strlen pstr % 2 ^ 16 ≤ 65532
  | unknownAttributes arr =>
    arr.length = 0 ∨ arr.length % 2 ^ 15 ≠ 0 ∧
      if fLegacyMode then arr.length % 2 ^ 15 ≠ 2 ^ 15 - 1 else arr.length % 2 = 0
  | _ => True

/-- The builder after some calls, failed ones included. -/
def afterAttributes (b : CStunMessageBuilder) (calls : List AttributeCall) : CStunMessageBuilder :=
  calls.foldl (fun b call => call.run.after b) b

/-- The calls that succeed, one after the other. -/
def added (b : CStunMessageBuilder) : List AttributeCall → List AttributeCall
  | [] => []
  | call :: calls =>
    if call.run.succeeds b then call :: (call.run.after b).added calls
    else (call.run.after b).added calls

/-- A builder, on its own stream or on a buffer it is handed, after `SetLegacyMode`,
`AddHeader` and `AddTransactionId`. -/
def started (spBuffer : Option CBuffer) (fLegacyMode : Bool) (msgType : UInt16)
    (msgClass : StunMessageClass) (transid : StunTransactionId) : CStunMessageBuilder :=
  let b := (spBuffer.elim create create.attachStream).setLegacyMode fLegacyMode
  (addTransactionId transid).after ((addHeader msgType msgClass).after b)

/-- Any public call on a builder. -/
inductive BuilderCall where
  | setLegacyMode (fLegacyMode : Bool)
  | attach (buf : CBuffer)
  | header (msgType : UInt16) (msgClass : StunMessageClass)
  | transactionId (transid : StunTransactionId)
  | randomTransactionId (entropy : Entropy)
  | attributeHeader (attribType size : UInt16)
  | addedAttribute (call : AttributeCall)
  | fingerprint
  | integrityShortTerm (pszPassword : List UInt8)
  | integrityLongTerm (pszUserName pszRealm pszPassword : List UInt8)
  | lengthField
  | result

def BuilderCall.run (D : Digests) : BuilderCall → Hr CStunMessageBuilder Unit
  | setLegacyMode fLegacyMode => modify fun b => b.setLegacyMode fLegacyMode
  | attach buf => modify fun b => b.attachStream buf
  | header msgType msgClass => addHeader msgType msgClass
  | transactionId transid => addTransactionId transid
  | randomTransactionId entropy => addRandomTransactionId entropy
  | attributeHeader t n => addAttributeHeader t n
  | addedAttribute call => call.run
  | fingerprint => addFingerprintAttribute D
  | integrityShortTerm pszPassword => addMessageIntegrityShortTerm D pszPassword
  | integrityLongTerm pszUserName pszRealm pszPassword =>
    addMessageIntegrityLongTerm D pszUserName pszRealm pszPassword
  | lengthField => fixLengthField
  | result => Hr.ignore getResult

/-- The builder after any calls, failed ones included. -/
def afterBuilding (D : Digests) (b : CStunMessageBuilder) (calls : List BuilderCall) :
    CStunMessageBuilder :=
  calls.foldl (fun b call => (call.run D).after b) b

/-- A call that succeeds appends a record of its type, one that fails nothing. -/
structure AddsRecord (b : CStunMessageBuilder) (call : AttributeCall) : Prop where
  success : ∀ b', call.run b = .ok () b' →
    ∃ r : Record, r.type = call.type b.fLegacyMode ∧ b'.stream.bytes = b.stream.bytes ++ r.encode
  failure : ∀ e b', call.run b = .error e b' → b'.stream.bytes = b.stream.bytes

/-- The stream holds the header and then the attributes that some calls added. -/
structure Holds (b : CStunMessageBuilder) (header : List UInt8) (calls : List AttributeCall) :
    Prop where
  aligned : b.stream.getSize % 4 = 0
  parses : ∃ rs : List Record, b.stream.bytes = header ++ encodeAll rs ∧
    rs.map Record.type = calls.map (AttributeCall.type b.fLegacyMode)

/-- In every state of the run each call adds its record and the body is the list of the
attributes added. -/
structure WellBuilt (b : CStunMessageBuilder) (calls : List AttributeCall) : Prop where
  adds : Log.Always (fun before call => AddsRecord (b.afterAttributes before) call) calls
  holds : ∀ before after, calls = before ++ after →
    (b.afterAttributes before).Holds b.stream.bytes (b.added before)

end StunServer.CStunMessageBuilder

import StunServer.Proofs.Address
import StunServer.Proofs.HandlerReply
import StunServer.Results.Integrity

/-! The response to a request: it is in the caller's buffer, it is a message the reader
accepts, and the addresses in it are true. -/

namespace StunServer

open Bytes Tlv CStunMessageReader CStunRequestHandler CStunMessageBuilder

/-- A reader that has accepted a request. -/
structure HoldsRequest (r : CStunMessageReader) : Prop where
  reachable : Reachable r
  state : r.getState = .bodyValidated
  cls : r.getMessageClass = .request

/-- The bytes a server sends. -/
def responseBytes (out : StunMessageOut) : List UInt8 := out.spBufferOut.elim [] CBuffer.bytes

/-- The reader of whoever receives the response. -/
def responseReader (out : StunMessageOut) : CStunMessageReader := readBack (responseBytes out)

/-- A request `m`, what `ProcessRequest` makes of it, and the buffer it had for that. -/
structure Served (D : Digests) (x : Arrival) (m : Message) (buf : CBuffer)
    (res : HRESULT × StunMessageOut) : Prop where
  cls : m.cls = .request
  hr : res.1 = S_OK
  answered : Answered D (x.reply D m) (x.replyRole D m) (x.dest m) buf res.2
  reader : (responseReader res.2).Parsed (x.reply D m)

/-- `ProcessRequest` on what has arrived. -/
def serve (D : Digests) (x : Arrival) (out : StunMessageOut) : HRESULT × StunMessageOut :=
  processRequest D x.msgIn out (some x.addrSet) x.pAuth

theorem served (D : Digests) {r : CStunMessageReader} (h : HoldsRequest r) {x : Arrival}
    (hin : x.msgIn.pReader = some r) {out : StunMessageOut} {buf : CBuffer}
    (hout : out.spBufferOut = some buf) (hcap : 800 ≤ buf.getAllocatedSize) :
    ∃ m, r.Parsed m ∧ Served D x m buf (serve D x out) := by
  obtain ⟨m, hm⟩ := h.reachable.exists_parsed h.state
  have hcls : m.cls = .request := hm.cls.symm.trans h.cls
  obtain ⟨out', hrun, hanswered⟩ := processRequest_answered (D := D) hm hin hcls hout hcap
  rw [serve]
  refine ⟨m, hm, hcls, by rw [hrun], by rw [hrun]; exact hanswered, ?_⟩
  obtain ⟨-, buf', -, -, -, hbuf', -, hbytes, -⟩ := hanswered.exists_buffer
  rw [hrun, responseReader, responseBytes, hbuf', Option.elim_some, hbytes]
  exact parsed_encode _

/-! ### The two kinds of response -/

section

variable {D : Digests} {x : Arrival} {m : Message} {buf : CBuffer} {res : HRESULT × StunMessageOut}

theorem verdict_eq_ok {c : Option Credential} :
    x.verdict D m = .ok c ↔
      x.WellPut m ∧ Arrival.authorize D x.pAuth m = .ok c ∧ x.Servable m := by
  rw [Arrival.verdict]
  by_cases hw : x.WellPut m
  · rw [if_pos hw]
    cases Arrival.authorize D x.pAuth m with
    | error e => simp
    | ok c' =>
      by_cases hs : x.Servable m
      · simp [hw, hs]
      · simp [hs]
  · simp [hw]

/-- A refusal leaves from where the request came in; a success from where it was asked for. -/
theorem Served.cases (h : Served D x m buf res) :
    (∃ e, x.verdict D m = .error e ∧ (responseReader res.2).Parsed (errorReply m e) ∧
      (responseReader res.2).getMessageClass = .failureResponse ∧
      res.2.socketrole = x.msgIn.socketrole) ∨
    ∃ c, x.verdict D m = .ok c ∧ (responseReader res.2).Parsed (x.successReply D m c) ∧
      (responseReader res.2).getMessageClass = .successResponse ∧
      res.2.socketrole = m.outputRole x.msgIn.socketrole := by
  have hreader := h.reader
  have hrole := h.answered.role
  rw [Arrival.reply] at hreader
  rw [Arrival.replyRole] at hrole
  cases hv : x.verdict D m with
  | error e =>
    rw [hv] at hreader hrole
    exact Or.inl ⟨e, rfl, hreader, hreader.cls, hrole⟩
  | ok c =>
    rw [hv] at hreader hrole
    exact Or.inr ⟨c, rfl, hreader, hreader.cls, hrole⟩

theorem Served.success (h : Served D x m buf res)
    (hcls : (responseReader res.2).getMessageClass = .successResponse) :
    ∃ c, x.verdict D m = .ok c ∧ (responseReader res.2).Parsed (x.successReply D m c) ∧
      res.2.socketrole = m.outputRole x.msgIn.socketrole := by
  rcases h.cases with ⟨e, -, -, hfail, -⟩ | ⟨c, hv, hparsed, -, hrole⟩
  · rw [hcls] at hfail
    cases hfail
  · exact ⟨c, hv, hparsed, hrole⟩

theorem reply_size (D : Digests) (x : Arrival) (m : Message) :
    sizeAll (x.reply D m).attrs ≤ 152 := by
  rw [Arrival.reply]
  cases x.verdict D m with
  | error e => exact e.small_records.size_le
  | ok c => exact (x.small_successRecords m D c).size_le.trans (by decide)

end

/-! ### Well-formed responses -/

/-- Every response is in the caller's buffer and is read back as a response to the request. -/
theorem response_well_formed (D : Digests) {r : CStunMessageReader} (h : HoldsRequest r)
    {x : Arrival} (hin : x.msgIn.pReader = some r) (out : StunMessageOut) {buf : CBuffer}
    (hout : out.spBufferOut = some buf) (hcap : 800 ≤ buf.getAllocatedSize) :
    let res := serve D x out
    let resp := responseReader res.2
    res.1 = S_OK ∧
    (∃ builder buf', IsResponseBuilder D buf builder ∧ builder.stream.replaced = none ∧
      builder.stream.pBuffer = some buf' ∧ res.2.spBufferOut = some buf' ∧
      buf'.getAllocatedSize = buf.getAllocatedSize ∧ 20 ≤ buf'.getSize ∧ buf'.getSize ≤ 200 ∧
      buf'.bytes.length = buf'.getSize) ∧
    resp.getState = .bodyValidated ∧
    (resp.getMessageClass = .successResponse ∨ resp.getMessageClass = .failureResponse) ∧
    resp.getTransactionId = r.getTransactionId ∧
    resp.isMessageLegacyFormat = r.isMessageLegacyFormat ∧
    resp.getMessageType = r.getMessageType ∧
    (resp.getMessageClass = .successResponse → resp.getMessageType = StunMsgTypeBinding) := by
  obtain ⟨m, hm, hserved⟩ := served D h hin hout hcap
  obtain ⟨builder, buf', hbuilder, hreplaced, hbuf', hshared, halloc, hbytes, hlen⟩ :=
    hserved.answered.exists_buffer
  have hsize : buf'.bytes.length = 20 + sizeAll (x.reply D m).attrs := by
    rw [hbytes, Message.encode_length]
  have hle := reply_size D x m
  refine ⟨hserved.hr, ⟨builder, buf', hbuilder, hreplaced, hbuf', hshared, halloc, ?_, ?_, hlen⟩,
    hserved.reader.state, ?_⟩
  · rw [CBuffer.getSize]
    omega
  · rw [CBuffer.getSize]
    omega
  · rcases hserved.cases with ⟨e, hv, hparsed, hcls, -⟩ | ⟨c, hv, hparsed, hcls, -⟩
    · refine ⟨Or.inr hcls, hparsed.tid.trans hm.tid.symm, hparsed.legacy.trans hm.legacy.symm,
        hparsed.type.trans hm.type.symm, fun hsuccess => ?_⟩
      rw [hcls] at hsuccess
      cases hsuccess
    · have hmethod := (verdict_eq_ok.mp hv).1.method
      exact ⟨Or.inl hcls, hparsed.tid.trans hm.tid.symm, hparsed.legacy.trans hm.legacy.symm,
        hparsed.type.trans (hmethod.symm.trans hm.type.symm), fun _ => hparsed.type⟩

/-- The reader of an encoded request holds it. -/
theorem holdsRequest_encode {m : Message} (hcls : m.cls = .request) :
    HoldsRequest (readBack m.encode) := by
  have hle := m.encode_length_le
  have hparsed := parsed_encode m
  refine ⟨Reachable.addBytes .create _ _ ?_, hparsed.state, hparsed.cls.trans hcls⟩
  intro c hc
  rw [Option.some.injEq] at hc
  rw [← hc, UInt32.toNat_ofNat_of_lt']
  show _ < 4294967296
  omega

/-- A Binding request without attributes. -/
def sampleRequest : Message where
  method := StunMsgTypeBinding
  cls := .request
  tid := List.Vector.replicate 16 7
  attrs := []
  isMethod := isMethod_binding
  cls_ne := request_ne_invalid
  count_le := by decide
  value_le := by simp
  body_le := by decide

/-- It comes from `1.0.0.127:256` to a server with one socket. -/
def sampleArrival : Arrival where
  msgIn := ⟨.rolePP, .create, .addr4 1 0x7f000001, some (readBack sampleRequest.encode), false⟩
  addrSet := ⟨fun role => ⟨.create, role = .rolePP⟩⟩
  pAuth := none

def sampleBuffer : CBuffer := CBuffer.initWithAllocation 1500

def sampleOut : StunMessageOut := ⟨.rolePP, .create, some sampleBuffer⟩

theorem sampleBuffer_capacity : 800 ≤ sampleBuffer.getAllocatedSize := by
  rw [sampleBuffer, CBuffer.getAllocatedSize, CBuffer.initWithAllocation, List.length_replicate]
  decide

theorem holdsRequest_sample : HoldsRequest (readBack sampleRequest.encode) := holdsRequest_encode rfl

theorem sampleRequest_verdict (D : Digests) : sampleArrival.verdict D sampleRequest = .ok none := by
  have hport : sampleRequest.responsePort = none := rfl
  have hchange : ¬sampleRequest.AsksChange := by decide
  refine verdict_eq_ok.mpr ⟨⟨rfl, fun hp => absurd hport hp⟩, rfl, ⟨fun hp => absurd hport hp,
    fun hc => absurd hc hchange, fun hc => absurd hc hchange⟩⟩

theorem length_alice : ([97, 108, 105, 99, 101] : List UInt8).length < 2 ^ 16 := by decide

/-- A signed Binding request, with or without a fingerprint. -/
def signedRequest (fFingerprint : Bool) : Message where
  method := StunMsgTypeBinding
  cls := .request
  tid := List.Vector.replicate 16 7
  attrs :=
    [Record.ofValue STUN_ATTRIBUTE_USERNAME [97, 108, 105, 99, 101] length_alice] ++
      integrityRecord (sampleDigests.hmacSha1 [] []) ::
        if fFingerprint then [fingerprintRecord (sampleDigests.crc32 [] ^^^ STUN_FINGERPRINT_XOR)]
        else []
  isMethod := isMethod_binding
  cls_ne := request_ne_invalid
  count_le := by cases fFingerprint <;> decide
  value_le := by cases fFingerprint <;> decide
  body_le := by cases fFingerprint <;> decide

theorem signedRequest_sealed (fFingerprint : Bool) : ∃ tail,
    (signedRequest fFingerprint).Sealed
      [Record.ofValue STUN_ATTRIBUTE_USERNAME [97, 108, 105, 99, 101] length_alice]
      (integrityRecord (sampleDigests.hmacSha1 [] [])) tail ∧
    (signedRequest fFingerprint).hmacText
      [Record.ofValue STUN_ATTRIBUTE_USERNAME [97, 108, 105, 99, 101] length_alice] tail =
      integrityText (mergeType StunMsgTypeBinding .request) (List.Vector.replicate 16 7)
        [Record.ofValue STUN_ATTRIBUTE_USERNAME [97, 108, 105, 99, 101] length_alice] := by
  cases fFingerprint with
  | false => exact ⟨[], ⟨rfl, rfl, rfl, Or.inl rfl⟩, rfl⟩
  | true => exact ⟨_, ⟨rfl, rfl, rfl, Or.inr ⟨_, rfl, rfl⟩⟩, rfl⟩

/-- `"pw"`. -/
def samplePassword : AuthString := memcpy AuthString.zero [112, 119, 0]

/-- A provider that asks for that password. -/
def samplePasswordAuth : IStunAuth where
  doAuthCheck _ := (S_OK, ⟨.allowConditional, .authCredShortTerm, samplePassword, .zero, .zero⟩)

/-- A signed request to a server with that provider. -/
def signedArrival : Arrival :=
  { sampleArrival.withReader (readBack (signedRequest true).encode) with
    pAuth := some samplePasswordAuth }

theorem holdsRequest_signed : HoldsRequest (readBack (signedRequest true).encode) :=
  holdsRequest_encode rfl

theorem signedArrival_verdict : ∃ c, signedArrival.verdict sampleDigests (signedRequest true) = .ok c := by
  have hport : (signedRequest true).responsePort = none := by decide
  have hchange : ¬(signedRequest true).AsksChange := by decide
  obtain ⟨tail, hs, -⟩ := signedRequest_sealed true
  set c := (signedRequest true).credential
    (samplePasswordAuth.doAuthCheck (signedRequest true).authAttributes).2
  have hauthentic : (signedRequest true).Authentic sampleDigests (c.key sampleDigests) :=
    ⟨by decide, _, _, tail, hs, rfl⟩
  have hadmits : Arrival.authorize sampleDigests signedArrival.pAuth (signedRequest true) =
      .ok (some c) := if_pos hauthentic
  exact ⟨some c, verdict_eq_ok.mpr ⟨⟨rfl, fun hp => absurd hport hp⟩, hadmits,
    ⟨fun hp => absurd hport hp, fun hc => absurd hc hchange, fun hc => absurd hc hchange⟩⟩⟩

theorem signedArrival_success :
    (responseReader (serve sampleDigests signedArrival sampleOut).2).getMessageClass =
      .successResponse := by
  have hout : sampleOut.spBufferOut = some sampleBuffer := rfl
  obtain ⟨m, hm, hserved⟩ := served sampleDigests holdsRequest_signed (x := signedArrival) rfl hout
    sampleBuffer_capacity
  obtain rfl := (parsed_encode (signedRequest true)).unique hm
  obtain ⟨c, hc⟩ := signedArrival_verdict
  rcases hserved.cases with ⟨e, hv, -⟩ | ⟨c, -, -, hcls, -⟩
  · rw [hc] at hv
    cases hv
  · exact hcls

/-- The answer to the signed request is in the buffer of its server and is a success response to
a Binding request. -/
theorem response_well_formed_signed :
    let res := serve sampleDigests signedArrival sampleOut
    let resp := responseReader res.2
    (∃ buf', res.2.spBufferOut = some buf' ∧ buf'.getAllocatedSize = 1500 ∧ 20 ≤ buf'.getSize ∧
      buf'.getSize ≤ 200) ∧
    resp.getState = .bodyValidated ∧ resp.getTransactionId = List.Vector.replicate 16 7 ∧
    resp.getMessageType = StunMsgTypeBinding := by
  obtain ⟨-, ⟨builder, buf', -, -, -, hbuf', halloc, hmin, hmax, -⟩, hstate, -, htid, -, -, htype⟩ :=
    response_well_formed sampleDigests holdsRequest_signed (x := signedArrival) rfl sampleOut rfl
      sampleBuffer_capacity
  exact ⟨⟨buf', hbuf', halloc.trans (List.length_replicate ..), hmin, hmax⟩, hstate,
    htid.trans (parsed_encode (signedRequest true)).tid, htype signedArrival_success⟩

/-! ### Addresses -/

section

variable {D : Digests} {x : Arrival} {m : Message} {c : Option Credential} {t : UInt16}

theorem lastOf_if {p : Prop} [Decidable p] {a : Record} :
    lastOf t (if p then [a] else []) = if p ∧ a.type = t then some a else none := by
  by_cases hp : p
  · simp [hp, lastOf_singleton]
  · simp [hp]

@[simp] theorem addressRecord_type (fLegacyMode : Bool) (t : UInt16) (addr : CSocketAddress) :
    (addressRecord fLegacyMode t addr).type = t := record_type _ _ _

theorem addressRecord_value (fLegacyMode : Bool) (t : UInt16) (addr : CSocketAddress) :
    (addressRecord fLegacyMode t addr).value = addressValue addr :=
  record_value_aligned _ _ _ (addressValue_aligned addr)

/-- The signature hides no address. -/
theorem find_successReply (ht : STUN_ATTRIBUTE_MESSAGEINTEGRITY ≠ t) :
    (x.successReply D m c).find t = lastOf t (x.addressRecords m) := by
  have hsignature : ∀ typeField tid rs, lastOf t (Arrival.signature D typeField tid rs c) = none := by
    intro typeField tid rs
    cases c with
    | none => rfl
    | some c =>
      rw [Arrival.signature, lastOf_singleton]
      exact if_neg ht
  change lastOf t (x.addressRecords m ++ _) = _
  rw [lastOf_append, hsignature, Option.none_or]

/-- What an accessor of the receiver makes of a record. -/
def addressIn : Option Record → Except HRESULT CSocketAddress
  | none => .error E_FAIL
  | some a => StunServer.getMappedAddress a.value

@[simp] theorem addressIn_none : addressIn none = .error E_FAIL := rfl

@[simp] theorem addressIn_addressRecord (fLegacyMode : Bool) (t : UInt16) (addr : CSocketAddress) :
    addressIn (some (addressRecord fLegacyMode t addr)) = .ok addr := by
  rw [addressIn, addressRecord_value, getMappedAddress_addressValue]

theorem addressIn_mapped :
    addressIn (lastOf STUN_ATTRIBUTE_MAPPEDADDRESS (x.addressRecords m)) = .ok x.msgIn.addrRemote := by
  classical
  unfold Arrival.addressRecords
  simp only [lastOf_append, lastOf_singleton, lastOf_if, addressRecord_type]
  cases m.isLegacy with
  | true => simp +decide
  | false => simp +decide

theorem addressIn_xor :
    addressIn ((lastOf STUN_ATTRIBUTE_XORMAPPEDADDRESS (x.addressRecords m)).or
      (lastOf STUN_ATTRIBUTE_XORMAPPEDADDRESS_OPTIONAL (x.addressRecords m))) =
      .ok (x.msgIn.addrRemote.applyStunXorMap m.tid) := by
  classical
  unfold Arrival.addressRecords
  simp only [lastOf_append, lastOf_singleton, lastOf_if, addressRecord_type]
  cases m.isLegacy with
  | true => simp +decide
  | false => simp +decide

theorem addressIn_origin :
    addressIn ((lastOf STUN_ATTRIBUTE_RESPONSE_ORIGIN (x.addressRecords m)).or
      (lastOf STUN_ATTRIBUTE_SOURCEADDRESS (x.addressRecords m))) =
      if (x.origin (m.outputRole x.msgIn.socketrole)).isIPAddressZero = true then .error E_FAIL
      else .ok (x.origin (m.outputRole x.msgIn.socketrole)) := by
  classical
  unfold Arrival.addressRecords
  simp only [lastOf_append, lastOf_singleton, lastOf_if, addressRecord_type]
  cases m.isLegacy with
  | true =>
    cases hz : (x.origin (m.outputRole x.msgIn.socketrole)).isIPAddressZero <;>
      simp +decide
  | false =>
    cases hz : (x.origin (m.outputRole x.msgIn.socketrole)).isIPAddressZero <;>
      simp +decide

open Classical in
theorem addressIn_other :
    addressIn ((lastOf STUN_ATTRIBUTE_OTHER_ADDRESS (x.addressRecords m)).or
      (lastOf STUN_ATTRIBUTE_CHANGEDADDRESS (x.addressRecords m))) =
      if x.KnowsOther then .ok (x.addrSet.set x.otherRole).addr else .error E_FAIL := by
  unfold Arrival.addressRecords
  simp only [lastOf_append, lastOf_singleton, lastOf_if, addressRecord_type]
  cases m.isLegacy with
  | true =>
    by_cases hk : x.KnowsOther <;>
      simp +decide [hk]
  | false =>
    by_cases hk : x.KnowsOther <;>
      simp +decide [hk]

/-- Every record of the list can be parsed. -/
theorem addressIn_record {o : Option Record} (h : lastOf t (x.addressRecords m) = o) :
    o = none ∨ ∃ addr, addressIn o = .ok addr := by
  cases ho : o with
  | none => exact Or.inl rfl
  | some a =>
    have hmem : ∃ t addr, a = addressRecord m.isLegacy t addr := by
      have ha := mem_of_lastOf (h.trans ho)
      unfold Arrival.addressRecords at ha
      simp only [List.mem_append, List.mem_ite_nil_right, List.mem_singleton] at ha
      rcases ha with ((ha | ⟨-, ha⟩) | ⟨-, ha⟩) | ha <;> exact ⟨_, _, ha⟩
    obtain ⟨t, addr, rfl⟩ := hmem
    exact Or.inr ⟨addr, addressIn_addressRecord _ _ _⟩

/-- An accessor with a second attribute to fall back on. -/
theorem getAddressOrLegacy_eq {r : CStunMessageReader} (h : r.Parsed (x.successReply D m c))
    {t t' : UInt16} (ht : STUN_ATTRIBUTE_MESSAGEINTEGRITY ≠ t)
    (ht' : STUN_ATTRIBUTE_MESSAGEINTEGRITY ≠ t') :
    r.getAddressOrLegacy t t' =
      addressIn ((lastOf t (x.addressRecords m)).or (lastOf t' (x.addressRecords m))) := by
  have hhelper : ∀ t, STUN_ATTRIBUTE_MESSAGEINTEGRITY ≠ t →
      r.getAddressHelper t = addressIn (lastOf t (x.addressRecords m)) := by
    intro t ht
    rw [h.getAddressHelper_eq, find_successReply ht]
    rfl
  rw [getAddressOrLegacy, hhelper t ht, hhelper t' ht']
  rcases addressIn_record (rfl : lastOf t (x.addressRecords m) = _) with hn | ⟨addr, ha⟩
  · rw [hn]
    rfl
  · cases ho : lastOf t (x.addressRecords m) with
    | none => rfl
    | some a =>
      rw [ho] at ha
      rw [ha]
      exact ha.symm

/-- Each accessor of a response with the address it finds there. -/
theorem success_getMappedAddress {r : CStunMessageReader} (h : r.Parsed (x.successReply D m c)) :
    r.getMappedAddress = .ok x.msgIn.addrRemote := by
  rw [CStunMessageReader.getMappedAddress, h.getAddressHelper_eq, find_successReply (by decide)]
  exact addressIn_mapped

theorem success_getXorMappedAddress {r : CStunMessageReader}
    (h : r.Parsed (x.successReply D m c)) : r.getXorMappedAddress = .ok x.msgIn.addrRemote := by
  rw [CStunMessageReader.getXorMappedAddress, getAddressOrLegacy_eq h (by decide) (by decide),
    addressIn_xor, h.tid]
  exact congrArg Except.ok (applyStunXorMap_twice _ _)

theorem success_getResponseOriginAddress {r : CStunMessageReader}
    (h : r.Parsed (x.successReply D m c)) :
    r.getResponseOriginAddress =
      if (x.origin (m.outputRole x.msgIn.socketrole)).isIPAddressZero = true then .error E_FAIL
      else .ok (x.origin (m.outputRole x.msgIn.socketrole)) := by
  rw [getResponseOriginAddress, getAddressOrLegacy_eq h (by decide) (by decide), addressIn_origin]

open Classical in
theorem success_getOtherAddress {r : CStunMessageReader} (h : r.Parsed (x.successReply D m c)) :
    r.getOtherAddress =
      if x.KnowsOther then .ok (x.addrSet.set x.otherRole).addr else .error E_FAIL := by
  rw [getOtherAddress, getAddressOrLegacy_eq h (by decide) (by decide), addressIn_other]

end

/-- A success response tells the client its own address, the address it was answered
from and the server's other address, as far as the server knows them. -/
theorem response_addresses (D : Digests) {r : CStunMessageReader} (h : HoldsRequest r)
    {x : Arrival} (hin : x.msgIn.pReader = some r) (out : StunMessageOut) {buf : CBuffer}
    (hout : out.spBufferOut = some buf) (hcap : 800 ≤ buf.getAllocatedSize)
    (hsuccess : (responseReader (serve D x out).2).getMessageClass = .successResponse) :
    let res := serve D x out
    let resp := responseReader res.2
    let addrOrigin := x.origin res.2.socketrole
    resp.getMappedAddress = .ok x.msgIn.addrRemote ∧
    resp.getXorMappedAddress = .ok x.msgIn.addrRemote ∧
    (∀ addr, resp.getResponseOriginAddress = .ok addr ↔
      addr = addrOrigin ∧ addrOrigin.isIPAddressZero = false) ∧
    (∀ addr, resp.getOtherAddress = .ok addr ↔
      addr = (x.addrSet.set x.otherRole).addr ∧ x.KnowsOther) := by
  classical
  obtain ⟨m, hm, hserved⟩ := served D h hin hout hcap
  obtain ⟨c, hv, hparsed, hrole⟩ := hserved.success hsuccess
  dsimp only
  rw [hrole]
  rw [success_getResponseOriginAddress hparsed, success_getOtherAddress hparsed]
  refine ⟨success_getMappedAddress hparsed, success_getXorMappedAddress hparsed, ?_, ?_⟩
  · intro addr
    split_ifs with hz
    · simp [hz]
    · rw [Bool.not_eq_true] at hz
      simp [hz, eq_comm]
  · intro addr
    split_ifs with hk
    · simp [hk, eq_comm]
    · simp [hk]

/-- The sample request gets a success response with its sender's address. -/
theorem response_addresses_binding :
    (responseReader (serve sampleDigests sampleArrival sampleOut).2).getMappedAddress =
      .ok (.addr4 1 0x7f000001) := by
  refine (response_addresses sampleDigests holdsRequest_sample rfl sampleOut rfl
    sampleBuffer_capacity ?_).1
  have hout : sampleOut.spBufferOut = some sampleBuffer := rfl
  obtain ⟨m, hm, hserved⟩ := served sampleDigests holdsRequest_sample (x := sampleArrival) rfl
    hout sampleBuffer_capacity
  obtain rfl := (parsed_encode sampleRequest).unique hm
  rcases hserved.cases with ⟨e, hv, -⟩ | ⟨c, -, -, hcls, -⟩
  · rw [sampleRequest_verdict] at hv
    cases hv
  · exact hcls

end StunServer

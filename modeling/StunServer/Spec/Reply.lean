import StunServer.Core.MessageHandler
import StunServer.Spec.Attribute
import StunServer.Spec.Integrity

/-! What a server answers to a request, stated on messages: whether the request is
admitted, where the reply leaves and where it goes, and the reply itself. -/

namespace StunServer

open Bytes Tlv CStunMessageBuilder

/-- A string that fits a character array of the handler. -/
structure AuthText where
  text : List UInt8
  isText : cstr text = text
  length_le : text.length ≤ 64

namespace AuthText

def empty : AuthText := ⟨[], rfl, Nat.zero_le _⟩

/-- The string in memory, cut off where it does not fit. -/
def ofBytes (s : List UInt8) : AuthText where
  text := cstr (s.take 64)
  isText := cstr_cstr _
  length_le := by
    have hle := cstr_length_le (s.take 64)
    rw [List.length_take] at hle
    omega

def ofArray (s : AuthString) : AuthText := ofBytes s.toList

end AuthText

/-- What a message integrity is computed under. -/
inductive Credential where
  | shortTerm (password : AuthText)
  | longTerm (user realm password : AuthText)

/-- The key of the hash. -/
def Credential.key (D : Digests) : Credential → List UInt8
  | shortTerm password => password.text
  | longTerm user realm password =>
    (D.md5 (CStunMessageReader.longTermKey user.text realm.text password.text)).toList

inductive Refusal where
  | badRequest
  | unauthorized (nonce realm : AuthText)
  | staleNonce (nonce realm : AuthText)

def Refusal.code : Refusal → UInt16
  | badRequest => STUN_ERROR_BADREQUEST
  | unauthorized .. => STUN_ERROR_UNAUTHORIZED
  | staleNonce .. => STUN_ERROR_STALENONCE

theorem Refusal.code_cases (e : Refusal) : e.code = 400 ∨ e.code = 401 ∨ e.code = 438 := by
  cases e with
  | badRequest => exact Or.inl rfl
  | unauthorized nonce realm => exact Or.inr (Or.inl rfl)
  | staleNonce nonce realm => exact Or.inr (Or.inr rfl)

/-- The nonce and the realm that go with a refusal. -/
def Refusal.challenge : Refusal → Option (AuthText × AuthText)
  | badRequest => none
  | unauthorized nonce realm => some (nonce, realm)
  | staleNonce nonce realm => some (nonce, realm)

/-! ### What a request says -/

namespace Message

/-- The port that is asked for, if it is well formed and not zero. -/
def responsePort (m : Message) : Option UInt16 :=
  match m.find STUN_ATTRIBUTE_RESPONSE_PORT with
  | none => none
  | some a => if a.value.length = 2 ∧ word16 a.value ≠ 0 then some (word16 a.value) else none

/-- The change of address and of port that is asked for. -/
def change (m : Message) : StunChangeRequestAttribute :=
  match m.find STUN_ATTRIBUTE_CHANGEREQUEST with
  | none => ⟨false, false⟩
  | some a =>
    if a.value.length = 4 then ⟨word32 a.value &&& 0x0004 ≠ 0, word32 a.value &&& 0x0002 ≠ 0⟩
    else ⟨false, false⟩

/-- Some change is asked for. -/
def AsksChange (m : Message) : Prop := m.change.fChangeIP = true ∨ m.change.fChangePort = true

instance (m : Message) : Decidable m.AsksChange := inferInstanceAs (Decidable (_ ∨ _))

def HasPadding (m : Message) : Prop := m.find STUN_ATTRIBUTE_PADDING ≠ none

instance (m : Message) : Decidable m.HasPadding := inferInstanceAs (Decidable (_ ≠ _))

/-- The role of the socket the answer to `m` leaves from. -/
def outputRole (m : Message) (role : SocketRole) : SocketRole :=
  CStunRequestHandler.changeSocket m.change role

/-- The value of a string attribute, if it fits the handler's arrays. -/
def stringValue (m : Message) (t : UInt16) : List UInt8 :=
  match m.find t with
  | none => []
  | some a => if a.value.length ≤ 64 then a.value else []

/-- The strings as an authentication provider gets to see them. -/
def authAttributes (m : Message) : AuthAttributes where
  szUser := memcpy AuthString.zero (m.stringValue STUN_ATTRIBUTE_USERNAME ++ [0])
  szRealm := memcpy AuthString.zero (m.stringValue STUN_ATTRIBUTE_REALM ++ [0])
  szNonce := memcpy AuthString.zero (m.stringValue STUN_ATTRIBUTE_NONCE ++ [0])
  szLegacyPassword := memcpy AuthString.zero (m.stringValue STUN_ATTRIBUTE_LEGACY_PASSWORD ++ [0])
  fMessageIntegrityPresent := (m.find STUN_ATTRIBUTE_MESSAGEINTEGRITY).isSome

/-- The credential a provider's response asks a request for. -/
def credential (m : Message) (response : AuthResponse) : Credential :=
  match response.authCredMech with
  | .authCredShortTerm => .shortTerm (.ofArray response.szPassword)
  | .authCredLongTerm =>
    .longTerm (.ofBytes (m.stringValue STUN_ATTRIBUTE_USERNAME))
      (.ofBytes (m.stringValue STUN_ATTRIBUTE_REALM)) (.ofArray response.szPassword)

end Message

/-! ### The decision -/

/-- What is known when a message has arrived: how it came in, the server's addresses and
its authentication provider. -/
structure Arrival where
  msgIn : StunMessageIn
  addrSet : TransportAddressSet
  pAuth : Option IStunAuth

namespace Arrival

open Classical in
/-- A provider's response to a request: a refusal, or the credential to sign with. -/
noncomputable def judge (D : Digests) (m : Message) (response : AuthResponse) :
    Except Refusal (Option Credential) :=
  let nonce := AuthText.ofArray response.szNonce
  let realm := AuthText.ofArray response.szRealm
  match response.responseType with
  | .allow => .ok none
  | .reject => .error .badRequest
  | .staleNonce => .error (.staleNonce nonce realm)
  | .unauthorized => .error (.unauthorized nonce realm)
  | .allowConditional =>
    if m.Authentic D ((m.credential response).key D) then .ok (some (m.credential response))
    else .error (.unauthorized nonce realm)

/-- A provider that fails refuses the request. -/
noncomputable def authorize (D : Digests) (pAuth : Option IStunAuth) (m : Message) :
    Except Refusal (Option Credential) :=
  match pAuth with
  | none => .ok none
  | some pAuth =>
    if FAILED (pAuth.doAuthCheck m.authAttributes).1 then .error .badRequest
    else judge D m (pAuth.doAuthCheck m.authAttributes).2

/-- There is no provider, or it says yes, or it leaves that to a message integrity that the
message has. -/
def Admits (D : Digests) (pAuth : Option IStunAuth) (m : Message) : Prop :=
  ∀ auth, pAuth = some auth →
    SUCCEEDED (auth.doAuthCheck m.authAttributes).1 = true ∧
    ((auth.doAuthCheck m.authAttributes).2.responseType = .allow ∨
      (auth.doAuthCheck m.authAttributes).2.responseType = .allowConditional ∧
        m.Authentic D ((m.credential (auth.doAuthCheck m.authAttributes).2).key D))

/-- The provider asks for credentials, or those of the message are wrong. -/
def Challenges (D : Digests) (pAuth : Option IStunAuth) (m : Message) : Prop :=
  ∃ auth, pAuth = some auth ∧ SUCCEEDED (auth.doAuthCheck m.authAttributes).1 = true ∧
    ((auth.doAuthCheck m.authAttributes).2.responseType = .unauthorized ∨
      (auth.doAuthCheck m.authAttributes).2.responseType = .allowConditional ∧
        ¬m.Authentic D ((m.credential (auth.doAuthCheck m.authAttributes).2).key D))

/-- The provider finds the nonce too old. -/
def FindsStale (pAuth : Option IStunAuth) (m : Message) : Prop :=
  ∃ auth, pAuth = some auth ∧ SUCCEEDED (auth.doAuthCheck m.authAttributes).1 = true ∧
    (auth.doAuthCheck m.authAttributes).2.responseType = .staleNonce

/-- The request is a Binding request that can be answered where it wants to be. -/
structure WellPut (x : Arrival) (m : Message) : Prop where
  method : m.method = StunMsgTypeBinding
  port : m.responsePort ≠ none → x.msgIn.fConnectionOriented = false

/-- The socket that is asked for can be used, and nothing asks for padding elsewhere. -/
structure Servable (x : Arrival) (m : Message) : Prop where
  padding : m.responsePort ≠ none → ¬m.HasPadding
  role : m.AsksChange → (x.addrSet.set (m.outputRole x.msgIn.socketrole)).fValid = true
  datagram : m.AsksChange → x.msgIn.fConnectionOriented = false

open Classical in
/-- A request is refused, or admitted with the credential of its response. -/
noncomputable def verdict (D : Digests) (x : Arrival) (m : Message) :
    Except Refusal (Option Credential) :=
  if x.WellPut m then
    match authorize D x.pAuth m with
    | .error e => .error e
    | .ok c => if x.Servable m then .ok c else .error .badRequest
  else .error .badRequest

/-- The reply goes back to the sender, perhaps to another port. -/
def dest (x : Arrival) (m : Message) : CSocketAddress :=
  match m.responsePort with
  | none => x.msgIn.addrRemote
  | some port =>
    if x.msgIn.fConnectionOriented then x.msgIn.addrRemote else x.msgIn.addrRemote.setPort port

/-- The address a reply from a socket claims to leave from. -/
def origin (x : Arrival) (role : SocketRole) : CSocketAddress :=
  if (x.addrSet.set role).addr.isIPAddressZero ∧ role = x.msgIn.socketrole then x.msgIn.addrLocal
  else (x.addrSet.set role).addr

/-- The role with the other address and the other port. -/
def otherRole (x : Arrival) : SocketRole := socketRoleSwapIP (socketRoleSwapPort x.msgIn.socketrole)

/-- All four sockets are in use, and the other address is known. -/
def KnowsOther (x : Arrival) : Prop :=
  (∀ role, (x.addrSet.set role).fValid = true) ∧
    (x.addrSet.set x.otherRole).addr.isIPAddressZero = false

end Arrival

/-! ### The reply -/

section

variable (fLegacyMode : Bool)

/-- The record of an address. -/
def addressRecord (t : UInt16) (addr : CSocketAddress) : Record :=
  record fLegacyMode t (addressValue addr) (addressValue_short addr)

/-- The record of a string, if there is one. -/
def textRecords (t : UInt16) (s : AuthText) : List Record :=
  if s.text = [] then []
  else [record fLegacyMode t s.text (by have := s.length_le; omega)]

/-- The records of an error. -/
def Refusal.records (e : Refusal) : List Record :=
  record fLegacyMode STUN_ATTRIBUTE_ERRORCODE
      (errorValue e.code (cstr CStunRequestHandler.pszFailed)) (by
        rw [errorValue_length]
        decide) ::
    match e.challenge with
    | none => []
    | some (nonce, realm) =>
      textRecords fLegacyMode STUN_ATTRIBUTE_NONCE nonce ++
        textRecords fLegacyMode STUN_ATTRIBUTE_REALM realm

end

namespace Arrival

variable (x : Arrival) (m : Message)

open Classical in
/-- The addresses a Binding response reports, in the order old clients expect. -/
noncomputable def addressRecords : List Record :=
  let addrOrigin := x.origin (m.outputRole x.msgIn.socketrole)
  let addrOther := (x.addrSet.set x.otherRole).addr
  [addressRecord m.isLegacy STUN_ATTRIBUTE_MAPPEDADDRESS x.msgIn.addrRemote] ++
    (if addrOrigin.isIPAddressZero = false then [addressRecord m.isLegacy
      (if m.isLegacy then STUN_ATTRIBUTE_SOURCEADDRESS else STUN_ATTRIBUTE_RESPONSE_ORIGIN)
      addrOrigin] else []) ++
    (if x.KnowsOther then [addressRecord m.isLegacy
      (if m.isLegacy then STUN_ATTRIBUTE_CHANGEDADDRESS else STUN_ATTRIBUTE_OTHER_ADDRESS)
      addrOther] else []) ++
    [addressRecord m.isLegacy
      (if m.isLegacy then STUN_ATTRIBUTE_XORMAPPEDADDRESS_OPTIONAL
        else STUN_ATTRIBUTE_XORMAPPEDADDRESS) (x.msgIn.addrRemote.applyStunXorMap m.tid)]

/-- The signature, when the request was admitted under a credential. -/
def signature (D : Digests) (typeField : UInt16) (tid : StunTransactionId) (rs : List Record) :
    Option Credential → List Record
  | none => []
  | some c => [integrityRecord (D.hmacSha1 (c.key D) (integrityText typeField tid rs))]

/-- The records of a Binding response. -/
noncomputable def successRecords (D : Digests) (c : Option Credential) : List Record :=
  x.addressRecords m ++ signature D (mergeType StunMsgTypeBinding .successResponse) m.tid
    (x.addressRecords m) c

end Arrival

/-! ### Sizes -/

section

variable {fLegacyMode : Bool} {rs : List Record}

/-- Records within the limits of a reader. -/
structure Small (rs : List Record) (count size : ℕ) : Prop where
  count_le : rs.length ≤ count
  size_le : sizeAll rs ≤ size
  value_le : ∀ a ∈ rs, a.value.length ≤ 780

theorem Small.nil : Small [] 0 0 := ⟨Nat.le_refl _, Nat.le_refl _, by simp⟩

theorem Small.append {rs' : List Record} {n n' k k' : ℕ} (h : Small rs n k) (h' : Small rs' n' k') :
    Small (rs ++ rs') (n + n') (k + k') where
  count_le := by
    rw [List.length_append]
    exact Nat.add_le_add h.count_le h'.count_le
  size_le := by
    rw [sizeAll_append]
    exact Nat.add_le_add h.size_le h'.size_le
  value_le a ha := (List.mem_append.mp ha).elim (h.value_le a) (h'.value_le a)

theorem Small.mono {n n' k k' : ℕ} (h : Small rs n k) (hn : n ≤ n') (hk : k ≤ k') :
    Small rs n' k' := ⟨h.count_le.trans hn, h.size_le.trans hk, h.value_le⟩

theorem small_record (t : UInt16) {v : List UInt8} (h : v.length + 3 < 2 ^ 16)
    (hv : v.length ≤ 777) {k : ℕ} (hk : 4 + v.length + padLen v.length ≤ k) :
    Small [record fLegacyMode t v h] 1 k where
  count_le := Nat.le_refl _
  size_le := by simpa [record_size] using hk
  value_le a ha := by
    have hpad := padLen_lt v.length
    rw [List.mem_singleton.mp ha, record_value]
    split_ifs
    · rw [List.length_append, List.length_replicate]
      omega
    · omega

theorem small_addressRecord (t : UInt16) (addr : CSocketAddress) :
    Small [addressRecord fLegacyMode t addr] 1 24 := by
  have hpad := padLen_of_mod (addressValue_aligned addr)
  apply small_record
  · rcases addressValue_length addr with h | h <;> omega
  · rcases addressValue_length addr with h | h <;> omega

theorem small_if {c : Prop} [Decidable c] {r : Record} {k : ℕ} (h : Small [r] 1 k) :
    Small (if c then [r] else []) 1 k := by
  split_ifs
  · exact h
  · exact Small.nil.mono (Nat.zero_le _) (Nat.zero_le _)

theorem small_textRecords (t : UInt16) (s : AuthText) : Small (textRecords fLegacyMode t s) 1 68 := by
  have hle := s.length_le
  unfold textRecords
  split_ifs
  · exact Small.nil.mono (Nat.zero_le _) (Nat.zero_le _)
  · apply small_record
    · omega
    · unfold padLen
      omega

theorem Refusal.small_records (e : Refusal) : Small (e.records fLegacyMode) 3 152 := by
  have hcode : ∀ h, Small [record fLegacyMode STUN_ATTRIBUTE_ERRORCODE
      (errorValue e.code (cstr CStunRequestHandler.pszFailed)) h] 1 16 := by
    intro h
    apply small_record
    · rw [errorValue_length]
      decide
    · rw [errorValue_length]
      decide
  cases e with
  | badRequest => exact (hcode _).mono (by decide) (by decide)
  | unauthorized nonce realm =>
    exact (hcode _).append ((small_textRecords _ nonce).append (small_textRecords _ realm))
  | staleNonce nonce realm =>
    exact (hcode _).append ((small_textRecords _ nonce).append (small_textRecords _ realm))

theorem small_signature (D : Digests) (typeField : UInt16) (tid : StunTransactionId)
    (c : Option Credential) : Small (Arrival.signature D typeField tid rs c) 1 24 := by
  cases c with
  | none => exact Small.nil.mono (Nat.zero_le _) (Nat.zero_le _)
  | some c =>
    refine ⟨Nat.le_refl _, ?_, ?_⟩
    · simp [Arrival.signature, integrityRecord_size]
    · intro a ha
      rw [List.mem_singleton.mp ha]
      simp [integrityRecord, Record.ofValue]

theorem Arrival.small_addressRecords (x : Arrival) (m : Message) :
    Small (x.addressRecords m) 4 96 := by
  classical
  exact (((small_addressRecord _ _).append (small_if (small_addressRecord _ _))).append
    (small_if (small_addressRecord _ _))).append (small_addressRecord _ _)

theorem Arrival.small_successRecords (x : Arrival) (m : Message) (D : Digests)
    (c : Option Credential) : Small (x.successRecords m D c) 5 120 :=
  (x.small_addressRecords m).append (small_signature D _ _ c)

end

/-! ### Messages -/

/-- The answer to a request that is refused. -/
def errorReply (m : Message) (e : Refusal) : Message where
  method := m.method
  cls := .failureResponse
  tid := m.tid
  attrs := e.records m.isLegacy
  isMethod := m.isMethod
  cls_ne := failureResponse_ne_invalid
  count_le := e.small_records.count_le.trans (by decide)
  value_le := e.small_records.value_le
  body_le := e.small_records.size_le.trans (by decide)

namespace Arrival

/-- The answer to a Binding request that is admitted. -/
noncomputable def successReply (D : Digests) (x : Arrival) (m : Message) (c : Option Credential) :
    Message where
  method := StunMsgTypeBinding
  cls := .successResponse
  tid := m.tid
  attrs := x.successRecords m D c
  isMethod := isMethod_binding
  cls_ne := successResponse_ne_invalid
  count_le := (x.small_successRecords m D c).count_le.trans (by decide)
  value_le := (x.small_successRecords m D c).value_le
  body_le := (x.small_successRecords m D c).size_le.trans (by decide)

/-- The message that answers `m`. -/
noncomputable def reply (D : Digests) (x : Arrival) (m : Message) : Message :=
  match x.verdict D m with
  | .ok c => x.successReply D m c
  | .error e => errorReply m e

/-- The socket the reply leaves from; a refusal leaves from where the request came in. -/
noncomputable def replyRole (D : Digests) (x : Arrival) (m : Message) : SocketRole :=
  match x.verdict D m with
  | .ok _ => m.outputRole x.msgIn.socketrole
  | .error _ => x.msgIn.socketrole

/-- The same arrival, of the message another reader holds. -/
def withReader (x : Arrival) (r : CStunMessageReader) : Arrival :=
  { x with msgIn := { x.msgIn with pReader := some r } }

section

variable {D : Digests} {x : Arrival} {m : Message}

theorem withReader_wellPut {r : CStunMessageReader} : (x.withReader r).WellPut m ↔ x.WellPut m :=
  ⟨fun h => ⟨h.method, h.port⟩, fun h => ⟨h.method, h.port⟩⟩

theorem withReader_servable {r : CStunMessageReader} : (x.withReader r).Servable m ↔ x.Servable m :=
  ⟨fun h => ⟨h.padding, h.role, h.datagram⟩, fun h => ⟨h.padding, h.role, h.datagram⟩⟩

/-- The reply does not depend on the reader but for its message. -/
theorem withReader_verdict {r : CStunMessageReader} :
    (x.withReader r).verdict D m = x.verdict D m := by
  unfold verdict
  rw [propext (withReader_wellPut (x := x) (r := r) (m := m)),
    propext (withReader_servable (x := x) (r := r) (m := m))]
  rfl

theorem withReader_reply {r : CStunMessageReader} :
    (x.withReader r).reply D m = x.reply D m ∧ (x.withReader r).replyRole D m = x.replyRole D m := by
  unfold reply replyRole
  rw [withReader_verdict]
  exact ⟨rfl, rfl⟩

end

end Arrival
end StunServer

import StunServer.Proofs.Response
import StunServer.Proofs.ReaderIntegrity

/-! The handler up to its decision: every stage of `ProcessRequestImpl` leaves it with an
error or with what the response is to be signed with, as the specification says. -/

namespace StunServer

open Bytes Tlv

/-! ### Strings -/

theorem AuthText.text_ofBytes {s : List UInt8} (h : s.length ≤ 64) :
    (AuthText.ofBytes s).text = cstr s := by
  change cstr (s.take 64) = cstr s
  rw [List.take_of_length_le h]

/-- Up to its forced terminator an array holds the string that fits it. -/
theorem AuthString.cstr_terminate (s : AuthString) :
    cstr s.terminate.toList = (AuthText.ofArray s).text := by
  have hset : s.terminate.toList = s.toList.take 64 ++ 0 :: [] := by
    obtain ⟨l, hl⟩ := s
    change l.set 64 0 = l.take 64 ++ [0]
    rw [List.set_eq_take_append_cons_drop, if_pos (by omega), List.drop_of_length_le (by omega)]
  rw [hset, cstr_append_zero]
  rfl

theorem AuthString.memcpy_zero : memcpy AuthString.zero ([] ++ [0]) = AuthString.zero := by
  apply List.Vector.ext
  intro i
  rw [memcpy, List.Vector.get_ofFn, AuthString.zero, List.Vector.get_replicate]
  cases i using Fin.cases <;> simp

theorem Message.stringValue_length_le (m : Message) (t : UInt16) :
    (m.stringValue t).length ≤ 64 := by
  unfold Message.stringValue
  split
  · exact Nat.zero_le _
  · split_ifs
    · assumption
    · exact Nat.zero_le _

/-- The string behind an attribute, as it stands in the handler's arrays. -/
theorem Message.cstr_stringValue (m : Message) (t : UInt16) :
    cstr (memcpy AuthString.zero (m.stringValue t ++ [0])).toList =
      (AuthText.ofBytes (m.stringValue t)).text := by
  have hle := m.stringValue_length_le t
  rw [cstr_memcpy _ (by omega), AuthText.text_ofBytes hle]

namespace CStunRequestHandler

variable {r : CStunMessageReader} {m : Message}

theorem fetchString_eq (h : r.Parsed m) (t : UInt16) :
    fetchString r t = memcpy AuthString.zero (m.stringValue t ++ [0]) := by
  unfold fetchString Message.stringValue
  rw [h.getStringAttributeByType_eq]
  cases m.find t with
  | none => exact AuthString.memcpy_zero.symm
  | some a =>
    dsimp only
    by_cases hfits : a.value.length ≤ 64
    · rw [if_neg (by omega), if_pos hfits]
      rfl
    · rw [if_pos (by omega), if_neg hfits]
      exact AuthString.memcpy_zero.symm

theorem authAttributes_eq (h : r.Parsed m) : authAttributes r = m.authAttributes := by
  simp only [authAttributes, Message.authAttributes, fetchString_eq h,
    h.hasMessageIntegrityAttribute_eq]

/-- The integrity check passes on the messages that are authentic under the credential. -/
theorem checkIntegrity_iff (D : Digests) (h : r.Parsed m) (m' : Message) (response : AuthResponse)
    {szPassword : AuthString}
    (hp : cstr szPassword.toList = (AuthText.ofArray response.szPassword).text) :
    checkIntegrity D r m'.authAttributes { response with szPassword := szPassword } = .ok () ↔
      m.Authentic D ((m'.credential response).key D) := by
  have huser := m'.cstr_stringValue STUN_ATTRIBUTE_USERNAME
  have hrealm := m'.cstr_stringValue STUN_ATTRIBUTE_REALM
  unfold checkIntegrity Message.credential
  cases hmech : response.authCredMech with
  | authCredShortTerm =>
    rw [if_neg (by decide), CStunMessageReader.validateMessageIntegrityShort, hp]
    exact h.validateMessageIntegrity_iff D _
  | authCredLongTerm =>
    have hkey : CStunMessageReader.longTermKey m'.authAttributes.szUser.toList
        m'.authAttributes.szRealm.toList szPassword.toList =
        CStunMessageReader.longTermKey
          (AuthText.ofBytes (m'.stringValue STUN_ATTRIBUTE_USERNAME)).text
          (AuthText.ofBytes (m'.stringValue STUN_ATTRIBUTE_REALM)).text
          (AuthText.ofArray response.szPassword).text := by
      simp only [CStunMessageReader.longTermKey, AuthText.isText, Message.authAttributes, huser,
        hrealm, hp]
    rw [if_pos rfl, h.validateMessageIntegrityLong_eq]
    dsimp only
    rw [hkey]
    exact h.validateMessageIntegrity_iff D _

/-! ### The stages -/

/-- The integrity the response is to be sent with. -/
def Signs (integrity : StunMessageIntegrity) : Option Credential → Prop
  | none => integrity.fSendWithIntegrity = false
  | some (.shortTerm password) =>
    integrity.fSendWithIntegrity = true ∧ integrity.fUseLongTerm = false ∧
      cstr integrity.szPassword.toList = password.text
  | some (.longTerm user realm password) =>
    integrity.fSendWithIntegrity = true ∧ integrity.fUseLongTerm = true ∧
      cstr integrity.szUser.toList = user.text ∧ cstr integrity.szRealm.toList = realm.text ∧
      cstr integrity.szPassword.toList = password.text

/-- What no stage after the response port changes: the request, and a reply that would
go back through the socket the request came in on. -/
structure Handling (x : Arrival) (m : Message) (room : CBuffer) (h : CStunRequestHandler) : Prop where
  reader : h.reader.Parsed m
  pAuth : h.pAuth = x.pAuth
  addrSet : h.addrSet = x.addrSet
  msgIn : h.msgIn = x.msgIn
  tid : h.transid = m.tid
  mode : h.fLegacyMode = m.isLegacy
  msgtype : h.error.msgtype = m.method
  msgclass : h.error.msgclass = .failureResponse
  port : h.fRequestHasResponsePort = true ↔ m.responsePort ≠ none
  role : h.msgOut.socketrole = x.msgIn.socketrole
  dest : h.msgOut.addrDest = x.dest m
  buffer : h.msgOut.spBufferOut = some { room with size := 0 }

/-- No error so far, and a credential whose key can be used. -/
structure Admitted (D : Digests) (x : Arrival) (m : Message) (room : CBuffer) (c : Option Credential)
    (h : CStunRequestHandler) : Prop extends Handling x m room h where
  errorcode : h.error.errorcode = 0
  integrity : Signs h.integrity c
  key : ∀ c', c = some c' → c'.key D ≠ []

structure Refused (x : Arrival) (m : Message) (room : CBuffer) (e : Refusal) (h : CStunRequestHandler) :
    Prop extends Handling x m room h where
  errorcode : h.error.errorcode = e.code
  challenge : ∀ nonce realm, e.challenge = some (nonce, realm) →
    cstr h.error.szNonce.toList = nonce.text ∧ cstr h.error.szRealm.toList = realm.text

def Decided (D : Digests) (x : Arrival) (m : Message) (room : CBuffer) :
    Except Refusal (Option Credential) → CStunRequestHandler → Prop
  | .ok c => Admitted D x m room c
  | .error e => Refused x m room e

section

variable {D : Digests} {x : Arrival} {room : CBuffer} {h h' : CStunRequestHandler}
  {step : Hr CStunRequestHandler Unit}

/-- A step that changes only the error code. -/
theorem Handling.setErrorCode (hh : Handling x m room h) (errorcode : UInt16) :
    Handling x m room (h.setErrorCode errorcode) :=
  { hh with }

theorem Handling.badRequest (hh : Handling x m room h) :
    Refused x m room .badRequest (h.setErrorCode STUN_ERROR_BADREQUEST) :=
  { hh.setErrorCode STUN_ERROR_BADREQUEST with
    errorcode := rfl
    challenge := by
      intro nonce realm hc
      cases hc }

/-- After an error the remaining steps are not taken. -/
theorem Refused.guarded {e : Refusal} (hh : Refused x m room e h) :
    Refused x m room e (guarded step h) := by
  rwa [CStunRequestHandler.guarded, if_neg]
  rw [hh.errorcode]
  rcases e.code_cases with hc | hc | hc <;> rw [hc] <;> decide

theorem guarded_ok (hz : h.error.errorcode = 0) (hs : step h = .ok () h') :
    guarded step h = h' := by
  rw [guarded, if_pos hz, hs]

theorem guarded_error {hr : HRESULT} (hz : h.error.errorcode = 0) (hs : step h = .error hr h') :
    guarded step h = if h'.error.errorcode = 0 then h'.setErrorCode STUN_ERROR_BADREQUEST
      else h' := by
  rw [guarded, if_pos hz, hs]

theorem outOr_getResponsePort (hr : r.Parsed m) :
    outOr r.getResponsePort 0 = m.responsePort.getD 0 := by
  rw [hr.getResponsePort_eq, Message.responsePort]
  cases m.find STUN_ATTRIBUTE_RESPONSE_PORT with
  | none => rfl
  | some a =>
    dsimp only
    by_cases hlen : a.value.length = 2
    · by_cases hz : word16 a.value = 0
      · simp [hlen, hz, outOr]
      · simp [hlen, hz, outOr]
    · simp [hlen, outOr]

theorem Message.responsePort_ne {port : UInt16} (hp : m.responsePort = some port) : port ≠ 0 := by
  unfold Message.responsePort at hp
  split at hp
  · cases hp
  · split_ifs at hp with ha
    rw [Option.some.injEq] at hp
    exact hp ▸ ha.2

/-- The handler with the fields of the request copied. -/
def begin (x : Arrival) (r : CStunMessageReader) (buf : CBuffer) : CStunRequestHandler :=
  prepare (create x.pAuth x.addrSet x.msgIn r
    ⟨x.msgIn.socketrole, x.msgIn.addrRemote, some (buf.setSize 0).2⟩)

/-- A response port over a connection is an error; any other becomes the destination. -/
theorem handling_honored (hr : r.Parsed m) (x : Arrival) (buf : CBuffer) :
    Handling x m buf (honorResponsePort (begin x r buf)) ∧
      Signs (honorResponsePort (begin x r buf)).integrity none ∧
      (honorResponsePort (begin x r buf)).error.errorcode =
        if m.responsePort ≠ none ∧ x.msgIn.fConnectionOriented = true then STUN_ERROR_BADREQUEST
        else 0 := by
  have hport : outOr (begin x r buf).reader.getResponsePort 0 = m.responsePort.getD 0 :=
    outOr_getResponsePort hr
  unfold honorResponsePort
  dsimp only
  rw [hport]
  cases hp : m.responsePort with
  | none =>
    have hdest : x.dest m = x.msgIn.addrRemote := by rw [Arrival.dest, hp]
    refine ⟨⟨hr, rfl, rfl, rfl, hr.tid, hr.legacy, hr.type, rfl, ?_, rfl, hdest.symm, rfl⟩,
      rfl, rfl⟩
    rw [hp]
    exact ⟨fun hf => absurd hf Bool.false_ne_true, fun hn => absurd rfl hn⟩
  | some port =>
    have hne : port ≠ 0 := Message.responsePort_ne hp
    have hflag : True ↔ m.responsePort ≠ none := by simp [hp]
    simp only [Option.getD_some, hne, ne_eq, not_false_eq_true, if_true, reduceCtorEq, true_and]
    by_cases htcp : x.msgIn.fConnectionOriented = true
    · have hdest : x.dest m = x.msgIn.addrRemote := by
        rw [Arrival.dest, hp]
        exact if_pos htcp
      have htcp' : (begin x r buf).msgIn.fConnectionOriented = true := htcp
      rw [if_pos htcp', if_pos htcp]
      refine ⟨⟨hr, rfl, rfl, rfl, hr.tid, hr.legacy, hr.type, rfl, ?_, rfl, hdest.symm, rfl⟩, rfl,
        rfl⟩
      exact ⟨fun _ => hflag.mp trivial, fun _ => rfl⟩
    · have hdest : x.dest m = x.msgIn.addrRemote.setPort port := by
        rw [Arrival.dest, hp]
        exact if_neg htcp
      have htcp' : ¬(begin x r buf).msgIn.fConnectionOriented = true := htcp
      rw [if_neg htcp', if_neg htcp]
      refine ⟨⟨hr, rfl, rfl, rfl, hr.tid, hr.legacy, hr.type, rfl, ?_, rfl, hdest.symm, rfl⟩, rfl,
        rfl⟩
      exact ⟨fun _ => hflag.mp trivial, fun _ => rfl⟩

/-- The two early checks admit the requests that are well put. -/
theorem admitted_wellPut (hr : r.Parsed m) (buf : CBuffer) (hw : x.WellPut m) :
    Admitted D x m buf none (checkMethod (honorResponsePort (begin x r buf))) := by
  obtain ⟨hh, hsigns, hcode⟩ := handling_honored hr x buf
  have hzero : (honorResponsePort (begin x r buf)).error.errorcode = 0 := by
    rw [hcode, if_neg]
    rintro ⟨hp, htcp⟩
    exact absurd htcp (by rw [hw.port hp]; decide)
  have hmethod : ¬(honorResponsePort (begin x r buf)).reader.getMessageType ≠
      StunMsgTypeBinding := by
    rw [not_not, CStunMessageReader.getMessageType, hh.reader.type]
    exact hw.method
  rw [checkMethod, if_pos hzero, if_neg hmethod]
  exact { hh with
    errorcode := hzero
    integrity := hsigns
    key := by
      intro c hc
      cases hc }

theorem refused_wellPut (hr : r.Parsed m) (buf : CBuffer) (hw : ¬x.WellPut m) :
    Refused x m buf .badRequest
      (checkMethod (honorResponsePort (begin x r buf))) := by
  obtain ⟨hh, -, hcode⟩ := handling_honored hr x buf
  unfold checkMethod
  by_cases hbad : m.responsePort ≠ none ∧ x.msgIn.fConnectionOriented = true
  · rw [if_pos hbad] at hcode
    rw [if_neg (by rw [hcode]; decide)]
    exact { hh with
      errorcode := hcode
      challenge := by
        intro nonce realm hc
        cases hc }
  · rw [if_neg hbad] at hcode
    have hmethod : (honorResponsePort (begin x r buf)).reader.getMessageType ≠
        StunMsgTypeBinding := by
      rw [CStunMessageReader.getMessageType, hh.reader.type]
      intro hm
      refine hw ⟨hm, fun hp => ?_⟩
      rw [← Bool.not_eq_true]
      exact fun htcp => hbad ⟨hp, htcp⟩
    rw [if_pos hcode, if_pos hmethod]
    exact hh.badRequest

theorem validateAuth_none (hp : h.pAuth = none) : validateAuth D h = .ok () h := by
  rw [validateAuth, Hr.bind_ok (Hr.get_apply h), hp]
  rfl

section

variable {pAuth : IStunAuth} {hr : HRESULT} {response : AuthResponse}

theorem validateAuth_error (hp : h.pAuth = some pAuth)
    (hd : pAuth.doAuthCheck (authAttributes h.reader) = (hr, response)) (hf : FAILED hr = true) :
    validateAuth D h = .error hr h := by
  rw [validateAuth, Hr.bind_ok (Hr.get_apply h), hp]
  simp only [hd]
  rw [Hr.bind_error (Hr.chk_error hf h)]

theorem validateAuth_ok (hp : h.pAuth = some pAuth)
    (hd : pAuth.doAuthCheck (authAttributes h.reader) = (hr, response)) (hf : FAILED hr = false) :
    validateAuth D h = .ok () (storeChallenge (terminate response)
      (applyAuthResponse D (authAttributes h.reader) (terminate response) h)) := by
  rw [validateAuth, Hr.bind_ok (Hr.get_apply h), hp]
  simp only [hd]
  rw [Hr.bind_ok (Hr.chk_ok hf h)]
  rfl

end

/-- A refusal that asks for credentials keeps the provider's nonce and realm. -/
theorem Handling.challenged (hh : Handling x m room h) (response : AuthResponse) {e : Refusal}
    (hc : e.challenge = some (.ofArray response.szNonce, .ofArray response.szRealm)) :
    Refused x m room e (storeChallenge (terminate response) (h.setErrorCode e.code)) := by
  have hcode : (h.setErrorCode e.code).error.errorcode = STUN_ERROR_UNAUTHORIZED ∨
      (h.setErrorCode e.code).error.errorcode = STUN_ERROR_STALENONCE := by
    cases e with
    | badRequest => cases hc
    | unauthorized nonce realm => exact Or.inl rfl
    | staleNonce nonce realm => exact Or.inr rfl
  have hcopy : ∀ dst s : AuthString,
      cstr (strcpy dst s.terminate.toList).toList = (AuthText.ofArray s).text := by
    intro dst s
    have hle := (AuthText.ofArray s).length_le
    rw [cstr_strcpy dst (by rw [s.cstr_terminate]; omega), s.cstr_terminate]
  rw [storeChallenge, if_pos hcode]
  exact { hh with
    errorcode := rfl
    challenge := by
      intro nonce realm he
      rw [hc, Option.some.injEq, Prod.mk.injEq] at he
      exact ⟨he.1 ▸ hcopy _ _, he.2 ▸ hcopy _ _⟩ }

/-- The credential that an admitted message has shown is the one the response is signed with. -/
theorem signs_credential (m : Message) (response : AuthResponse) (integrity : StunMessageIntegrity) :
    Signs
      { fSendWithIntegrity := true
        fUseLongTerm := response.authCredMech = .authCredLongTerm
        szUser := strcpy integrity.szUser m.authAttributes.szUser.toList
        szRealm := strcpy integrity.szRealm m.authAttributes.szRealm.toList
        szPassword := strcpy integrity.szPassword response.szPassword.terminate.toList }
      (some (m.credential response)) := by
  have hcopy : ∀ (dst s : AuthString) (text : AuthText), cstr s.toList = text.text →
      cstr (strcpy dst s.toList).toList = text.text := by
    intro dst s text hs
    have hle := text.length_le
    rw [cstr_strcpy dst (by rw [hs]; omega), hs]
  have hpassword := hcopy integrity.szPassword _ _ response.szPassword.cstr_terminate
  unfold Message.credential
  cases response.authCredMech with
  | authCredShortTerm => exact ⟨rfl, rfl, hpassword⟩
  | authCredLongTerm =>
    exact ⟨rfl, rfl, hcopy _ _ _ (m.cstr_stringValue STUN_ATTRIBUTE_USERNAME),
      hcopy _ _ _ (m.cstr_stringValue STUN_ATTRIBUTE_REALM), hpassword⟩

theorem decided_judge (hh : Admitted D x m room none h) (response : AuthResponse) :
    Decided D x m room (Arrival.judge D m response) (storeChallenge (terminate response)
      (applyAuthResponse D m.authAttributes (terminate response) h)) := by
  have hhandling := hh.toHandling
  have hkeep : ∀ {h' : CStunRequestHandler}, h'.error.errorcode = 0 ∨ h'.error.errorcode = 400 →
      storeChallenge (terminate response) h' = h' := by
    rintro h' (hc | hc)
    · exact if_neg (by rw [hc]; decide)
    · exact if_neg (by rw [hc]; decide)
  have htype : (terminate response).responseType = response.responseType := rfl
  unfold applyAuthResponse Arrival.judge
  rw [htype]
  cases response.responseType with
  | allow =>
    dsimp only
    rw [hkeep (Or.inl hh.errorcode)]
    exact hh
  | reject =>
    dsimp only
    rw [hkeep (Or.inr rfl)]
    exact hhandling.badRequest
  | staleNonce => exact hhandling.challenged response rfl
  | unauthorized => exact hhandling.challenged response rfl
  | allowConditional =>
    dsimp only
    have hcheck := checkIntegrity_iff D hh.reader m response response.szPassword.cstr_terminate
    by_cases hauth : m.Authentic D ((m.credential response).key D)
    · rw [if_pos hauth]
      have hok : checkIntegrity D h.reader m.authAttributes (terminate response) = .ok () :=
        hcheck.mpr hauth
      rw [hok]
      dsimp only
      rw [hkeep]
      · exact { hhandling with
          errorcode := hh.errorcode
          integrity := signs_credential m response h.integrity
          key := by
            intro c hc
            cases hc
            exact hauth.1 }
      · exact Or.inl hh.errorcode
    · rw [if_neg hauth]
      cases hok : checkIntegrity D h.reader m.authAttributes (terminate response) with
      | ok u => exact absurd (hcheck.mp hok) hauth
      | error e => exact hhandling.challenged response rfl

/-- What the provider admits goes on, signed if it asked for that. -/
theorem decided_authorize (hh : Admitted D x m room none h) :
    Decided D x m room (Arrival.authorize D x.pAuth m) (guarded (validateAuth D) h) := by
  have hhandling := hh.toHandling
  unfold Arrival.authorize
  cases hp : x.pAuth with
  | none =>
    rw [guarded_ok hh.errorcode (validateAuth_none (hh.pAuth.trans hp))]
    exact hh
  | some pAuth =>
    have hattrs := authAttributes_eq hh.reader
    have hpauth := hh.pAuth.trans hp
    have hd : pAuth.doAuthCheck (authAttributes h.reader) = ((pAuth.doAuthCheck m.authAttributes).1,
        (pAuth.doAuthCheck m.authAttributes).2) := by rw [hattrs]
    by_cases hf : FAILED (pAuth.doAuthCheck m.authAttributes).1 = true
    · simp only [hf, if_true]
      rw [guarded_error hh.errorcode (validateAuth_error hpauth hd hf), if_pos hh.errorcode]
      exact hhandling.badRequest
    · simp only [hf]
      rw [guarded_ok hh.errorcode (validateAuth_ok hpauth hd (by simpa using hf)), hattrs]
      exact decided_judge hh _

end

end CStunRequestHandler
end StunServer

import StunServer.Core.WatchedCopies
import StunServer.Proofs.ReaderIntegrity

/-! Noting the copies changes nothing about what the handling of a request does. -/

namespace StunServer

open Bytes Watched

section

variable {σ : Type}

namespace Access

theorem forgets_strlen (mem : List UInt8) :
    Forgets (strlen mem : Hr (Watched Access σ) ℕ) (pure (StunServer.strlen mem)) :=
  forgets_value_bind (forgets_note _) (forgets_pure _)

theorem forgets_strcpy {n : ℕ} (dst : List.Vector UInt8 n) (src : List UInt8) :
    Forgets (strcpy dst src : Hr (Watched Access σ) _) (pure (StunServer.strcpy dst src)) :=
  forgets_value_bind (forgets_strlen src) (forgets_value_bind (forgets_note _) (forgets_pure _))

theorem forgets_store (capacity : ℕ) (dst : List UInt8) (pos : ℕ) (bytes : List UInt8) :
    Forgets (store capacity dst pos bytes : Hr (Watched Access σ) _)
      (pure (overwrite dst pos bytes)) :=
  forgets_value_bind (forgets_note _) (forgets_pure _)

end Access

/-! ### The reader -/

namespace CStunMessageReader

variable (D : Digests) (r : CStunMessageReader)

theorem forgets_getStringAttributeByType (attributeType : UInt16) {size : ℕ}
    (pszValue : List.Vector UInt8 size) :
    Forgets (r.getStringAttributeByTypeCopied attributeType pszValue : Hr (Watched Access σ) _)
      (Hr.ofExcept (r.getStringAttributeByType attributeType pszValue)) := by
  rw [getStringAttributeByTypeCopied, getStringAttributeByType]
  cases r.mapAttributes.lookup attributeType with
  | none => exact forgets_throw _
  | some pAttrib =>
    dsimp only
    split_ifs
    · exact forgets_throw _
    · exact forgets_value_bind (forgets_note _) (forgets_value_bind (forgets_note _) (forgets_pure _))

theorem forgets_validateMessageIntegrityShort (pszPassword : List UInt8) :
    Forgets (r.validateMessageIntegrityShortCopied D pszPassword : Hr (Watched Access σ) _)
      (Hr.ofExcept (r.validateMessageIntegrityShort D pszPassword)) := by
  refine forgets_value_bind (Access.forgets_strlen _) ?_
  rw [take_strlen]
  exact forgets_ofExcept _

/-- The key after a string has been appended. -/
def appended (key : List UInt8) (pDst : ℕ) (psz : List UInt8) (length : ℕ) : List UInt8 :=
  if length > 0 then overwrite key pDst (psz.take length) else key

theorem forgets_appendString (key : List UInt8) (pDst : ℕ) (psz : List UInt8) (length : ℕ) :
    Forgets (appendString key pDst psz length : Hr (Watched Access σ) _)
      (pure (appended key pDst psz length)) := by
  rw [appendString, appended]
  split_ifs
  · exact Access.forgets_store _ _ _ _
  · exact forgets_pure _

theorem prefix_appended {key pre psz : List UInt8} {pDst : ℕ} (h : pre <+: key)
    (hpos : pDst = pre.length) : pre ++ cstr psz <+: appended key pDst psz (strlen psz) := by
  rw [appended]
  split_ifs with hsome
  · rw [take_strlen]
    exact prefix_overwrite h hpos
  · have hnil : cstr psz = [] := List.length_eq_zero_iff.mp (Nat.eq_zero_of_not_pos hsome)
    rwa [hnil, List.append_nil]

theorem longTermKey_length (pszUser pszRealm pszPassword : List UInt8) :
    (longTermKey pszUser pszRealm pszPassword).length =
      strlen pszUser + strlen pszRealm + strlen pszPassword + 2 := by
  simp only [longTermKey, List.length_append, List.length_singleton, strlen]
  omega

/-- The key when all of it has been put together. -/
def assembled (pszUser pszRealm pszPassword : List UInt8) : List UInt8 :=
  let userLength := strlen pszUser
  let realmLength := strlen pszRealm
  let key := appended (List.replicate KEY_CAPACITY 0) 0 pszUser userLength
  let key := overwrite key userLength [(':' : Char).toUInt8]
  let key := appended key (userLength + 1) pszRealm realmLength
  let key := overwrite key (userLength + 1 + realmLength) [(':' : Char).toUInt8]
  let key := appended key (userLength + 1 + realmLength + 1) pszPassword (strlen pszPassword)
  overwrite key (userLength + 1 + realmLength + 1 + strlen pszPassword) [('0' : Char).toUInt8]

/-- What is hashed is the text of the key. -/
theorem prefix_key (pszUser pszRealm pszPassword : List UInt8) :
    longTermKey pszUser pszRealm pszPassword <+: assembled pszUser pszRealm pszPassword := by
  have hend := List.prefix_append (longTermKey pszUser pszRealm pszPassword) [('0' : Char).toUInt8]
  refine hend.trans ?_
  rw [longTermKey, ← List.nil_append (cstr pszUser)]
  refine prefix_overwrite (prefix_appended (prefix_overwrite (prefix_appended (prefix_overwrite
    (prefix_appended List.nil_prefix rfl) ?_) ?_) ?_) ?_) ?_
  all_goals simp [strlen]
  all_goals omega

theorem forgets_validateMessageIntegrityLong (pszUser pszRealm pszPassword : List UInt8) :
    Forgets (r.validateMessageIntegrityLongCopied D pszUser pszRealm pszPassword :
        Hr (Watched Access σ) _)
      (Hr.ofExcept (r.validateMessageIntegrityLong D pszUser pszRealm pszPassword)) := by
  refine forgets_value_bind (Access.forgets_strlen _) (forgets_value_bind (Access.forgets_strlen _)
    (forgets_value_bind (Access.forgets_strlen _) ?_))
  refine forgets_chkIf_bind (fun hc => if_pos hc) fun hstate => ?_
  refine forgets_chkIf_bind (fun hc => (if_neg hstate).trans (if_pos hc)) fun hbuffer => ?_
  refine forgets_value_bind (forgets_appendString _ _ _ _) (forgets_value_bind
    (Access.forgets_store _ _ _ _) (forgets_value_bind (forgets_appendString _ _ _ _)
    (forgets_value_bind (Access.forgets_store _ _ _ _) (forgets_value_bind
    (forgets_appendString _ _ _ _) (forgets_value_bind (Access.forgets_store _ _ _ _) ?_)))))
  have hkey := prefix_key pszUser pszRealm pszPassword
  rw [validateMessageIntegrityLong, if_neg hstate, if_neg hbuffer,
    List.prefix_iff_eq_take.mp hkey, longTermKey_length]
  exact forgets_ofExcept _

end CStunMessageReader

end

/-! ### The builder -/

namespace CStunMessageBuilder

theorem forgets_streamWrite (data : Option (List UInt8)) (size : ℕ) :
    Forgets (streamWrite data size) (onStream (CDataStream.write data size)) :=
  forgets_getObject_then fun _ => forgets_bind_value (forgets_quiet _) fun _ => forgets_note _

theorem forgets_write (data : List UInt8) : Forgets (writeCopied data) (write data) :=
  forgets_streamWrite _ _

theorem forgets_writeUint16 (val : UInt16) : Forgets (writeUint16Copied val) (writeUint16 val) :=
  forgets_streamWrite _ _

theorem forgets_addHeader (msgType : UInt16) (msgClass : StunMessageClass) :
    Forgets (addHeaderCopied msgType msgClass) (addHeader msgType msgClass) :=
  forgets_bind (forgets_quiet _) fun _ =>
    forgets_bind (forgets_writeUint16 _) fun _ => forgets_writeUint16 _

theorem forgets_addTransactionId (transid : StunTransactionId) :
    Forgets (addTransactionIdCopied transid) (addTransactionId transid) :=
  forgets_bind (forgets_quiet _) fun _ => forgets_write _

theorem forgets_addAttributeHeader (attribType size : UInt16) :
    Forgets (addAttributeHeaderCopied attribType size) (addAttributeHeader attribType size) :=
  forgets_bind (forgets_writeUint16 _) fun _ => forgets_writeUint16 _

theorem forgets_writePadding (padding : ℕ) :
    Forgets (writePaddingCopied padding) (writePadding padding) :=
  forgets_ite (forgets_write _) (forgets_pure _)

theorem forgets_addAttribute (attribType : UInt16) (data : Option (List UInt8)) (size : UInt16) :
    Forgets (addAttributeCopied attribType data size) (addAttribute attribType data size) := by
  refine forgets_getObject_bind fun b => forgets_bind (forgets_addAttributeHeader _ _) fun _ => ?_
  exact forgets_ite (forgets_bind (forgets_streamWrite _ _) fun _ => forgets_writePadding _)
    (forgets_writePadding _)

theorem forgets_addStringAttribute (attribType : UInt16) (pstr : List UInt8) :
    Forgets (addStringAttributeCopied attribType pstr) (addStringAttribute attribType pstr) := by
  refine forgets_value_bind (Access.forgets_strlen _) ?_
  rw [take_strlen]
  exact forgets_bind (forgets_chkIf _ _) fun _ => forgets_addAttribute _ _ _

theorem forgets_addErrorCode (errorNumber : UInt16) (pszReason : List UInt8) :
    Forgets (addErrorCodeCopied errorNumber pszReason) (addErrorCode errorNumber pszReason) := by
  refine forgets_value_bind (Access.forgets_strlen _) ?_
  rw [take_strlen]
  refine forgets_bind (forgets_chkIf _ _) fun _ => forgets_bind (forgets_chkIf _ _) fun _ =>
    forgets_bind (forgets_chkIf _ _) fun _ => forgets_getObject_bind fun b => ?_
  refine forgets_bind (forgets_addAttributeHeader _ _) fun _ =>
    forgets_bind (forgets_streamWrite _ _) fun _ => forgets_bind (forgets_streamWrite _ _) fun _ =>
    forgets_bind (forgets_streamWrite _ _) fun _ => ?_
  exact forgets_ite (forgets_bind (forgets_ignore (forgets_write _)) fun _ =>
    forgets_writePadding _) (forgets_writePadding _)

theorem forgets_addUnknownAttributes (arr : List UInt16) :
    Forgets (addUnknownAttributesCopied arr) (addUnknownAttributes arr) := by
  refine forgets_bind (forgets_chkIf _ _) fun _ => forgets_getObject_bind fun b => ?_
  exact forgets_bind (forgets_addAttributeHeader _ _) fun _ =>
    forgets_bind (forgets_streamWrite _ _) fun _ =>
    forgets_ite (forgets_ignore (forgets_write _)) (forgets_pure _)

theorem forgets_fixLengthField : Forgets fixLengthFieldCopied fixLengthField := by
  refine forgets_getObject_bind fun b => forgets_getObject_bind fun b' => ?_
  exact forgets_bind (forgets_chkIf _ _) fun _ => forgets_bind (forgets_quiet _) fun _ =>
    forgets_bind (forgets_writeUint16 _) fun _ => forgets_quiet _

theorem forgets_getResult : Forgets getResultCopied getResult :=
  forgets_bind forgets_fixLengthField fun _ => forgets_getObject_bind fun _ => forgets_pure _

section

variable (D : Digests)

theorem forgets_addMessageIntegrityShortTerm (pszPassword : List UInt8) :
    Forgets (addMessageIntegrityShortTermCopied D pszPassword)
      (addMessageIntegrityShortTerm D pszPassword) := by
  refine forgets_value_bind (Access.forgets_strlen _) ?_
  rw [take_strlen]
  exact forgets_quiet _

theorem longTermKey_length (pszUserName pszRealm pszPassword : List UInt8) :
    (longTermKey pszUserName pszRealm pszPassword).length =
      strlen pszUserName + strlen pszRealm + strlen pszPassword + 2 :=
  CStunMessageReader.longTermKey_length _ _ _

/-- The key when all of it has been put together. -/
def assembled (pszUserName pszRealm pszPassword : List UInt8) : List UInt8 :=
  let lenUserName := strlen pszUserName
  let lenRealm := strlen pszRealm
  let key := overwrite (List.replicate (MAX_KEY_SIZE + 1) 0) 0 (pszUserName.take lenUserName)
  let key := overwrite key lenUserName [(':' : Char).toUInt8]
  let key := overwrite key (lenUserName + 1) (pszRealm.take lenRealm)
  let key := overwrite key (lenUserName + 1 + lenRealm) [(':' : Char).toUInt8]
  let key := overwrite key (lenUserName + 1 + lenRealm + 1)
    (pszPassword.take (strlen pszPassword))
  overwrite key (lenUserName + 1 + lenRealm + 1 + strlen pszPassword) [0]

/-- What is hashed is the text of the key. -/
theorem prefix_assembled (pszUserName pszRealm pszPassword : List UInt8) :
    longTermKey pszUserName pszRealm pszPassword <+:
      assembled pszUserName pszRealm pszPassword := by
  have hend := List.prefix_append (longTermKey pszUserName pszRealm pszPassword) [0]
  refine hend.trans ?_
  simp only [assembled, take_strlen]
  rw [longTermKey, ← List.nil_append (cstr pszUserName)]
  refine prefix_overwrite (prefix_overwrite (prefix_overwrite (prefix_overwrite (prefix_overwrite
    (prefix_overwrite List.nil_prefix rfl) ?_) ?_) ?_) ?_) ?_
  all_goals simp [strlen]
  all_goals omega

theorem forgets_addMessageIntegrityLongTerm (pszUserName pszRealm pszPassword : List UInt8) :
    Forgets (addMessageIntegrityLongTermCopied D pszUserName pszRealm pszPassword)
      (addMessageIntegrityLongTerm D pszUserName pszRealm pszPassword) := by
  refine forgets_value_bind (Access.forgets_strlen _) (forgets_value_bind (Access.forgets_strlen _)
    (forgets_value_bind (Access.forgets_strlen _) (forgets_bind (forgets_chkIf _ _) fun _ => ?_)))
  refine forgets_value_bind (Access.forgets_store _ _ _ _) (forgets_value_bind
    (Access.forgets_store _ _ _ _) (forgets_value_bind (Access.forgets_store _ _ _ _)
    (forgets_value_bind (Access.forgets_store _ _ _ _) (forgets_value_bind
    (Access.forgets_store _ _ _ _) (forgets_value_bind (Access.forgets_store _ _ _ _) ?_)))))
  have hkey : longTermKey pszUserName pszRealm pszPassword <+: _ :=
    prefix_assembled pszUserName pszRealm pszPassword
  rw [List.prefix_iff_eq_take.mp hkey, longTermKey_length]
  exact forgets_quiet _

end

end CStunMessageBuilder

/-! ### The handler -/

namespace CStunRequestHandler

section

variable {σ : Type} (D : Digests)

theorem forgets_fetchString (reader : CStunMessageReader) (attributeType : UInt16) :
    Forgets (fetchStringCopied reader attributeType : Hr (Watched Access σ) _)
      (pure (fetchString reader attributeType)) :=
  forgets_value_bind (forgets_attempt (reader.forgets_getStringAttributeByType _ _)) (forgets_pure _)

theorem forgets_authAttributes (reader : CStunMessageReader) :
    Forgets (authAttributesCopied reader : Hr (Watched Access σ) _)
      (pure (authAttributes reader)) :=
  forgets_value_bind (forgets_fetchString _ _) (forgets_value_bind (forgets_fetchString _ _)
    (forgets_value_bind (forgets_fetchString _ _) (forgets_value_bind (forgets_fetchString _ _)
    (forgets_pure _))))

theorem forgets_checkIntegrity (reader : CStunMessageReader) (authattributes : AuthAttributes)
    (authresponse : AuthResponse) :
    Forgets (checkIntegrityCopied D reader authattributes authresponse : Hr (Watched Access σ) _)
      (Hr.ofExcept (checkIntegrity D reader authattributes authresponse)) := by
  rw [checkIntegrityCopied, checkIntegrity]
  split_ifs
  · exact reader.forgets_validateMessageIntegrityLong D _ _ _
  · exact reader.forgets_validateMessageIntegrityShort D _

theorem forgets_terminate (authresponse : AuthResponse) :
    Forgets (terminateCopied authresponse : Hr (Watched Access σ) _)
      (pure (terminate authresponse)) :=
  forgets_value_bind (forgets_note _) (forgets_value_bind (forgets_note _)
    (forgets_value_bind (forgets_note _) (forgets_pure _)))

end

section

variable (D : Digests) (authattributes : AuthAttributes) (authresponse : AuthResponse)

/-- The strings are copied over those of `h`. -/
def withCredentials (h h' : CStunRequestHandler) : CStunRequestHandler :=
  { h' with integrity :=
    { fSendWithIntegrity := true
      fUseLongTerm := authresponse.authCredMech = .authCredLongTerm
      szUser := strcpy h.integrity.szUser authattributes.szUser.toList
      szRealm := strcpy h.integrity.szRealm authattributes.szRealm.toList
      szPassword := strcpy h.integrity.szPassword authresponse.szPassword.toList } }

theorem forgets_keepCredentials :
    Forgets (keepCredentials authattributes authresponse)
      (modify fun h => withCredentials authattributes authresponse h h) :=
  forgets_getObject_modify (withCredentials authattributes authresponse) fun _ =>
    forgets_value_bind (Access.forgets_strcpy _ _) (forgets_value_bind (Access.forgets_strcpy _ _)
    (forgets_value_bind (Access.forgets_strcpy _ _) (forgets_quiet _)))

/-- What comes of a password, checked with the reader of `h`. -/
def withChecked (h h' : CStunRequestHandler) : CStunRequestHandler :=
  match checkIntegrity D h.reader authattributes authresponse with
  | .ok _ => withCredentials authattributes authresponse h' h'
  | .error _ => h'.setErrorCode STUN_ERROR_UNAUTHORIZED

theorem forgets_applyAuthResponse :
    Forgets (applyAuthResponseCopied D authattributes authresponse)
      (modify (applyAuthResponse D authattributes authresponse)) := by
  unfold applyAuthResponseCopied applyAuthResponse
  cases authresponse.responseType with
  | allow => exact forgets_pure ()
  | staleNonce => exact forgets_quiet _
  | reject => exact forgets_quiet _
  | unauthorized => exact forgets_quiet _
  | allowConditional =>
    refine forgets_getObject_modify (withChecked D authattributes authresponse) fun h => ?_
    unfold withChecked
    refine forgets_value_bind (forgets_attempt (forgets_checkIntegrity D _ _ _)) ?_
    cases checkIntegrity D h.reader authattributes authresponse with
    | ok _ => exact forgets_keepCredentials _ _
    | error _ => exact forgets_quiet _

theorem forgets_storeChallenge :
    Forgets (storeChallengeCopied authresponse) (modify (storeChallenge authresponse)) := by
  refine forgets_getObject_modify (fun h h' : CStunRequestHandler =>
    if h.error.errorcode = STUN_ERROR_UNAUTHORIZED ∨ h.error.errorcode = STUN_ERROR_STALENONCE then
      { h' with error := { h'.error with
          szRealm := strcpy h.error.szRealm authresponse.szRealm.toList
          szNonce := strcpy h.error.szNonce authresponse.szNonce.toList } }
    else h') fun h => ?_
  split_ifs
  · exact forgets_value_bind (Access.forgets_strcpy _ _)
      (forgets_value_bind (Access.forgets_strcpy _ _) (forgets_quiet _))
  · exact forgets_pure ()

end

section

variable (D : Digests)

theorem forgets_validateAuth : Forgets (validateAuthCopied D) (validateAuth D) := by
  refine forgets_getObject_bind fun h => ?_
  cases h.pAuth with
  | none => exact forgets_pure _
  | some pAuth =>
    refine forgets_value_bind (forgets_authAttributes h.reader) ?_
    refine forgets_bind (forgets_chk _) fun _ => ?_
    exact forgets_value_bind (forgets_terminate _)
      (forgets_bind (forgets_applyAuthResponse D _ _) fun _ => forgets_storeChallenge _)

theorem forgets_addIntegrity (integrity : StunMessageIntegrity) :
    Forgets (addIntegrityCopied D integrity) (addIntegrity D integrity) :=
  forgets_ite (CStunMessageBuilder.forgets_addMessageIntegrityShortTerm D _)
    (CStunMessageBuilder.forgets_addMessageIntegrityLongTerm D _ _ _)

theorem forgets_writeBindingResponse (h : CStunRequestHandler) (socketOutput : SocketRole) :
    Forgets (writeBindingResponseCopied D h socketOutput)
      (writeBindingResponse D h socketOutput) := by
  have hquiet : ∀ m : Hr CStunMessageBuilder Unit,
      Forgets (Hr.ignore (quiet m : Hr (Watched Access _) _)) (Hr.ignore m) :=
    fun m => forgets_ignore (forgets_quiet m)
  refine forgets_bind (hquiet _) fun _ => forgets_bind (hquiet _) fun _ =>
    forgets_bind (hquiet _) fun _ => forgets_bind (forgets_when (hquiet _)) fun _ =>
    forgets_bind (hquiet _) fun _ => forgets_bind (hquiet _) fun _ => ?_
  exact forgets_bind (forgets_when (forgets_ignore (forgets_addIntegrity D _))) fun _ => hquiet _

theorem forgets_processBindingRequest :
    Forgets (processBindingRequestCopied D) (processBindingRequest D) := by
  refine forgets_getObject_bind fun h => forgets_bind (forgets_quiet _) fun _ =>
    forgets_bind (forgets_quiet _) fun _ => forgets_bind (forgets_quiet _) fun socketOutput =>
    forgets_bind (forgets_quiet _) fun _ => ?_
  exact forgets_getObject_modify (fun h' : CStunRequestHandler =>
      leaveBuilder ((writeBindingResponse D h' socketOutput).after h.attachBuilder)) fun h' =>
    forgets_value_bind (forgets_afterwards (forgets_writeBindingResponse D h' socketOutput) _)
      (forgets_quiet _)

theorem forgets_addChallenge (error : StunErrorCode) :
    Forgets (addChallengeCopied error) (addChallenge error) :=
  forgets_bind (forgets_when (forgets_ignore (CStunMessageBuilder.forgets_addStringAttribute _ _)))
    fun _ => forgets_when (forgets_ignore (CStunMessageBuilder.forgets_addStringAttribute _ _))

theorem forgets_addErrorDetails (error : StunErrorCode) :
    Forgets (addErrorDetailsCopied error) (addErrorDetails error) :=
  forgets_ite (forgets_ignore (CStunMessageBuilder.forgets_addUnknownAttributes _))
    (forgets_ite (forgets_addChallenge error) (forgets_pure _))

theorem forgets_writeErrorResponse (h : CStunRequestHandler) :
    Forgets (writeErrorResponseCopied h) (writeErrorResponse h) :=
  forgets_bind (forgets_ignore (CStunMessageBuilder.forgets_addHeader _ _)) fun _ =>
    forgets_bind (forgets_ignore (CStunMessageBuilder.forgets_addTransactionId _)) fun _ =>
    forgets_bind (forgets_ignore (CStunMessageBuilder.forgets_addErrorCode _ _)) fun _ =>
    forgets_bind (forgets_addErrorDetails _) fun _ =>
    forgets_bind (forgets_ignore CStunMessageBuilder.forgets_fixLengthField) fun _ =>
    forgets_ignore CStunMessageBuilder.forgets_getResult

theorem forgets_buildErrorResponse :
    Forgets buildErrorResponseCopied (modify buildErrorResponse) :=
  forgets_getObject_modify
    (fun h : CStunRequestHandler => leaveBuilder ((writeErrorResponse h).after h.attachBuilder))
    fun h => forgets_value_bind (forgets_afterwards (forgets_writeErrorResponse h) _) (forgets_quiet _)

theorem forgets_guarded {step : Hr (Watched Access CStunRequestHandler) Unit}
    {step' : Hr CStunRequestHandler Unit} (h : Forgets step step') :
    Forgets (guardedCopied step) (modify (guarded step')) := by
  intro w
  have hw := h w
  rw [Hr.modify_apply, guarded]
  by_cases hz : w.object.error.errorcode = 0
  · rw [if_pos hz, ← hw, guardedCopied, Hr.bind_ok (getObject_apply w), if_pos hz]
    cases hs : step w with
    | ok a w' =>
      rw [Hr.bind_ok (attempt_ok hs)]
      rfl
    | error e w' =>
      rw [Hr.bind_ok (attempt_error hs)]
      dsimp only [forget]
      rw [Hr.bind_ok (getObject_apply w')]
      split_ifs
      · rfl
      · rfl
  · rw [if_neg hz, guardedCopied, Hr.bind_ok (getObject_apply w), if_neg hz]
    rfl

theorem forgets_processRequestImpl :
    Forgets (processRequestImplCopied D) (processRequestImpl D) := by
  refine forgets_getObject_bind fun h => forgets_bind (forgets_chkIf _ _) fun _ =>
    forgets_bind (forgets_quiet _) fun _ => forgets_bind (forgets_quiet _) fun _ =>
    forgets_bind (forgets_quiet _) fun _ => ?_
  refine forgets_bind (forgets_guarded (forgets_validateAuth D)) fun _ =>
    forgets_bind (forgets_guarded (forgets_processBindingRequest D)) fun _ =>
    forgets_getObject_bind fun h' => ?_
  exact forgets_ite forgets_buildErrorResponse (forgets_pure _)

end

end CStunRequestHandler

end StunServer

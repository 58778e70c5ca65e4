import StunServer.Proofs.WatchedCopies

/-! The copies stay within their destinations: a string ends in its array, so it is no longer
than the text that arrays of this size can hold. -/

namespace StunServer

open Bytes Watched

namespace Access

variable {σ : Type} {Q : σ → Prop}

theorem keeps_strlen {mem : List UInt8} (h : 0 ∈ mem) :
    Hr.Keeps (Tidy Q InBounds) (strlen mem) :=
  Hr.keeps_bind (keeps_note h) fun _ => Hr.keeps_pure _

theorem inBounds_write {capacity pos len : ℕ} (h : pos + len ≤ capacity) :
    (write capacity ⟨pos, len⟩).InBounds := h

theorem keeps_strcpy {n : ℕ} (dst : List.Vector UInt8 n) {src : List UInt8} (h : 0 ∈ src)
    (hn : StunServer.strlen src < n) : Hr.Keeps (Tidy Q InBounds) (strcpy dst src) :=
  keeps_value_bind (forgets_strlen src) (keeps_strlen h)
    (Hr.keeps_bind (keeps_note (inBounds_write (by omega))) fun _ => Hr.keeps_pure _)

theorem keeps_store {capacity pos : ℕ} {bytes : List UInt8} (dst : List UInt8)
    (h : pos + bytes.length ≤ capacity) :
    Hr.Keeps (Tidy Q InBounds) (store capacity dst pos bytes) :=
  Hr.keeps_bind (keeps_note (inBounds_write h)) fun _ => Hr.keeps_pure _

end Access

/-! ### The strings -/

namespace AuthString

/-- The string in the array has an end. -/
def Terminated (s : AuthString) : Prop := 0 ∈ s.toList

theorem terminated_zero : zero.Terminated := List.mem_replicate.mpr ⟨by decide, rfl⟩

theorem terminated_terminate (s : AuthString) : s.terminate.Terminated := by
  rw [Terminated, terminate, List.Vector.toList_set]
  exact List.mem_set (by rw [s.toList_length]; decide) 0

theorem Terminated.strlen_le {s : AuthString} (h : s.Terminated) :
    strlen s.toList ≤ MAX_STUN_AUTH_STRING_SIZE := by
  have hlt := strlen_lt_of_mem h
  rw [s.toList_length] at hlt
  exact Nat.le_of_lt_succ hlt

theorem terminated_memcpy (dst : AuthString) {src : List UInt8} (h : 0 ∈ src)
    (hlen : src.length ≤ 65) : Terminated (memcpy dst src) := by
  rw [Terminated, memcpy_toList dst hlen]
  exact List.mem_append_left _ h

theorem terminated_strcpy (dst : AuthString) {src : AuthString} (h : src.Terminated) :
    Terminated (strcpy dst src.toList) := by
  have hlen := h.strlen_le
  refine terminated_memcpy dst (List.mem_append_right _ (List.mem_singleton_self 0)) ?_
  rw [List.length_append]
  exact Nat.succ_le_succ hlen

theorem Terminated.keeps_strcpy {σ : Type} {Q : σ → Prop} {src : AuthString} (h : src.Terminated)
    (dst : AuthString) : Hr.Keeps (Tidy Q Access.InBounds) (Access.strcpy dst src.toList) :=
  Access.keeps_strcpy dst h (Nat.lt_succ_of_le h.strlen_le)

end AuthString

/-! ### The reader -/

namespace CStunMessageReader

section

variable {σ : Type} {Q : σ → Prop} (D : Digests) (r : CStunMessageReader)

/-- An attribute and a terminator behind it have to fit. -/
theorem inBounds_getStringAttributeByType (attributeType : UInt16) {size : ℕ}
    (pszValue : List.Vector UInt8 size) :
    Hr.Keeps (Tidy Q Access.InBounds)
      (r.getStringAttributeByTypeCopied attributeType pszValue) := by
  rw [getStringAttributeByTypeCopied]
  cases r.mapAttributes.lookup attributeType with
  | none => exact Hr.keeps_throw _
  | some pAttrib =>
    dsimp only
    split_ifs with hsize
    · exact Hr.keeps_throw _
    · exact Hr.keeps_bind (keeps_note (Access.inBounds_write (by omega))) fun _ =>
        Hr.keeps_bind (keeps_note (Access.inBounds_write (by omega))) fun _ => Hr.keeps_pure _

theorem inBounds_validateMessageIntegrityShort {pszPassword : AuthString}
    (h : pszPassword.Terminated) :
    Hr.Keeps (Tidy Q Access.InBounds)
      (r.validateMessageIntegrityShortCopied D pszPassword.toList) :=
  Hr.keeps_bind (Access.keeps_strlen h) fun _ => keeps_ofExcept _

theorem inBounds_appendString (key : List UInt8) {pDst : ℕ} {psz : List UInt8} {length : ℕ}
    (h : pDst + length ≤ KEY_CAPACITY) :
    Hr.Keeps (Tidy Q Access.InBounds) (appendString key pDst psz length) := by
  rw [appendString]
  split_ifs
  · refine Access.keeps_store key ?_
    rw [List.length_take]
    omega
  · exact Hr.keeps_pure _

/-- The key of three strings that end in their arrays fits, with one byte to spare for what
stands behind it. -/
theorem inBounds_validateMessageIntegrityLong {pszUser pszRealm pszPassword : AuthString}
    (hu : pszUser.Terminated) (hr : pszRealm.Terminated) (hp : pszPassword.Terminated) :
    Hr.Keeps (Tidy Q Access.InBounds) (r.validateMessageIntegrityLongCopied D pszUser.toList
      pszRealm.toList pszPassword.toList) := by
  have hcapacity : KEY_CAPACITY = MAX_STUN_AUTH_STRING_SIZE * 3 + 2 + 1 := rfl
  have hulen := hu.strlen_le
  have hrlen := hr.strlen_le
  have hplen := hp.strlen_le
  refine keeps_value_bind (Access.forgets_strlen _) (Access.keeps_strlen hp)
    (keeps_value_bind (Access.forgets_strlen _) (Access.keeps_strlen hu)
    (keeps_value_bind (Access.forgets_strlen _) (Access.keeps_strlen hr) ?_))
  refine Hr.keeps_bind (Hr.keeps_chkIf _ _) fun _ => Hr.keeps_bind (Hr.keeps_chkIf _ _) fun _ => ?_
  refine Hr.keeps_bind (inBounds_appendString _ (by omega)) fun _ =>
    Hr.keeps_bind (Access.keeps_store _ ?_) fun _ =>
    Hr.keeps_bind (inBounds_appendString _ (by omega)) fun _ =>
    Hr.keeps_bind (Access.keeps_store _ ?_) fun _ =>
    Hr.keeps_bind (inBounds_appendString _ (by omega)) fun _ =>
    Hr.keeps_bind (Access.keeps_store _ ?_) fun _ => keeps_ofExcept _
  all_goals rw [List.length_singleton]
  all_goals omega

end

end CStunMessageReader

/-! ### The builder -/

namespace CStunMessageBuilder

/-- A builder with only good copies noted. -/
def InBounds : Watched Access CStunMessageBuilder → Prop := Tidy (fun _ => True) Access.InBounds

theorem inBounds_quietly {α : Type} (m : Hr CStunMessageBuilder α) : Hr.Keeps InBounds (quiet m) :=
  keeps_quiet fun _ _ => trivial

theorem inBounds_streamWrite (data : Option (List UInt8)) (size : ℕ) :
    Hr.Keeps InBounds (streamWrite data size) := by
  intro w hw
  change InBounds ((quiet (onStream (CDataStream.write data size)) >>= fun _ => note _).after w)
  cases hwrite : CDataStream.write data size w.object.stream with
  | error e s =>
    have hstream : onStream (CDataStream.write data size) w.object = .error e _ :=
      Hr.on_error hwrite
    rw [(Hr.after_error (Hr.bind_error (quiet_error hstream))).1]
    exact ⟨trivial, hw.events⟩
  | ok a s =>
    have hstream : onStream (CDataStream.write data size) w.object = .ok a _ := Hr.on_ok hwrite
    rw [Hr.after, Hr.bind_ok (quiet_ok hstream)]
    exact ⟨trivial, forall_concat hw.events (Access.inBounds_write (CDataStream.write_room hwrite))⟩

theorem inBounds_writeCopied (data : List UInt8) : Hr.Keeps InBounds (writeCopied data) :=
  inBounds_streamWrite _ _

theorem inBounds_writeUint16 (val : UInt16) : Hr.Keeps InBounds (writeUint16Copied val) :=
  inBounds_streamWrite _ _

theorem inBounds_addHeader (msgType : UInt16) (msgClass : StunMessageClass) :
    Hr.Keeps InBounds (addHeaderCopied msgType msgClass) :=
  Hr.keeps_bind (inBounds_quietly _) fun _ =>
    Hr.keeps_bind (inBounds_writeUint16 _) fun _ => inBounds_writeUint16 _

theorem inBounds_addTransactionId (transid : StunTransactionId) :
    Hr.Keeps InBounds (addTransactionIdCopied transid) :=
  Hr.keeps_bind (inBounds_quietly _) fun _ => inBounds_writeCopied _

theorem inBounds_addAttributeHeader (attribType size : UInt16) :
    Hr.Keeps InBounds (addAttributeHeaderCopied attribType size) :=
  Hr.keeps_bind (inBounds_writeUint16 _) fun _ => inBounds_writeUint16 _

theorem inBounds_writePadding (padding : ℕ) : Hr.Keeps InBounds (writePaddingCopied padding) :=
  Hr.keeps_ite (inBounds_writeCopied _) (Hr.keeps_pure _)

theorem inBounds_addAttribute (attribType : UInt16) (data : Option (List UInt8)) (size : UInt16) :
    Hr.Keeps InBounds (addAttributeCopied attribType data size) := by
  refine keeps_getObject_bind fun b _ => Hr.keeps_bind (inBounds_addAttributeHeader _ _) fun _ => ?_
  exact Hr.keeps_ite (Hr.keeps_bind (inBounds_streamWrite _ _) fun _ => inBounds_writePadding _)
    (inBounds_writePadding _)

theorem inBounds_addStringAttribute (attribType : UInt16) {pstr : List UInt8} (h : 0 ∈ pstr) :
    Hr.Keeps InBounds (addStringAttributeCopied attribType pstr) :=
  Hr.keeps_bind (Access.keeps_strlen h) fun _ =>
    Hr.keeps_bind (Hr.keeps_chkIf _ _) fun _ => inBounds_addAttribute _ _ _

theorem inBounds_addErrorCode (errorNumber : UInt16) {pszReason : List UInt8} (h : 0 ∈ pszReason) :
    Hr.Keeps InBounds (addErrorCodeCopied errorNumber pszReason) := by
  refine Hr.keeps_bind (Access.keeps_strlen h) fun _ => Hr.keeps_bind (Hr.keeps_chkIf _ _) fun _ =>
    Hr.keeps_bind (Hr.keeps_chkIf _ _) fun _ => Hr.keeps_bind (Hr.keeps_chkIf _ _) fun _ => ?_
  refine keeps_getObject_bind fun b _ => Hr.keeps_bind (inBounds_addAttributeHeader _ _) fun _ =>
    Hr.keeps_bind (inBounds_streamWrite _ _) fun _ => Hr.keeps_bind (inBounds_streamWrite _ _) fun _ =>
    Hr.keeps_bind (inBounds_streamWrite _ _) fun _ => ?_
  exact Hr.keeps_ite (Hr.keeps_bind (Hr.keeps_ignore (inBounds_writeCopied _)) fun _ =>
    inBounds_writePadding _) (inBounds_writePadding _)

theorem inBounds_addUnknownAttributes (arr : List UInt16) :
    Hr.Keeps InBounds (addUnknownAttributesCopied arr) := by
  refine Hr.keeps_bind (Hr.keeps_chkIf _ _) fun _ => keeps_getObject_bind fun b _ => ?_
  exact Hr.keeps_bind (inBounds_addAttributeHeader _ _) fun _ =>
    Hr.keeps_bind (inBounds_streamWrite _ _) fun _ =>
    Hr.keeps_ite (Hr.keeps_ignore (inBounds_writeCopied _)) (Hr.keeps_pure _)

theorem inBounds_fixLengthField : Hr.Keeps InBounds fixLengthFieldCopied := by
  refine keeps_getObject_bind fun b _ => keeps_getObject_bind fun b' _ => ?_
  exact Hr.keeps_bind (Hr.keeps_chkIf _ _) fun _ => Hr.keeps_bind (inBounds_quietly _) fun _ =>
    Hr.keeps_bind (inBounds_writeUint16 _) fun _ => inBounds_quietly _

theorem inBounds_getResult : Hr.Keeps InBounds getResultCopied :=
  Hr.keeps_bind inBounds_fixLengthField fun _ => keeps_getObject_bind fun _ _ => Hr.keeps_pure _

section

variable (D : Digests)

theorem inBounds_addMessageIntegrityShortTerm {pszPassword : AuthString} (h : pszPassword.Terminated) :
    Hr.Keeps InBounds (addMessageIntegrityShortTermCopied D pszPassword.toList) :=
  Hr.keeps_bind (Access.keeps_strlen h) fun _ => inBounds_quietly _

theorem inBounds_addMessageIntegrityLongTerm {pszUserName pszRealm pszPassword : AuthString}
    (hu : pszUserName.Terminated) (hr : pszRealm.Terminated) (hp : pszPassword.Terminated) :
    Hr.Keeps InBounds (addMessageIntegrityLongTermCopied D pszUserName.toList pszRealm.toList
      pszPassword.toList) := by
  have hcapacity : MAX_KEY_SIZE = MAX_STUN_AUTH_STRING_SIZE * 3 + 2 := rfl
  have hulen := hu.strlen_le
  have hrlen := hr.strlen_le
  have hplen := hp.strlen_le
  refine keeps_value_bind (Access.forgets_strlen _) (Access.keeps_strlen hu)
    (keeps_value_bind (Access.forgets_strlen _) (Access.keeps_strlen hr)
    (keeps_value_bind (Access.forgets_strlen _) (Access.keeps_strlen hp)
    (Hr.keeps_bind (Hr.keeps_chkIf _ _) fun _ => ?_)))
  refine Hr.keeps_bind (Access.keeps_store _ ?_) fun _ =>
    Hr.keeps_bind (Access.keeps_store _ ?_) fun _ =>
    Hr.keeps_bind (Access.keeps_store _ ?_) fun _ =>
    Hr.keeps_bind (Access.keeps_store _ ?_) fun _ =>
    Hr.keeps_bind (Access.keeps_store _ ?_) fun _ =>
    Hr.keeps_bind (Access.keeps_store _ ?_) fun _ => inBounds_quietly _
  all_goals simp only [List.length_take, List.length_singleton]
  all_goals omega

end

end CStunMessageBuilder

/-! ### The handler -/

namespace CStunRequestHandler

section

variable {σ : Type} {Q : σ → Prop} (D : Digests)

theorem terminated_fetchString (reader : CStunMessageReader) (attributeType : UInt16) :
    (fetchString reader attributeType).Terminated := by
  rw [fetchString, CStunMessageReader.getStringAttributeByType]
  cases reader.mapAttributes.lookup attributeType with
  | none => exact AuthString.terminated_zero
  | some pAttrib =>
    dsimp only
    split_ifs with hsize
    · exact AuthString.terminated_zero
    · refine AuthString.terminated_memcpy _ (List.mem_append_right _ (List.mem_singleton_self 0)) ?_
      rw [List.length_append]
      exact Nat.succ_le_of_lt (lt_of_le_of_lt (slice_length_le _ _ _) (not_le.mp hsize))

theorem inBounds_fetchString (reader : CStunMessageReader) (attributeType : UInt16) :
    Hr.Keeps (Tidy Q Access.InBounds) (fetchStringCopied reader attributeType) :=
  Hr.keeps_bind (keeps_attempt (reader.inBounds_getStringAttributeByType _ _)) fun _ =>
    Hr.keeps_pure _

theorem inBounds_authAttributes (reader : CStunMessageReader) :
    Hr.Keeps (Tidy Q Access.InBounds) (authAttributesCopied reader) :=
  Hr.keeps_bind (inBounds_fetchString _ _) fun _ => Hr.keeps_bind (inBounds_fetchString _ _) fun _ =>
    Hr.keeps_bind (inBounds_fetchString _ _) fun _ => Hr.keeps_bind (inBounds_fetchString _ _) fun _ =>
    Hr.keeps_pure _

theorem inBounds_terminate (authresponse : AuthResponse) :
    Hr.Keeps (Tidy Q Access.InBounds) (terminateCopied authresponse) :=
  Hr.keeps_bind (keeps_note (Nat.le_refl 65)) fun _ =>
    Hr.keeps_bind (keeps_note (Nat.le_refl 65)) fun _ =>
    Hr.keeps_bind (keeps_note (Nat.le_refl 65)) fun _ => Hr.keeps_pure _

end

/-- The strings kept for the response have an end. -/
structure Secured (h : CStunRequestHandler) : Prop where
  user : h.integrity.szUser.Terminated
  realm : h.integrity.szRealm.Terminated
  password : h.integrity.szPassword.Terminated
  nonce : h.error.szNonce.Terminated
  errorRealm : h.error.szRealm.Terminated

theorem secured_create (pAuth : Option IStunAuth) (addrSet : TransportAddressSet)
    (msgIn : StunMessageIn) (reader : CStunMessageReader) (msgOut : StunMessageOut) :
    (create pAuth addrSet msgIn reader msgOut).Secured :=
  ⟨AuthString.terminated_zero, AuthString.terminated_zero, AuthString.terminated_zero,
    AuthString.terminated_zero, AuthString.terminated_zero⟩

section Secured

variable {h : CStunRequestHandler}

theorem Secured.setErrorCode (hs : h.Secured) (errorcode : UInt16) :
    (h.setErrorCode errorcode).Secured := ⟨hs.user, hs.realm, hs.password, hs.nonce, hs.errorRealm⟩

theorem Secured.leaveBuilder (hs : h.Secured) (builder : CStunMessageBuilder) :
    (h.leaveBuilder builder).Secured := ⟨hs.user, hs.realm, hs.password, hs.nonce, hs.errorRealm⟩

theorem Secured.prepare (hs : h.Secured) : h.prepare.Secured :=
  ⟨hs.user, hs.realm, hs.password, hs.nonce, hs.errorRealm⟩

theorem Secured.honorResponsePort (hs : h.Secured) : h.honorResponsePort.Secured := by
  rw [CStunRequestHandler.honorResponsePort]
  dsimp only
  split_ifs
  · exact ⟨hs.user, hs.realm, hs.password, hs.nonce, hs.errorRealm⟩
  · exact ⟨hs.user, hs.realm, hs.password, hs.nonce, hs.errorRealm⟩
  · exact hs

theorem Secured.checkMethod (hs : h.Secured) : h.checkMethod.Secured := by
  rw [CStunRequestHandler.checkMethod]
  split_ifs
  · exact hs.setErrorCode _
  · exact hs
  · exact hs

theorem secured_checkPadding : Hr.Keeps Secured checkPadding := by
  refine Hr.keeps_get_bind fun h _ => Hr.keeps_ite ?_ (Hr.keeps_pure _)
  exact Hr.keeps_bind (Hr.keeps_modify fun _ hs => hs.setErrorCode _) fun _ => Hr.keeps_throw _

theorem secured_chooseSocket : Hr.Keeps Secured chooseSocket := by
  refine Hr.keeps_get_bind fun h _ => Hr.keeps_ite (Hr.keeps_ite ?_ (Hr.keeps_pure _))
    (Hr.keeps_pure _)
  exact Hr.keeps_bind (Hr.keeps_modify fun _ hs => hs.setErrorCode _) fun _ => Hr.keeps_throw _

end Secured

/-- A handler whose strings have an end, with only good copies noted. -/
def InBounds : Watched Access CStunRequestHandler → Prop := Tidy Secured Access.InBounds

theorem inBounds_setErrorCode (errorcode : UInt16) :
    Hr.Keeps InBounds (quiet (modify (setErrorCode errorcode))) :=
  keeps_quiet (Hr.keeps_modify fun _ hs => hs.setErrorCode errorcode)

theorem inBounds_leaveBuilder (builder : CStunMessageBuilder) :
    Hr.Keeps InBounds (quiet (modify (leaveBuilder builder))) :=
  keeps_quiet (Hr.keeps_modify fun _ hs => hs.leaveBuilder builder)

section

variable {authattributes : AuthAttributes} {authresponse : AuthResponse}

theorem inBounds_keepCredentials (hu : authattributes.szUser.Terminated)
    (hr : authattributes.szRealm.Terminated) (hp : authresponse.szPassword.Terminated) :
    Hr.Keeps InBounds (keepCredentials authattributes authresponse) := by
  refine keeps_getObject_bind fun h _ =>
    keeps_value_bind (Access.forgets_strcpy _ _) (hp.keeps_strcpy _)
    (keeps_value_bind (Access.forgets_strcpy _ _) (hu.keeps_strcpy _)
    (keeps_value_bind (Access.forgets_strcpy _ _) (hr.keeps_strcpy _) ?_))
  exact keeps_quiet (Hr.keeps_modify fun h' hs =>
    ⟨AuthString.terminated_strcpy _ hu, AuthString.terminated_strcpy _ hr,
      AuthString.terminated_strcpy _ hp, hs.nonce, hs.errorRealm⟩)

variable (D : Digests)

theorem inBounds_checkIntegrity {σ : Type} {Q : σ → Prop} (reader : CStunMessageReader)
    (hu : authattributes.szUser.Terminated) (hr : authattributes.szRealm.Terminated)
    (hp : authresponse.szPassword.Terminated) :
    Hr.Keeps (Tidy Q Access.InBounds) (checkIntegrityCopied D reader authattributes authresponse) :=
  Hr.keeps_ite (reader.inBounds_validateMessageIntegrityLong D hu hr hp)
    (reader.inBounds_validateMessageIntegrityShort D hp)

theorem inBounds_applyAuthResponse (hu : authattributes.szUser.Terminated)
    (hr : authattributes.szRealm.Terminated) (hp : authresponse.szPassword.Terminated) :
    Hr.Keeps InBounds (applyAuthResponseCopied D authattributes authresponse) := by
  rw [applyAuthResponseCopied]
  cases authresponse.responseType with
  | allow => exact Hr.keeps_pure _
  | staleNonce => exact inBounds_setErrorCode _
  | reject => exact inBounds_setErrorCode _
  | unauthorized => exact inBounds_setErrorCode _
  | allowConditional =>
    refine keeps_getObject_bind fun h _ =>
      Hr.keeps_bind (keeps_attempt (inBounds_checkIntegrity D h.reader hu hr hp)) fun hrRet => ?_
    cases hrRet with
    | ok _ => exact inBounds_keepCredentials hu hr hp
    | error _ => exact inBounds_setErrorCode _

theorem inBounds_storeChallenge (hn : authresponse.szNonce.Terminated)
    (hr : authresponse.szRealm.Terminated) :
    Hr.Keeps InBounds (storeChallengeCopied authresponse) := by
  refine keeps_getObject_bind fun h _ => Hr.keeps_ite ?_ (Hr.keeps_pure _)
  refine keeps_value_bind (Access.forgets_strcpy _ _) (hr.keeps_strcpy _)
    (keeps_value_bind (Access.forgets_strcpy _ _) (hn.keeps_strcpy _) ?_)
  exact keeps_quiet (Hr.keeps_modify fun h' hs => ⟨hs.user, hs.realm, hs.password,
    AuthString.terminated_strcpy _ hn, AuthString.terminated_strcpy _ hr⟩)

end

section

variable (D : Digests)

/-- Whatever the answer of the authentication, its strings have an end when they are copied. -/
theorem inBounds_validateAuth : Hr.Keeps InBounds (validateAuthCopied D) := by
  refine keeps_getObject_bind fun h _ => ?_
  cases h.pAuth with
  | none => exact Hr.keeps_pure _
  | some pAuth =>
    refine keeps_value_bind (forgets_authAttributes h.reader) (inBounds_authAttributes h.reader) ?_
    refine Hr.keeps_bind (Hr.keeps_chk _) fun _ => ?_
    refine keeps_value_bind (forgets_terminate _) (inBounds_terminate _) ?_
    exact Hr.keeps_bind (inBounds_applyAuthResponse D (terminated_fetchString _ _)
      (terminated_fetchString _ _) (AuthString.terminated_terminate _)) fun _ =>
      inBounds_storeChallenge (AuthString.terminated_terminate _) (AuthString.terminated_terminate _)

theorem inBounds_addIntegrity {integrity : StunMessageIntegrity} (hu : integrity.szUser.Terminated)
    (hr : integrity.szRealm.Terminated) (hp : integrity.szPassword.Terminated) :
    Hr.Keeps CStunMessageBuilder.InBounds (addIntegrityCopied D integrity) :=
  Hr.keeps_ite (CStunMessageBuilder.inBounds_addMessageIntegrityShortTerm D hp)
    (CStunMessageBuilder.inBounds_addMessageIntegrityLongTerm D hu hr hp)

theorem inBounds_writeBindingResponse {h : CStunRequestHandler} (hs : h.Secured)
    (socketOutput : SocketRole) :
    Hr.Keeps CStunMessageBuilder.InBounds (writeBindingResponseCopied D h socketOutput) := by
  have hquiet : ∀ m : Hr CStunMessageBuilder Unit,
      Hr.Keeps CStunMessageBuilder.InBounds (Hr.ignore (quiet m)) :=
    fun m => Hr.keeps_ignore (CStunMessageBuilder.inBounds_quietly m)
  refine Hr.keeps_bind (hquiet _) fun _ => Hr.keeps_bind (hquiet _) fun _ =>
    Hr.keeps_bind (hquiet _) fun _ => Hr.keeps_bind (Hr.keeps_when (hquiet _)) fun _ =>
    Hr.keeps_bind (hquiet _) fun _ => Hr.keeps_bind (hquiet _) fun _ => ?_
  exact Hr.keeps_bind (Hr.keeps_when (Hr.keeps_ignore
    (inBounds_addIntegrity D hs.user hs.realm hs.password))) fun _ => hquiet _

theorem inBounds_processBindingRequest : Hr.Keeps InBounds (processBindingRequestCopied D) := by
  refine keeps_getObject_bind fun h _ => Hr.keeps_bind (inBounds_leaveBuilder _) fun _ =>
    Hr.keeps_bind (keeps_quiet secured_checkPadding) fun _ =>
    Hr.keeps_bind (keeps_quiet secured_chooseSocket) fun socketOutput => ?_
  refine Hr.keeps_bind (keeps_quiet (Hr.keeps_modify fun h' hs =>
    ⟨hs.user, hs.realm, hs.password, hs.nonce, hs.errorRealm⟩)) fun _ => ?_
  exact keeps_getObject_bind fun h' hs => Hr.keeps_bind
    (keeps_afterwards (inBounds_writeBindingResponse D hs socketOutput) trivial) fun _ =>
    inBounds_leaveBuilder _

theorem inBounds_addChallenge {error : StunErrorCode} (hn : error.szNonce.Terminated)
    (hr : error.szRealm.Terminated) :
    Hr.Keeps CStunMessageBuilder.InBounds (addChallengeCopied error) :=
  Hr.keeps_bind (Hr.keeps_when (Hr.keeps_ignore (CStunMessageBuilder.inBounds_addStringAttribute _ hn)))
    fun _ => Hr.keeps_when (Hr.keeps_ignore (CStunMessageBuilder.inBounds_addStringAttribute _ hr))

theorem inBounds_writeErrorResponse {h : CStunRequestHandler} (hs : h.Secured) :
    Hr.Keeps CStunMessageBuilder.InBounds (writeErrorResponseCopied h) := by
  refine Hr.keeps_bind (Hr.keeps_ignore (CStunMessageBuilder.inBounds_addHeader _ _)) fun _ =>
    Hr.keeps_bind (Hr.keeps_ignore (CStunMessageBuilder.inBounds_addTransactionId _)) fun _ =>
    Hr.keeps_bind (Hr.keeps_ignore (CStunMessageBuilder.inBounds_addErrorCode _ (by decide)))
    fun _ => ?_
  refine Hr.keeps_bind (Hr.keeps_ite
    (Hr.keeps_ignore (CStunMessageBuilder.inBounds_addUnknownAttributes _))
    (Hr.keeps_ite (inBounds_addChallenge hs.nonce hs.errorRealm) (Hr.keeps_pure _))) fun _ => ?_
  exact Hr.keeps_bind (Hr.keeps_ignore CStunMessageBuilder.inBounds_fixLengthField) fun _ =>
    Hr.keeps_ignore CStunMessageBuilder.inBounds_getResult

theorem inBounds_buildErrorResponse : Hr.Keeps InBounds buildErrorResponseCopied :=
  keeps_getObject_bind fun _ hs => Hr.keeps_bind
    (keeps_afterwards (inBounds_writeErrorResponse hs) trivial) fun _ => inBounds_leaveBuilder _

theorem inBounds_guarded {step : Hr (Watched Access CStunRequestHandler) Unit}
    (h : Hr.Keeps InBounds step) : Hr.Keeps InBounds (guardedCopied step) := by
  refine keeps_getObject_bind fun _ _ => Hr.keeps_ite ?_ (Hr.keeps_pure _)
  refine Hr.keeps_bind (keeps_attempt h) fun hr => ?_
  cases hr with
  | ok _ => exact Hr.keeps_pure _
  | error _ =>
    exact keeps_getObject_bind fun _ _ => Hr.keeps_ite (inBounds_setErrorCode _) (Hr.keeps_pure _)

theorem inBounds_processRequestImpl : Hr.Keeps InBounds (processRequestImplCopied D) := by
  refine keeps_getObject_bind fun _ _ => Hr.keeps_bind (Hr.keeps_chkIf _ _) fun _ =>
    Hr.keeps_bind (keeps_quiet (Hr.keeps_modify fun _ hs => hs.prepare)) fun _ =>
    Hr.keeps_bind (keeps_quiet (Hr.keeps_modify fun _ hs => hs.honorResponsePort)) fun _ =>
    Hr.keeps_bind (keeps_quiet (Hr.keeps_modify fun _ hs => hs.checkMethod)) fun _ => ?_
  exact Hr.keeps_bind (inBounds_guarded (inBounds_validateAuth D)) fun _ =>
    Hr.keeps_bind (inBounds_guarded (inBounds_processBindingRequest D)) fun _ =>
    keeps_getObject_bind fun _ _ => Hr.keeps_ite inBounds_buildErrorResponse (Hr.keeps_pure _)

end

end CStunRequestHandler

end StunServer

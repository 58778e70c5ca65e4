import StunServer.Proofs.HandlerAuth

/-! The handler's replies: what `ProcessBindingRequest` and `BuildErrorResponse` leave in
the caller's buffer, and from both the reply to every request. -/

namespace StunServer.CStunRequestHandler

open Bytes Tlv CStunMessageBuilder

section

variable {D : Digests} {x : Arrival} {m : Message} {room : CBuffer} {c : Option Credential}
  {h : CStunRequestHandler}

/-- The finished message is in the builder's buffer, which is still the caller's. -/
structure Finished (reply : Message) (cap : ℕ) (b : CStunMessageBuilder) : Prop where
  drafts : b.Drafts reply.typeField (sizeAll reply.attrs) reply.attrs
  tid : b.transactionid = reply.tid
  inPlace : b.stream.InPlace cap

/-- Both responses start on the caller's buffer, emptied. -/
theorem attachBuilder_eq (hh : Handling x m room h) :
    h.attachBuilder.stream.AtEnd [] ∧ h.attachBuilder.stream.InPlace room.data.length ∧
      h.attachBuilder.fLegacyMode = m.isLegacy := by
  have hstream : h.attachBuilder.stream = CDataStream.create.attach { room with size := 0 } true := by
    rw [attachBuilder, hh.buffer]
    simp [CStunMessageBuilder.setLegacyMode, CStunMessageBuilder.attachStream,
      CStunMessageBuilder.create]
  rw [hstream]
  exact ⟨CDataStream.atEnd_attach _ _, CDataStream.inPlace_attach _ _, hh.mode⟩

theorem otherAddress_eq (hh : Handling x m room h) [Decidable x.KnowsOther] :
    h.otherAddress = if x.KnowsOther then some (x.addrSet.set x.otherRole).addr else none := by
  have hall : (h.hasAddress .rolePP && h.hasAddress .rolePA && h.hasAddress .roleAP &&
      h.hasAddress .roleAA) = true ↔ ∀ role, (x.addrSet.set role).fValid = true := by
    simp only [hasAddress, hh.addrSet, Bool.and_eq_true]
    constructor
    · rintro ⟨⟨⟨h1, h2⟩, h3⟩, h4⟩ role
      cases role <;> assumption
    · intro hv
      exact ⟨⟨⟨hv _, hv _⟩, hv _⟩, hv _⟩
  unfold otherAddress
  dsimp only
  by_cases hv : ∀ role, (x.addrSet.set role).fValid = true
  · rw [if_pos (hall.mpr hv)]
    have hzero : h.isIPAddressZeroOrInvalid (socketRoleSwapIP (socketRoleSwapPort
        h.msgIn.socketrole)) = false ↔ x.KnowsOther := by
      simp [isIPAddressZeroOrInvalid, hasAddress, hh.addrSet, hh.msgIn, hv, Arrival.KnowsOther,
        Arrival.otherRole]
    by_cases hk : x.KnowsOther
    · rw [if_pos (hzero.mpr hk), if_pos hk, hh.addrSet, hh.msgIn]
      rfl
    · rw [if_neg (mt hzero.mp hk), if_neg hk]
  · rw [if_neg (mt hall.mp hv), if_neg (fun hk => hv hk.1)]

theorem addrOrigin_eq (hh : Handling x m room h) (role : SocketRole) :
    h.addrOrigin role = x.origin role := by
  unfold addrOrigin Arrival.origin
  rw [hh.addrSet, hh.msgIn]
  by_cases hz : (x.addrSet.set role).addr.isIPAddressZero = true
  · by_cases hr : role = x.msgIn.socketrole
    · simp [hr]
    · simp [hr]
  · simp [hz]

/-- The credential is turned into the key of the specification. -/
theorem addIntegrity_eq {integrity : StunMessageIntegrity} {c : Credential}
    (hs : Signs integrity (some c)) :
    integrity.fSendWithIntegrity = true ∧
      addIntegrity D integrity = addMessageIntegrityImpl D (c.key D) := by
  cases c with
  | shortTerm password =>
    obtain ⟨hsend, hterm, hp⟩ := hs
    refine ⟨hsend, ?_⟩
    rw [addIntegrity, if_pos hterm, addMessageIntegrityShortTerm, hp]
    rfl
  | longTerm user realm password =>
    obtain ⟨hsend, hterm, hu, hr, hp⟩ := hs
    refine ⟨hsend, ?_⟩
    have hkey : CStunMessageBuilder.longTermKey integrity.szUser.toList integrity.szRealm.toList
        integrity.szPassword.toList =
        CStunMessageReader.longTermKey user.text realm.text password.text := by
      simp only [CStunMessageBuilder.longTermKey, CStunMessageReader.longTermKey, hu, hr, hp,
        AuthText.isText]
    have hfits : ¬strlen integrity.szUser.toList + strlen integrity.szRealm.toList +
        strlen integrity.szPassword.toList + 2 > MAX_KEY_SIZE := by
      have h1 := user.length_le
      have h2 := realm.length_le
      have h3 := password.length_le
      simp only [strlen, hu, hr, hp]
      change ¬_ > 194
      omega
    rw [addIntegrity, if_neg (by rw [hterm]; decide)]
    funext b
    rw [addMessageIntegrityLongTerm, Hr.bind_ok (Hr.chkIf_false hfits _ b), hkey]
    rfl

/-- The signature is written when the response is to be sent with one. -/
theorem ensures_signature (hh : Admitted D x m room c h) {typeField : UInt16} {k : ℕ}
    {rs : List Record} {b : CStunMessageBuilder}
    (hb : b.Composes typeField m.tid m.isLegacy room.data.length k rs) (hcap : 20 + (k + 24) ≤ room.data.length) :
    Hr.Ensures (Hr.when (h.integrity.fSendWithIntegrity = true)
        (Hr.ignore (addIntegrity D h.integrity))) b
      (Composes typeField m.tid m.isLegacy room.data.length (k + 24)
        (rs ++ Arrival.signature D typeField m.tid rs c)) := by
  have hsigns := hh.integrity
  cases c with
  | none =>
    have hoff : ¬h.integrity.fSendWithIntegrity = true := by
      rw [show h.integrity.fSendWithIntegrity = false from hsigns]
      decide
    exact Hr.Ensures.when (fun hc => absurd hc hoff) fun _ => hb.skip 24
  | some c =>
    obtain ⟨hon, heq⟩ := addIntegrity_eq (D := D) hsigns
    refine Hr.Ensures.when (fun _ => ?_) fun hc => absurd hon hc
    rw [heq]
    exact (hb.addMessageIntegrityImpl D (hh.key c rfl) hcap).ignore

theorem ensures_addOther (hh : Handling x m room h) [Decidable x.KnowsOther] {typeField : UInt16}
    {k : ℕ} {rs : List Record} {b : CStunMessageBuilder}
    (hb : b.Composes typeField m.tid m.isLegacy room.data.length k rs) (hcap : 20 + (k + 24) ≤ room.data.length) :
    Hr.Ensures (Hr.ignore (addOther h.otherAddress)) b
      (Composes typeField m.tid m.isLegacy room.data.length (k + 24) (rs ++ if x.KnowsOther then
        [addressRecord m.isLegacy
          (if m.isLegacy then STUN_ATTRIBUTE_CHANGEDADDRESS else STUN_ATTRIBUTE_OTHER_ADDRESS)
          (x.addrSet.set x.otherRole).addr] else [])) := by
  rw [otherAddress_eq hh]
  by_cases hk : x.KnowsOther
  · rw [if_pos hk, if_pos hk]
    exact (hb.writes (hb.writes_other _) (small_addressRecord _ _) hcap).ignore
  · rw [if_neg hk, if_neg hk]
    exact (Hr.Ensures.pure (hb.skip 24)).ignore

/-- The Binding response of an admitted request. -/
theorem ensures_writeBindingResponse (hh : Admitted D x m room c h) (hcap : 800 ≤ room.data.length) :
    Hr.Ensures (writeBindingResponse D h (m.outputRole x.msgIn.socketrole)) h.attachBuilder
      (Finished (x.successReply D m c) room.data.length) := by
  classical
  have hhandling := hh.toHandling
  obtain ⟨hat, hin, hmode⟩ := attachBuilder_eq hhandling
  have horigin := addrOrigin_eq hhandling (m.outputRole x.msgIn.socketrole)
  unfold writeBindingResponse
  dsimp only
  rw [horigin, hh.tid, hh.msgIn]
  refine (ensures_addHeader hat hin hcap _ _).ignore.bind fun b₁ ⟨hat₁, hmode₁, hin₁⟩ =>
    (ensures_addTransactionId hat₁ hin₁ hcap _).ignore.bind fun b₂ h₂ => ?_
  rw [hmode₁, hmode] at h₂
  refine (h₂.writes (h₂.writes_address _ _) (small_addressRecord _ _) (by omega)).ignore.bind
    fun b₃ h₃ => (h₃.writesIf (h₃.writes_responseOrigin _) (small_addressRecord _ _)
      (by omega)).bind fun b₄ h₄ => (ensures_addOther hhandling h₄ (by omega)).bind
        fun b₅ h₅ => (h₅.writes (h₅.writes_xorMapped _) (small_addressRecord _ _)
          (by omega)).ignore.bind fun b₆ h₆ => (ensures_signature hh h₆ (by omega)).bind
            fun b₇ h₇ => ?_
  exact h₇.fixLengthField.ignore.mono fun b' ⟨hd, htid, hin'⟩ => ⟨hd, htid, hin'⟩

/-- The errors that ask for credentials send nonce and realm. -/
theorem ensures_addErrorDetails {e : Refusal} (hh : Refused x m room e h) {typeField : UInt16}
    {k : ℕ} {rs : List Record} {b : CStunMessageBuilder}
    (hb : b.Composes typeField m.tid m.isLegacy room.data.length k rs) (hcap : 20 + (k + 68 + 68) ≤ room.data.length) :
    Hr.Ensures (addErrorDetails h.error) b
      (Composes typeField m.tid m.isLegacy room.data.length (k + 68 + 68) (rs ++ match e.challenge with
        | none => []
        | some (nonce, realm) => textRecords m.isLegacy STUN_ATTRIBUTE_NONCE nonce ++
            textRecords m.isLegacy STUN_ATTRIBUTE_REALM realm)) := by
  have hunknown : ¬(h.error.errorcode = STUN_ERROR_UNKNOWNATTRIB ∧ h.error.attribUnknown ≠ 0) := by
    rw [hh.errorcode]
    rintro ⟨hc, -⟩
    revert hc
    rcases e.code_cases with hc | hc | hc <;> rw [hc] <;> decide
  have hchallenge : ∀ nonce realm, e.challenge = some (nonce, realm) →
      Hr.Ensures (addChallenge h.error) b
        (Composes typeField m.tid m.isLegacy room.data.length (k + 68 + 68)
          (rs ++ (textRecords m.isLegacy STUN_ATTRIBUTE_NONCE nonce ++
            textRecords m.isLegacy STUN_ATTRIBUTE_REALM realm))) := by
    intro nonce realm hc
    obtain ⟨hnonce, hrealm⟩ := hh.challenge nonce realm hc
    rw [← List.append_assoc]
    exact (hb.writesText _ hnonce (by omega)).bind fun b' hb' => hb'.writesText _ hrealm hcap
  rw [addErrorDetails, if_neg hunknown, hh.errorcode]
  cases e with
  | badRequest =>
    rw [if_neg (by decide)]
    exact Hr.Ensures.pure (hb.skip 136)
  | unauthorized nonce realm =>
    rw [if_pos (Or.inr (by rfl))]
    exact hchallenge nonce realm rfl
  | staleNonce nonce realm =>
    rw [if_pos (Or.inl (by rfl))]
    exact hchallenge nonce realm rfl

/-- The error response of a refused request. -/
theorem ensures_writeErrorResponse {e : Refusal} (hh : Refused x m room e h) (hcap : 800 ≤ room.data.length) :
    Hr.Ensures (writeErrorResponse h) h.attachBuilder (Finished (errorReply m e) room.data.length) := by
  obtain ⟨hat, hin, hmode⟩ := attachBuilder_eq hh.toHandling
  have hrange : ¬e.code < 300 ∧ ¬e.code > 600 := by
    rcases e.code_cases with hc | hc | hc <;> rw [hc] <;> decide
  unfold writeErrorResponse
  rw [hh.tid, hh.msgtype, hh.msgclass, hh.errorcode]
  refine (ensures_addHeader hat hin hcap _ _).ignore.bind fun b₁ ⟨hat₁, hmode₁, hin₁⟩ =>
    (ensures_addTransactionId hat₁ hin₁ hcap _).ignore.bind fun b₂ h₂ => ?_
  rw [hmode₁, hmode] at h₂
  have hw := h₂.writes_record
    (writes_addErrorCode b₂ hrange.1 hrange.2 (by decide : (cstr pszFailed).length < 128))
  have hsmall : Small [record m.isLegacy STUN_ATTRIBUTE_ERRORCODE
      (errorValue e.code (cstr pszFailed)) (by rw [errorValue_length]; decide)] 1 16 := by
    apply small_record
    · rw [errorValue_length]
      decide
    · rw [errorValue_length]
      decide
  refine (h₂.writes hw hsmall (by omega)).ignore.bind fun b₃ h₃ =>
    (ensures_addErrorDetails hh h₃ (by omega)).bind fun b₄ h₄ =>
      h₄.fixLengthField.ignore.bind fun b₅ ⟨hd₅, htid₅, hin₅⟩ => ?_
  obtain ⟨b₆, he₆, hd₆, htid₆, hin₆⟩ := hd₅.getResult
  exact ⟨b₆, Hr.ignore_ok he₆, hd₆, htid₆.trans htid₅, hin₆ room.data.length hin₅⟩

/-! ### Whether the request can be served -/

theorem checkPadding_eq (hh : Handling x m room h) :
    checkPadding h = if m.responsePort ≠ none ∧ m.HasPadding then
      .error E_FAIL (h.setErrorCode STUN_ERROR_BADREQUEST) else .ok () h := by
  have hpad : h.reader.getPaddingAttributeSize.isOk = true ↔ m.HasPadding := by
    rw [hh.reader.getPaddingAttributeSize_eq]
    unfold Message.HasPadding
    cases m.find STUN_ATTRIBUTE_PADDING with
    | none => simp [Except.isOk, Except.toBool]
    | some a => simp [Except.isOk, Except.toBool]
  rw [checkPadding, Hr.bind_ok (Hr.get_apply h)]
  by_cases hc : m.responsePort ≠ none ∧ m.HasPadding
  · rw [if_pos hc, if_pos (by rw [hh.port.mpr hc.1, hpad.mpr hc.2]; rfl)]
    rfl
  · rw [if_neg hc, if_neg (by rw [Bool.and_eq_true, hh.port, hpad]; exact hc)]
    rfl

theorem outOr_getChangeRequest {r : CStunMessageReader} (hr : r.Parsed m) :
    outOr r.getChangeRequest ⟨false, false⟩ = m.change ∧
      (m.AsksChange → r.getChangeRequest.isOk = true) := by
  rw [hr.getChangeRequest_eq]
  unfold Message.AsksChange Message.change
  cases m.find STUN_ATTRIBUTE_CHANGEREQUEST with
  | none => simp [outOr]
  | some a =>
    dsimp only
    split_ifs
    · exact ⟨rfl, fun _ => rfl⟩
    · simp [outOr]

theorem outputRole_of_not_asksChange (hn : ¬m.AsksChange) (role : SocketRole) :
    m.outputRole role = role := by
  obtain ⟨hip, hport⟩ := not_or.mp hn
  rw [Message.outputRole, changeSocket]
  simp [hip, hport]

theorem chooseSocket_eq (hh : Handling x m room h) :
    chooseSocket h = if (m.AsksChange →
        (x.addrSet.set (m.outputRole x.msgIn.socketrole)).fValid = true) ∧
        (m.AsksChange → x.msgIn.fConnectionOriented = false) then
      .ok (m.outputRole x.msgIn.socketrole) h
    else .error E_FAIL (h.setErrorCode STUN_ERROR_BADREQUEST) := by
  obtain ⟨hchange, hok⟩ := outOr_getChangeRequest hh.reader
  rw [chooseSocket, Hr.bind_ok (Hr.get_apply h)]
  dsimp only
  rw [hchange, hh.msgIn, hasAddress, hh.addrSet]
  by_cases ha : m.AsksChange
  · have hasks : (h.reader.getChangeRequest.isOk &&
        (m.change.fChangeIP || m.change.fChangePort)) = true := by
      rw [hok ha, Bool.true_and, Bool.or_eq_true]
      exact ha
    rw [if_pos hasks]
    change (if (decide ((x.addrSet.set (m.outputRole x.msgIn.socketrole)).fValid = false) ||
      x.msgIn.fConnectionOriented) = true then _ else _ : Hr CStunRequestHandler SocketRole) h = _
    cases (x.addrSet.set (m.outputRole x.msgIn.socketrole)).fValid with
    | false =>
      rw [if_pos (by rfl), if_neg fun hc => Bool.false_ne_true (hc.1 ha)]
      rfl
    | true =>
      cases x.msgIn.fConnectionOriented with
      | true =>
        rw [if_pos (by rfl), if_neg fun hc => Bool.false_ne_true (hc.2 ha).symm]
        rfl
      | false =>
        rw [if_neg (by decide), if_pos ⟨fun _ => rfl, fun _ => rfl⟩]
        rfl
  · rw [if_neg, if_pos ⟨fun h => absurd h ha, fun h => absurd h ha⟩,
      outputRole_of_not_asksChange ha]
    · rfl
    · rw [Bool.and_eq_true, Bool.or_eq_true]
      exact fun hc => ha hc.2

/-- The builder's work shows in the caller's buffer, emptied to begin with. -/
theorem Handling.leaveBuilder (hh : Handling x m room h) :
    Handling x m room (h.leaveBuilder h.attachBuilder) :=
  { hh with
    buffer := by
      change h.attachBuilder.stream.sharedBuffer = _
      rw [attachBuilder, hh.buffer]
      simp [CStunMessageBuilder.setLegacyMode, CStunMessageBuilder.attachStream,
        CStunMessageBuilder.create, CDataStream.attach, CDataStream.sharedBuffer,
        CDataStream.reset, CDataStream.create] }

/-- The builder of a response, which started on the caller's allocation. -/
def IsResponseBuilder (D : Digests) (room : CBuffer) (builder : CStunMessageBuilder) : Prop :=
  ∃ h : CStunRequestHandler, h.msgOut.spBufferOut = some { room with size := 0 } ∧
    (builder = (writeErrorResponse h).after h.attachBuilder ∨
      ∃ role, builder = (writeBindingResponse D h role).after h.attachBuilder)

/-- The reply that leaves the handler: it fills the caller's buffer, which is the one its
builder worked on to the end. -/
structure Answered (D : Digests) (reply : Message) (role : SocketRole) (dest : CSocketAddress)
    (room : CBuffer) (out : StunMessageOut) : Prop where
  role : out.socketrole = role
  dest : out.addrDest = dest
  buffer : ∃ builder, IsResponseBuilder D room builder ∧ Finished reply room.data.length builder ∧
    out.spBufferOut = builder.stream.sharedBuffer

/-- The buffer handed back is the caller's, with the reply in it. -/
theorem Answered.exists_buffer {reply : Message} {role : SocketRole} {dest : CSocketAddress}
    {out : StunMessageOut} (ha : Answered D reply role dest room out) :
    ∃ builder buf, IsResponseBuilder D room builder ∧ builder.stream.replaced = none ∧
      builder.stream.pBuffer = some buf ∧ out.spBufferOut = some buf ∧
      buf.data.length = room.data.length ∧ buf.bytes = reply.encode ∧ buf.bytes.length = buf.size := by
  obtain ⟨builder, hbuilder, hfinished, hout⟩ := ha.buffer
  obtain ⟨buf, hbuf, hbytes⟩ := hfinished.drafts.bytes
  have hreplaced := hfinished.inPlace.replaced
  have hlen := hfinished.drafts.atEnd.wf.bytes_length
  have halloc := hfinished.inPlace.allocated
  rw [CDataStream.bytes, CDataStream.getSize, hbuf] at hlen
  rw [CDataStream.getAllocatedSize, hbuf] at halloc
  refine ⟨builder, buf, hbuilder, hreplaced, hbuf, ?_, halloc, ?_, hlen⟩
  · rw [hout, CDataStream.sharedBuffer, hreplaced, hbuf]
    rfl
  · rw [hbytes, hfinished.tid]
    rfl

/-- A Binding request that can be served gets its response. -/
theorem processBindingRequest_ok (hh : Admitted D x m room c h) (hs : x.Servable m)
    (hcap : 800 ≤ room.data.length) :
    ∃ h', processBindingRequest D h = .ok () h' ∧ h'.error.errorcode = 0 ∧
      Answered D (x.successReply D m c) (m.outputRole x.msgIn.socketrole) (x.dest m) room
        h'.msgOut := by
  have hleft := hh.toHandling.leaveBuilder
  have hpadding := checkPadding_eq hleft
  rw [if_neg fun hc => hs.padding hc.1 hc.2] at hpadding
  have hsocket := chooseSocket_eq hleft
  rw [if_pos ⟨hs.role, hs.datagram⟩] at hsocket
  have hfinished := (ensures_writeBindingResponse hh hcap).after
  have hrun : processBindingRequest D h = .ok () (({ h with msgOut :=
      { h.msgOut with socketrole := m.outputRole x.msgIn.socketrole } }).leaveBuilder
        ((writeBindingResponse D h (m.outputRole x.msgIn.socketrole)).after h.attachBuilder)) := by
    rw [processBindingRequest, Hr.bind_ok (Hr.get_apply h)]
    dsimp only
    rw [Hr.bind_ok (Hr.modify_apply _ h), Hr.bind_ok hpadding, Hr.bind_ok hsocket]
    rfl
  exact ⟨_, hrun, hh.errorcode, rfl, hh.dest, _, ⟨h, hh.buffer, Or.inr ⟨_, rfl⟩⟩, hfinished, rfl⟩

/-- Any other Binding request is refused. -/
theorem processBindingRequest_error (hh : Handling x m room h) (hs : ¬x.Servable m) :
    ∃ h' hr, processBindingRequest D h = .error hr h' ∧ Refused x m room .badRequest h' := by
  have hleft := hh.leaveBuilder
  have hpadding := checkPadding_eq hleft
  have hsocket := chooseSocket_eq hleft
  refine ⟨_, E_FAIL, ?_, hleft.badRequest⟩
  rw [processBindingRequest, Hr.bind_ok (Hr.get_apply h)]
  dsimp only
  rw [Hr.bind_ok (Hr.modify_apply _ h)]
  by_cases hp : m.responsePort ≠ none ∧ m.HasPadding
  · rw [if_pos hp] at hpadding
    rw [Hr.bind_error hpadding]
  · rw [if_neg hp] at hpadding
    rw [if_neg fun hc => hs ⟨fun h1 h2 => hp ⟨h1, h2⟩, hc.1, hc.2⟩] at hsocket
    rw [Hr.bind_ok hpadding, Hr.bind_error hsocket]

/-! ### The reply -/

/-- After an error nothing but the error response is left to do. -/
theorem Refused.answered {e : Refusal} (hh : Refused x m room e h) (hcap : 800 ≤ room.data.length) :
    Answered D (errorReply m e) x.msgIn.socketrole (x.dest m) room (buildErrorResponse h).msgOut where
  role := hh.role
  dest := hh.dest
  buffer := ⟨_, ⟨h, hh.buffer, Or.inl rfl⟩, (ensures_writeErrorResponse hh hcap).after, rfl⟩

/-- What the handler does between the first checks and the response is the verdict. -/
theorem decided_verdict {r : CStunMessageReader} (hr : r.Parsed m) (buf : CBuffer)
    (hcap : 800 ≤ buf.data.length) :
    let h := guarded (processBindingRequest D) (guarded (validateAuth D)
      (checkMethod (honorResponsePort (begin x r buf))))
    (∃ e, x.verdict D m = .error e ∧ Refused x m buf e h) ∨
      ∃ c, x.verdict D m = .ok c ∧ h.error.errorcode = 0 ∧
        Answered D (x.successReply D m c) (m.outputRole x.msgIn.socketrole) (x.dest m) buf
          h.msgOut := by
  dsimp only
  by_cases hw : x.WellPut m
  · have hauth := decided_authorize (admitted_wellPut (D := D) hr buf hw)
    set h := guarded (validateAuth D) (checkMethod (honorResponsePort (begin x r buf)))
    rw [Arrival.verdict, if_pos hw]
    cases ha : Arrival.authorize D x.pAuth m with
    | error e =>
      rw [ha] at hauth
      exact Or.inl ⟨e, rfl, Refused.guarded hauth⟩
    | ok c =>
      rw [ha] at hauth
      have hadmitted : Admitted D x m buf c h := hauth
      by_cases hs : x.Servable m
      · obtain ⟨h', hrun, hcode, hanswered⟩ := processBindingRequest_ok hadmitted hs hcap
        rw [guarded_ok hadmitted.errorcode hrun]
        exact Or.inr ⟨c, if_pos hs, hcode, hanswered⟩
      · obtain ⟨h', hr', hrun, hrefused⟩ := processBindingRequest_error (D := D)
          hadmitted.toHandling hs
        rw [guarded_error hadmitted.errorcode hrun, if_neg (by rw [hrefused.errorcode]; decide)]
        exact Or.inl ⟨.badRequest, if_neg hs, hrefused⟩
  · rw [Arrival.verdict, if_neg hw]
    exact Or.inl ⟨.badRequest, rfl, (refused_wellPut hr buf hw).guarded.guarded⟩

/-- The last step of `ProcessRequestImpl`. -/
def finalize (h : CStunRequestHandler) : CStunRequestHandler :=
  if h.error.errorcode ≠ 0 then buildErrorResponse h else h

theorem processRequestImpl_run (hclass : ¬h.reader.getMessageClass ≠ .request) :
    processRequestImpl D h = .ok () (finalize (guarded (processBindingRequest D)
      (guarded (validateAuth D) (checkMethod (honorResponsePort (prepare h)))))) := by
  rw [processRequestImpl, Hr.bind_ok (Hr.get_apply h), Hr.bind_ok (Hr.chkIf_false hclass _ h),
    Hr.bind_ok (Hr.modify_apply _ _), Hr.bind_ok (Hr.modify_apply _ _), Hr.bind_ok (Hr.modify_apply _ _),
    Hr.bind_ok (Hr.modify_apply _ _), Hr.bind_ok (Hr.modify_apply _ _),
    Hr.bind_ok (Hr.get_apply _), finalize]
  split_ifs
  · rfl
  · rfl

/-- The server answers every request, as the specification says. -/
theorem processRequest_answered {r : CStunMessageReader} (hr : r.Parsed m)
    (hin : x.msgIn.pReader = some r) (hcls : m.cls = .request) {out : StunMessageOut}
    {buf : CBuffer} (hout : out.spBufferOut = some buf) (hcap : 800 ≤ buf.data.length) :
    ∃ out', processRequest D x.msgIn out (some x.addrSet) x.pAuth = (S_OK, out') ∧
      Answered D (x.reply D m) (x.replyRole D m) (x.dest m) buf out' := by
  have hsmall : ¬buf.getAllocatedSize < MAX_STUN_MESSAGE_SIZE := Nat.not_lt.mpr hcap
  have hclass : ¬r.getMessageClass ≠ .request := not_not_intro (hr.cls.trans hcls)
  have hstate : ¬r.getState ≠ .bodyValidated := not_not_intro hr.state
  have himpl := processRequestImpl_run (D := D) (h := create x.pAuth x.addrSet x.msgIn r
    ⟨x.msgIn.socketrole, x.msgIn.addrRemote, some (buf.setSize 0).2⟩) hclass
  have hrun : processRequest D x.msgIn out (some x.addrSet) x.pAuth =
      (S_OK, (finalize (guarded (processBindingRequest D) (guarded (validateAuth D)
        (checkMethod (honorResponsePort (begin x r buf)))))).msgOut) := by
    unfold processRequest
    simp only [hin, hout]
    rw [if_neg hsmall, if_neg hstate, himpl]
    rfl
  refine ⟨_, hrun, ?_⟩
  rw [finalize]
  rcases decided_verdict (D := D) (x := x) hr buf hcap with ⟨e, hv, hrefused⟩ | ⟨c, hv, hcode, hanswered⟩
  · rw [Arrival.reply, Arrival.replyRole, hv, if_pos]
    · exact hrefused.answered hcap
    · rw [hrefused.errorcode]
      rcases e.code_cases with hc | hc | hc <;> rw [hc] <;> decide
  · rw [Arrival.reply, Arrival.replyRole, hv, if_neg (not_not_intro hcode)]
    exact hanswered

end

end StunServer.CStunRequestHandler

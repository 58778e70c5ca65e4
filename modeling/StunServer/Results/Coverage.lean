import StunServer.Results.Authentication

/-! What a server acts on is covered by the message integrity: two requests over the same
hashed text differ in a fingerprint at most, and get the same response. -/

namespace StunServer

open Bytes Tlv CStunMessageReader CStunRequestHandler CStunMessageBuilder

namespace Message

variable {m m' : Message} {before before' : List Record} {mi mi' : Record}
  {tail tail' : List Record}

/-- Two requests that no server can tell apart, but for a fingerprint. -/
structure SameRequest (m m' : Message) : Prop where
  method : m.method = m'.method
  cls : m.cls = m'.cls
  tid : m.tid = m'.tid
  findAt : ∀ t, t ≠ STUN_ATTRIBUTE_FINGERPRINT → m.findAt t = m'.findAt t
  authentic : ∀ (D : Digests) (key : List UInt8), m.Authentic D key ↔ m'.Authentic D key

/-- Behind the integrity attribute there is a fingerprint at most. -/
theorem Sealed.findAt_eq (h : m.Sealed before mi tail) {t : UInt16}
    (ht : t ≠ STUN_ATTRIBUTE_FINGERPRINT) :
    m.findAt t = (locate 20 (before ++ [mi])).reverse.find? fun p => p.2.type = t := by
  have hattrs : m.attrs = (before ++ [mi]) ++ tail := by simp [h.attrs]
  have hnone : ((locate (20 + sizeAll (before ++ [mi])) tail).reverse.find? fun p =>
      p.2.type = t) = none := by
    refine (find_last_eq_none _).mpr fun a ha => ?_
    rcases h.tail with rfl | ⟨fp, rfl, hfp⟩
    · simp at ha
    · rw [List.mem_singleton.mp ha, hfp]
      exact ht.symm
  rw [Message.findAt, hattrs, locate_append, List.reverse_append, List.find?_append, hnone,
    Option.none_or]

theorem Sealed.authentic_iff (h : m.Sealed before mi tail) (D : Digests) (key : List UInt8) :
    m.Authentic D key ↔ key ≠ [] ∧ mi.value = (D.hmacSha1 key (m.hmacText before tail)).toList := by
  constructor
  · rintro ⟨hk, before', mi', tail', h', hvalue⟩
    obtain ⟨rfl, rfl, rfl⟩ := h.unique h'
    exact ⟨hk, hvalue⟩
  · rintro ⟨hk, hvalue⟩
    exact ⟨hk, before, mi, tail, h, hvalue⟩

/-- The hashed text determines the header and everything before the hash. -/
theorem hmacText_inj (h : m.hmacText before tail = m'.hmacText before' tail') :
    m.method = m'.method ∧ m.cls = m'.cls ∧ m.tid = m'.tid ∧ before = before' := by
  have ht := congrArg typeFieldOf h
  have hid := congrArg (fun b => slice b 4 16) h
  have hb := congrArg (fun b => b.drop 20) h
  simp only [hmacText, typeFieldOf_header, tid_header] at ht hid hb
  rw [List.drop_left' (headerBytes_length _ _ _), List.drop_left' (headerBytes_length _ _ _)] at hb
  obtain ⟨hmethod, hcls⟩ := typeField_inj ht
  exact ⟨hmethod, hcls, List.Vector.toList_injective hid, encodeAll_inj hb⟩

theorem Sealed.sameRequest (h : m.Sealed before mi tail) (h' : m'.Sealed before' mi' tail')
    (htext : m.hmacText before tail = m'.hmacText before' tail') (hvalue : mi.value = mi'.value) :
    m.SameRequest m' := by
  obtain ⟨hmethod, hcls, htid, rfl⟩ := hmacText_inj htext
  have hmi : mi = mi' := by
    have hpad : ∀ a : Record, a.value.length = 20 → a.padding = [] := by
      intro a ha
      have hp := a.padding_length
      rw [ha] at hp
      exact List.length_eq_zero_iff.mp hp
    have hp := hpad mi h.size
    have hp' := hpad mi' h'.size
    have ht := h.type.trans h'.type.symm
    cases mi
    cases mi'
    simp_all
  refine ⟨hmethod, hcls, htid, ?_, ?_⟩
  · intro t ht
    rw [h.findAt_eq ht, h'.findAt_eq ht, hmi]
  · intro D key
    rw [h.authentic_iff, h'.authentic_iff, htext, hvalue]

namespace SameRequest

variable (h : m.SameRequest m')

include h

theorem find {t : UInt16} (ht : t ≠ STUN_ATTRIBUTE_FINGERPRINT) : m.find t = m'.find t := by
  rw [m.find_eq, m'.find_eq, h.findAt t ht]

theorem isLegacy : m.isLegacy = m'.isLegacy := by rw [Message.isLegacy, Message.isLegacy, h.tid]

theorem responsePort : m.responsePort = m'.responsePort := by
  rw [Message.responsePort, Message.responsePort, h.find (by decide)]

theorem change : m.change = m'.change := by
  rw [Message.change, Message.change, h.find (by decide)]

theorem outputRole (role : SocketRole) : m.outputRole role = m'.outputRole role := by
  rw [Message.outputRole, Message.outputRole, h.change]

theorem stringValue {t : UInt16} (ht : t ≠ STUN_ATTRIBUTE_FINGERPRINT) :
    m.stringValue t = m'.stringValue t := by
  rw [Message.stringValue, Message.stringValue, h.find ht]

theorem authAttributes : m.authAttributes = m'.authAttributes := by
  rw [Message.authAttributes, Message.authAttributes, h.stringValue (by decide),
    h.stringValue (by decide), h.stringValue (by decide), h.stringValue (by decide),
    h.find (by decide)]

theorem credential (response : AuthResponse) : m.credential response = m'.credential response := by
  rw [Message.credential, Message.credential, h.stringValue (by decide),
    h.stringValue (by decide)]

end SameRequest

end Message

namespace Arrival

section

variable {D : Digests} {x : Arrival} {m m' : Message} (h : m.SameRequest m')

include h

theorem judge_congr (response : AuthResponse) : judge D m response = judge D m' response := by
  unfold judge
  rw [h.credential response, propext (h.authentic D ((m'.credential response).key D))]

theorem verdict_congr : x.verdict D m = x.verdict D m' := by
  have hwell : x.WellPut m ↔ x.WellPut m' := by
    constructor
    · rintro ⟨h1, h2⟩
      exact ⟨h.method ▸ h1, h.responsePort ▸ h2⟩
    · rintro ⟨h1, h2⟩
      exact ⟨h.method ▸ h1, h.responsePort ▸ h2⟩
  have hasks : m.AsksChange ↔ m'.AsksChange := by
    rw [Message.AsksChange, Message.AsksChange, h.change]
  have hrole := h.outputRole
  have hpadding : m.HasPadding ↔ m'.HasPadding := by
    rw [Message.HasPadding, Message.HasPadding, h.find (by decide)]
  have hservable : x.Servable m ↔ x.Servable m' := by
    constructor
    · rintro ⟨h1, h2, h3⟩
      rw [h.responsePort, hpadding] at h1
      rw [hasks] at h2 h3
      exact ⟨h1, hrole _ ▸ h2, h3⟩
    · rintro ⟨h1, h2, h3⟩
      rw [← h.responsePort, ← hpadding] at h1
      rw [← hasks] at h2 h3
      exact ⟨h1, hrole _ ▸ h2, h3⟩
  have hauth : authorize D x.pAuth m = authorize D x.pAuth m' := by
    unfold authorize
    rw [h.authAttributes]
    simp only [judge_congr h]
  unfold verdict
  rw [hauth, propext hwell, propext hservable]

/-- Requests a server cannot tell apart get the same reply. -/
theorem reply_congr : x.reply D m = x.reply D m' ∧ x.replyRole D m = x.replyRole D m' ∧
    x.dest m = x.dest m' := by
  have herror : ∀ e, errorReply m e = errorReply m' e := by
    intro e
    simp only [errorReply, h.method, h.tid, h.isLegacy]
  have haddress : x.addressRecords m = x.addressRecords m' := by
    unfold addressRecords
    rw [h.isLegacy, h.tid, h.outputRole]
  have hsuccess : ∀ c, x.successReply D m c = x.successReply D m' c := by
    intro c
    simp only [successReply, successRecords, haddress, h.tid]
  refine ⟨?_, ?_, ?_⟩
  · unfold reply
    rw [verdict_congr h]
    cases x.verdict D m' with
    | error e => exact herror e
    | ok c => exact hsuccess c
  · unfold replyRole
    rw [verdict_congr h]
    cases x.verdict D m' with
    | error e => rfl
    | ok c => exact h.outputRole _
  · unfold dest
    rw [h.responsePort]

end

end Arrival

/-- The bytes of the response, and where it goes, are those of the reply. -/
theorem Served.answer {D : Digests} {x : Arrival} {m : Message} {buf : CBuffer}
    {res : HRESULT × StunMessageOut} (h : Served D x m buf res) :
    responseBytes res.2 = (x.reply D m).encode ∧ res.2.socketrole = x.replyRole D m ∧
      res.2.addrDest = x.dest m := by
  obtain ⟨-, buf', -, -, -, hbuf, -, hbytes, -⟩ := h.answered.exists_buffer
  refine ⟨?_, h.answered.role, h.answered.dest⟩
  rw [responseBytes, hbuf, Option.elim_some, hbytes]

/-- Without a buffer of the size of a message nothing is done. -/
theorem serve_invalid (D : Digests) (x : Arrival) (r : CStunMessageReader) {out : StunMessageOut}
    (h : ∀ buf, out.spBufferOut = some buf → buf.getAllocatedSize < 800) :
    serve D (x.withReader r) out = (E_INVALIDARG, out) := by
  unfold serve processRequest
  cases hout : out.spBufferOut with
  | none => simp [Arrival.withReader]
  | some buf =>
    simp only [Arrival.withReader]
    exact if_pos (h buf hout)

/-- Two authentic requests over the same hashed text are the same request for a server. -/
theorem integrity_covers (D : Digests) {r r' : CStunMessageReader} (h : HoldsRequest r)
    (h' : HoldsRequest r') {key ctx : List UInt8} {attrib attrib' : StunAttribute}
    (hctx : r.hmacInput key = .ok (attrib, ctx)) (hctx' : r'.hmacInput key = .ok (attrib', ctx))
    (hvalid : r.validateMessageIntegrity D key = .ok ())
    (hvalid' : r'.validateMessageIntegrity D key = .ok ()) :
    r.getMessageType = r'.getMessageType ∧ r.getMessageClass = r'.getMessageClass ∧
    r.getTransactionId = r'.getTransactionId ∧
    r.isMessageLegacyFormat = r'.isMessageLegacyFormat ∧
    (∀ t, t ≠ STUN_ATTRIBUTE_FINGERPRINT → r.getAttributeByType t = r'.getAttributeByType t ∧
      ∀ a, r.getAttributeByType t = .ok a →
        slice r.stream.data a.offset.toNat a.size.toNat =
          slice r'.stream.data a.offset.toNat a.size.toNat) ∧
    ∀ (x : Arrival) (out : StunMessageOut),
      let res := serve D (x.withReader r) out
      let res' := serve D (x.withReader r') out
      res.1 = res'.1 ∧ responseBytes res.2 = responseBytes res'.2 ∧
        res.2.socketrole = res'.2.socketrole ∧ res.2.addrDest = res'.2.addrDest := by
  obtain ⟨m, hm⟩ := h.reachable.exists_parsed h.state
  obtain ⟨m', hm'⟩ := h'.reachable.exists_parsed h'.state
  have hsame : m.SameRequest m' := by
    obtain ⟨-, before, mi, tail, hs, -, htext⟩ := hm.hmacInput_iff.mp hctx
    obtain ⟨-, before', mi', tail', hs', -, htext'⟩ := hm'.hmacInput_iff.mp hctx'
    have hauth := (hs.authentic_iff D key).mp ((hm.validateMessageIntegrity_iff D key).mp hvalid)
    have hauth' := (hs'.authentic_iff D key).mp ((hm'.validateMessageIntegrity_iff D key).mp hvalid')
    refine hs.sameRequest hs' (htext.symm.trans htext') ?_
    rw [hauth.2, hauth'.2, ← htext, ← htext']
  refine ⟨hm.type.trans (hsame.method.trans hm'.type.symm),
    hm.cls.trans (hsame.cls.trans hm'.cls.symm), hm.tid.trans (hsame.tid.trans hm'.tid.symm),
    hm.legacy.trans (hsame.isLegacy.trans hm'.legacy.symm), ?_, ?_⟩
  · intro t ht
    have hfind := hsame.findAt t ht
    refine ⟨by rw [hm.getAttributeByType_eq, hm'.getAttributeByType_eq, hfind], ?_⟩
    intro a ha
    rw [hm.getAttributeByType_eq] at ha
    cases hf : m.findAt t with
    | none =>
      rw [hf] at ha
      cases ha
    | some p =>
      rw [hf] at ha
      cases ha
      rw [hm.slice_attrib (Message.mem_of_findAt hf).1,
        hm'.slice_attrib (Message.mem_of_findAt (hfind.symm.trans hf)).1]
  · intro x out
    dsimp only
    by_cases hbuf : ∃ buf, out.spBufferOut = some buf ∧ 800 ≤ buf.getAllocatedSize
    · obtain ⟨buf, hout, hcap⟩ := hbuf
      obtain ⟨m₁, hm₁, hserved⟩ := served D h (x := x.withReader r) rfl hout hcap
      obtain ⟨m₂, hm₂, hserved'⟩ := served D h' (x := x.withReader r') rfl hout hcap
      obtain rfl := hm.unique hm₁
      obtain rfl := hm'.unique hm₂
      obtain ⟨hbytes, hrole, hdest⟩ := hserved.answer
      obtain ⟨hbytes', hrole', hdest'⟩ := hserved'.answer
      obtain ⟨hr, hrr⟩ := Arrival.withReader_reply (D := D) (x := x) (m := m) (r := r)
      obtain ⟨hr', hrr'⟩ := Arrival.withReader_reply (D := D) (x := x) (m := m') (r := r')
      obtain ⟨hreply, hreplyRole, hreplyDest⟩ := Arrival.reply_congr (D := D) (x := x) hsame
      refine ⟨hserved.hr.trans hserved'.hr.symm, ?_, ?_, hdest.trans (hreplyDest.trans hdest'.symm)⟩
      · rw [hbytes, hbytes', hr, hr', hreply]
      · rw [hrole, hrole', hrr, hrr', hreplyRole]
    · have hsmall : ∀ buf, out.spBufferOut = some buf → buf.getAllocatedSize < 800 := by
        intro buf hout
        by_contra hcap
        exact hbuf ⟨buf, hout, by omega⟩
      rw [serve_invalid D x r hsmall, serve_invalid D x r' hsmall]
      exact ⟨rfl, rfl, rfl, rfl⟩

theorem signedRequest_valid (fFingerprint : Bool) :
    HoldsRequest (readBack (signedRequest fFingerprint).encode) ∧
    (∃ attrib, (readBack (signedRequest fFingerprint).encode).hmacInput [112, 119] = .ok (attrib,
      integrityText (mergeType StunMsgTypeBinding .request) (List.Vector.replicate 16 7)
        [Record.ofValue STUN_ATTRIBUTE_USERNAME [97, 108, 105, 99, 101] length_alice])) ∧
    (readBack (signedRequest fFingerprint).encode).validateMessageIntegrity sampleDigests
      [112, 119] = .ok () := by
  obtain ⟨tail, hs, htext⟩ := signedRequest_sealed fFingerprint
  have hparsed := parsed_encode (signedRequest fFingerprint)
  refine ⟨holdsRequest_encode rfl, ⟨_, hparsed.hmacInput_iff.mpr
    ⟨by decide, _, _, tail, hs, rfl, htext.symm⟩⟩, ?_⟩
  exact (hparsed.validateMessageIntegrity_iff _ _).mpr ⟨by decide, _, _, tail, hs, rfl⟩

/-- The signed request gets the same response with and without its fingerprint. -/
theorem integrity_covers_fingerprint :
    responseBytes (serve sampleDigests
      (sampleArrival.withReader (readBack (signedRequest false).encode)) sampleOut).2 =
    responseBytes (serve sampleDigests
      (sampleArrival.withReader (readBack (signedRequest true).encode)) sampleOut).2 := by
  obtain ⟨hholds, ⟨attrib, hctx⟩, hvalid⟩ := signedRequest_valid false
  obtain ⟨hholds', ⟨attrib', hctx'⟩, hvalid'⟩ := signedRequest_valid true
  exact ((integrity_covers sampleDigests hholds hholds' hctx hctx' hvalid hvalid').2.2.2.2.2
    sampleArrival sampleOut).2.1

end StunServer

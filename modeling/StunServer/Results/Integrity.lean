import StunServer.Results.RoundTrip

/-! What the builder signs the reader verifies, and two requests with the same hashed
text are the same request for the server. -/

namespace StunServer

open Bytes Tlv CStunMessageBuilder

/-- The last steps of a protected message: perhaps a fingerprint, then the result. -/
def finish (D : Digests) (fFingerprint : Bool) : Hr CStunMessageBuilder (Option CBuffer) := do
  if fFingerprint then
    addFingerprintAttribute D
  getResult

/-- The room that integrity and fingerprint need: attributes and bytes. -/
def protectionCount (fFingerprint : Bool) : ℕ := if fFingerprint then 2 else 1

def protectionSize (fFingerprint : Bool) : ℕ := if fFingerprint then 24 + 8 else 24

/-- What a reader finds out about a protected message. -/
structure Verified (D : Digests) (fFingerprint : Bool) (m : Message) (key : List UInt8) : Prop where
  authentic : m.Authentic D key
  fingerprint : fFingerprint = true → ∃ a, m.find STUN_ATTRIBUTE_FINGERPRINT = some a ∧
    a.value.length = 4 ∧ word32 a.value =
      D.crc32 (m.encode.take (m.encode.length - 8)) ^^^ STUN_FINGERPRINT_XOR

section

variable {m : Message} {before : List Record} {mi fp : Record}

/-- The text hashed in a message that ends in its integrity. -/
theorem hmacText_integrity (hattrs : m.attrs = before ++ [mi]) (hmi : mi.size = 24) :
    m.hmacText before [] = integrityText m.typeField m.tid before := by
  have hsize : sizeAll m.attrs = sizeAll before + 24 := by
    rw [hattrs, sizeAll_append]
    simp [hmi]
  rw [Message.hmacText, if_pos rfl, Nat.sub_zero, integrityText, hsize]

/-- A fingerprint behind the integrity is not counted. -/
theorem hmacText_fingerprint (hattrs : m.attrs = before ++ [mi] ++ [fp]) (hmi : mi.size = 24)
    (hfp : fp.size = 8) : m.hmacText before [fp] = integrityText m.typeField m.tid before := by
  have hsize : sizeAll m.attrs - 8 = sizeAll before + 24 := by
    rw [hattrs, sizeAll_append, sizeAll_append]
    simp [hmi, hfp]
  rw [Message.hmacText, if_neg (by simp), hsize, integrityText]

/-- What is in front of a fingerprint. -/
theorem encode_take_fingerprint (hattrs : m.attrs = before ++ [fp]) (hfp : fp.size = 8) :
    m.encode.take (m.encode.length - 8) =
      headerBytes m.typeField (sizeAll before + 8) m.tid ++ encodeAll before := by
  have hsize : sizeAll m.attrs = sizeAll before + 8 := by
    rw [hattrs, sizeAll_append]
    simp [hfp]
  have hsplit : m.encode =
      headerBytes m.typeField (sizeAll before + 8) m.tid ++ encodeAll before ++ fp.encode := by
    rw [Message.encode, hsize, hattrs]
    simp [List.append_assoc]
  have hlast : m.encode.length - 8 =
      (headerBytes m.typeField (sizeAll before + 8) m.tid ++ encodeAll before).length := by
    rw [hsplit, List.length_append, fp.encode_length, hfp, Nat.add_sub_cancel]
  rw [hlast, hsplit, List.take_left]

end

section

variable (D : Digests) (fLegacyMode : Bool) {msgType : UInt16} {msgClass : StunMessageClass}
  (tid : StunTransactionId) {attrs : List (UInt16 × List UInt8)} {key : List UInt8}

/-- Behind the attributes the builder puts the hash of its text, and the reader hashes
the same text. -/
theorem protected_message (ht : IsMethod msgType) (hc : msgClass ≠ .invalidMessageClass)
    (hv : ∀ p ∈ attrs, p.2.length ≤ 780) (fFingerprint : Bool)
    (hcount : attrs.length + protectionCount fFingerprint ≤ 30)
    (htotal : paddedTotal attrs + protectionSize fFingerprint ≤ 800) (hk : key ≠ []) :
    ∃ (buf : CBuffer) (b' : CStunMessageBuilder) (m : Message), (do
        draftMessage msgType msgClass tid attrs
        addMessageIntegrityImpl D key
        finish D fFingerprint) (create.setLegacyMode fLegacyMode) = .ok (some buf) b' ∧
      buf.bytes = m.encode ∧ Verified D fFingerprint m key := by
  obtain ⟨b₁, he₁, hd₁, htid₁, hmode₁⟩ := drafts_message (b := create.setLegacyMode fLegacyMode)
    CDataStream.atEnd_create msgType msgClass tid hv
  have hmode : (create.setLegacyMode fLegacyMode).fLegacyMode = fLegacyMode := rfl
  rw [hmode] at hd₁
  set rs := attrs.map (recordOf fLegacyMode) with hrs
  have hsize : sizeAll rs = paddedTotal attrs := sizeAll_recordOf hv
  have hlen : rs.length = attrs.length := List.length_map _
  have hvalue : ∀ a ∈ rs, a.value.length ≤ 780 := by
    intro a ha
    obtain ⟨p, hp, rfl⟩ := List.mem_map.mp ha
    exact recordOf_value_le (hv p hp)
  obtain ⟨b₂, he₂, hd₂, htid₂, -⟩ := hd₁.addMessageIntegrityImpl D hk
  rw [htid₁] at hd₂ htid₂
  set mi := integrityRecord (D.hmacSha1 key (integrityText (mergeType msgType msgClass) tid rs))
    with hmi
  have hmisize : mi.size = 24 := integrityRecord_size _
  have hmivalue : mi.value.length ≤ 780 := by simp [hmi, integrityRecord, Record.ofValue]
  have hlen₁ : (rs ++ [mi]).length = attrs.length + 1 := by simp [hlen]
  have hsize₁ : sizeAll (rs ++ [mi]) = sizeAll rs + 24 := by simp [hmisize]
  have hvalue₁ : ∀ a ∈ rs ++ [mi], a.value.length ≤ 780 := by
    simpa [or_imp, forall_and] using ⟨hvalue, hmivalue⟩
  cases fFingerprint with
  | false =>
    simp only [protectionCount, protectionSize, Bool.false_eq_true, if_false] at hcount htotal
    let m : Message := ⟨msgType, msgClass, tid, rs ++ [mi], ht, hc, by omega, hvalue₁, by omega⟩
    obtain ⟨buf, b₃, he₃, hbytes⟩ := Drafts.result (m := m) hd₂ htid₂
    refine ⟨buf, b₃, m, ?_, hbytes, ⟨hk, rs, mi, [], ⟨rfl, rfl, ?_, Or.inl rfl⟩, ?_⟩, by simp⟩
    · rw [Hr.bind_ok he₁, Hr.bind_ok he₂]
      exact he₃
    · simp [hmi, integrityRecord, Record.ofValue]
    · rw [hmacText_integrity rfl hmisize]
      rfl
  | true =>
    simp only [protectionCount, protectionSize, if_true] at hcount htotal
    obtain ⟨b₃, he₃, hd₃, htid₃, -⟩ := hd₂.addFingerprintAttribute D (by omega)
    rw [htid₂] at hd₃ htid₃
    set fp := fingerprintRecord (D.crc32 (headerBytes (mergeType msgType msgClass)
      (sizeAll (rs ++ [mi]) + 8) tid ++ encodeAll (rs ++ [mi])) ^^^ STUN_FINGERPRINT_XOR) with hfp
    have hfpsize : fp.size = 8 := fingerprintRecord_size _
    have hfpvalue : fp.value.length = 4 := by simp [hfp, fingerprintRecord, Record.ofValue]
    have hsize₂ : sizeAll (rs ++ [mi] ++ [fp]) = sizeAll rs + 24 + 8 := by
      rw [sizeAll_append, hsize₁]
      simp [hfpsize]
    let m : Message := ⟨msgType, msgClass, tid, rs ++ [mi] ++ [fp], ht, hc, by
        rw [List.length_append, hlen₁, List.length_singleton]
        omega,
      by
        intro a ha
        rcases List.mem_append.mp ha with ha | ha
        · exact hvalue₁ a ha
        · rw [List.mem_singleton.mp ha, hfpvalue]
          omega,
      by omega⟩
    obtain ⟨buf, b₄, he₄, hbytes⟩ := Drafts.result (m := m) hd₃ htid₃
    refine ⟨buf, b₄, m, ?_, hbytes, ⟨hk, rs, mi, [fp], ⟨by simp [m], rfl, ?_,
      Or.inr ⟨fp, rfl, rfl⟩⟩, ?_⟩, fun _ => ⟨fp, ?_, hfpvalue, ?_⟩⟩
    · rw [Hr.bind_ok he₁, Hr.bind_ok he₂]
      exact (Hr.bind_ok he₃).trans he₄
    · simp [hmi, integrityRecord, Record.ofValue]
    · rw [hmacText_fingerprint rfl hmisize hfpsize]
      rfl
    · have htype : fp.type = STUN_ATTRIBUTE_FINGERPRINT := rfl
      change (rs ++ [mi] ++ [fp]).reverse.find? _ = _
      simp [htype]
    · rw [encode_take_fingerprint rfl hfpsize]
      exact word32_be32 _

variable {D}

/-- The reader of a protected message accepts its integrity and its fingerprint. -/
theorem Verified.readBack {m : Message} {fFingerprint : Bool}
    (h : Verified D fFingerprint m key) :
    (readBack m.encode).getState = .bodyValidated ∧
      (readBack m.encode).validateMessageIntegrity D key = .ok () ∧
      (fFingerprint = true → (readBack m.encode).isFingerprintAttributeValid D = true) := by
  have hparsed := parsed_encode m
  refine ⟨hparsed.state, (hparsed.validateMessageIntegrity_iff D key).mpr h.authentic, ?_⟩
  intro hfp
  obtain ⟨a, hfind, hvalue⟩ := h.fingerprint hfp
  have heq := hparsed.isFingerprintAttributeValid_eq D
  rw [hfind] at heq
  exact heq.trans (decide_eq_true hvalue)

end

/-- Messages protected under a short-term or a long-term credential verify under it. -/
theorem protect_then_verify (D : Digests) (fLegacyMode : Bool) (msgType : UInt16)
    (ht : IsMethod msgType) (msgClass : StunMessageClass) (hc : msgClass ≠ .invalidMessageClass)
    (tid : StunTransactionId) (attrs : List (UInt16 × List UInt8))
    (hv : ∀ p ∈ attrs, p.2.length ≤ 780) (fFingerprint : Bool)
    (hcount : attrs.length + protectionCount fFingerprint ≤ 30)
    (htotal : paddedTotal attrs + protectionSize fFingerprint ≤ 800) :
    (∀ pszPassword : List UInt8, cstr pszPassword ≠ [] → ∃ buf b',
      (do
        draftMessage msgType msgClass tid attrs
        addMessageIntegrityShortTerm D pszPassword
        finish D fFingerprint) (create.setLegacyMode fLegacyMode) = .ok (some buf) b' ∧
      (readBack buf.bytes).getState = .bodyValidated ∧
      (readBack buf.bytes).validateMessageIntegrityShort D pszPassword = .ok () ∧
      (fFingerprint = true → (readBack buf.bytes).isFingerprintAttributeValid D = true)) ∧
    (∀ pszUser pszRealm pszPassword : List UInt8,
      strlen pszUser + strlen pszRealm + strlen pszPassword + 2 ≤ 194 → ∃ buf b',
      (do
        draftMessage msgType msgClass tid attrs
        addMessageIntegrityLongTerm D pszUser pszRealm pszPassword
        finish D fFingerprint) (create.setLegacyMode fLegacyMode) = .ok (some buf) b' ∧
      (readBack buf.bytes).getState = .bodyValidated ∧
      (readBack buf.bytes).validateMessageIntegrityLong D pszUser pszRealm pszPassword = .ok () ∧
      (fFingerprint = true → (readBack buf.bytes).isFingerprintAttributeValid D = true)) := by
  constructor
  · intro pszPassword hp
    obtain ⟨buf, b', m, he, hbytes, hverified⟩ :=
      protected_message D fLegacyMode tid ht hc hv fFingerprint hcount htotal hp
    obtain ⟨hstate, hvalid, hfp⟩ := hverified.readBack
    rw [← hbytes] at hstate hvalid hfp
    exact ⟨buf, b', he, hstate, hvalid, hfp⟩
  · intro pszUser pszRealm pszPassword hlen
    have hkey : (D.md5 (CStunMessageBuilder.longTermKey pszUser pszRealm pszPassword)).toList ≠ [] :=
      List.ne_nil_of_length_pos (by rw [List.Vector.toList_length]; decide)
    have hlong : addMessageIntegrityLongTerm D pszUser pszRealm pszPassword =
        addMessageIntegrityImpl D
          (D.md5 (CStunMessageBuilder.longTermKey pszUser pszRealm pszPassword)).toList := by
      funext b
      have hfits : ¬strlen pszUser + strlen pszRealm + strlen pszPassword + 2 > MAX_KEY_SIZE := by
        change ¬_ > 194
        omega
      rw [addMessageIntegrityLongTerm, Hr.bind_ok (Hr.chkIf_false hfits _ b)]
    obtain ⟨buf, b', m, he, hbytes, hverified⟩ :=
      protected_message D fLegacyMode tid ht hc hv fFingerprint hcount htotal hkey
    obtain ⟨hstate, hvalid, hfp⟩ := hverified.readBack
    rw [← hbytes] at hstate hvalid hfp
    rw [hlong]
    refine ⟨buf, b', he, hstate, ?_, hfp⟩
    have hparsed : (readBack buf.bytes).Parsed m := hbytes ▸ parsed_encode m
    rw [hparsed.validateMessageIntegrityLong_eq]
    exact hvalid

/-- The digests of the message below, as the libraries compute them. -/
def sampleDigests : Digests where
  hmacSha1 _ _ := ⟨[0x10, 0x09, 0xcb, 0xed, 0xf8, 0xe1, 0xf3, 0x42, 0x94, 0xf9,
    0x36, 0xd4, 0xe7, 0x85, 0x9d, 0x21, 0x36, 0xca, 0x57, 0x2f], rfl⟩
  md5 _ := List.Vector.replicate 16 0
  crc32 _ := 0xb3260a7a

/-- A Binding request with a user name, a message integrity and a fingerprint. -/
theorem protect_then_verify_binding : ∃ buf b',
    (do
      draftMessage StunMsgTypeBinding .request (List.Vector.replicate 16 7)
        [(STUN_ATTRIBUTE_USERNAME, [97, 108, 105, 99, 101])]
      addMessageIntegrityShortTerm sampleDigests [112, 119, 0]
      finish sampleDigests true) (create.setLegacyMode false) = .ok (some buf) b' ∧
    (readBack buf.bytes).validateMessageIntegrityShort sampleDigests [112, 119, 0] = .ok () := by
  obtain ⟨buf, b', he, -, hvalid, -⟩ := (protect_then_verify sampleDigests false
    StunMsgTypeBinding (by decide) .request (by decide) (List.Vector.replicate 16 7)
    [(STUN_ATTRIBUTE_USERNAME, [97, 108, 105, 99, 101])] (by decide) true (by decide)
    (by decide)).1 [112, 119, 0] (by decide)
  exact ⟨buf, b', he, hvalid⟩

end StunServer

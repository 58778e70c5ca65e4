import StunServer.Lib.Crc32
import StunServer.Results.Integrity

/-! A valid fingerprint is one that ends the message, unless the message was made so that its
checksum covers the fingerprint itself. -/

namespace StunServer

open Bytes Tlv CStunMessageReader

namespace Message

/-- The last attribute is a fingerprint of all the bytes before it. -/
def EndsInFingerprint (m : Message) : Prop :=
  ∃ before fp, m.attrs = before ++ [fp] ∧ fp.type = STUN_ATTRIBUTE_FINGERPRINT ∧
    fp.value.length = 4 ∧ word32 fp.value =
      Crc32.checksum (headerBytes m.typeField (sizeAll m.attrs) m.tid ++ encodeAll before) ^^^
        STUN_FINGERPRINT_XOR

/-- The last fingerprint has other attributes behind it, and yet it is the checksum of all
bytes but the last eight, its own among them. -/
def HidesFingerprint (m : Message) : Prop :=
  ∃ before fp after, m.attrs = before ++ fp :: after ∧ after ≠ [] ∧
    fp.type = STUN_ATTRIBUTE_FINGERPRINT ∧ (∀ a ∈ after, a.type ≠ STUN_ATTRIBUTE_FINGERPRINT) ∧
    fp.value.length = 4 ∧ word32 fp.value =
      Crc32.checksum (m.encode.take (m.encode.length - 8)) ^^^ STUN_FINGERPRINT_XOR

section

variable {m : Message} {before after : List Record} {fp : Record}

theorem size_of_four (h : fp.value.length = 4) : fp.size = 8 := by
  rw [Record.size, fp.padding_length, h]
  rfl

/-- All bytes but the last eight are those in front of a fingerprint that ends the message. -/
theorem take_of_last (hattrs : m.attrs = before ++ [fp]) (hfour : fp.value.length = 4) :
    m.encode.take (m.encode.length - 8) =
      headerBytes m.typeField (sizeAll m.attrs) m.tid ++ encodeAll before := by
  have hsize : sizeAll m.attrs = sizeAll before + 8 := by
    rw [hattrs, sizeAll_append]
    simp [size_of_four hfour]
  rw [encode_take_fingerprint hattrs (size_of_four hfour), hsize]

theorem endsInFingerprint_of_last (hattrs : m.attrs = before ++ [fp])
    (ht : fp.type = STUN_ATTRIBUTE_FINGERPRINT) :
    m.EndsInFingerprint ↔ fp.value.length = 4 ∧ word32 fp.value =
      Crc32.checksum (m.encode.take (m.encode.length - 8)) ^^^ STUN_FINGERPRINT_XOR := by
  constructor
  · rintro ⟨before', fp', hattrs', -, hfour, hvalue⟩
    obtain ⟨rfl, hfp⟩ := List.append_inj' (hattrs.symm.trans hattrs') rfl
    obtain rfl := List.singleton_inj.mp hfp
    exact ⟨hfour, by rw [hvalue, take_of_last hattrs hfour]⟩
  · rintro ⟨hfour, hvalue⟩
    exact ⟨before, fp, hattrs, ht, hfour, by rw [hvalue, take_of_last hattrs hfour]⟩

/-- A message that ends in something else does not end in a fingerprint. -/
theorem not_endsInFingerprint (hattrs : m.attrs = before ++ after) (hne : after ≠ [])
    (hafter : ∀ a ∈ after, a.type ≠ STUN_ATTRIBUTE_FINGERPRINT) : ¬m.EndsInFingerprint := by
  rintro ⟨before', fp', hattrs', ht, -⟩
  obtain ⟨rest, x, rfl⟩ := List.eq_nil_or_concat' after |>.resolve_left hne
  rw [hattrs', ← List.append_assoc] at hattrs
  obtain ⟨-, hx⟩ := List.append_inj' hattrs rfl
  obtain rfl := List.singleton_inj.mp hx
  exact hafter fp' (by simp) ht

theorem HidesFingerprint.find (h : m.HidesFingerprint) :
    ∃ fp, m.find STUN_ATTRIBUTE_FINGERPRINT = some fp ∧ fp.value.length = 4 ∧ word32 fp.value =
      Crc32.checksum (m.encode.take (m.encode.length - 8)) ^^^ STUN_FINGERPRINT_XOR := by
  obtain ⟨before, fp, after, hattrs, -, ht, hafter, hvalue⟩ := h
  exact ⟨fp, lastOf_eq_some.mpr ⟨before, after, hattrs, ht, hafter⟩, hvalue⟩

theorem HidesFingerprint.not_endsInFingerprint (h : m.HidesFingerprint) :
    ¬m.EndsInFingerprint := by
  obtain ⟨before, fp, after, hattrs, hne, -, hafter, -⟩ := h
  rw [← List.singleton_append, ← List.append_assoc] at hattrs
  exact Message.not_endsInFingerprint hattrs hne hafter

/-- The fingerprint the reader finds ends the message, or is hidden in it. -/
theorem find_fingerprint_iff :
    (∃ fp, m.find STUN_ATTRIBUTE_FINGERPRINT = some fp ∧ fp.value.length = 4 ∧ word32 fp.value =
      Crc32.checksum (m.encode.take (m.encode.length - 8)) ^^^ STUN_FINGERPRINT_XOR) ↔
      m.EndsInFingerprint ∨ m.HidesFingerprint := by
  constructor
  · rintro ⟨fp, hfind, hvalue⟩
    obtain ⟨before, after, hattrs, ht, hafter⟩ := lastOf_eq_some.mp hfind
    by_cases hnil : after = []
    · rw [hnil] at hattrs
      exact Or.inl ((endsInFingerprint_of_last hattrs ht).mpr hvalue)
    · exact Or.inr ⟨before, fp, after, hattrs, hnil, ht, hafter, hvalue⟩
  · rintro (h | h)
    · obtain ⟨before, fp, hattrs, ht, -⟩ := id h
      refine ⟨fp, ?_, (endsInFingerprint_of_last hattrs ht).mp h⟩
      exact lastOf_eq_some.mpr ⟨before, [], hattrs, ht, by simp⟩
    · exact h.find

end

end Message

section

variable {D : Digests} {r : CStunMessageReader} {m : Message}

theorem CStunMessageReader.Parsed.isFingerprintAttributeValid_iff
    (hD : D.crc32 = Crc32.checksum) (h : r.Parsed m) :
    r.isFingerprintAttributeValid D = true ↔ m.EndsInFingerprint ∨ m.HidesFingerprint := by
  rw [h.isFingerprintAttributeValid_eq, ← Message.find_fingerprint_iff, hD]
  cases m.find STUN_ATTRIBUTE_FINGERPRINT with
  | none => simp
  | some fp => simp

end

/-- A Binding request with a fingerprint in front of the user name. -/
def hidingMessage : Message where
  method := StunMsgTypeBinding
  cls := .request
  tid := ⟨[0x21, 0x12, 0xa4, 0x42, 0, 0, 0, 0, 0, 0, 0, 0, 0, 0, 0, 0], rfl⟩
  attrs := [.ofValue STUN_ATTRIBUTE_FINGERPRINT [0x14, 0xb1, 0xd0, 0x79] (by decide),
    .ofValue STUN_ATTRIBUTE_USERNAME [65, 66, 67, 68] (by decide)]
  isMethod := isMethod_binding
  cls_ne := request_ne_invalid
  count_le := by decide
  value_le := by decide
  body_le := by decide

/-- The checksum of the header and the fingerprint is in the fingerprint. -/
theorem hidesFingerprint_hidingMessage : hidingMessage.HidesFingerprint := by
  refine ⟨[], _, _, rfl, by simp, rfl, ?_, rfl, by decide +kernel⟩
  intro a ha
  obtain rfl := List.mem_singleton.mp ha
  decide

/-- Digests of which only the checksum is the real one. -/
def checksumOnly : Digests where
  hmacSha1 _ _ := List.Vector.replicate 20 0
  md5 _ := List.Vector.replicate 16 0
  crc32 := Crc32.checksum

/-- A reader that holds a message takes its fingerprint to be valid exactly when the message
ends in it, except for messages that hide one. -/
theorem fingerprint_valid_iff {D : Digests} (hD : D.crc32 = Crc32.checksum)
    {r : CStunMessageReader} (hr : Reachable r) (hstate : r.getState = .bodyValidated) :
    ∃ m, r.Parsed m ∧
      ((r.isFingerprintAttributeValid D = true ↔ m.EndsInFingerprint) ↔ ¬m.HidesFingerprint) := by
  obtain ⟨m, h⟩ := hr.exists_parsed hstate
  refine ⟨m, h, ?_⟩
  rw [h.isFingerprintAttributeValid_iff hD]
  constructor
  · intro hiff hhides
    exact hhides.not_endsInFingerprint (hiff.mp (Or.inr hhides))
  · intro hnot
    exact or_iff_left hnot

/-- A reader that has been fed the message. -/
theorem fingerprint_valid_fed :
    ∃ m, (readBack hidingMessage.encode).Parsed m ∧
      (((readBack hidingMessage.encode).isFingerprintAttributeValid checksumOnly = true ↔
        m.EndsInFingerprint) ↔ ¬m.HidesFingerprint) :=
  fingerprint_valid_iff rfl (Reachable.create.fed_addBytes fed_create (by decide)).1
    (parsed_encode hidingMessage).state

/-- The reader takes the fingerprint to be valid, and a user name follows it. -/
theorem fingerprint_valid_hidden :
    (readBack hidingMessage.encode).getState = .bodyValidated ∧
      (readBack hidingMessage.encode).Parsed hidingMessage ∧
      (readBack hidingMessage.encode).isFingerprintAttributeValid checksumOnly = true ∧
      ¬hidingMessage.EndsInFingerprint := by
  have hparsed := parsed_encode hidingMessage
  have hhides := hidesFingerprint_hidingMessage
  exact ⟨hparsed.state, hparsed, (hparsed.isFingerprintAttributeValid_iff rfl).mpr (Or.inr hhides),
    hhides.not_endsInFingerprint⟩

end StunServer

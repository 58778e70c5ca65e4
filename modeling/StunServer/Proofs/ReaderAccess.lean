import StunServer.Proofs.ReaderFeed
import StunServer.Spec.Attribute

/-! What the accessors of a reader return once it holds a message, in terms of the
message. -/

namespace StunServer

open Bytes Tlv

namespace Message

/-- The last attribute of a type, with the position of its value. -/
def findAt (m : Message) (t : UInt16) : Option (ℕ × Record) :=
  (locate 20 m.attrs).reverse.find? fun p => p.2.type = t

theorem find_eq (m : Message) (t : UInt16) : m.find t = (m.findAt t).map Prod.snd := by
  rw [find, findAt, ← locate_map_snd 20 m.attrs, ← List.map_reverse, List.find?_map,
    locate_map_snd]
  rfl

theorem find_of_records {m : Message} {rs rs' : List Record} {x : Record}
    (hattrs : m.attrs = rs ++ x :: rs') (hother : ∀ y ∈ rs', y.type ≠ x.type) :
    m.find x.type = some x :=
  lastOf_eq_some.mpr ⟨rs, rs', hattrs, rfl, hother⟩

theorem mem_of_findAt {m : Message} {t : UInt16} {p : ℕ × Record} (h : m.findAt t = some p) :
    p ∈ locate 20 m.attrs ∧ p.2.type = t :=
  ⟨List.mem_reverse.mp (List.mem_of_find?_eq_some h), by simpa using List.find?_some h⟩

theorem value_end {m : Message} {p : ℕ × Record} (h : p ∈ locate 20 m.attrs) :
    24 ≤ p.1 ∧ p.1 + p.2.value.length ≤ m.encode.length := by
  have hend := locate_value_end h
  rw [m.encode_length]
  omega

theorem encode_length_le (m : Message) : m.encode.length ≤ 820 := by
  have hle := m.body_le
  rw [m.encode_length]
  omega

theorem slice_value {m : Message} {p : ℕ × Record} (h : p ∈ locate 20 m.attrs) :
    slice m.encode p.1 p.2.value.length = p.2.value := by
  have hheader : p ∈ locate (headerBytes m.typeField (sizeAll m.attrs) m.tid).length m.attrs := by
    rwa [headerBytes_length]
  have hslice : slice (_ ++ (encodeAll m.attrs ++ [])) p.1 p.2.value.length = p.2.value :=
    slice_of_mem_locate hheader
  rwa [List.append_nil] at hslice

end Message

/-- The offset and the size the reader notes fit their 16 bits. -/
theorem attribOf_toNat {m : Message} {p : ℕ × Record} (h : p ∈ locate 20 m.attrs) :
    (attribOf p).offset.toNat = p.1 ∧ (attribOf p).size.toNat = p.2.value.length := by
  have hend := Message.value_end h
  have hle := m.encode_length_le
  constructor
  · exact UInt16.toNat_ofNat_of_lt' (by show p.1 < 65536; omega)
  · exact UInt16.toNat_ofNat_of_lt' p.2.length_lt

theorem size_ne {m : Message} {p : ℕ × Record} (hp : p ∈ locate 20 m.attrs) (n : UInt16) :
    (attribOf p).size ≠ n ↔ p.2.value.length ≠ n.toNat := by
  rw [ne_eq, ← UInt16.toNat_inj, (attribOf_toNat hp).2]

theorem get_of_toList {v : List.Vector UInt8 2} {x y : UInt8} (h : v.toList = [x, y]) :
    v.get 0 = x ∧ v.get 1 = y := by
  obtain ⟨l, hl⟩ := v
  subst h
  exact ⟨rfl, rfl⟩

namespace CStunMessageReader.Parsed

variable {r : CStunMessageReader} {m : Message} (h : r.Parsed m)

include h

/-- A reader holds one message only. -/
theorem unique {m' : Message} (h' : r.Parsed m') : m = m' :=
  Message.encode_inj (h.stored.bytes.symm.trans h'.stored.bytes)

theorem lookup (t : UInt16) : r.mapAttributes.lookup t = (m.findAt t).map attribOf :=
  h.table.lookup_eq t

theorem slice_data {off n : ℕ} (hn : off + n ≤ m.encode.length) :
    slice r.stream.data off n = slice m.encode off n := by
  have hlen := h.stored.getSize
  rw [← h.stored.bytes, CDataStream.bytes_eq, hlen, slice_take hn]

theorem peek_toList {off n : ℕ} (hn : off + n ≤ m.encode.length) :
    (r.stream.peek off n).toList = slice m.encode off n := by
  rw [CDataStream.peek_toList h.stored.wf (by rwa [h.stored.bytes]), h.stored.bytes]

theorem slice_attrib {p : ℕ × Record} (hp : p ∈ locate 20 m.attrs) :
    slice r.stream.data (attribOf p).offset.toNat (attribOf p).size.toNat = p.2.value := by
  obtain ⟨ho, hs⟩ := attribOf_toNat hp
  rw [ho, hs, h.slice_data (Message.value_end hp).2, Message.slice_value hp]

theorem peek_attrib {p : ℕ × Record} (hp : p ∈ locate 20 m.attrs) {n : ℕ}
    (hn : p.2.value.length = n) :
    (r.stream.peek (attribOf p).offset.toNat n).toList = p.2.value := by
  have hend := Message.value_end hp
  rw [(attribOf_toNat hp).1, h.peek_toList (by omega), ← hn, Message.slice_value hp]

theorem getAttributeCount_eq : r.getAttributeCount = m.attrs.length := h.table.size_eq

theorem getAttributeByIndex_eq (i : ℕ) (hi : i < 2 ^ 63) :
    r.getAttributeByIndex i = match (locate 20 m.attrs)[i]? with
      | some p => .ok (attribOf p)
      | none => .error E_FAIL := by
  have hmod : ((i : Int) % 2 ^ 64).toNat = i := by omega
  rw [getAttributeByIndex, hmod, h.table.lookupValueByIndex_eq]
  cases (locate 20 m.attrs)[i]? with
  | none => rfl
  | some p => rfl

theorem getAttributeByType_eq (t : UInt16) :
    r.getAttributeByType t = match m.findAt t with
      | some p => .ok (attribOf p)
      | none => .error E_FAIL := by
  rw [getAttributeByType, h.lookup]
  cases m.findAt t with
  | none => rfl
  | some p => rfl

theorem hasMessageIntegrityAttribute_eq :
    r.hasMessageIntegrityAttribute = (m.find STUN_ATTRIBUTE_MESSAGEINTEGRITY).isSome := by
  rw [hasMessageIntegrityAttribute, h.lookup, m.find_eq, Option.isSome_map, Option.isSome_map]

/-- A lookup and what it says about the message. -/
theorem lookup_cases (t : UInt16) :
    (m.find t = none ∧ r.mapAttributes.lookup t = none) ∨
      ∃ p ∈ locate 20 m.attrs, m.find t = some p.2 ∧
        r.mapAttributes.lookup t = some (attribOf p) ∧ p.2.type = t := by
  rw [h.lookup, m.find_eq]
  cases hf : m.findAt t with
  | none => exact Or.inl ⟨rfl, rfl⟩
  | some p =>
    obtain ⟨hp, ht⟩ := Message.mem_of_findAt hf
    exact Or.inr ⟨p, hp, rfl, rfl, ht⟩

theorem getResponsePort_eq :
    r.getResponsePort = match m.find STUN_ATTRIBUTE_RESPONSE_PORT with
      | none => .error E_FAIL
      | some a => if a.value.length = 2 then .ok (word16 a.value) else .error E_UNEXPECTED := by
  unfold getResponsePort
  rcases h.lookup_cases STUN_ATTRIBUTE_RESPONSE_PORT with ⟨hf, hl⟩ | ⟨p, hp, hf, hl, -⟩
  · simp only [hf, hl]
  · simp only [hf, hl]
    by_cases hsize : p.2.value.length = 2
    · rw [if_neg (by rw [size_ne hp]; exact fun hne => hne hsize), if_pos hsize,
        h.peek_attrib hp hsize, ntohs_load16 hsize]
    · rw [if_pos ((size_ne hp STUN_ATTRIBUTE_RESPONSE_PORT_SIZE).mpr hsize), if_neg hsize]

theorem getChangeRequest_eq :
    r.getChangeRequest = match m.find STUN_ATTRIBUTE_CHANGEREQUEST with
      | none => .error E_FAIL
      | some a =>
        if a.value.length = 4 then
          .ok ⟨word32 a.value &&& 0x0004 ≠ 0, word32 a.value &&& 0x0002 ≠ 0⟩
        else .error E_UNEXPECTED := by
  unfold getChangeRequest
  rcases h.lookup_cases STUN_ATTRIBUTE_CHANGEREQUEST with ⟨hf, hl⟩ | ⟨p, hp, hf, hl, -⟩
  · simp only [hf, hl]
  · simp only [hf, hl]
    by_cases hsize : p.2.value.length = 4
    · rw [if_neg (by rw [size_ne hp]; exact fun hne => hne hsize), if_pos hsize,
        h.peek_attrib hp hsize, ntohl_load32 hsize]
    · rw [if_pos ((size_ne hp STUN_ATTRIBUTE_CHANGEREQUEST_SIZE).mpr hsize), if_neg hsize]

theorem getPaddingAttributeSize_eq :
    r.getPaddingAttributeSize = match m.find STUN_ATTRIBUTE_PADDING with
      | none => .error E_FAIL
      | some a => .ok (UInt16.ofNat a.value.length) := by
  unfold getPaddingAttributeSize
  rcases h.lookup_cases STUN_ATTRIBUTE_PADDING with ⟨hf, hl⟩ | ⟨p, hp, hf, hl, -⟩
  · simp only [hf, hl]
  · simp only [hf, hl]
    rfl

theorem getErrorCode_eq (hfour : ∀ a, m.find STUN_ATTRIBUTE_ERRORCODE = some a →
    4 ≤ a.value.length) :
    r.getErrorCode = match m.find STUN_ATTRIBUTE_ERRORCODE with
      | none => .error E_FAIL
      | some a =>
        .ok ((a.value.getD 2 0 &&& 0x07).toUInt16 * 100 + (a.value.getD 3 0).toUInt16) := by
  unfold getErrorCode
  rcases h.lookup_cases STUN_ATTRIBUTE_ERRORCODE with ⟨hf, hl⟩ | ⟨p, hp, hf, hl, -⟩
  · simp only [hf, hl]
  · have hlen := hfour p.2 hf
    have hend := Message.value_end hp
    have hptr : (r.stream.peek ((attribOf p).offset.toNat + 2) 2).toList =
        [p.2.value.getD 2 0, p.2.value.getD 3 0] := by
      rw [(attribOf_toNat hp).1, h.peek_toList (by omega), ← slice_slice (by omega : 2 + 2 ≤ _),
        Message.slice_value hp]
      match p.2.value, hlen with
      | _ :: _ :: _ :: _ :: _, _ => rfl
    obtain ⟨hcl, hnum⟩ := get_of_toList hptr
    simp only [hf, hl, hcl, hnum]

/-- The code that an error attribute was written with. -/
theorem getErrorCode_of_record {fLegacyMode : Bool} {n : UInt16} {reason : List UInt8}
    (hhigh : n.toNat ≤ 600) {hv : (CStunMessageBuilder.errorValue n reason).length + 3 < 2 ^ 16}
    (hfind : m.find STUN_ATTRIBUTE_ERRORCODE = some (CStunMessageBuilder.record fLegacyMode
      STUN_ATTRIBUTE_ERRORCODE (CStunMessageBuilder.errorValue n reason) hv)) :
    r.getErrorCode = .ok n := by
  obtain ⟨tail, htail⟩ : ∃ tail, (CStunMessageBuilder.record fLegacyMode STUN_ATTRIBUTE_ERRORCODE
      (CStunMessageBuilder.errorValue n reason) hv).value =
        0 :: 0 :: (n / 100).toUInt8 :: (n % 100).toUInt8 :: tail := by
    rw [CStunMessageBuilder.record_value]
    split_ifs
    · exact ⟨_, rfl⟩
    · exact ⟨_, rfl⟩
  have heq := h.getErrorCode_eq (by
    intro a ha
    rw [hfind, Option.some.injEq] at ha
    rw [← ha, htail]
    simp)
  rw [heq, hfind]
  dsimp only
  rw [htail]
  exact congrArg Except.ok (CStunMessageBuilder.errorNumber_digits hhigh)

theorem getAddressHelper_eq (t : UInt16) :
    r.getAddressHelper t = match m.find t with
      | none => .error E_FAIL
      | some a => StunServer.getMappedAddress a.value := by
  unfold getAddressHelper
  rcases h.lookup_cases t with ⟨hf, hl⟩ | ⟨p, hp, hf, hl, -⟩
  · simp only [hf, hl]
  · simp only [hf, hl, h.slice_attrib hp]

theorem getStringAttributeByType_eq (t : UInt16) {size : ℕ} (pszValue : List.Vector UInt8 size) :
    r.getStringAttributeByType t pszValue = match m.find t with
      | none => .error E_INVALIDARG
      | some a =>
        if size ≤ a.value.length then .error E_INVALIDARG
        else .ok (memcpy pszValue (a.value ++ [0])) := by
  unfold getStringAttributeByType
  rcases h.lookup_cases t with ⟨hf, hl⟩ | ⟨p, hp, hf, hl, -⟩
  · simp only [hf, hl]
  · simp only [hf, hl, h.slice_attrib hp]
    simp only [(attribOf_toNat hp).2, ge_iff_le]

theorem isFingerprintAttributeValid_eq (D : Digests) :
    r.isFingerprintAttributeValid D = match m.find STUN_ATTRIBUTE_FINGERPRINT with
      | none => false
      | some a =>
        decide (a.value.length = 4 ∧ word32 a.value =
          D.crc32 (m.encode.take (m.encode.length - 8)) ^^^ STUN_FINGERPRINT_XOR) := by
  unfold isFingerprintAttributeValid
  rcases h.lookup_cases STUN_ATTRIBUTE_FINGERPRINT with ⟨hf, hl⟩ | ⟨p, hp, hf, hl, ht⟩
  · simp only [hf, hl]
  · have hlen : m.encode.length ≥ 20 := by rw [m.encode_length]; omega
    have htype : (attribOf p).attributeType = STUN_ATTRIBUTE_FINGERPRINT := ht
    simp only [hf, hl, h.stored.getSize]
    rw [if_neg (not_not_intro htype)]
    by_cases hsize : p.2.value.length = 4
    · have htake : r.stream.data.take (m.encode.length - 8) =
          m.encode.take (m.encode.length - 8) :=
        h.slice_data (by omega : 0 + (m.encode.length - 8) ≤ m.encode.length)
      rw [if_neg (by rw [size_ne hp]; exact fun hne => hne hsize),
        if_neg (not_not_intro h.state), if_neg (by rw [STUN_HEADER_SIZE]; omega), htake,
        h.peek_attrib hp hsize, ntohl_load32 hsize]
      simp only [hsize, true_and]
    · rw [if_pos ((size_ne hp 4).mpr hsize)]
      simp [hsize]

end CStunMessageReader.Parsed
end StunServer

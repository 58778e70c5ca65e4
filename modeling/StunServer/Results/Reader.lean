import StunServer.Proofs.ReaderIntegrity

/-! The reader as a whole: what it accepts, what it reports, and that neither depends
on how the bytes were cut. -/

namespace StunServer

open Bytes Tlv CStunMessageReader

/-- The record at index `i` of the body of `b`, as an accessor should report it. -/
def IsAttribute (b : List UInt8) (rs : List Record) (i : ℕ) (attrib : StunAttribute) : Prop :=
  ∃ a, rs[i]? = some a ∧ attrib.attributeType = a.type ∧ attrib.size.toNat = a.value.length ∧
    attrib.offset.toNat = 20 + sizeAll (rs.take i) + 4 ∧
    attrib.offset.toNat + attrib.size.toNat ≤ b.length ∧
    slice b attrib.offset.toNat attrib.size.toNat = a.value

theorem Message.isAttribute {m : Message} {i : ℕ} {p : ℕ × Record}
    (h : (locate 20 m.attrs)[i]? = some p) : IsAttribute m.encode m.attrs i (attribOf p) := by
  have hp := List.mem_of_getElem? h
  obtain ⟨ho, hs⟩ := attribOf_toNat hp
  have hend := value_end hp
  rw [locate_getElem?] at h
  cases ha : m.attrs[i]? with
  | none => simp [ha] at h
  | some a =>
    rw [ha, Option.map_some, Option.some.injEq] at h
    subst h
    exact ⟨a, ha, rfl, hs, ho, by rw [ho, hs]; exact hend.2, by rw [ho, hs, slice_value hp]⟩

namespace CStunMessageReader

/-- An index of a C `int` that is negative converts to one beyond every table. -/
theorem Parsed.getAttributeByIndex_out {r : CStunMessageReader} {m : Message} (h : r.Parsed m)
    {index : Int} (hr : -2 ^ 31 ≤ index ∧ index < 2 ^ 31)
    (hout : index < 0 ∨ (m.attrs.length : Int) ≤ index) :
    r.getAttributeByIndex index = .error E_FAIL := by
  have hcount := m.count_le
  have hbeyond : m.attrs.length ≤ (index % 2 ^ 64).toNat := by omega
  have hnone : (locate 20 m.attrs)[(index % 2 ^ 64).toNat]? = none := by
    rw [List.getElem?_eq_none_iff, locate_length]
    exact hbeyond
  rw [getAttributeByIndex, h.table.lookupValueByIndex_eq, hnone]
  rfl

/-- The accessors report the attributes of the message. -/
theorem Parsed.accessors {r : CStunMessageReader} {m : Message} (h : r.Parsed m) :
    r.getAttributeCount = m.attrs.length ∧
    (∀ i : ℕ, i < m.attrs.length → ∃ attrib, r.getAttributeByIndex i = .ok attrib ∧
      IsAttribute m.encode m.attrs i attrib) ∧
    (∀ index : Int, -2 ^ 31 ≤ index ∧ index < 2 ^ 31 →
      (index < 0 ∨ (m.attrs.length : Int) ≤ index) →
        ∃ e, r.getAttributeByIndex index = .error e) ∧
    (∀ t attrib, r.getAttributeByType t = .ok attrib ↔
      ∃ i : ℕ, IsLast t m.attrs i ∧ r.getAttributeByIndex i = .ok attrib) ∧
    (∀ t, (∃ e, r.getAttributeByType t = .error e) ↔ ∀ a ∈ m.attrs, a.type ≠ t) := by
  have hcount := m.count_le
  have hindex : ∀ i : ℕ, i < m.attrs.length → ∃ p, (locate 20 m.attrs)[i]? = some p ∧
      r.getAttributeByIndex i = .ok (attribOf p) := by
    intro i hi
    have hlt : i < (locate 20 m.attrs).length := by rwa [locate_length]
    refine ⟨_, List.getElem?_eq_getElem hlt, ?_⟩
    rw [h.getAttributeByIndex_eq i (by omega), List.getElem?_eq_getElem hlt]
  refine ⟨h.getAttributeCount_eq, ?_, fun index hr hout => ⟨_, h.getAttributeByIndex_out hr hout⟩,
    ?_, ?_⟩
  · intro i hi
    obtain ⟨p, hp, hget⟩ := hindex i hi
    exact ⟨_, hget, Message.isAttribute hp⟩
  · intro t attrib
    rw [h.getAttributeByType_eq, Message.findAt]
    constructor
    · intro hok
      cases hf : (locate 20 m.attrs).reverse.find? fun p => p.2.type = t with
      | none => simp [hf] at hok
      | some p =>
        obtain ⟨i, hlast, hp⟩ := find_last_eq_some.mp hf
        rw [hf] at hok
        refine ⟨i, hlast, ?_⟩
        obtain ⟨before, a, after, he, hi, -⟩ := hlast
        have hlt : i < m.attrs.length := by simp [he, ← hi]
        rw [h.getAttributeByIndex_eq i (by omega), hp]
        exact hok
    · rintro ⟨i, hlast, hget⟩
      have hlt : i < m.attrs.length := by
        obtain ⟨before, a, after, he, hi, -⟩ := hlast
        simp [he, ← hi]
      obtain ⟨p, hp, hget'⟩ := hindex i hlt
      rw [find_last_eq_some.mpr ⟨i, hlast, hp⟩]
      exact hget'.symm.trans hget
  · intro t
    rw [h.getAttributeByType_eq, Message.findAt, ← find_last_eq_none 20]
    cases (locate 20 m.attrs).reverse.find? fun p => p.2.type = t with
    | none => simp
    | some p => simp

end CStunMessageReader

/-! ### What is accepted -/

/-- A fresh reader after one call with all the bytes. -/
def readBack (b : List UInt8) : CStunMessageReader :=
  (create.addBytes (some b) (UInt32.ofNat b.length)).2

theorem fed_once {b : List UInt8} (hlen : b.length < 2 ^ 32) :
    (create.addBytes (some b) (UInt32.ofNat b.length)).1 = (readBack b).getState ∧
      Fed true (readBack b) b := by
  cases b with
  | nil => exact ⟨rfl, fed_create⟩
  | cons x b => exact addBytes_fed fed_create (by simp) hlen

/-- One call on a fresh reader accepts the messages of the grammar, reports their
attributes, and tells a message that is not complete from one that is wrong. -/
theorem addBytes_accepts_grammar (b : List UInt8) (hlen : b.length < 2 ^ 32) :
    (create.addBytes (some b) (UInt32.ofNat b.length)).1 = (readBack b).getState ∧
    ((readBack b).getState = .bodyValidated ↔ Accepted true b) ∧
    ((readBack b).getState = .bodyValidated → ∀ rs, b.drop 20 = encodeAll rs →
      (readBack b).getAttributeCount = rs.length ∧
      (∀ i : ℕ, i < rs.length → ∃ attrib, (readBack b).getAttributeByIndex i = .ok attrib ∧
        IsAttribute b rs i attrib) ∧
      (∀ index : Int, -2 ^ 31 ≤ index ∧ index < 2 ^ 31 →
        (index < 0 ∨ (rs.length : Int) ≤ index) →
          ∃ e, (readBack b).getAttributeByIndex index = .error e) ∧
      (∀ t attrib, (readBack b).getAttributeByType t = .ok attrib ↔
        ∃ i : ℕ, IsLast t rs i ∧ (readBack b).getAttributeByIndex i = .ok attrib) ∧
      (∀ t, (∃ e, (readBack b).getAttributeByType t = .error e) ↔ ∀ a ∈ rs, a.type ≠ t)) ∧
    ((readBack b).getState = .headerNotRead ↔ b.length < 20) ∧
    ((readBack b).getState = .headerValidated ↔
      HeaderOk true b ∧ b.length < 20 + (lengthFieldOf b).toNat) ∧
    ((readBack b).getState = .parseError ↔
      ¬Accepted true b ∧ ¬b.length < 20 ∧
        ¬(HeaderOk true b ∧ b.length < 20 + (lengthFieldOf b).toNat)) := by
  obtain ⟨hret, hfed⟩ := fed_once hlen
  obtain ⟨hbody, hnot, hheader, herror⟩ := hfed.state_iff
  refine ⟨hret, hbody, ?_, hnot, hheader, herror.trans ?_⟩
  · intro hstate rs hrs
    obtain ⟨m, rfl, -, hparsed⟩ := hfed.parsed hstate
    obtain rfl : m.attrs = rs := encodeAll_inj (m.drop_encode.symm.trans hrs)
    exact hparsed.accessors
  · constructor
    · rintro ⟨hlong, hshort, hacc⟩
      exact ⟨hacc, by omega, hshort⟩
    · rintro ⟨hacc, hlong, hshort⟩
      exact ⟨by omega, hshort, hacc⟩

/-- A realm of one byte between two user names, of which the first has padding that is not
zero. -/
def repeatedUser : Message where
  method := StunMsgTypeBinding
  cls := .request
  tid := List.Vector.replicate 16 7
  attrs :=
    [⟨STUN_ATTRIBUTE_USERNAME, [97, 108, 105, 99, 101], [1, 2, 3], by decide, by decide⟩,
      Record.ofValue STUN_ATTRIBUTE_REALM [120] (by decide),
      Record.ofValue STUN_ATTRIBUTE_USERNAME [98, 111, 98] (by decide)]
  isMethod := by decide
  cls_ne := by decide
  count_le := by decide
  value_le := by decide
  body_le := by decide

/-- Its attributes are found where they are, the user name in the last of its two places. -/
theorem addBytes_accepts_grammar_repeated :
    let r := readBack repeatedUser.encode
    r.getState = .bodyValidated ∧ r.getAttributeCount = 3 ∧
      r.getAttributeByIndex 0 = .ok ⟨STUN_ATTRIBUTE_USERNAME, 5, 24⟩ ∧
      r.getAttributeByIndex 1 = .ok ⟨STUN_ATTRIBUTE_REALM, 1, 36⟩ ∧
      r.getAttributeByType STUN_ATTRIBUTE_USERNAME = .ok ⟨STUN_ATTRIBUTE_USERNAME, 3, 44⟩ ∧
      (∃ e, r.getAttributeByIndex (-1) = .error e) ∧
      ∃ e, r.getAttributeByType STUN_ATTRIBUTE_NONCE = .error e := by
  have hlen := repeatedUser.encode_length_le
  obtain ⟨-, haccepts, hreports, -⟩ := addBytes_accepts_grammar repeatedUser.encode (by omega)
  have hstate := haccepts.mpr repeatedUser.accepted
  obtain ⟨hcount, hindex, hout, htype, hnone⟩ := hreports hstate _ repeatedUser.drop_encode
  have hget : ∀ (i : ℕ) (a : Record) (size offset : UInt16), repeatedUser.attrs[i]? = some a →
      a.value.length = size.toNat →
      20 + sizeAll (repeatedUser.attrs.take i) + 4 = offset.toNat →
      (readBack repeatedUser.encode).getAttributeByIndex i = .ok ⟨a.type, size, offset⟩ := by
    intro i a size offset ha hsize hoffset
    obtain ⟨⟨t, n, o⟩, hok, a', ha', ht, hn, ho, -⟩ :=
      hindex i (List.getElem?_eq_some_iff.mp ha).1
    obtain rfl := Option.some.inj (ha.symm.trans ha')
    obtain rfl : t = a.type := ht
    obtain rfl : n = size := UInt16.toNat_inj.mp (hn.trans hsize)
    obtain rfl : o = offset := UInt16.toNat_inj.mp (ho.trans hoffset)
    exact hok
  have hlast := hget 2 _ 3 44 rfl rfl rfl
  have hbob : IsLast STUN_ATTRIBUTE_USERNAME repeatedUser.attrs 2 :=
    ⟨repeatedUser.attrs.take 2, _, [], rfl, rfl, rfl, by simp⟩
  exact ⟨hstate, hcount, hget 0 _ 5 24 rfl rfl rfl, hget 1 _ 1 36 rfl rfl rfl,
    (htype _ _).mpr ⟨2, hbob, hlast⟩, hout (-1) (by decide) (Or.inl (by decide)),
    (hnone _).mpr (by decide)⟩

/-- A fresh reader fed the encoding of a message holds that message. -/
theorem parsed_encode (m : Message) : (readBack m.encode).Parsed m := by
  have hle := m.encode_length_le
  obtain ⟨-, hfed⟩ := fed_once (b := m.encode) (by omega)
  obtain ⟨m', hm', -, hparsed⟩ := hfed.parsed (hfed.state_iff.1.mpr m.accepted)
  obtain rfl : m' = m := Message.encode_inj hm'
  exact hparsed

/-! ### How the bytes were cut -/

/-- What a caller can see of a message is the same in both readers. -/
structure SameMessage (r r' : CStunMessageReader) : Prop where
  type : r.getMessageType = r'.getMessageType
  cls : r.getMessageClass = r'.getMessageClass
  tid : r.getTransactionId = r'.getTransactionId
  legacy : r.isMessageLegacyFormat = r'.isMessageLegacyFormat
  count : r.getAttributeCount = r'.getAttributeCount
  byIndex : ∀ index, r.getAttributeByIndex index = r'.getAttributeByIndex index
  byType : ∀ t, r.getAttributeByType t = r'.getAttributeByType t
  strings : ∀ (t : UInt16) {size : ℕ} (mem : List.Vector UInt8 size),
    r.getStringAttributeByType t mem = r'.getStringAttributeByType t mem
  addresses : ∀ t, r.getAddressHelper t = r'.getAddressHelper t
  responsePort : r.getResponsePort = r'.getResponsePort
  changeRequest : r.getChangeRequest = r'.getChangeRequest
  padding : r.getPaddingAttributeSize = r'.getPaddingAttributeSize
  fingerprint : ∀ D, r.isFingerprintAttributeValid D = r'.isFingerprintAttributeValid D
  integrity : ∀ D key,
    r.validateMessageIntegrity D key = .ok () ↔ r'.validateMessageIntegrity D key = .ok ()

/-- A message determines what its reader shows. -/
theorem sameMessage_of_parsed {r r' : CStunMessageReader} {m : Message} (h : r.Parsed m)
    (h' : r'.Parsed m) : SameMessage r r' where
  type := h.type.trans h'.type.symm
  cls := h.cls.trans h'.cls.symm
  tid := h.tid.trans h'.tid.symm
  legacy := h.legacy.trans h'.legacy.symm
  count := by rw [h.getAttributeCount_eq, h'.getAttributeCount_eq]
  byIndex index := by
    rw [getAttributeByIndex, getAttributeByIndex, h.table.lookupValueByIndex_eq,
      h'.table.lookupValueByIndex_eq]
  byType t := by rw [h.getAttributeByType_eq, h'.getAttributeByType_eq]
  strings t _ mem := by rw [h.getStringAttributeByType_eq, h'.getStringAttributeByType_eq]
  addresses t := by rw [h.getAddressHelper_eq, h'.getAddressHelper_eq]
  responsePort := by rw [h.getResponsePort_eq, h'.getResponsePort_eq]
  changeRequest := by rw [h.getChangeRequest_eq, h'.getChangeRequest_eq]
  padding := by rw [h.getPaddingAttributeSize_eq, h'.getPaddingAttributeSize_eq]
  fingerprint D := by rw [h.isFingerprintAttributeValid_eq, h'.isFingerprintAttributeValid_eq]
  integrity D key := by rw [h.validateMessageIntegrity_iff, h'.validateMessageIntegrity_iff]

/-- Feeding chunks leaves the reader where feeding all of it at once does. -/
theorem feed_chunks_eq_once (chunks : List (List UInt8)) (hne : ∀ c ∈ chunks, c ≠ [])
    (hlen : chunks.flatten.length < 2 ^ 32) :
    (create.feed chunks).getState = (readBack chunks.flatten).getState ∧
      ((readBack chunks.flatten).getState = .bodyValidated →
        SameMessage (create.feed chunks) (readBack chunks.flatten)) := by
  have hc : ∀ c ∈ chunks, c ≠ [] ∧ c.length < 2 ^ 32 := fun c hmem =>
    ⟨hne c hmem, Nat.lt_of_le_of_lt (List.sublist_flatten_of_mem hmem).length_le hlen⟩
  have hfed := feed_fed fed_create hc
  rw [List.nil_append] at hfed
  obtain ⟨-, hfed'⟩ := fed_once hlen
  refine ⟨hfed.state_unique hfed', fun hstate => ?_⟩
  obtain ⟨m', hm', -, hparsed'⟩ := hfed'.parsed hstate
  obtain ⟨m, hm, -, hparsed⟩ := hfed.parsed ((hfed.state_unique hfed').trans hstate)
  obtain rfl : m = m' := Message.encode_inj (hm.trans hm'.symm)
  exact sameMessage_of_parsed hparsed hparsed'

/-- A header cut in two. -/
theorem feed_chunks_eq_once_cut :
    (create.feed [List.replicate 7 0, List.replicate 13 0]).getState =
      (readBack [List.replicate 7 0, List.replicate 13 0].flatten).getState :=
  (feed_chunks_eq_once [List.replicate 7 0, List.replicate 13 0] (by simp) (by decide)).1

end StunServer

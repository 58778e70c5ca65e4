import StunServer.Results.Reader
import StunServer.Proofs.Builder

/-! Builder and reader are inverse on whole messages, and what the builder signs the
reader verifies. -/

namespace StunServer

open Bytes Tlv

namespace CStunMessageBuilder

/-- `AddAttribute` for each pair of a type and a value. -/
def addAttributes (attrs : List (UInt16 × List UInt8)) : Hr CStunMessageBuilder Unit :=
  attrs.forM fun p => addAttribute p.1 (some p.2) (UInt16.ofNat p.2.length)

/-- The padded size of the attributes, their headers included. -/
def paddedTotal (attrs : List (UInt16 × List UInt8)) : ℕ :=
  (attrs.map fun p => 4 + p.2.length + padLen p.2.length).sum

/-- The record that `AddAttribute` leaves for a pair, if its size fits the field. -/
def recordOf (fLegacyMode : Bool) (p : UInt16 × List UInt8) : Record :=
  if h : p.2.length + 3 < 2 ^ 16 then record fLegacyMode p.1 p.2 h
  else Record.ofValue p.1 [] (by decide)

section

variable {fLegacyMode : Bool} {attrs : List (UInt16 × List UInt8)}

theorem recordOf_eq {p : UInt16 × List UInt8} (hp : p.2.length ≤ 780) :
    recordOf fLegacyMode p = record fLegacyMode p.1 p.2 (by omega) := dif_pos (by omega)

theorem writes_addAttributes (b : CStunMessageBuilder) (hv : ∀ p ∈ attrs, p.2.length ≤ 780) :
    Writes (addAttributes attrs) b (encodeAll (attrs.map (recordOf b.fLegacyMode))) := by
  induction attrs generalizing b with
  | nil => exact Writes.nil b
  | cons p attrs ih =>
    have hp := hv p (by simp)
    have hn : (UInt16.ofNat p.2.length).toNat = p.2.length :=
      UInt16.toNat_ofNat_of_lt' (by show _ < 65536; omega)
    rw [List.map_cons, encodeAll_cons, recordOf_eq hp]
    refine (writes_addAttribute b p.1 (by omega) hn).bind fun b' _ hmode => ?_
    rw [← hmode]
    exact ih b' fun q hq => hv q (by simp [hq])

theorem sizeAll_recordOf (hv : ∀ p ∈ attrs, p.2.length ≤ 780) :
    sizeAll (attrs.map (recordOf fLegacyMode)) = paddedTotal attrs := by
  induction attrs with
  | nil => rfl
  | cons p attrs ih =>
    rw [List.map_cons, sizeAll_cons, recordOf_eq (hv p (by simp)), record_size,
      ih fun q hq => hv q (by simp [hq])]
    rfl

theorem recordOf_type (p : UInt16 × List UInt8) : (recordOf fLegacyMode p).type = p.1 := by
  unfold recordOf
  split_ifs
  · exact record_type _ _ _
  · rfl

theorem recordOf_value {p : UInt16 × List UInt8} (hp : p.2.length ≤ 780) :
    (recordOf false p).value = p.2 := by
  rw [recordOf_eq hp, record_value]
  rfl

/-- A padded value is within the limit of the reader as well. -/
theorem recordOf_value_le {p : UInt16 × List UInt8} (hp : p.2.length ≤ 780) :
    (recordOf fLegacyMode p).value.length ≤ 780 := by
  rw [recordOf_eq hp, record_value]
  split_ifs
  · rw [List.length_append, List.length_replicate, padLen]
    omega
  · exact hp

end

/-- A header, a transaction id and attributes. -/
def draftMessage (msgType : UInt16) (msgClass : StunMessageClass) (tid : StunTransactionId)
    (attrs : List (UInt16 × List UInt8)) : Hr CStunMessageBuilder Unit := do
  addHeader msgType msgClass
  addTransactionId tid
  addAttributes attrs

/-- The attributes end up behind the header, on a builder just created or attached to a buffer. -/
theorem drafts_message {b : CStunMessageBuilder} (h : b.stream.AtEnd []) (msgType : UInt16)
    (msgClass : StunMessageClass) (tid : StunTransactionId) {attrs : List (UInt16 × List UInt8)}
    (hv : ∀ p ∈ attrs, p.2.length ≤ 780) :
    ∃ b', draftMessage msgType msgClass tid attrs b = .ok () b' ∧
      b'.Drafts (mergeType msgType msgClass) 0 (attrs.map (recordOf b.fLegacyMode)) ∧
      b'.transactionid = tid ∧ b'.fLegacyMode = b.fLegacyMode := by
  obtain ⟨b₁, he₁, hat₁, hmode₁, -⟩ := addHeader_ok h msgType msgClass
  obtain ⟨b₂, he₂, hd₂, htid₂, hmode₂, -⟩ := addTransactionId_ok hat₁ tid
  obtain ⟨b₃, he₃, hd₃, htid₃, hmode₃, -⟩ := hd₂.writes (writes_addAttributes b₂ hv)
  have hmode : b₂.fLegacyMode = b.fLegacyMode := hmode₂.trans hmode₁
  rw [List.nil_append, hmode] at hd₃
  refine ⟨b₃, ?_, hd₃, htid₃.trans htid₂, hmode₃.trans hmode⟩
  rw [draftMessage, Hr.bind_ok he₁, Hr.bind_ok he₂]
  exact he₃

/-- A draft within the limits is a message, and the result is its encoding. -/
theorem Drafts.result {b : CStunMessageBuilder} {m : Message} {n : ℕ}
    (h : b.Drafts m.typeField n m.attrs) (htid : b.transactionid = m.tid) :
    ∃ buf b', CStunMessageBuilder.getResult b = .ok (some buf) b' ∧ buf.bytes = m.encode := by
  obtain ⟨b', he, hd, htid', -⟩ := h.getResult
  obtain ⟨buf, hbuf, hbytes⟩ := hd.bytes
  rw [hbuf] at he
  refine ⟨buf, b', he, ?_⟩
  rw [hbytes, htid', htid]
  rfl

end CStunMessageBuilder

open CStunMessageBuilder

/-- The limits of a message, for the attributes it is built from. -/
def messageOf (fLegacyMode : Bool) {msgType : UInt16} (ht : IsMethod msgType)
    {msgClass : StunMessageClass} (hc : msgClass ≠ .invalidMessageClass) (tid : StunTransactionId)
    {attrs : List (UInt16 × List UInt8)} (hcount : attrs.length ≤ 30)
    (hv : ∀ p ∈ attrs, p.2.length ≤ 780) (htotal : paddedTotal attrs ≤ 800) : Message where
  method := msgType
  cls := msgClass
  tid := tid
  attrs := attrs.map (recordOf fLegacyMode)
  isMethod := ht
  cls_ne := hc
  count_le := by rwa [List.length_map]
  value_le := by
    intro a ha
    obtain ⟨p, hp, rfl⟩ := List.mem_map.mp ha
    exact recordOf_value_le (hv p hp)
  body_le := by rwa [sizeAll_recordOf hv]

/-- What is built from a list of attributes is read back as that list. -/
theorem build_then_read (msgType : UInt16) (ht : IsMethod msgType) (msgClass : StunMessageClass)
    (hc : msgClass ≠ .invalidMessageClass) (tid : StunTransactionId)
    (attrs : List (UInt16 × List UInt8)) (hcount : attrs.length ≤ 30)
    (hv : ∀ p ∈ attrs, p.2.length ≤ 780) (htotal : paddedTotal attrs ≤ 800) :
    ∃ buf b', (do draftMessage msgType msgClass tid attrs; getResult) create =
        .ok (some buf) b' ∧
      let r := readBack buf.bytes
      r.getState = .bodyValidated ∧ r.getMessageType = msgType ∧ r.getMessageClass = msgClass ∧
        r.getTransactionId = tid ∧ r.getAttributeCount = attrs.length ∧
        ∀ (i : ℕ) (t : UInt16) (v : List UInt8), attrs[i]? = some (t, v) →
          ∃ attrib, r.getAttributeByIndex i = .ok attrib ∧ attrib.attributeType = t ∧
            attrib.size.toNat = v.length ∧
            slice r.stream.data attrib.offset.toNat attrib.size.toNat = v := by
  obtain ⟨b₁, he₁, hd₁, htid₁, -⟩ := drafts_message (b := create) CDataStream.atEnd_create msgType
    msgClass tid hv
  set m := messageOf false ht hc tid hcount hv htotal with hm
  obtain ⟨buf, b₂, he₂, hbytes⟩ := Drafts.result (m := m) hd₁ htid₁
  have hparsed : (readBack buf.bytes).Parsed m := hbytes ▸ parsed_encode m
  obtain ⟨hn, hindex, -⟩ := hparsed.accessors
  have hlen : m.attrs.length = attrs.length := List.length_map _
  refine ⟨buf, b₂, (Hr.bind_ok he₁).trans he₂, hparsed.state, hparsed.type, hparsed.cls,
    hparsed.tid, hn.trans hlen, ?_⟩
  intro i t v hi
  obtain ⟨hlt, -⟩ := List.getElem?_eq_some_iff.mp hi
  obtain ⟨attrib, hget, a, ha, htype, hsize, -, hend, hslice⟩ := hindex i (by omega)
  have hrecord : a = recordOf false (t, v) := by
    have hmap : m.attrs[i]? = some (recordOf false (t, v)) := by
      change (attrs.map (recordOf false))[i]? = _
      rw [List.getElem?_map, hi]
      rfl
    exact Option.some.inj (ha.symm.trans hmap)
  have hmem : (t, v) ∈ attrs := List.mem_of_getElem? hi
  have hvalue : a.value = v := by
    rw [hrecord]
    exact recordOf_value (hv _ hmem)
  refine ⟨attrib, hget, ?_, ?_, ?_⟩
  · rw [htype, hrecord, recordOf_type]
  · rw [hsize, hvalue]
  · rw [hparsed.slice_data hend, hslice, hvalue]

/-! ### Building what was read -/

/-- `AddAttribute` with what the reader reports at an index. -/
def copyAttribute (r : CStunMessageReader) (i : ℕ) : Hr CStunMessageBuilder Unit :=
  match r.getAttributeByIndex i with
  | .ok attrib =>
    addAttribute attrib.attributeType
      (some (slice r.stream.data attrib.offset.toNat attrib.size.toNat)) attrib.size
  | .error hr => throw hr

/-- Copy what a reader reports, in index order. -/
def rebuild (r : CStunMessageReader) : Hr CStunMessageBuilder (Option CBuffer) := do
  addHeader r.getMessageType r.getMessageClass
  addTransactionId r.getTransactionId
  (List.range' 0 r.getAttributeCount).forM (copyAttribute r)
  getResult

theorem writes_copyAttribute {r : CStunMessageReader} {m : Message} (h : r.Parsed m) {i : ℕ}
    {a : Record} (hi : m.attrs[i]? = some a) (hz : a.ZeroPadded) (b : CStunMessageBuilder)
    (hmode : b.fLegacyMode = false) : Writes (copyAttribute r i) b a.encode := by
  obtain ⟨hlt, -⟩ := List.getElem?_eq_some_iff.mp hi
  obtain ⟨-, hindex, -⟩ := h.accessors
  obtain ⟨attrib, hget, a', ha, htype, hsize, -, hend, hslice⟩ := hindex i hlt
  obtain rfl : a = a' := Option.some.inj (hi.symm.trans ha)
  have hle := m.value_le a (List.mem_of_getElem? hi)
  have hw := writes_addAttribute b a.type (v := a.value) (by omega) hsize
  have hrecord : record b.fLegacyMode a.type a.value (by omega) = a := by
    rw [hmode]
    exact Record.ofValue_of_zeroPadded hz
  rw [hrecord] at hw
  simp only [copyAttribute, hget]
  rwa [htype, h.slice_data hend, hslice]

theorem writes_copyAttributes {r : CStunMessageReader} {m : Message} (h : r.Parsed m)
    (hz : ∀ a ∈ m.attrs, a.ZeroPadded) {k : ℕ} {rs : List Record} (hk : m.attrs.drop k = rs)
    (b : CStunMessageBuilder) (hmode : b.fLegacyMode = false) :
    Writes ((List.range' k rs.length).forM (copyAttribute r)) b (encodeAll rs) := by
  induction rs generalizing k b with
  | nil => exact Writes.nil b
  | cons a rs ih =>
    have hi : m.attrs[k]? = some a := by
      rw [← Nat.add_zero k, ← List.getElem?_drop, hk]
      rfl
    have hrest : m.attrs.drop (k + 1) = rs := by
      rw [← List.drop_drop, hk]
      rfl
    rw [List.length_cons, List.range'_succ, encodeAll_cons]
    exact (writes_copyAttribute h hi (hz a (List.mem_of_getElem? hi)) b hmode).bind
      fun b' _ hm => ih hrest b' (hm.trans hmode)

/-- What a reader reports of a message with zero padding builds the same bytes. -/
theorem read_then_rebuild (b : List UInt8) (hlen : b.length < 2 ^ 32)
    (hstate : (readBack b).getState = .bodyValidated)
    (hz : ∀ rs, b.drop 20 = encodeAll rs → ∀ a ∈ rs, a.ZeroPadded) :
    ∃ buf b', rebuild (readBack b) create = .ok (some buf) b' ∧ buf.bytes = b := by
  obtain ⟨-, hfed⟩ := fed_once hlen
  obtain ⟨m, rfl, -, hparsed⟩ := hfed.parsed hstate
  obtain ⟨b₁, he₁, hat₁, hmode₁, -⟩ :=
    addHeader_ok (b := create) CDataStream.atEnd_create m.method m.cls
  obtain ⟨b₂, he₂, hd₂, htid₂, hmode₂, -⟩ := addTransactionId_ok hat₁ m.tid
  obtain ⟨b₃, he₃, hd₃, htid₃, -⟩ := hd₂.writes (writes_copyAttributes hparsed
    (hz _ m.drop_encode) (List.drop_zero (l := m.attrs)) b₂ (hmode₂.trans hmode₁))
  obtain ⟨buf, b₄, he₄, hbytes⟩ := Drafts.result (m := m) hd₃ (htid₃.trans htid₂)
  refine ⟨buf, b₄, ?_, hbytes⟩
  have htype : (readBack m.encode).getMessageType = m.method := hparsed.type
  have hcls : (readBack m.encode).getMessageClass = m.cls := hparsed.cls
  have htid : (readBack m.encode).getTransactionId = m.tid := hparsed.tid
  have hcount : (readBack m.encode).getAttributeCount = m.attrs.length :=
    hparsed.getAttributeCount_eq
  rw [rebuild, htype, hcls, htid, hcount, Hr.bind_ok he₁, Hr.bind_ok he₂]
  exact (Hr.bind_ok he₃).trans he₄

/-- Builder and reader are inverse to each other. -/
theorem builder_reader_inverse :
    (∀ (msgType : UInt16) (msgClass : StunMessageClass) (tid : StunTransactionId)
        (attrs : List (UInt16 × List UInt8)), IsMethod msgType →
      msgClass ≠ .invalidMessageClass → attrs.length ≤ 30 →
      (∀ p ∈ attrs, p.2.length ≤ 780) → paddedTotal attrs ≤ 800 →
      ∃ buf b', (do draftMessage msgType msgClass tid attrs; getResult) create =
          .ok (some buf) b' ∧
        let r := readBack buf.bytes
        r.getState = .bodyValidated ∧ r.getMessageType = msgType ∧ r.getMessageClass = msgClass ∧
          r.getTransactionId = tid ∧ r.getAttributeCount = attrs.length ∧
          ∀ (i : ℕ) (t : UInt16) (v : List UInt8), attrs[i]? = some (t, v) →
            ∃ attrib, r.getAttributeByIndex i = .ok attrib ∧ attrib.attributeType = t ∧
              attrib.size.toNat = v.length ∧
              slice r.stream.data attrib.offset.toNat attrib.size.toNat = v) ∧
    (∀ b : List UInt8, b.length < 2 ^ 32 → (readBack b).getState = .bodyValidated →
      (∀ rs, b.drop 20 = encodeAll rs → ∀ a ∈ rs, a.ZeroPadded) →
      ∃ buf b', rebuild (readBack b) create = .ok (some buf) b' ∧ buf.bytes = b) :=
  ⟨fun msgType msgClass tid attrs ht hc hcount hv htotal =>
    build_then_read msgType ht msgClass hc tid attrs hcount hv htotal, read_then_rebuild⟩

/-- A Binding request with a text of five bytes, and a message without a body copied. -/
theorem builder_reader_inverse_text :
    (∃ buf b', (do
        draftMessage StunMsgTypeBinding .request (List.Vector.replicate 16 7)
          [(STUN_ATTRIBUTE_USERNAME, [97, 108, 105, 99, 101])]
        getResult) create = .ok (some buf) b' ∧
      (readBack buf.bytes).getState = .bodyValidated) ∧
    ∃ buf b', rebuild (readBack (headerBytes 1 0 (List.Vector.replicate 16 7))) create =
      .ok (some buf) b' ∧ buf.bytes = headerBytes 1 0 (List.Vector.replicate 16 7) := by
  constructor
  · obtain ⟨buf, b', he, hstate, -⟩ := builder_reader_inverse.1 StunMsgTypeBinding .request
      (List.Vector.replicate 16 7) [(STUN_ATTRIBUTE_USERNAME, [97, 108, 105, 99, 101])]
      (by decide) (by decide) (by decide) (by decide) (by decide)
    exact ⟨buf, b', he, hstate⟩
  · let m : Message := messageOf false (by decide : IsMethod 1)
      (by decide : StunMessageClass.request ≠ .invalidMessageClass) (List.Vector.replicate 16 7)
      (by decide : ([] : List (UInt16 × List UInt8)).length ≤ 30) (by simp) (by decide)
    have hm : m.encode = headerBytes 1 0 (List.Vector.replicate 16 7) := by
      have htype : m.typeField = 1 := by
        change mergeType 1 .request = 1
        decide
      rw [Message.encode, htype]
      exact List.append_nil _
    refine builder_reader_inverse.2 _ (by rw [headerBytes_length]; decide) ?_ ?_
    · rw [← hm]
      exact (parsed_encode m).state
    · intro rs hrs a ha
      rw [← hm, m.drop_encode] at hrs
      have hnil : rs = [] := (encodeAll_inj hrs).symm
      simp [hnil] at ha

end StunServer

import StunServer.Lib.Tlv
import StunServer.Spec.TypeField

/-! The messages the program exchanges, apart from how it stores them: a method, a
class, a transaction id and a list of attributes within the limits of the reader. Its
fields carry the limits, so every message is one that can be sent and read. -/

namespace StunServer

open Bytes Tlv

structure Message where
  method : UInt16
  cls : StunMessageClass
  tid : StunTransactionId
  attrs : List Record
  isMethod : IsMethod method
  cls_ne : cls ≠ .invalidMessageClass
  count_le : attrs.length ≤ 30
  value_le : ∀ a ∈ attrs, a.value.length ≤ 780
  body_le : sizeAll attrs ≤ 800

/-- A message header for a body of `length` bytes. -/
def headerBytes (typeField : UInt16) (length : ℕ) (tid : StunTransactionId) : List UInt8 :=
  be16 typeField ++ (be16 (UInt16.ofNat length) ++ tid.toList)

@[simp] theorem headerBytes_length (typeField : UInt16) (length : ℕ) (tid : StunTransactionId) :
    (headerBytes typeField length tid).length = 20 := by
  simp [headerBytes]

namespace Message

def typeField (m : Message) : UInt16 := CStunMessageBuilder.mergeType m.method m.cls

def encode (m : Message) : List UInt8 :=
  headerBytes m.typeField (sizeAll m.attrs) m.tid ++ encodeAll m.attrs

/-- The first four bytes of the transaction id are not the cookie. -/
def isLegacy (m : Message) : Bool := !(word32 (m.tid.toList.take 4) = STUN_COOKIE)

/-- The attribute of a type is the last one, as for the reader. -/
def find (m : Message) (t : UInt16) : Option Record := m.attrs.reverse.find? fun a => a.type = t

@[simp] theorem encode_length (m : Message) : m.encode.length = 20 + sizeAll m.attrs := by
  rw [encode, List.length_append, headerBytes_length, encodeAll_length]

end Message

/-! ### Fields of a header in a byte string -/

def typeFieldOf (b : List UInt8) : UInt16 := word16 (slice b 0 2)

def lengthFieldOf (b : List UInt8) : UInt16 := word16 (slice b 2 2)

theorem typeFieldOf_header (t : UInt16) (n : ℕ) (tid : StunTransactionId) (rest : List UInt8) :
    typeFieldOf (headerBytes t n tid ++ rest) = t := by
  have h : slice (headerBytes t n tid ++ rest) 0 2 = be16 t := by
    rw [headerBytes, List.append_assoc]
    exact (slice_of_append rfl (be16_length t).symm : slice ([] ++ (_ ++ _)) 0 2 = _)
  rw [typeFieldOf, h, word16_be16]

theorem lengthFieldOf_header (t : UInt16) {n : ℕ} (hn : n < 2 ^ 16) (tid : StunTransactionId)
    (rest : List UInt8) : (lengthFieldOf (headerBytes t n tid ++ rest)).toNat = n := by
  have h : slice (headerBytes t n tid ++ rest) 2 2 = be16 (UInt16.ofNat n) := by
    rw [headerBytes, List.append_assoc, List.append_assoc]
    exact slice_of_append (be16_length t).symm (be16_length _).symm
  rw [lengthFieldOf, h, word16_be16, UInt16.toNat_ofNat_of_lt' hn]

theorem tid_header (t : UInt16) (n : ℕ) (tid : StunTransactionId) (rest : List UInt8) :
    slice (headerBytes t n tid ++ rest) 4 16 = tid.toList := by
  have h : headerBytes t n tid ++ rest =
      (be16 t ++ be16 (UInt16.ofNat n)) ++ (tid.toList ++ rest) := by
    simp only [headerBytes, List.append_assoc]
  rw [h]
  exact slice_of_append (by simp) tid.toList_length.symm

/-- Any twenty bytes are a header. -/
theorem header_of_bytes {b : List UInt8} (h : 20 ≤ b.length) {tid : StunTransactionId}
    (ht : tid.toList = slice b 4 16) :
    b = headerBytes (typeFieldOf b) (lengthFieldOf b).toNat tid ++ b.drop 20 := by
  have h0 : (slice b 0 2).length = 2 := slice_length (by omega)
  have h2 : (slice b 2 2).length = 2 := slice_length (by omega)
  rw [headerBytes, typeFieldOf, lengthFieldOf, UInt16.ofNat_toNat, be16_word16 h0,
    be16_word16 h2, ht, List.append_assoc, List.append_assoc, ← drop_eq_slice_append b 4 16,
    ← drop_eq_slice_append b 2 2, ← drop_eq_slice_append b 0 2, List.drop_zero]

namespace Message

theorem body_lt (m : Message) : sizeAll m.attrs < 2 ^ 16 := by
  have h := m.body_le
  omega

@[simp] theorem typeFieldOf_encode (m : Message) : typeFieldOf m.encode = m.typeField :=
  typeFieldOf_header _ _ _ _

@[simp] theorem lengthFieldOf_encode (m : Message) :
    (lengthFieldOf m.encode).toNat = sizeAll m.attrs :=
  lengthFieldOf_header _ m.body_lt _ _

theorem tid_encode (m : Message) : slice m.encode 4 16 = m.tid.toList := tid_header _ _ _ _

theorem drop_encode (m : Message) : m.encode.drop 20 = encodeAll m.attrs :=
  List.drop_left' (headerBytes_length _ _ _)

/-- The type field determines method and class. -/
theorem typeField_inj {m m' : Message} (ht : m.typeField = m'.typeField) :
    m.method = m'.method ∧ m.cls = m'.cls := by
  constructor
  · rw [← normalizeType_mergeType m.isMethod m.cls, ← normalizeType_mergeType m'.isMethod m'.cls]
    exact congrArg CStunMessageReader.normalizeType ht
  · rw [← classOfType_mergeType m.method m.cls_ne, ← classOfType_mergeType m'.method m'.cls_ne]
    exact congrArg CStunMessageReader.classOfType ht

/-- A byte string is the encoding of at most one message. -/
theorem encode_inj {m m' : Message} (h : m.encode = m'.encode) : m = m' := by
  have ht := congrArg typeFieldOf h
  have hid := congrArg (fun b => slice b 4 16) h
  have hb := congrArg (fun b => b.drop 20) h
  simp only [typeFieldOf_encode, tid_encode, drop_encode] at ht hid hb
  obtain ⟨hm, hc⟩ := typeField_inj ht
  have htid : m.tid = m'.tid := List.Vector.toList_injective hid
  have ha := encodeAll_inj hb
  cases m
  cases m'
  simp_all

end Message

/-! ### The grammar on bytes -/

/-- A header the reader goes on with; without legacy support the cookie is required. -/
structure HeaderOk (fAllowLegacyFormat : Bool) (b : List UInt8) : Prop where
  complete : 20 ≤ b.length
  high : typeFieldOf b &&& 0xc000 = 0
  aligned : (lengthFieldOf b).toNat % 4 = 0
  length_le : (lengthFieldOf b).toNat ≤ 800
  cookie : fAllowLegacyFormat = true ∨ word32 (slice b 4 4) = STUN_COOKIE

/-- The body is a sequence of attributes within the limits. -/
def BodyOk (b : List UInt8) : Prop :=
  ∃ rs : List Record, b.drop 20 = encodeAll rs ∧ (∀ a ∈ rs, a.value.length ≤ 780) ∧
    rs.length ≤ 30

/-- A header, a body of the length it announces and nothing else. -/
structure Accepted (fAllowLegacyFormat : Bool) (b : List UInt8) : Prop where
  header : HeaderOk fAllowLegacyFormat b
  length_eq : b.length = 20 + (lengthFieldOf b).toNat
  body : BodyOk b

theorem Message.accepted (m : Message) : Accepted true m.encode where
  header :=
    { complete := by rw [m.encode_length]; omega
      high := by rw [m.typeFieldOf_encode]; exact mergeType_high _ _
      aligned := by rw [m.lengthFieldOf_encode]; exact sizeAll_mod _
      length_le := by rw [m.lengthFieldOf_encode]; exact m.body_le
      cookie := Or.inl rfl }
  length_eq := by rw [m.encode_length, m.lengthFieldOf_encode]
  body := ⟨m.attrs, m.drop_encode, m.value_le, m.count_le⟩

/-- The accepted byte strings are the encodings of messages. -/
theorem Accepted.exists_message {fAllow : Bool} {b : List UInt8} (h : Accepted fAllow b) :
    ∃ m : Message, m.encode = b := by
  obtain ⟨rs, hb, hv, hc⟩ := h.body
  have hlen := h.length_eq
  have hle := h.header.length_le
  have hsize : sizeAll rs = (lengthFieldOf b).toNat := by
    rw [← encodeAll_length, ← hb, List.length_drop]
    omega
  let tid : StunTransactionId := ⟨slice b 4 16, slice_length (by omega)⟩
  refine ⟨⟨CStunMessageReader.normalizeType (typeFieldOf b),
    CStunMessageReader.classOfType (typeFieldOf b), tid, rs, normalizeType_isMethod _,
    classOfType_ne_invalid _, hc, hv, by omega⟩, ?_⟩
  have hf := mergeType_normalizeType h.header.high
  change headerBytes (CStunMessageBuilder.mergeType _ _) (sizeAll rs) tid ++ encodeAll rs = b
  rw [hf, hsize, ← hb]
  exact (header_of_bytes h.header.complete rfl).symm

end StunServer

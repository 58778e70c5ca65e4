import StunServer.Proofs.LengthField
import StunServer.Results.Integrity

/-! What the length field says after `FixLengthField` and `GetResult`. -/

namespace StunServer

open Bytes CStunMessageBuilder

/-- The length field is the size behind the header, all else is as it was. -/
structure LengthFixed (b b' : CStunMessageBuilder) : Prop where
  size_eq : b'.stream.getSize = b.stream.getSize
  header_le : STUN_HEADER_SIZE ≤ b.stream.getSize
  length_eq : (lengthFieldOf b'.stream.bytes).toNat = b.stream.getSize - STUN_HEADER_SIZE
  others : ∀ i, i ≠ 2 → i ≠ 3 → b'.stream.bytes[i]? = b.stream.bytes[i]?
  position : b'.stream.getPos = b.stream.getPos

theorem fixLengthField_short {b b' : CStunMessageBuilder} (h : fixLengthField b = .ok () b') :
    STUN_HEADER_SIZE ≤ b.stream.getSize := by
  by_contra hlt
  rw [fixLengthField, Hr.bind_ok (Hr.get_apply b), Hr.bind_ok (Hr.get_apply b),
    Hr.bind_error (Hr.chkIf_true (Nat.lt_of_not_le hlt) _ b)] at h
  cases h

/-- The 16 bits of the field are all that can be wrong. -/
theorem lengthFixed_iff_of_sane {b b' : CStunMessageBuilder} (hs : b.Sane)
    (h : fixLengthField b = .ok () b') :
    LengthFixed b b' ↔ b.stream.getSize < STUN_HEADER_SIZE + 2 ^ 16 := by
  have hheader := fixLengthField_short h
  have hlen := hs.wf.bytes_length
  have hsize : STUN_HEADER_SIZE ≤ b.stream.bytes.length := by rwa [hlen]
  have hfit : 2 + (be16 (UInt16.ofNat (b.stream.bytes.length - STUN_HEADER_SIZE))).length ≤
      b.stream.bytes.length := by
    rw [be16_length]
    rw [STUN_HEADER_SIZE] at hsize
    omega
  obtain ⟨s, he, hw, hbytes, -⟩ := fixLengthField_ok hs.wf hs.grows hsize
  obtain rfl : b' = b.withStream (s.moveTo b.stream.pos) := by
    rw [he] at h
    cases h
    rfl
  have hfield : (lengthFieldOf s.bytes).toNat =
      (b.stream.getSize - STUN_HEADER_SIZE) % 2 ^ 16 := by
    have hslice : slice (overwrite b.stream.bytes 2 (be16 (UInt16.ofNat
        (b.stream.bytes.length - STUN_HEADER_SIZE)))) 2 _ = _ := slice_overwrite (by omega)
    rw [be16_length] at hslice
    rw [lengthFieldOf, hbytes, hslice, word16_be16, hlen, UInt16.toNat_ofNat']
  constructor
  · intro hfixed
    have hexact := hfixed.length_eq
    change (lengthFieldOf s.bytes).toNat = _ at hexact
    rw [hfield] at hexact
    omega
  · intro hlt
    refine ⟨?_, hheader, ?_, ?_, rfl⟩
    · change s.getSize = b.stream.getSize
      rw [← hw.bytes_length, hbytes, overwrite_length hfit, hlen]
    · change (lengthFieldOf s.bytes).toNat = _
      rw [hfield]
      exact Nat.mod_eq_of_lt (by omega)
    · intro i h2 h3
      change s.bytes[i]? = _
      rw [hbytes]
      rcases Nat.lt_or_ge i 2 with hlow | hhigh
      · exact getElem?_overwrite_of_lt (by omega) hlow
      · exact getElem?_overwrite_of_ge hfit (by rw [be16_length]; omega)

theorem getResult_ok {b b' : CStunMessageBuilder} {spBuffer : Option CBuffer}
    (h : getResult b = .ok spBuffer b') :
    fixLengthField b = .ok () b' ∧ spBuffer = b'.stream.pBuffer := by
  unfold getResult at h
  cases he : fixLengthField b with
  | ok u b'' =>
    rw [Hr.bind_ok he, Hr.bind_ok (Hr.get_apply b'')] at h
    cases h
    exact ⟨rfl, rfl⟩
  | error e b'' =>
    rw [Hr.bind_error he] at h
    cases h

/-- Whatever was called before, a length field that is set is right as long as no more than
65535 bytes follow the header. -/
theorem length_field_iff (D : Digests) (calls : List BuilderCall) :
    let b := create.afterBuilding D calls
    (∀ b', fixLengthField b = .ok () b' →
      (LengthFixed b b' ↔ b.stream.getSize < STUN_HEADER_SIZE + 2 ^ 16)) ∧
    ∀ spBuffer b', getResult b = .ok spBuffer b' →
      (LengthFixed b b' ∧ spBuffer = b'.stream.pBuffer ↔
        b.stream.getSize < STUN_HEADER_SIZE + 2 ^ 16) := by
  intro b
  have hs : b.Sane := sane_afterBuilding D sane_create calls
  refine ⟨fun b' h => lengthFixed_iff_of_sane hs h, fun spBuffer b' h => ?_⟩
  obtain ⟨hfix, hbuf⟩ := getResult_ok h
  rw [lengthFixed_iff_of_sane hs hfix]
  exact and_iff_left hbuf

/-- Attributes behind a header, as a run of builder calls. -/
theorem afterBuilding_started (D : Digests) (fLegacyMode : Bool) (msgType : UInt16)
    (msgClass : StunMessageClass) (transid : StunTransactionId) (calls : List AttributeCall) :
    create.afterBuilding D (.setLegacyMode fLegacyMode :: .header msgType msgClass ::
        .transactionId transid :: calls.map .addedAttribute) =
      (started none fLegacyMode msgType msgClass transid).afterAttributes calls := by
  rw [afterBuilding, List.foldl_cons, List.foldl_cons, List.foldl_cons, List.foldl_map]
  rfl

/-- A header alone. -/
theorem length_field_header : ∃ b',
    let b := create.afterBuilding sampleDigests [.setLegacyMode true,
      .header StunMsgTypeBinding .request, .transactionId (List.Vector.replicate 16 7)]
    fixLengthField b = .ok () b' ∧ LengthFixed b b' := by
  have hrun := afterBuilding_started sampleDigests true StunMsgTypeBinding .request
    (List.Vector.replicate 16 7) []
  rw [List.map_nil] at hrun
  obtain ⟨hd, -, -⟩ := drafts_started none true StunMsgTypeBinding .request
    (List.Vector.replicate 16 7)
  have hiff := (length_field_iff sampleDigests [.setLegacyMode true,
    .header StunMsgTypeBinding .request, .transactionId (List.Vector.replicate 16 7)]).1
  generalize create.afterBuilding sampleDigests [.setLegacyMode true,
    .header StunMsgTypeBinding .request, .transactionId (List.Vector.replicate 16 7)] = b
    at hrun hiff ⊢
  generalize started none true StunMsgTypeBinding .request (List.Vector.replicate 16 7) = b₀
    at hrun hd
  obtain rfl : b = b₀ := hrun
  obtain ⟨b', hfix, -⟩ := hd.fixLengthField
  refine ⟨b', hfix, (hiff b' hfix).mpr ?_⟩
  rw [← hd.atEnd.wf.bytes_length, hd.atEnd.bytes, Tlv.encodeAll_nil, List.append_nil,
    headerBytes_length]
  decide

theorem fixLengthField_of_padding {b : CStunMessageBuilder} {pre : List UInt8}
    (hat : b.stream.AtEnd pre) (hpre : pre.length = STUN_HEADER_SIZE) :
    ∃ b', fixLengthField (b.afterAttributes [.paddingAttribute 65532]) = .ok () b' ∧
      ¬LengthFixed (b.afterAttributes [.paddingAttribute 65532]) b' := by
  obtain ⟨b₁, he, hg⟩ := writes_addPaddingAttribute b 65532 ⟨pre, hat⟩
  have hrounded : (roundedSize 65532).toNat = 65532 := by decide
  have hafter : b.afterAttributes [.paddingAttribute 65532] = b₁ := (Hr.after_ok he).1
  have hat₁ := hg.atEnd pre hat
  have hlen : b₁.stream.bytes.length = STUN_HEADER_SIZE + 2 ^ 16 := by
    rw [hat₁.bytes, List.length_append, hpre]
    simp only [List.length_append, be16_length, List.length_replicate, hrounded]
    rfl
  rw [hafter]
  obtain ⟨s, hfix, -⟩ := fixLengthField_ok hat₁.wf hat₁.grow (by
    rw [hlen, STUN_HEADER_SIZE]
    exact Nat.le_add_right _ _)
  refine ⟨_, hfix, fun h => ?_⟩
  have hlt := (lengthFixed_iff_of_sane ⟨hat₁.wf, hat₁.grow⟩ hfix).mp h
  rw [← hat₁.wf.bytes_length, hlen] at hlt
  exact absurd hlt (Nat.lt_irrefl _)

/-- A padding of 65532 bytes makes a body of 65536, of which the field says nothing. -/
theorem length_field_large_padding : ∃ b',
    let b := create.afterBuilding sampleDigests [.setLegacyMode false,
      .header StunMsgTypeBinding .request, .transactionId (List.Vector.replicate 16 7),
      .addedAttribute (.paddingAttribute 65532)]
    fixLengthField b = .ok () b' ∧ ¬LengthFixed b b' := by
  obtain ⟨hd, -, -⟩ := drafts_started none false StunMsgTypeBinding .request
    (List.Vector.replicate 16 7)
  have hrun := afterBuilding_started sampleDigests false StunMsgTypeBinding .request
    (List.Vector.replicate 16 7) [.paddingAttribute 65532]
  obtain ⟨b', hfix⟩ := fixLengthField_of_padding hd.atEnd (by
    rw [Tlv.encodeAll_nil, List.append_nil, headerBytes_length]
    rfl)
  rw [← hrun] at hfix
  exact ⟨b', hfix⟩

end StunServer

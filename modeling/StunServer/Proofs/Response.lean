import StunServer.Proofs.Builder
import StunServer.Spec.Reply

/-! The handler's two sequences of calls on a builder, and the message each of them
leaves in the caller's buffer. -/

namespace StunServer.CStunMessageBuilder

open Bytes Tlv

/-- A message with the records `rs`, which take up `k` bytes at most, in a buffer of
`cap` bytes. -/
structure Composes (typeField : UInt16) (tid : StunTransactionId) (fLegacyMode : Bool)
    (cap k : ℕ) (rs : List Record) (b : CStunMessageBuilder) : Prop where
  drafts : ∃ n, b.Drafts typeField n rs
  tid : b.transactionid = tid
  mode : b.fLegacyMode = fLegacyMode
  inPlace : b.stream.InPlace cap
  size : sizeAll rs ≤ k

section

variable {typeField : UInt16} {tid : StunTransactionId} {fLegacyMode : Bool} {cap k : ℕ}
  {rs rs' : List Record} {b : CStunMessageBuilder} {op : Hr CStunMessageBuilder Unit}

/-- A header and a transaction id on a buffer just attached. -/
theorem ensures_addHeader (hat : b.stream.AtEnd []) (hin : b.stream.InPlace cap)
    (hcap : 800 ≤ cap) (msgType : UInt16) (msgClass : StunMessageClass) :
    Hr.Ensures (addHeader msgType msgClass) b fun b' =>
      b'.stream.AtEnd (be16 (mergeType msgType msgClass) ++ be16 0) ∧
        b'.fLegacyMode = b.fLegacyMode ∧ b'.stream.InPlace cap := by
  obtain ⟨b', he, hat', hmode, hstays⟩ := addHeader_ok hat msgType msgClass
  exact ⟨b', he, hat', hmode, hstays cap hin (by omega)⟩

theorem ensures_addTransactionId (hat : b.stream.AtEnd (be16 typeField ++ be16 0))
    (hin : b.stream.InPlace cap) (hcap : 800 ≤ cap) (tid : StunTransactionId) :
    Hr.Ensures (addTransactionId tid) b (Composes typeField tid b.fLegacyMode cap 0 []) := by
  obtain ⟨b', he, hd, htid, hmode, hstays⟩ := addTransactionId_ok hat tid
  exact ⟨b', he, ⟨0, hd⟩, htid, hmode, hstays cap hin (by omega), Nat.le_refl _⟩

/-- Nothing is written, and the bound grows. -/
theorem Composes.skip (h : b.Composes typeField tid fLegacyMode cap k rs) (k' : ℕ) :
    b.Composes typeField tid fLegacyMode cap (k + k') (rs ++ []) := by
  rw [List.append_nil]
  exact ⟨h.drafts, h.tid, h.mode, h.inPlace, h.size.trans (Nat.le_add_right _ _)⟩

/-- A writer adds its records. -/
theorem Composes.writes {k' n : ℕ} (h : b.Composes typeField tid fLegacyMode cap k rs)
    (hw : Writes op b (encodeAll rs')) (hs : Small rs' n k') (hcap : 20 + (k + k') ≤ cap) :
    Hr.Ensures op b (Composes typeField tid fLegacyMode cap (k + k') (rs ++ rs')) := by
  obtain ⟨n, hd⟩ := h.drafts
  obtain ⟨b', he, hd', htid, hmode, hstays⟩ := hd.writes hw
  have hsize : sizeAll (rs ++ rs') ≤ k + k' := by
    rw [sizeAll_append]
    exact Nat.add_le_add h.size hs.size_le
  exact ⟨b', he, ⟨n, hd'⟩, htid.trans h.tid, hmode.trans h.mode,
    hstays cap h.inPlace (by omega), hsize⟩

/-- One call of several that is made only under a condition. -/
theorem Composes.writesIf {k' n : ℕ} {c : Prop} [Decidable c] {r : Record}
    (h : b.Composes typeField tid fLegacyMode cap k rs) (hw : Writes op b (encodeAll [r]))
    (hs : Small [r] n k') (hcap : 20 + (k + k') ≤ cap) :
    Hr.Ensures (Hr.when c (Hr.ignore op)) b
      (Composes typeField tid fLegacyMode cap (k + k') (rs ++ if c then [r] else [])) := by
  refine Hr.Ensures.when (fun hc => ?_) fun hc => ?_
  · rw [if_pos hc]
    exact (h.writes hw hs hcap).ignore
  · rw [if_neg hc]
    exact h.skip k'

theorem Composes.writes_record (h : b.Composes typeField tid fLegacyMode cap k rs) {t : UInt16}
    {v : List UInt8} {hv : v.length + 3 < 2 ^ 16}
    (hw : Writes op b (record b.fLegacyMode t v hv).encode) :
    Writes op b (encodeAll [record fLegacyMode t v hv]) := by
  rw [encodeAll_cons, encodeAll_nil, List.append_nil, ← h.mode]
  exact hw

/-- The address writers differ in the attribute they write. -/
theorem Composes.writes_address (h : b.Composes typeField tid fLegacyMode cap k rs) (t : UInt16)
    (addr : CSocketAddress) :
    Writes (addMappedAddressImpl t addr) b (encodeAll [addressRecord fLegacyMode t addr]) :=
  h.writes_record (writes_addMappedAddressImpl b t addr)

theorem Composes.writes_responseOrigin (h : b.Composes typeField tid fLegacyMode cap k rs)
    (addr : CSocketAddress) :
    Writes (addResponseOriginAddress addr) b (encodeAll [addressRecord fLegacyMode
      (if fLegacyMode then STUN_ATTRIBUTE_SOURCEADDRESS else STUN_ATTRIBUTE_RESPONSE_ORIGIN)
      addr]) := by
  refine Writes.get ?_
  rw [h.mode]
  exact h.writes_address _ addr

theorem Composes.writes_other (h : b.Composes typeField tid fLegacyMode cap k rs)
    (addr : CSocketAddress) :
    Writes (addOtherAddress addr) b (encodeAll [addressRecord fLegacyMode
      (if fLegacyMode then STUN_ATTRIBUTE_CHANGEDADDRESS else STUN_ATTRIBUTE_OTHER_ADDRESS)
      addr]) := by
  refine Writes.get ?_
  rw [h.mode]
  exact h.writes_address _ addr

theorem Composes.writes_xorMapped (h : b.Composes typeField tid fLegacyMode cap k rs)
    (addr : CSocketAddress) :
    Writes (addXorMappedAddress addr) b (encodeAll [addressRecord fLegacyMode
      (if fLegacyMode then STUN_ATTRIBUTE_XORMAPPEDADDRESS_OPTIONAL
        else STUN_ATTRIBUTE_XORMAPPEDADDRESS) (addr.applyStunXorMap tid)]) := by
  refine Writes.get ?_
  rw [h.mode, h.tid]
  exact h.writes_address _ _

theorem Composes.fixLengthField (h : b.Composes typeField tid fLegacyMode cap k rs) :
    Hr.Ensures CStunMessageBuilder.fixLengthField b fun b' =>
      b'.Drafts typeField (sizeAll rs) rs ∧ b'.transactionid = tid ∧ b'.stream.InPlace cap := by
  obtain ⟨n, hd⟩ := h.drafts
  obtain ⟨b', he, hd', htid, -, hin⟩ := hd.fixLengthField
  exact ⟨b', he, hd', htid.trans h.tid, hin cap h.inPlace⟩

/-- The hash over what has been written. -/
theorem Composes.addMessageIntegrityImpl (D : Digests)
    (h : b.Composes typeField tid fLegacyMode cap k rs) {key : List UInt8} (hk : key ≠ [])
    (hcap : 20 + (k + 24) ≤ cap) :
    Hr.Ensures (addMessageIntegrityImpl D key) b
      (Composes typeField tid fLegacyMode cap (k + 24)
        (rs ++ [integrityRecord (D.hmacSha1 key (integrityText typeField tid rs))])) := by
  obtain ⟨n, hd⟩ := h.drafts
  obtain ⟨b', he, hd', htid, hmode, hstays⟩ := hd.addMessageIntegrityImpl D hk
  have hle := h.size
  rw [h.tid] at hd' htid
  refine ⟨b', he, ⟨_, hd'⟩, htid, hmode.trans h.mode, hstays cap h.inPlace (by omega), ?_⟩
  simp only [sizeAll_append, sizeAll_cons, sizeAll_nil, integrityRecord_size]
  omega

/-- A string is written unless it is empty. -/
theorem Composes.writesText (h : b.Composes typeField tid fLegacyMode cap k rs) (t : UInt16)
    {s : AuthString} {text : AuthText} (hs : cstr s.toList = text.text)
    (hcap : 20 + (k + 68) ≤ cap) :
    Hr.Ensures (Hr.when (s.head ≠ 0) (Hr.ignore (addStringAttribute t s.toList))) b
      (Composes typeField tid fLegacyMode cap (k + 68)
        (rs ++ textRecords fLegacyMode t text)) := by
  have hhead : s.head ≠ 0 ↔ text.text ≠ [] := by
    rw [← hs]
    exact (cstr_ne_nil s).symm
  have hlen := text.length_le
  refine Hr.Ensures.when (fun hc => ?_) fun hc => ?_
  · have hne : text.text ≠ [] := hhead.mp hc
    have hw : Writes (addStringAttribute t s.toList) b
        (record b.fLegacyMode t text.text (by omega)).encode := by
      have hw' : Writes (addStringAttribute t s.toList) b _ :=
        writes_addStringAttribute b t (by rwa [hs]) (by rw [hs]; omega)
      simp only [hs] at hw'
      exact hw'
    have hsmall : Small (textRecords fLegacyMode t text) 1 68 := small_textRecords t text
    rw [textRecords, if_neg hne] at hsmall ⊢
    exact (h.writes (h.writes_record hw) hsmall hcap).ignore
  · have hnil : text.text = [] := not_not.mp fun hne => hc (hhead.mpr hne)
    rw [textRecords, if_pos hnil]
    exact h.skip 68

end

end StunServer.CStunMessageBuilder

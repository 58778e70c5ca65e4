import StunServer.Proofs.BuilderCall

/-! Whatever is called on a builder, its stream stays in order, so that the length field
can be set at any time. -/

namespace StunServer

open Bytes Hr

namespace CDataStream

/-- A stream in order that may grow. -/
structure Sane (s : CDataStream) : Prop where
  wf : s.Wf
  grows : s.fNoGrow = false

theorem sane_create : create.Sane := ⟨wf_create, rfl⟩

theorem sane_attach (s : CDataStream) (buf : CBuffer) : (s.attach buf true).Sane :=
  ⟨wf_attach s buf, rfl⟩

theorem keeps_grow (n : ℕ) : Keeps Sane (grow n) := by
  intro s h
  obtain ⟨s', he, hw, -, -, hg, -⟩ := grow_ok h.wf h.grows n
  rw [(after_ok he).1]
  exact ⟨hw, hg⟩

/-- No matter how many bytes there are behind the data pointer. -/
theorem keeps_write (data : Option (List UInt8)) (n : ℕ) : Keeps Sane (write data n) := by
  intro s h
  by_cases hnull : n = 0 ∨ data = none
  · rw [(after_error (write_null data hnull)).1]
    exact h
  obtain ⟨s', he, hw, hbytes, hpos, hg, halloc, -⟩ := grow_ok h.wf h.grows (n + s.pos)
  have hsize : s'.getSize = s.getSize := by
    rw [← hw.bytes_length, hbytes, h.wf.bytes_length]
  have hold := hw.size_le
  rw [write, after, bind_ok (get_apply s), bind_ok (chkIf_false hnull _ s), bind_ok he,
    bind_ok (get_apply s'), set_apply]
  dsimp only
  obtain ⟨buf, hbuf⟩ : ∃ buf, s'.pBuffer = some buf := by
    cases hb : s'.pBuffer with
    | none =>
      rw [getAllocatedSize, hb] at halloc
      simp only [Option.elim_none] at halloc
      omega
    | some buf => exact ⟨buf, rfl⟩
  have hal : buf.data.length = s'.getAllocatedSize := by
    rw [getAllocatedSize, hbuf]
    rfl
  have hsz : buf.size = s'.getSize := by
    rw [getSize, hbuf]
    rfl
  have hcopied : ((data.getD []).take n).length ≤ n := by
    rw [List.length_take]
    exact Nat.min_le_left _ _
  have hlen : (overwrite buf.data s'.pos ((data.getD []).take n)).length = buf.data.length :=
    overwrite_length (by omega)
  rw [hbuf, Option.getD_some]
  refine ⟨?_, hg⟩
  split_ifs with hlong
  · refine ⟨?_, ?_⟩
    · simp [getSize, CBuffer.getSize]
    · simp only [getSize, getAllocatedSize, CBuffer.setSize_snd, Option.elim_some,
        CBuffer.getSize, CBuffer.getAllocatedSize, poke, hlen]
      omega
  · refine ⟨?_, ?_⟩
    · simp only [getSize, Option.elim_some, CBuffer.getSize, poke]
      omega
    · simp only [getSize, getAllocatedSize, Option.elim_some, CBuffer.getSize,
        CBuffer.getAllocatedSize, poke, hlen]
      omega

theorem keeps_seekDirect (p : ℕ) : Keeps Sane (seekDirect p) := by
  unfold seekDirect
  refine keeps_get_bind fun s h => ?_
  split_ifs with hp
  · exact keeps_set ⟨⟨hp, h.wf.size_le⟩, h.grows⟩
  · exact fun _ h => h

theorem keeps_seekRelative (offset : Int) : Keeps Sane (seekRelative offset) := by
  unfold seekRelative
  exact keeps_get_bind fun _ _ => keeps_seekDirect _

end CDataStream

namespace CStunMessageBuilder

def Sane (b : CStunMessageBuilder) : Prop := b.stream.Sane

theorem sane_create : create.Sane := CDataStream.sane_create

theorem keeps_onStream {α : Type} {m : Hr CDataStream α} (h : Keeps CDataStream.Sane m) :
    Keeps Sane (onStream m) := by
  intro b hb
  rw [onStream, after_on]
  exact h b.stream hb

theorem keeps_write (data : List UInt8) : Keeps Sane (write data) :=
  keeps_onStream (CDataStream.keeps_write _ _)

theorem keeps_writeUint8 (val : UInt8) : Keeps Sane (writeUint8 val) :=
  keeps_onStream (CDataStream.keeps_write _ _)

theorem keeps_writeUint16 (val : UInt16) : Keeps Sane (writeUint16 val) :=
  keeps_onStream (CDataStream.keeps_write _ _)

theorem keeps_addAttributeHeader (t n : UInt16) : Keeps Sane (addAttributeHeader t n) :=
  keeps_bind (keeps_writeUint16 _) fun _ => keeps_writeUint16 _

theorem keeps_writePadding (n : ℕ) : Keeps Sane (writePadding n) := by
  unfold writePadding
  split_ifs
  · exact keeps_write _
  · exact keeps_pure ()

theorem keeps_addHeader (msgType : UInt16) (msgClass : StunMessageClass) :
    Keeps Sane (addHeader msgType msgClass) :=
  keeps_bind (keeps_onStream (CDataStream.keeps_grow 200)) fun _ =>
    keeps_bind (keeps_writeUint16 _) fun _ => keeps_writeUint16 _

theorem keeps_addTransactionId (transid : StunTransactionId) :
    Keeps Sane (addTransactionId transid) :=
  keeps_bind (keeps_modify fun _ h => h) fun _ => keeps_write _

/-! ### The attribute writers -/

theorem keeps_addAttribute (t : UInt16) (data : Option (List UInt8)) (n : UInt16) :
    Keeps Sane (addAttribute t data n) := by
  unfold addAttribute
  refine keeps_get_bind fun _ _ => keeps_bind (keeps_addAttributeHeader _ _) fun _ => ?_
  generalize (if data = none then 0 else n) = size
  split_ifs
  · exact keeps_bind (keeps_onStream (CDataStream.keeps_write _ _)) fun _ => keeps_writePadding _
  · exact keeps_bind (keeps_pure ()) fun _ => keeps_writePadding _

theorem keeps_addStringAttribute (t : UInt16) (pstr : List UInt8) :
    Keeps Sane (addStringAttribute t pstr) :=
  keeps_bind (keeps_chkIf _ _) fun _ => keeps_addAttribute _ _ _

theorem keeps_addErrorCode (n : UInt16) (pszReason : List UInt8) :
    Keeps Sane (addErrorCode n pszReason) := by
  unfold addErrorCode
  refine keeps_bind (keeps_chkIf _ _) fun _ => keeps_bind (keeps_chkIf _ _) fun _ =>
    keeps_bind (keeps_chkIf _ _) fun _ => keeps_get_bind fun _ _ =>
    keeps_bind (keeps_addAttributeHeader _ _) fun _ => keeps_bind (keeps_writeUint16 _) fun _ =>
    keeps_bind (keeps_writeUint8 _) fun _ => keeps_bind (keeps_writeUint8 _) fun _ => ?_
  split_ifs
  · exact keeps_bind (keeps_ignore (keeps_write _)) fun _ => keeps_writePadding _
  · exact keeps_bind (keeps_pure ()) fun _ => keeps_writePadding _

theorem keeps_addUnknownAttributes (arr : List UInt16) : Keeps Sane (addUnknownAttributes arr) := by
  unfold addUnknownAttributes
  refine keeps_bind (keeps_chkIf _ _) fun _ => keeps_get_bind fun _ _ =>
    keeps_bind (keeps_addAttributeHeader _ _) fun _ =>
    keeps_bind (keeps_onStream (CDataStream.keeps_write _ _)) fun _ => ?_
  split_ifs
  · exact keeps_ignore (keeps_write _)
  · exact keeps_pure ()

theorem keeps_writePaddingBlocks (fuel : ℕ) (n : UInt16) :
    Keeps Sane (writePaddingBlocks fuel n) := by
  induction fuel generalizing n with
  | zero => exact keeps_pure ()
  | succ fuel ih =>
    unfold writePaddingBlocks
    by_cases hpos : n > 0
    · rw [if_pos hpos]
      exact keeps_bind (keeps_write _) fun _ => ih _
    · rw [if_neg hpos]
      exact keeps_pure ()

theorem keeps_addMappedAddressImpl (t : UInt16) (addr : CSocketAddress) :
    Keeps Sane (addMappedAddressImpl t addr) :=
  keeps_bind (keeps_addAttributeHeader _ _) fun _ => keeps_bind (keeps_writeUint8 _) fun _ =>
    keeps_bind (keeps_writeUint8 _) fun _ => keeps_bind (keeps_writeUint16 _) fun _ =>
      keeps_write _

theorem AttributeCall.keeps_run (call : AttributeCall) : Keeps Sane call.run := by
  cases call with
  | plainAttribute t data n readable => exact keeps_addAttribute t data n
  | stringAttribute t pstr => exact keeps_addStringAttribute t pstr
  | errorCode n pszReason => exact keeps_addErrorCode n pszReason
  | unknownAttributes arr => exact keeps_addUnknownAttributes arr
  | mappedAddress addr => exact keeps_addMappedAddressImpl _ addr
  | xorMappedAddress addr => exact keeps_get_bind fun _ _ => keeps_addMappedAddressImpl _ _
  | responseOriginAddress addr => exact keeps_get_bind fun _ _ => keeps_addMappedAddressImpl _ addr
  | otherAddress addr => exact keeps_get_bind fun _ _ => keeps_addMappedAddressImpl _ addr
  | responsePort port => exact keeps_addAttribute _ _ _
  | paddingAttribute n =>
    exact keeps_bind (keeps_addAttributeHeader _ _) fun _ => keeps_writePaddingBlocks _ _
  | changeRequest changeAttrib => exact keeps_addAttribute _ _ _

/-! ### The other calls -/

theorem keeps_fixLengthField : Keeps Sane fixLengthField := by
  unfold fixLengthField
  exact keeps_get_bind fun _ _ => keeps_get_bind fun _ _ => keeps_bind (keeps_chkIf _ _) fun _ =>
    keeps_bind (keeps_onStream (CDataStream.keeps_seekDirect _)) fun _ =>
    keeps_bind (keeps_writeUint16 _) fun _ => keeps_onStream (CDataStream.keeps_seekDirect _)

theorem keeps_getResult : Keeps Sane getResult :=
  keeps_bind keeps_fixLengthField fun _ => keeps_get_bind fun _ _ => keeps_pure _

theorem keeps_addFingerprintAttribute (D : Digests) : Keeps Sane (addFingerprintAttribute D) := by
  unfold addFingerprintAttribute
  exact keeps_bind (keeps_writeUint16 _) fun _ => keeps_bind (keeps_writeUint16 _) fun _ =>
    keeps_bind (keeps_onStream (CDataStream.keeps_write _ _)) fun _ =>
    keeps_bind keeps_fixLengthField fun _ => keeps_get_bind fun _ _ =>
    keeps_bind (keeps_onStream (CDataStream.keeps_seekRelative _)) fun _ =>
    keeps_onStream (CDataStream.keeps_write _ _)

theorem keeps_storeInBuffer (pos : ℕ) (bytes : List UInt8) :
    Keeps Sane (storeInBuffer pos bytes) := by
  refine keeps_modify fun b h => ⟨⟨?_, ?_⟩, h.grows⟩
  · have hpos := h.wf.pos_le
    unfold CDataStream.getSize at hpos ⊢
    cases hb : b.stream.pBuffer with
    | none =>
      rw [hb] at hpos
      exact hpos
    | some buf =>
      rw [hb] at hpos
      exact hpos
  · have hsize := h.wf.size_le
    unfold CDataStream.getSize CDataStream.getAllocatedSize at hsize ⊢
    cases hb : b.stream.pBuffer with
    | none => exact Nat.le_refl _
    | some buf =>
      rw [hb] at hsize
      exact Nat.le_trans hsize (length_le_overwrite _ _ _)

theorem keeps_addMessageIntegrityImpl (D : Digests) (key : List UInt8) :
    Keeps Sane (addMessageIntegrityImpl D key) := by
  unfold addMessageIntegrityImpl
  exact keeps_bind (keeps_chkIf _ _) fun _ => keeps_bind (keeps_addAttribute _ _ _) fun _ =>
    keeps_bind keeps_fixLengthField fun _ => keeps_get_bind fun _ _ => keeps_storeInBuffer _ _

theorem BuilderCall.keeps_run (D : Digests) (call : BuilderCall) : Keeps Sane (call.run D) := by
  cases call with
  | setLegacyMode fLegacyMode => exact keeps_modify fun _ h => h
  | attach buf => exact keeps_modify fun b _ => CDataStream.sane_attach b.stream buf
  | header msgType msgClass => exact keeps_addHeader msgType msgClass
  | transactionId transid => exact keeps_addTransactionId transid
  | randomTransactionId entropy => exact keeps_addTransactionId _
  | attributeHeader t n => exact keeps_addAttributeHeader t n
  | addedAttribute call => exact call.keeps_run
  | fingerprint => exact keeps_addFingerprintAttribute D
  | integrityShortTerm pszPassword => exact keeps_addMessageIntegrityImpl D _
  | integrityLongTerm pszUserName pszRealm pszPassword =>
    exact keeps_bind (keeps_chkIf _ _) fun _ => keeps_addMessageIntegrityImpl D _
  | lengthField => exact keeps_fixLengthField
  | result => exact keeps_ignore keeps_getResult

theorem sane_afterBuilding (D : Digests) {b : CStunMessageBuilder} (h : b.Sane)
    (calls : List BuilderCall) : (b.afterBuilding D calls).Sane := by
  induction calls generalizing b with
  | nil => exact h
  | cons call calls ih => exact ih (call.keeps_run D b h)

end CStunMessageBuilder
end StunServer

import StunServer.Proofs.DataStream
import StunServer.Spec.Attribute

/-! The builder appends. Each writer is given by the bytes it puts behind what is there;
an attribute writer, by its record. -/

namespace StunServer.CStunMessageBuilder

open Bytes Tlv

/-- The builder with another stream. -/
def withStream (b : CStunMessageBuilder) (s : CDataStream) : CStunMessageBuilder :=
  { b with stream := s }

theorem onStream_ok {α : Type} {m : Hr CDataStream α} {s s' : CDataStream} {a : α}
    (b : CStunMessageBuilder) (h : m s = .ok a s') :
    onStream m (b.withStream s) = .ok a (b.withStream s') :=
  Hr.on_ok h

/-- `b'` is `b` with `d` written behind its bytes, in the same buffer if that is large
enough. -/
structure Grown (b b' : CStunMessageBuilder) (d : List UInt8) : Prop where
  tid : b'.transactionid = b.transactionid
  mode : b'.fLegacyMode = b.fLegacyMode
  atEnd : ∀ pre, b.stream.AtEnd pre → b'.stream.AtEnd (pre ++ d)
  inPlace : ∀ pre cap, b.stream.AtEnd pre → b.stream.InPlace cap → (pre ++ d).length ≤ cap →
    b'.stream.InPlace cap

/-- The builder has a stream with the cursor at the end. -/
def Ready (b : CStunMessageBuilder) : Prop := ∃ pre, b.stream.AtEnd pre

/-- On a builder that is ready the call succeeds and appends `d`. -/
def Writes (op : Hr CStunMessageBuilder Unit) (b : CStunMessageBuilder) (d : List UInt8) : Prop :=
  b.Ready → ∃ b', op b = .ok () b' ∧ Grown b b' d

theorem Grown.refl (b : CStunMessageBuilder) : Grown b b [] :=
  ⟨rfl, rfl, fun _ h => by rwa [List.append_nil], fun _ _ _ h _ => h⟩

theorem Grown.trans {b b' b'' : CStunMessageBuilder} {d d' : List UInt8} (h : Grown b b' d)
    (h' : Grown b' b'' d') : Grown b b'' (d ++ d') where
  tid := h'.tid.trans h.tid
  mode := h'.mode.trans h.mode
  atEnd pre hp := by
    rw [← List.append_assoc]
    exact h'.atEnd _ (h.atEnd pre hp)
  inPlace pre cap hp hc hle := by
    rw [← List.append_assoc] at hle
    refine h'.inPlace _ cap (h.atEnd pre hp) (h.inPlace pre cap hp hc ?_) hle
    rw [List.length_append] at hle
    omega

theorem Grown.ready {b b' : CStunMessageBuilder} {d : List UInt8} (h : Grown b b' d)
    (hr : b.Ready) : b'.Ready := by
  obtain ⟨pre, hp⟩ := hr
  exact ⟨_, h.atEnd pre hp⟩

theorem Writes.nil (b : CStunMessageBuilder) : Writes (pure ()) b [] :=
  fun _ => ⟨b, rfl, Grown.refl b⟩

/-- One writer after the other: the second finds the id and the mode unchanged. -/
theorem Writes.bind {x : Hr CStunMessageBuilder Unit} {f : Unit → Hr CStunMessageBuilder Unit}
    {b : CStunMessageBuilder} {d d' : List UInt8} (hx : Writes x b d)
    (hf : ∀ b', b'.transactionid = b.transactionid → b'.fLegacyMode = b.fLegacyMode →
      Writes (f ()) b' d') : Writes (x >>= f) b (d ++ d') := by
  intro hr
  obtain ⟨b', he, hg⟩ := hx hr
  obtain ⟨b'', he', hg'⟩ := hf b' hg.tid hg.mode (hg.ready hr)
  exact ⟨b'', (Hr.bind_ok he).trans he', hg.trans hg'⟩

theorem Writes.chkIf {c : Prop} [Decidable c] {e : HRESULT} {b : CStunMessageBuilder} (h : ¬c) :
    Writes (Hr.chkIf c e) b [] :=
  fun _ => ⟨b, Hr.chkIf_false h e b, Grown.refl b⟩

theorem Writes.ignore {x : Hr CStunMessageBuilder Unit} {b : CStunMessageBuilder}
    {d : List UInt8} (h : Writes x b d) : Writes (Hr.ignore x) b d := by
  intro hr
  obtain ⟨b', he, hg⟩ := h hr
  exact ⟨b', Hr.ignore_ok he, hg⟩

theorem Writes.get {f : CStunMessageBuilder → Hr CStunMessageBuilder Unit}
    {b : CStunMessageBuilder} {d : List UInt8} (h : Writes (f b) b d) : Writes (get >>= f) b d := by
  intro hr
  obtain ⟨b', he, hg⟩ := h hr
  exact ⟨b', (Hr.bind_ok (Hr.get_apply b)).trans he, hg⟩

/-! ### The primitive writers -/

theorem writes_stream (b : CStunMessageBuilder) {d : List UInt8} {n : ℕ} (hd : d ≠ [])
    (hn : n = d.length) : Writes (onStream (CDataStream.write (some d) n)) b d := by
  subst hn
  rintro ⟨pre, hp⟩
  obtain ⟨s', he, hs', hin⟩ := hp.write hd
  refine ⟨b.withStream s', onStream_ok b he, rfl, rfl, ?_, ?_⟩
  · intro pre' hp'
    obtain rfl : pre' = pre := hp'.bytes.symm.trans hp.bytes
    exact hs'
  · intro pre' cap hp' hc hle
    obtain rfl : pre' = pre := hp'.bytes.symm.trans hp.bytes
    exact hin cap hc hle

theorem writes_write (b : CStunMessageBuilder) {d : List UInt8} (hd : d ≠ []) :
    Writes (write d) b d := writes_stream b hd rfl

theorem writes_writeUint8 (b : CStunMessageBuilder) (v : UInt8) : Writes (writeUint8 v) b [v] :=
  writes_stream b (by simp) rfl

theorem writes_writeUint16 (b : CStunMessageBuilder) (v : UInt16) :
    Writes (writeUint16 v) b (mem16 v) :=
  writes_stream b (List.ne_nil_of_length_pos (by simp)) (mem16_length v).symm

theorem writes_writePadding (b : CStunMessageBuilder) (n : ℕ) :
    Writes (writePadding n) b (List.replicate n 0) := by
  unfold writePadding
  split_ifs with h
  · refine writes_write b ?_
    rw [ne_eq, List.replicate_eq_nil_iff]
    omega
  · obtain rfl : n = 0 := by omega
    exact Writes.nil b

theorem padding_eq (n : ℕ) : padding n = padLen n := by
  unfold padding padLen
  split_ifs <;> omega

theorem writes_addAttributeHeader (b : CStunMessageBuilder) (t n : UInt16) :
    Writes (addAttributeHeader t n) b (be16 t ++ be16 n) := by
  rw [← mem16_htons t, ← mem16_htons n]
  exact (writes_writeUint16 b _).bind fun b' _ _ => writes_writeUint16 b' _

/-! ### The attribute writers -/

theorem Writes.congr {op : Hr CStunMessageBuilder Unit} {b : CStunMessageBuilder}
    {d d' : List UInt8} (h : Writes op b d) (he : d = d') : Writes op b d' := he ▸ h

theorem writes_addAttribute_null (b : CStunMessageBuilder) (t n : UInt16) :
    Writes (addAttribute t none n) b (be16 t ++ be16 n) := by
  have hpad : padding (0 : UInt16).toNat = 0 := rfl
  have hheader : (if b.fLegacyMode = true then n + UInt16.ofNat 0 else n) = n := by
    split_ifs
    · exact UInt16.add_zero n
    · rfl
  unfold addAttribute
  simp only [if_true, hpad]
  refine Writes.get ?_
  rw [hheader]
  exact ((writes_addAttributeHeader b t n).bind fun b' _ _ => writes_writePadding b' 0).congr
    (List.append_nil _)

/-- The first `n` bytes of the data, whatever `n` is. -/
theorem writes_addAttribute_take (b : CStunMessageBuilder) (t : UInt16) {d : List UInt8}
    {n : UInt16} (hd : n.toNat ≤ d.length) :
    Writes (addAttribute t (some d) n) b (be16 t ++
      (be16 (if b.fLegacyMode then n + UInt16.ofNat (padLen n.toNat) else n) ++
        (d.take n.toNat ++ List.replicate (padLen n.toNat) 0))) := by
  have hlen : (d.take n.toNat).length = n.toNat := List.length_take_of_le hd
  have hpos : n > 0 ↔ d.take n.toNat ≠ [] := by
    rw [gt_iff_lt, UInt16.lt_iff_toNat_lt, ← List.length_pos_iff, hlen]
    rfl
  unfold addAttribute
  simp only [reduceCtorEq, if_false, padding_eq]
  refine Writes.get (((writes_addAttributeHeader b t _).bind fun b' _ _ =>
    (?_ : Writes _ b' (d.take n.toNat ++ List.replicate (padLen n.toNat) 0))).congr
      (List.append_assoc _ _ _))
  by_cases hv : d.take n.toNat = []
  · rw [if_neg (by rw [hpos]; exact not_not_intro hv), hv]
    exact writes_writePadding b' _
  · rw [if_pos (hpos.mpr hv), ← CDataStream.write_take (Nat.le_refl n.toNat)]
    exact (writes_stream b' hv hlen.symm).bind fun b'' _ _ => writes_writePadding b'' _

theorem writes_addAttribute (b : CStunMessageBuilder) (t : UInt16) {v : List UInt8}
    (h : v.length + 3 < 2 ^ 16) {n : UInt16} (hn : n.toNat = v.length) :
    Writes (addAttribute t (some v) n) b (record b.fLegacyMode t v h).encode := by
  have hheader : (if b.fLegacyMode = true then n + UInt16.ofNat (padLen v.length) else n) =
      UInt16.ofNat (if b.fLegacyMode = true then v.length + padLen v.length else v.length) := by
    split_ifs
    · rw [UInt16.ofNat_add, ← hn, UInt16.ofNat_toNat]
    · rw [← hn, UInt16.ofNat_toNat]
  refine (writes_addAttribute_take b t (Nat.le_of_eq hn)).congr ?_
  rw [record_encode, hn, hheader, List.take_length]

theorem strlen_eq (s : List UInt8) : strlen s = (cstr s).length := rfl

theorem writes_addStringAttribute (b : CStunMessageBuilder) (t : UInt16) {pstr : List UInt8}
    (hne : cstr pstr ≠ []) (h : (cstr pstr).length + 3 < 2 ^ 16) :
    Writes (addStringAttribute t pstr) b (record b.fLegacyMode t (cstr pstr) h).encode := by
  have hlen : ¬strlen pstr = 0 := by
    rw [strlen_eq, List.length_eq_zero_iff]
    exact hne
  refine ((Writes.chkIf hlen).bind fun b' _ hmode => ?_).congr (List.nil_append _)
  rw [← hmode]
  exact writes_addAttribute b' t h (by rw [strlen_eq, UInt16.toNat_ofNat_of_lt' (by
    show _ < 65536; omega)])

theorem writes_addErrorCode (b : CStunMessageBuilder) {errorNumber : UInt16}
    {pszReason : List UInt8} (hlow : ¬errorNumber < 300) (hhigh : ¬errorNumber > 600)
    (hlen : (cstr pszReason).length < 128) :
    Writes (addErrorCode errorNumber pszReason) b
      (record b.fLegacyMode STUN_ATTRIBUTE_ERRORCODE (errorValue errorNumber (cstr pszReason))
        (by rw [errorValue_length]; omega)).encode := by
  have hshort : ¬strlen pszReason ≥ 128 := by
    rw [strlen_eq]
    omega
  unfold addErrorCode
  dsimp only
  set d := (record b.fLegacyMode STUN_ATTRIBUTE_ERRORCODE
    (errorValue errorNumber (cstr pszReason)) (by rw [errorValue_length]; omega)).encode with hd
  refine ((Writes.chkIf hshort).bind fun b₁ _ h₁ => (Writes.chkIf hlow).bind fun b₂ _ h₂ =>
    (Writes.chkIf hhigh).bind fun b₃ _ h₃ => Writes.get (?_ : Writes _ b₃ d)).congr rfl
  rw [h₃, h₂, h₁]
  refine ((writes_addAttributeHeader b₃ _ _).bind fun b₄ _ _ => (writes_writeUint16 b₄ 0).bind
    fun b₅ _ _ => (writes_writeUint8 b₅ _).bind fun b₆ _ _ => (writes_writeUint8 b₆ _).bind
      fun b₇ _ _ => (?_ : Writes _ b₇ (cstr pszReason ++
        List.replicate (padding (strlen pszReason + 4)) 0))).congr ?_
  · split_ifs with hpos
    · exact (writes_write b₇ (List.ne_nil_of_length_pos hpos)).ignore.bind fun b' _ _ =>
        writes_writePadding b' _
    · have hnil : cstr pszReason = [] := by
        rw [← List.length_eq_zero_iff, ← strlen_eq]
        omega
      rw [hnil]
      exact writes_writePadding b₇ _
  · rw [hd, record_encode, padding_eq, errorValue_length, strlen_eq]
    simp [errorValue, mem16, be16, ofNatBE]

/-! ### Addresses -/

theorem writes_addMappedAddressImpl (b : CStunMessageBuilder) (t : UInt16)
    (addr : CSocketAddress) :
    Writes (addMappedAddressImpl t addr) b
      (record b.fLegacyMode t (addressValue addr) (addressValue_short addr)).encode := by
  have hip : addr.getIP_NBO STUN_IPV6_LENGTH ≠ [] := by
    cases addr with
    | addr4 port ip => exact List.ne_nil_of_length_pos (by simp [CSocketAddress.getIP_NBO,
        CSocketAddress.getIPImpl, CSocketAddress.getIPLength, STUN_IPV4_LENGTH, STUN_IPV6_LENGTH])
    | addr6 port ip => exact List.ne_nil_of_length_pos (by simp [CSocketAddress.getIP_NBO,
        CSocketAddress.getIPImpl, CSocketAddress.getIPLength])
  refine ((writes_addAttributeHeader b t _).bind fun b₁ _ _ => (writes_writeUint8 b₁ 0).bind
    fun b₂ _ _ => (writes_writeUint8 b₂ _).bind fun b₃ _ _ => (writes_writeUint16 b₃ _).bind
      fun b₄ _ _ => writes_write b₄ hip).congr ?_
  rw [record_encode, padLen_of_mod (addressValue_aligned addr)]
  cases addr with
  | addr4 port ip =>
    simp [addressValue, CSocketAddress.getIP_NBO, CSocketAddress.getIPImpl,
      CSocketAddress.getIPLength, CSocketAddress.getFamily, CSocketAddress.getPort_NBO,
      STUN_IPV4_LENGTH, STUN_IPV6_LENGTH, STUN_ATTRIBUTE_MAPPEDADDRESS_SIZE_IPV4]
  | addr6 port ip =>
    have hfamily : ¬CSocketAddress.getFamily (.addr6 port ip) = AF_INET :=
      (by decide : AF_INET6 ≠ AF_INET)
    simp [addressValue, CSocketAddress.getIP_NBO, CSocketAddress.getIPImpl,
      CSocketAddress.getIPLength, hfamily, CSocketAddress.getPort_NBO,
      STUN_ATTRIBUTE_MAPPEDADDRESS_SIZE_IPV6, STUN_ATTRIBUTE_FIELD_IPV4,
      STUN_ATTRIBUTE_FIELD_IPV6]

/-! ### A whole message -/

/-- The builder holds a message with the records `rs`; its length field is still `n`. -/
structure Drafts (b : CStunMessageBuilder) (typeField : UInt16) (n : ℕ) (rs : List Record) :
    Prop where
  atEnd : b.stream.AtEnd (headerBytes typeField n b.transactionid ++ encodeAll rs)

theorem drafts_concat_iff {b : CStunMessageBuilder} {typeField : UInt16} {n : ℕ} {rs : List Record}
    {r : Record} : b.Drafts typeField n (rs ++ [r]) ↔
      b.stream.AtEnd (headerBytes typeField n b.transactionid ++ encodeAll rs ++ r.encode) := by
  have hbytes : headerBytes typeField n b.transactionid ++ encodeAll (rs ++ [r]) =
      headerBytes typeField n b.transactionid ++ encodeAll rs ++ r.encode := by
    rw [encodeAll_append, encodeAll_cons, encodeAll_nil, List.append_nil, ← List.append_assoc]
  rw [← hbytes]
  exact ⟨fun h => h.atEnd, fun h => ⟨h⟩⟩

/-- `b'` works on the same buffer as `b`, if that one holds `total` bytes. -/
def StaysIn (b b' : CStunMessageBuilder) (total : ℕ) : Prop :=
  ∀ cap, b.stream.InPlace cap → total ≤ cap → b'.stream.InPlace cap

theorem Drafts.grown {b b' : CStunMessageBuilder} {typeField : UInt16} {n : ℕ}
    {rs rs' : List Record} (h : b.Drafts typeField n rs) (hg : Grown b b' (encodeAll rs')) :
    b'.Drafts typeField n (rs ++ rs') ∧ StaysIn b b' (20 + sizeAll (rs ++ rs')) := by
  refine ⟨⟨?_⟩, fun cap hc hle => hg.inPlace _ cap h.atEnd hc ?_⟩
  · rw [hg.tid, encodeAll_append, ← List.append_assoc]
    exact hg.atEnd _ h.atEnd
  · simpa [Nat.add_assoc] using hle

/-- A writer that appends records to a message. -/
theorem Drafts.writes {b : CStunMessageBuilder} {typeField : UInt16} {n : ℕ} {rs rs' : List Record}
    (h : b.Drafts typeField n rs) {op : Hr CStunMessageBuilder Unit}
    (hw : Writes op b (encodeAll rs')) :
    ∃ b', op b = .ok () b' ∧ b'.Drafts typeField n (rs ++ rs') ∧
      b'.transactionid = b.transactionid ∧ b'.fLegacyMode = b.fLegacyMode ∧
      StaysIn b b' (20 + sizeAll (rs ++ rs')) := by
  obtain ⟨b', he, hg⟩ := hw ⟨_, h.atEnd⟩
  obtain ⟨hd, hin⟩ := h.grown hg
  exact ⟨b', he, hd, hg.tid, hg.mode, hin⟩

theorem overwrite_length_field (typeField : UInt16) (n k : ℕ) (tid : StunTransactionId)
    (rest : List UInt8) :
    overwrite (headerBytes typeField n tid ++ rest) 2 (be16 (UInt16.ofNat k)) =
      headerBytes typeField k tid ++ rest := by
  have h := overwrite_append_middle (be16 typeField) (be16 (UInt16.ofNat n)) (tid.toList ++ rest)
    (be16 (UInt16.ofNat k)) (by rw [be16_length, be16_length])
  rw [be16_length] at h
  simpa [headerBytes, List.append_assoc] using h

/-- The length field gets the low 16 bits of the size behind the header; the cursor returns
to where it was. -/
theorem fixLengthField_ok {b : CStunMessageBuilder} (hw : b.stream.Wf)
    (hg : b.stream.fNoGrow = false) (hsize : 20 ≤ b.stream.bytes.length) :
    ∃ s : CDataStream, fixLengthField b = .ok () (b.withStream (s.moveTo b.stream.pos)) ∧ s.Wf ∧
      s.bytes = overwrite b.stream.bytes 2
        (be16 (UInt16.ofNat (b.stream.bytes.length - STUN_HEADER_SIZE))) ∧
      s.fNoGrow = false ∧ ∀ cap, b.stream.InPlace cap → s.InPlace cap := by
  set field := be16 (UInt16.ofNat (b.stream.bytes.length - STUN_HEADER_SIZE)) with hfield
  have htwo : 2 + field.length ≤ b.stream.bytes.length := by
    rw [hfield, be16_length]
    omega
  obtain ⟨s, hwrite, hws, hbytes, -, hgs, hin⟩ := CDataStream.write_inside hw hg
    (List.ne_nil_of_length_pos (by rw [hfield, be16_length]; decide) : field ≠ []) htwo
  refine ⟨s, ?_, hws, hbytes, hgs, hin⟩
  have hlen : s.bytes.length = b.stream.bytes.length := by rw [hbytes, overwrite_length htwo]
  have hpos : b.stream.pos ≤ s.bytes.length := by
    rw [hlen, hw.bytes_length]
    exact hw.pos_le
  have hfirst : CDataStream.seekDirect 2 b.stream = .ok () (b.stream.moveTo 2) :=
    CDataStream.seekDirect_ok (p := b.stream.pos) hw (by omega)
  have hwrite' : CDataStream.writeUint16
      (ntohs (UInt16.ofNat (b.stream.bytes.length - STUN_HEADER_SIZE))) (b.stream.moveTo 2) =
        .ok () s := by
    rw [CDataStream.writeUint16, mem16_ntohs]
    exact hwrite
  have hback : CDataStream.seekDirect b.stream.getPos s = .ok () (s.moveTo b.stream.pos) :=
    CDataStream.seekDirect_ok (p := s.pos) hws hpos
  rw [fixLengthField, Hr.bind_ok (Hr.get_apply b), Hr.bind_ok (Hr.get_apply b),
    ← hw.bytes_length, Hr.bind_ok (Hr.chkIf_false (by rw [STUN_HEADER_SIZE]; omega) _ _)]
  exact (Hr.bind_ok (onStream_ok b hfirst)).trans ((Hr.bind_ok (onStream_ok b hwrite')).trans
    (onStream_ok b hback))

/-- The length field is made to say what follows the header. -/
theorem Drafts.fixLengthField {b : CStunMessageBuilder} {typeField : UInt16} {n : ℕ}
    {rs : List Record} (h : b.Drafts typeField n rs) :
    ∃ b', CStunMessageBuilder.fixLengthField b = .ok () b' ∧
      b'.Drafts typeField (sizeAll rs) rs ∧
      b'.transactionid = b.transactionid ∧ b'.fLegacyMode = b.fLegacyMode ∧
      ∀ cap, b.stream.InPlace cap → b'.stream.InPlace cap := by
  set pre := headerBytes typeField n b.transactionid ++ encodeAll rs with hpre
  have hat : b.stream.AtEnd pre := h.atEnd
  have hlen : b.stream.bytes.length = 20 + sizeAll rs := by simp [hat.bytes, hpre]
  obtain ⟨s, he, hw, hbytes, hg, hin⟩ := fixLengthField_ok hat.wf hat.grow (by omega)
  rw [hlen, STUN_HEADER_SIZE, Nat.add_sub_cancel_left, hat.bytes, hpre, overwrite_length_field]
    at hbytes
  have hpos : b.stream.pos = s.bytes.length := by
    rw [hat.pos, hpre, hbytes]
    simp
  rw [hpos] at he
  refine ⟨_, he, ⟨⟨hw.moveTo (Nat.le_refl _), hbytes, by rw [hbytes]; rfl, hg⟩⟩, rfl, rfl, ?_⟩
  intro cap hc
  exact ⟨(hin cap hc).allocated, (hin cap hc).replaced⟩

/-- `GetResult` hands out the buffer with the finished message. -/
theorem Drafts.getResult {b : CStunMessageBuilder} {typeField : UInt16} {n : ℕ}
    {rs : List Record} (h : b.Drafts typeField n rs) :
    ∃ b', CStunMessageBuilder.getResult b = .ok b'.stream.pBuffer b' ∧
      b'.Drafts typeField (sizeAll rs) rs ∧ b'.transactionid = b.transactionid ∧
      ∀ cap, b.stream.InPlace cap → b'.stream.InPlace cap := by
  obtain ⟨b', he, hd, htid, -, hin⟩ := h.fixLengthField
  refine ⟨b', ?_, hd, htid, hin⟩
  rw [CStunMessageBuilder.getResult, Hr.bind_ok he, Hr.bind_ok (Hr.get_apply b')]
  rfl

/-- The bytes of the buffer handed out. -/
theorem Drafts.bytes {b : CStunMessageBuilder} {typeField : UInt16} {n : ℕ} {rs : List Record}
    (h : b.Drafts typeField n rs) :
    ∃ buf, b.stream.pBuffer = some buf ∧
      buf.bytes = headerBytes typeField n b.transactionid ++ encodeAll rs := by
  have hb := h.atEnd.bytes
  unfold CDataStream.bytes at hb
  cases hbuf : b.stream.pBuffer with
  | none =>
    rw [hbuf] at hb
    have hl := congrArg List.length hb
    simp only [Option.elim_none, List.length_nil, List.length_append, headerBytes_length] at hl
    omega
  | some buf =>
    rw [hbuf] at hb
    exact ⟨buf, rfl, hb⟩

theorem addHeader_ok {b : CStunMessageBuilder} (h : b.stream.AtEnd []) (msgType : UInt16)
    (msgClass : StunMessageClass) :
    ∃ b', addHeader msgType msgClass b = .ok () b' ∧
      b'.stream.AtEnd (be16 (mergeType msgType msgClass) ++ be16 0) ∧
      b'.fLegacyMode = b.fLegacyMode ∧ StaysIn b b' 200 := by
  obtain ⟨s₁, hgrow, hw, hbytes, hpos, hng, -, hsame⟩ := CDataStream.grow_ok h.wf h.grow 200
  have hat : s₁.AtEnd [] := ⟨hw, hbytes.trans h.bytes, hpos.trans h.pos, hng⟩
  have hwrites : Writes (do
      writeUint16 (htons (mergeType msgType msgClass))
      writeUint16 0) (b.withStream s₁) (mem16 (htons (mergeType msgType msgClass)) ++ mem16 0) :=
    (writes_writeUint16 _ _).bind fun b₂ _ _ => writes_writeUint16 b₂ 0
  obtain ⟨b', he, hg⟩ := hwrites ⟨[], hat⟩
  refine ⟨b', (Hr.bind_ok (onStream_ok b hgrow)).trans he, ?_, hg.mode, ?_⟩
  · have hend := hg.atEnd [] hat
    rwa [mem16_htons, List.nil_append] at hend
  · intro cap hc hle
    have hs : s₁ = b.stream := hsame (by rw [hc.allocated]; exact hle)
    refine hg.inPlace [] cap hat (by rw [← hs] at hc; exact hc) ?_
    simp only [List.nil_append, List.length_append, mem16_length]
    omega

/-- The transaction id completes the header. -/
theorem addTransactionId_ok {b : CStunMessageBuilder} {typeField : UInt16}
    (h : b.stream.AtEnd (be16 typeField ++ be16 0)) (tid : StunTransactionId) :
    ∃ b', addTransactionId tid b = .ok () b' ∧ b'.Drafts typeField 0 [] ∧
      b'.transactionid = tid ∧ b'.fLegacyMode = b.fLegacyMode ∧ StaysIn b b' 20 := by
  have hne : tid.toList ≠ [] := List.ne_nil_of_length_pos (by rw [tid.toList_length]; decide)
  obtain ⟨b', he, hg⟩ := writes_write { b with transactionid := tid } hne ⟨_, h⟩
  have hend := hg.atEnd _ h
  refine ⟨b', (Hr.bind_ok (Hr.modify_apply _ b)).trans he, ⟨?_⟩, hg.tid, hg.mode, ?_⟩
  · rw [hg.tid, encodeAll_nil, List.append_nil, headerBytes, ← List.append_assoc]
    exact hend
  · intro cap hc hle
    refine hg.inPlace _ cap h hc ?_
    simp only [List.length_append, be16_length, tid.toList_length]
    omega

section

variable (D : Digests)

theorem overwrite_value (pre : List UInt8) (t : UInt16) {v w : List UInt8}
    (hv : v.length < 2 ^ 16) (hw : w.length < 2 ^ 16) (h : w.length = v.length) :
    overwrite (pre ++ (Record.ofValue t v hv).encode) (pre.length + 4) w =
      pre ++ (Record.ofValue t w hw).encode := by
  have ho := overwrite_append_middle (pre ++ be16 t ++ be16 (UInt16.ofNat v.length)) v
    (List.replicate (padLen v.length) 0) w h
  simp only [List.length_append, be16_length, Nat.add_assoc] at ho
  simpa [Record.encode, Record.ofValue, List.append_assoc, h] using ho

theorem Drafts.addMessageIntegrityImpl {b : CStunMessageBuilder} {typeField : UInt16} {n : ℕ}
    {rs : List Record} (h : b.Drafts typeField n rs) {key : List UInt8} (hk : key ≠ []) :
    ∃ b', CStunMessageBuilder.addMessageIntegrityImpl D key b = .ok () b' ∧
      b'.Drafts typeField (sizeAll rs + 24) (rs ++ [integrityRecord
        (D.hmacSha1 key (integrityText typeField b.transactionid rs))]) ∧
      b'.transactionid = b.transactionid ∧ b'.fLegacyMode = b.fLegacyMode ∧
      StaysIn b b' (20 + sizeAll rs + 24) := by
  have hkey : ¬key.length = 0 := by rwa [List.length_eq_zero_iff]
  have hzero : (List.replicate 20 (0 : UInt8)).length + 3 < 2 ^ 16 := by simp
  set zeros := Record.ofValue STUN_ATTRIBUTE_MESSAGEINTEGRITY (List.replicate 20 0) (by simp)
    with hzeros
  have hrecord : record b.fLegacyMode STUN_ATTRIBUTE_MESSAGEINTEGRITY (List.replicate 20 0) hzero =
      zeros := by
    cases b.fLegacyMode <;> rfl
  have hwrites := writes_addAttribute b STUN_ATTRIBUTE_MESSAGEINTEGRITY hzero
    (n := 20) (by simp)
  rw [hrecord] at hwrites
  have hall : encodeAll [zeros] = zeros.encode := by simp
  rw [← hall] at hwrites
  obtain ⟨b₁, he₁, hd₁, htid₁, hmode₁, hin₁⟩ := h.writes hwrites
  obtain ⟨b₂, he₂, hd₂, htid₂, hmode₂, hin₂⟩ := hd₁.fixLengthField
  have hsize : sizeAll (rs ++ [zeros]) = sizeAll rs + 24 := by
    simp [hzeros, Record.size, Record.ofValue, padLen]
  rw [hsize] at hd₂
  set pre := integrityText typeField b.transactionid rs with hpre
  have htid : b₂.transactionid = b.transactionid := htid₂.trans htid₁
  have hat : b₂.stream.AtEnd (pre ++ zeros.encode) := by
    have hend := drafts_concat_iff.mp hd₂
    rwa [htid] at hend
  have hzlen : zeros.encode.length = 24 := by simp [hzeros, Record.size, Record.ofValue, padLen]
  obtain ⟨hsz, htake⟩ := hat.before
  rw [hzlen] at hsz
  set hash := D.hmacSha1 key pre with hhash
  obtain ⟨hat', hin'⟩ := hat.stored (d := hash.toList) (p := pre.length + 4) (by
    rw [List.length_append, hzlen, hash.toList_length])
  refine ⟨b₂.withStream (b₂.stream.stored (pre.length + 4) hash.toList), ?_,
    drafts_concat_iff.mpr ?_, htid, hmode₂.trans hmode₁, ?_⟩
  · rw [CStunMessageBuilder.addMessageIntegrityImpl, Hr.bind_ok (Hr.chkIf_false hkey _ _),
      Hr.bind_ok he₁, Hr.bind_ok he₂, Hr.bind_ok (Hr.get_apply b₂), hsz, htake]
    rfl
  · rw [overwrite_value pre _ _ (by rw [hash.toList_length]; decide) (by simp)] at hat'
    have heq : (b₂.withStream (b₂.stream.stored (pre.length + 4) hash.toList)).transactionid =
        b.transactionid := htid
    rw [heq]
    exact hat'
  · intro cap hc hle
    refine hin' cap (hin₂ cap (hin₁ cap hc ?_))
    rw [hsize]
    omega

theorem Drafts.addFingerprintAttribute {b : CStunMessageBuilder} {typeField : UInt16} {n : ℕ}
    {rs : List Record} (h : b.Drafts typeField n rs) (hbound : sizeAll rs < 2 ^ 63) :
    ∃ b', CStunMessageBuilder.addFingerprintAttribute D b = .ok () b' ∧
      b'.Drafts typeField (sizeAll rs + 8) (rs ++ [fingerprintRecord
        (D.crc32 (headerBytes typeField (sizeAll rs + 8) b.transactionid ++ encodeAll rs) ^^^
          STUN_FINGERPRINT_XOR)]) ∧
      b'.transactionid = b.transactionid ∧ b'.fLegacyMode = b.fLegacyMode ∧
      StaysIn b b' (20 + sizeAll rs + 8) := by
  have hready : b.Ready := ⟨_, h.atEnd⟩
  obtain ⟨b₁, he₁, hg₁⟩ := writes_writeUint16 b (htons STUN_ATTRIBUTE_FINGERPRINT) hready
  have hready₁ := hg₁.ready hready
  obtain ⟨b₂, he₂, hg₂⟩ := writes_writeUint16 b₁ (htons 4) hready₁
  obtain ⟨b₃, he₃, hg₃⟩ := writes_stream b₂ (d := mem32 0) (n := 4)
    (List.ne_nil_of_length_pos (by simp)) (by simp) (hg₂.ready hready₁)
  have hzero : mem16 (htons STUN_ATTRIBUTE_FINGERPRINT) ++ (mem16 (htons 4) ++ mem32 0) =
      encodeAll [fingerprintRecord 0] := by decide
  have hg := hg₁.trans (hg₂.trans hg₃)
  rw [hzero] at hg
  obtain ⟨hd₃, hin₃⟩ := h.grown hg
  obtain ⟨b₄, he₄, hd₄, htid₄, hmode₄, hin₄⟩ := hd₃.fixLengthField
  have hsize : ∀ v, sizeAll (rs ++ [fingerprintRecord v]) = sizeAll rs + 8 := by
    intro v
    simp [fingerprintRecord, Record.size, Record.ofValue, padLen]
  rw [hsize] at hd₄ hin₃
  have htid : b₄.transactionid = b.transactionid := htid₄.trans hg.tid
  set pre := headerBytes typeField (sizeAll rs + 8) b.transactionid ++ encodeAll rs with hpre
  have hlen : pre.length = 20 + sizeAll rs := by simp [hpre]
  have hat : b₄.stream.AtEnd (pre ++ (fingerprintRecord 0).encode) := by
    have hend := drafts_concat_iff.mp hd₄
    rwa [htid] at hend
  have hflen : (fingerprintRecord 0).encode.length = 8 := by
    simp [fingerprintRecord, Record.size, Record.ofValue, padLen]
  have htotal : (pre ++ (fingerprintRecord 0).encode).length = pre.length + 8 := by
    rw [List.length_append, hflen]
  obtain ⟨hsz, htake⟩ := hat.before
  rw [hflen] at hsz
  set value := D.crc32 pre ^^^ STUN_FINGERPRINT_XOR with hvalue
  have hpos := hat.pos
  rw [htotal] at hpos
  -- back over the dummy value, which the real one replaces
  have hseek : CDataStream.seekRelative (-4) b₄.stream = .ok () (b₄.stream.moveTo (pre.length + 4)) := by
    have hback := CDataStream.seekRelative_neg (s := b₄.stream) (n := 4) (by omega) (by omega)
    refine hback.trans ?_
    rw [hpos]
    exact hat.seek (by omega)
  obtain ⟨s', hwrite, hpos', -, -, hat', hin'⟩ := hat.patch (d := be32 value)
    (List.ne_nil_of_length_pos (by simp)) (p := pre.length + 4) (by
      rw [be32_length, htotal])
  rw [be32_length] at hpos'
  have hend : s'.moveTo (pre ++ (fingerprintRecord 0).encode).length = s' := by
    rw [htotal, ← Nat.add_assoc pre.length 4 4, ← hpos']
    rfl
  refine ⟨b₄.withStream s', ?_, drafts_concat_iff.mpr ?_, htid, hmode₄.trans hg.mode, ?_⟩
  · have hwrite' : CDataStream.writeUint32 (htonl value) (b₄.stream.moveTo (pre.length + 4)) =
        .ok () s' := by
      rw [CDataStream.writeUint32, mem32_htonl]
      rw [be32_length] at hwrite
      exact hwrite
    rw [CStunMessageBuilder.addFingerprintAttribute, Hr.bind_ok he₁, Hr.bind_ok he₂]
    refine (Hr.bind_ok he₃).trans ?_
    rw [Hr.bind_ok he₄, Hr.bind_ok (Hr.get_apply b₄), hsz, htake]
    exact (Hr.bind_ok (onStream_ok b₄ hseek)).trans (onStream_ok b₄ hwrite')
  · rw [hend, fingerprintRecord, overwrite_value pre _ _ (by rw [be32_length]; decide) (by simp)]
      at hat'
    have heq : (b₄.withStream s').transactionid = b.transactionid := htid
    rw [heq]
    exact hat'
  · intro cap hc hle
    exact hin' cap (hin₄ cap (hin₃ cap hc (by omega)))

end

end StunServer.CStunMessageBuilder

import StunServer.Proofs.ReaderTable

/-! What the reader does with the bytes it has been fed: the header block, the loop over
the body and `AddBytes` itself, each against the grammar of `Spec/Message`. -/

namespace StunServer.CStunMessageReader

open Bytes Tlv

/-- The reader with another stream. -/
def withStream (r : CStunMessageReader) (s : CDataStream) : CStunMessageReader :=
  { r with stream := s }

@[simp] theorem withStream_stream (r : CStunMessageReader) (s : CDataStream) :
    (r.withStream s).stream = s := rfl

theorem onStream_ok {α : Type} {m : Hr CDataStream α} {s s' : CDataStream} {a : α}
    (r : CStunMessageReader) (h : m s = .ok a s') :
    onStream m (r.withStream s) = .ok a (r.withStream s') :=
  Hr.on_ok h

theorem onStream_error {α : Type} {m : Hr CDataStream α} {s s' : CDataStream} {e : HRESULT}
    (r : CStunMessageReader) (h : m s = .error e s') :
    onStream m (r.withStream s) = .error e (r.withStream s') :=
  Hr.on_error h

/-! ### The header -/

/-- The reader with the fields of the header set. -/
def withHeader (r : CStunMessageReader) (msgType msgLength : UInt16) (tid : StunTransactionId) :
    CStunMessageReader :=
  { r with
    fMessageIsLegacyFormat := !(word32 (tid.toList.take 4) = STUN_COOKIE)
    msgTypeNormalized := normalizeType msgType
    msgLength := msgLength
    transactionid := tid
    msgClass := classOfType msgType }

/-- The header fields pass the reader's checks. -/
def HeaderFieldsOk (fAllowLegacyFormat : Bool) (msgType msgLength : UInt16)
    (tid : StunTransactionId) : Prop :=
  msgType &&& 0xc000 = 0 ∧ msgLength.toNat % 4 = 0 ∧ msgLength.toNat ≤ 800 ∧
    (fAllowLegacyFormat = true ∨ word32 (tid.toList.take 4) = STUN_COOKIE)

theorem mod4_eq_zero (n : UInt16) : n % 4 = 0 ↔ n.toNat % 4 = 0 := by
  rw [← UInt16.toNat_inj]
  simp

theorem cookie_eq (tid : StunTransactionId) :
    ntohl (load32 (tid.toList.take 4)) = word32 (tid.toList.take 4) :=
  ntohl_load32 (by simp)

/-- A header is stored in full or refused. -/
theorem storeHeader_spec (r : CStunMessageReader) (msgType msgLength : UInt16)
    (tid : StunTransactionId) :
    (HeaderFieldsOk r.fAllowLegacyFormat msgType msgLength tid →
      storeHeader msgType msgLength tid r = .ok () (r.withHeader msgType msgLength tid)) ∧
    (¬HeaderFieldsOk r.fAllowLegacyFormat msgType msgLength tid →
      ∃ e r', storeHeader msgType msgLength tid r = .error e r') := by
  rw [storeHeader, Hr.bind_ok (Hr.modify_apply _ r), Hr.bind_ok (Hr.get_apply _), cookie_eq]
  by_cases hvalid : (msgType &&& 0xc000 = 0 ∧ msgLength.toNat % 4 = 0) ∧
      (r.fAllowLegacyFormat = true ∨ word32 (tid.toList.take 4) = STUN_COOKIE)
  · rw [Hr.bind_ok (Hr.chkIf_false (by simp [mod4_eq_zero, ← Bool.not_eq_true]; tauto) _ _),
      Hr.bind_ok (Hr.modify_apply _ _)]
    by_cases hlen : msgLength.toNat ≤ 800
    · rw [Hr.bind_ok (Hr.chkIf_false (by simpa [MAX_STUN_MESSAGE_SIZE] using hlen) _ _),
        Hr.bind_ok (Hr.modify_apply _ _), Hr.chkIf_false (classOfType_ne_invalid _)]
      exact ⟨fun _ => rfl, fun h => absurd ⟨hvalid.1.1, hvalid.1.2, hlen, hvalid.2⟩ h⟩
    · rw [Hr.bind_error (Hr.chkIf_true (by simpa [MAX_STUN_MESSAGE_SIZE] using hlen) _ _)]
      exact ⟨fun h => absurd h.2.2.1 hlen, fun _ => ⟨_, _, rfl⟩⟩
  · rw [Hr.bind_error (Hr.chkIf_true (by simp [mod4_eq_zero, ← Bool.not_eq_true]; tauto) _ _)]
    exact ⟨fun h => absurd ⟨⟨h.1, h.2.1⟩, h.2.2.2⟩ hvalid, fun _ => ⟨_, _, rfl⟩⟩

theorem take_slice (b : List UInt8) : (slice b 4 16).take 4 = slice b 4 4 := by
  rw [slice, List.take_take, slice]
  rfl

theorem headerOk_iff {fAllow : Bool} {b : List UInt8} (hb : 20 ≤ b.length)
    {tid : StunTransactionId} (ht : tid.toList = slice b 4 16) :
    HeaderFieldsOk fAllow (typeFieldOf b) (lengthFieldOf b) tid ↔ HeaderOk fAllow b := by
  rw [HeaderFieldsOk, ht, take_slice]
  exact ⟨fun h => ⟨hb, h.1, h.2.1, h.2.2.1, h.2.2.2⟩,
    fun h => ⟨h.high, h.aligned, h.length_le, h.cookie⟩⟩

/-- Of the twenty bytes read, the fields are checked and stored. -/
theorem readHeader_eq {r : CStunMessageReader} (hw : r.stream.Wf)
    (hb : 20 ≤ r.stream.bytes.length) :
    ∃ tid : StunTransactionId, tid.toList = slice r.stream.bytes 4 16 ∧
      readHeader r = storeHeader (typeFieldOf r.stream.bytes) (lengthFieldOf r.stream.bytes) tid
        (r.withStream (r.stream.moveTo 20)) := by
  set s := r.stream with hs
  obtain ⟨tid, hread, htid⟩ := CDataStream.read_ok hw (by omega : 4 + 16 ≤ s.bytes.length) (by decide)
  have hr : r = r.withStream (s.moveTo s.pos) := rfl
  refine ⟨tid, htid, ?_⟩
  rw [readHeader, hr, Hr.bind_ok (onStream_ok r (CDataStream.seekDirect_ok hw (Nat.zero_le _))),
    Hr.bind_ok (onStream_ok r (CDataStream.readUint16_ok hw (by omega) (by omega))),
    Hr.bind_ok (onStream_ok r (CDataStream.readUint16_ok hw (by omega) (by omega))),
    Hr.bind_ok (onStream_ok r hread), ntohs_load16 (slice_length (by omega)),
    ntohs_load16 (slice_length (by omega))]
  rfl

/-! ### The body -/

/-- The fields that reading the body leaves alone. -/
def headerFields (r : CStunMessageReader) :=
  (r.state, r.fAllowLegacyFormat, r.fMessageIsLegacyFormat, r.transactionid,
    r.msgTypeNormalized, r.msgClass, r.msgLength)

/-- The records `rs` at the front of the body of `s` have been read. -/
structure Reading (r : CStunMessageReader) (s : CDataStream) (rs : List Record) : Prop where
  stream : r.stream = s.moveTo (20 + sizeAll rs)
  fits : 20 + sizeAll rs ≤ s.bytes.length
  table : r.TableHolds rs

theorem paddingLength_eq (n : ℕ) : (if n % 4 ≠ 0 then 4 - n % 4 else 0) = padLen n := by
  unfold padLen
  split_ifs <;> omega

theorem insertAttribute_ok {r : CStunMessageReader} {attrib : StunAttribute}
    {table : FastHash UInt16 StunAttribute}
    (h : r.mapAttributes.insert attrib.attributeType attrib = (1, table)) :
    insertAttribute attrib r = .ok () { r with mapAttributes := table } := by
  simp [insertAttribute, h]

theorem insertAttribute_error {r : CStunMessageReader} {attrib : StunAttribute}
    {table : FastHash UInt16 StunAttribute}
    (h : r.mapAttributes.insert attrib.attributeType attrib = (-1, table)) :
    insertAttribute attrib r = .error E_FAIL { r with mapAttributes := table } := by
  simp [insertAttribute, h]

theorem insertAttribute_cases (attrib : StunAttribute) (r : CStunMessageReader) :
    ∃ table, insertAttribute attrib r = .ok () { r with mapAttributes := table } ∨
      insertAttribute attrib r = .error E_FAIL { r with mapAttributes := table } := by
  refine ⟨(r.mapAttributes.insert attrib.attributeType attrib).2, ?_⟩
  by_cases h : (r.mapAttributes.insert attrib.attributeType attrib).1 ≥ 0
  · exact Or.inl (if_pos h)
  · exact Or.inr (if_neg h)

section

variable {s : CDataStream} {r : CStunMessageReader} {rs : List Record}

/-- Skipping forward inside the stream. -/
theorem skip_ok (hw : s.Wf) (hlen : s.bytes.length < 2 ^ 63) {p n : ℕ}
    (hn : p + n ≤ s.bytes.length) (r : CStunMessageReader) :
    onStream (CDataStream.seekRelative n) (r.withStream (s.moveTo p)) =
      .ok () (r.withStream (s.moveTo (p + n))) := by
  refine onStream_ok r ?_
  rw [CDataStream.seekRelative_nat (by rw [CDataStream.pos_moveTo]; omega), CDataStream.pos_moveTo]
  exact CDataStream.seekDirect_ok hw hn

theorem skip_error (hw : s.Wf) {p n : ℕ} (hb : p + n < 2 ^ 64) (hn : s.bytes.length < p + n)
    (r : CStunMessageReader) :
    onStream (CDataStream.seekRelative n) (r.withStream (s.moveTo p)) =
      .error E_FAIL (r.withStream (s.moveTo p)) := by
  refine onStream_error r ?_
  rw [CDataStream.seekRelative_nat (by rw [CDataStream.pos_moveTo]; omega), CDataStream.pos_moveTo]
  exact CDataStream.seekDirect_error hw hn

/-- The loop of the body takes a record off the front when there is one that the limits
allow. -/
theorem storeAttribute_ok (hw : s.Wf) (hlen : s.bytes.length < 2 ^ 63) (h : r.TableHolds rs)
    {a : Record} (hfit : 20 + sizeAll rs + a.size ≤ s.bytes.length) (hv : a.value.length ≤ 780)
    (hc : rs.length < 30) :
    ∃ r', storeAttribute a.type (UInt16.ofNat a.value.length)
        (UInt16.ofNat (20 + sizeAll rs + 4)) (r.withStream (s.moveTo (20 + sizeAll rs + 4))) =
          .ok a.size r' ∧ r'.Reading s (rs ++ [a]) ∧ r'.headerFields = r.headerFields := by
  have hn : (UInt16.ofNat a.value.length).toNat = a.value.length :=
    UInt16.toNat_ofNat_of_lt' a.length_lt
  have hsize : a.size = 4 + a.value.length + padLen a.value.length := by
    rw [Record.size, a.padding_length]
  obtain ⟨table, hins, htable⟩ := h.insert_ok hc a
  set r' := CStunMessageReader.mk r.stream r.fAllowLegacyFormat r.fMessageIsLegacyFormat r.state
    table
    (if a.type = STUN_ATTRIBUTE_FINGERPRINT then r.countAttributes else r.indexFingerprint)
    (if a.type = STUN_ATTRIBUTE_MESSAGEINTEGRITY then r.countAttributes
      else r.indexMessageIntegrity)
    (r.countAttributes + 1) r.transactionid r.msgTypeNormalized r.msgClass r.msgLength
  refine ⟨r'.withStream (s.moveTo (20 + sizeAll rs + a.size)), ?_, ⟨?_, ?_, ?_⟩, rfl⟩
  · have hinsert : insertAttribute ⟨a.type, UInt16.ofNat a.value.length,
        UInt16.ofNat (20 + sizeAll rs + 4)⟩ (r.withStream (s.moveTo (20 + sizeAll rs + 4))) = _ :=
      insertAttribute_ok hins
    have hvalue := skip_ok hw hlen (p := 20 + sizeAll rs + 4) (n := a.value.length) (by omega) r'
    rw [storeAttribute, paddingLength_eq, hn,
      Hr.bind_ok (Hr.chkIf_false (by simpa [MAX_STUN_ATTRIBUTE_SIZE] using hv) _ _),
      Hr.bind_ok hinsert, Hr.bind_ok (Hr.modify_apply _ _)]
    refine (Hr.bind_ok hvalue).trans ?_
    by_cases hpad : padLen a.value.length > 0
    · have hskip := skip_ok hw hlen (p := 20 + sizeAll rs + 4 + a.value.length)
        (n := padLen a.value.length) (by omega) r'
      rw [if_pos hpad]
      refine (Hr.bind_ok hskip).trans ?_
      change EStateM.Result.ok _ _ = EStateM.Result.ok _ _
      rw [hsize, ← Nat.add_assoc, ← Nat.add_assoc]
    · rw [if_neg hpad]
      refine (Hr.bind_ok (Hr.pure_apply _ _)).trans ?_
      rw [hsize, Nat.eq_zero_of_not_pos hpad, Nat.add_zero, Nat.add_zero, ← Nat.add_assoc]
  · rw [sizeAll_append, sizeAll_cons, sizeAll_nil, withStream_stream]
    congr 1
    omega
  · rw [sizeAll_append, sizeAll_cons, sizeAll_nil]
    omega
  · exact htable.frame rfl rfl rfl rfl

/-- Too long a value, too many attributes, or a value or padding that is not all there. -/
theorem storeAttribute_error (hw : s.Wf) (hlen : s.bytes.length < 2 ^ 63) (h : r.TableHolds rs)
    {t n : UInt16} {p : ℕ} (hp : p ≤ s.bytes.length)
    (hbad : 780 < n.toNat ∨ rs.length = 30 ∨ s.bytes.length < p + n.toNat + padLen n.toNat)
    (offset : UInt16) :
    ∃ e r', storeAttribute t n offset (r.withStream (s.moveTo p)) = .error e r' := by
  have hn : n.toNat < 2 ^ 16 := n.toNat_lt
  have hpn := padLen_lt n.toNat
  rw [storeAttribute, paddingLength_eq]
  by_cases hv : n.toNat ≤ 780
  · rw [Hr.bind_ok (Hr.chkIf_false (by simpa [MAX_STUN_ATTRIBUTE_SIZE] using hv) _ _)]
    by_cases hc : rs.length = 30
    · have hfull : insertAttribute ⟨t, n, offset⟩ (r.withStream (s.moveTo p)) = _ :=
        insertAttribute_error (h.insert_full hc _ _)
      rw [Hr.bind_error hfull]
      exact ⟨_, _, rfl⟩
    · obtain ⟨table, hins | hins⟩ :=
        insertAttribute_cases ⟨t, n, offset⟩ (r.withStream (s.moveTo p))
      · rw [Hr.bind_ok hins, Hr.bind_ok (Hr.modify_apply _ _)]
        set r' := CStunMessageReader.mk r.stream r.fAllowLegacyFormat r.fMessageIsLegacyFormat
          r.state table (if t = STUN_ATTRIBUTE_FINGERPRINT then r.countAttributes
            else r.indexFingerprint)
          (if t = STUN_ATTRIBUTE_MESSAGEINTEGRITY then r.countAttributes
            else r.indexMessageIntegrity)
          (r.countAttributes + 1) r.transactionid r.msgTypeNormalized r.msgClass r.msgLength
        by_cases hvalue : s.bytes.length < p + n.toNat
        · have hskip := skip_error hw (by omega : p + n.toNat < 2 ^ 64) hvalue r'
          exact ⟨_, _, Hr.bind_error hskip⟩
        · have hskip := skip_ok hw (by omega) (by omega : p + n.toNat ≤ s.bytes.length) r'
          have hpad : padLen n.toNat > 0 := by omega
          have hfail := skip_error hw (by omega : p + n.toNat + padLen n.toNat < 2 ^ 64)
            (by omega) r'
          rw [if_pos hpad]
          exact ⟨_, _, (Hr.bind_ok hskip).trans (Hr.bind_error hfail)⟩
      · exact ⟨_, _, Hr.bind_error hins⟩
  · rw [Hr.bind_error (Hr.chkIf_true (by simpa [MAX_STUN_ATTRIBUTE_SIZE] using hv) _ _)]
    exact ⟨_, _, rfl⟩

/-- The next turn of the loop succeeds on a record that the limits allow. -/
theorem readAttribute_ok (hw : s.Wf) (hlen : s.bytes.length < 2 ^ 63) (h : r.Reading s rs)
    {a : Record} {rest : List UInt8} (hd : s.bytes.drop (20 + sizeAll rs) = a.encode ++ rest)
    (hv : a.value.length ≤ 780) (hc : rs.length < 30) :
    ∃ r', readAttribute r = .ok a.size r' ∧ r'.Reading s (rs ++ [a]) ∧
      r'.headerFields = r.headerFields := by
  have hsz := congrArg List.length hd
  have h4 := a.four_le_size
  simp only [List.length_drop, List.length_append, a.encode_length] at hsz
  obtain ⟨ht, hn⟩ := header_of_encode a rest
  rw [← hd, slice_drop, Nat.add_zero] at ht
  rw [← hd, slice_drop] at hn
  have hr : r = r.withStream (s.moveTo (20 + sizeAll rs)) := by rw [← h.stream]; rfl
  obtain ⟨r', hstore, hreading, hsame⟩ := storeAttribute_ok hw hlen h.table (a := a) (by omega) hv hc
  refine ⟨r', ?_, hreading, hsame⟩
  rw [readAttribute, hr, Hr.bind_ok (onStream_ok r (CDataStream.readUint16_ok hw (by omega) (by omega))),
    Hr.bind_ok (onStream_ok r (CDataStream.readUint16_ok hw (by omega) (by omega))),
    Hr.bind_ok (Hr.get_apply _), ntohs_load16 (slice_length (by omega)),
    ntohs_load16 (slice_length (by omega)), ht]
  have hlength : word16 (slice s.bytes (20 + sizeAll rs + 2) 2) = UInt16.ofNat a.value.length := by
    rw [← hn, UInt16.ofNat_toNat]
  rw [hlength]
  exact hstore

theorem readAttribute_error (hw : s.Wf) (hlen : s.bytes.length < 2 ^ 63) (h : r.Reading s rs)
    (hbad : ∀ (a : Record) (rest : List UInt8), s.bytes.drop (20 + sizeAll rs) = a.encode ++ rest →
      780 < a.value.length ∨ rs.length = 30) :
    ∃ e r', readAttribute r = .error e r' := by
  set p := 20 + sizeAll rs with hp
  have hr : r = r.withStream (s.moveTo p) := by rw [← h.stream]; rfl
  have hple := h.fits
  rw [readAttribute, hr]
  by_cases h2 : s.bytes.length < p + 2
  · exact ⟨_, _, Hr.bind_error (onStream_error r (CDataStream.readUint16_error hw h2 (by omega)))⟩
  rw [Hr.bind_ok (onStream_ok r (CDataStream.readUint16_ok hw (by omega) (by omega)))]
  by_cases h4 : s.bytes.length < p + 2 + 2
  · exact ⟨_, _, Hr.bind_error (onStream_error r (CDataStream.readUint16_error hw h4 (by omega)))⟩
  rw [Hr.bind_ok (onStream_ok r (CDataStream.readUint16_ok hw (by omega) (by omega))),
    Hr.bind_ok (Hr.get_apply _), ntohs_load16 (slice_length (by omega)),
    ntohs_load16 (slice_length (by omega))]
  refine storeAttribute_error hw hlen h.table (by omega) ?_ _
  cases hd : decodeOne (s.bytes.drop p) with
  | none =>
    rw [decodeOne_eq_none, slice_drop, List.length_drop] at hd
    exact Or.inr (Or.inr (by omega))
  | some found =>
    obtain ⟨a, rest⟩ := found
    have he := decodeOne_eq_some.mp hd
    obtain ⟨-, hn⟩ := header_of_encode a rest
    rw [← he, slice_drop] at hn
    rw [hn]
    rcases hbad a rest he with hv | hc
    · exact Or.inl hv
    · exact Or.inr (Or.inl hc)

/-- The bytes are records that the limits still allow after `k` others. -/
def Rest (k : ℕ) (xs : List UInt8) (rs : List Record) : Prop :=
  xs = encodeAll rs ∧ (∀ a ∈ rs, a.value.length ≤ 780) ∧ k + rs.length ≤ 30

/-- Reading on past one record. -/
theorem rest_cons {k : ℕ} {a : Record} {rest : List UInt8} {rs' : List Record} :
    Rest k (a.encode ++ rest) rs' ↔
      ∃ rs'', rs' = a :: rs'' ∧ a.value.length ≤ 780 ∧ Rest (k + 1) rest rs'' := by
  constructor
  · rintro ⟨he, hv, hc⟩
    cases rs' with
    | nil =>
      have hl := congrArg List.length he
      have h4 := a.four_le_size
      simp only [List.length_append, a.encode_length, encodeAll_nil, List.length_nil] at hl
      omega
    | cons a' rs'' =>
      rw [encodeAll_cons] at he
      obtain ⟨rfl, hrest⟩ := Record.encode_append_inj he
      rw [List.length_cons] at hc
      exact ⟨rs'', rfl, hv a (by simp), hrest, fun x hx => hv x (by simp [hx]), by omega⟩
  · rintro ⟨rs'', rfl, hv, hrest, hvs, hc⟩
    refine ⟨by rw [encodeAll_cons, hrest], ?_, by rw [List.length_cons]; omega⟩
    intro x hx
    rcases List.mem_cons.mp hx with rfl | hx
    · exact hv
    · exact hvs x hx

theorem readBodyLoop_done {size consumed : ℕ} (h : size ≤ consumed) (fuel : ℕ)
    (r : CStunMessageReader) : readBodyLoop size fuel consumed r = (consumed, r) := by
  cases fuel with
  | zero => rfl
  | succ fuel => rw [readBodyLoop, if_neg (by omega)]

/-- What the loop does from `k` records on: it reads the rest of the body when that is a
sequence of records within the limits, and stops early when it is not. -/
def LoopOutcome (s : CDataStream) (r : CStunMessageReader) (rs : List Record)
    (out : ℕ × CStunMessageReader) : Prop :=
  (∃ rs', Rest rs.length (s.bytes.drop (20 + sizeAll rs)) rs' ∧ out.1 = s.bytes.length ∧
    out.2.Reading s (rs ++ rs') ∧ out.2.headerFields = r.headerFields) ∨
  ((∀ rs', ¬Rest rs.length (s.bytes.drop (20 + sizeAll rs)) rs') ∧ out.1 < s.bytes.length)

theorem loopOutcome_done (h : r.Reading s rs) (hdone : s.bytes.length ≤ 20 + sizeAll rs) :
    LoopOutcome s r rs (20 + sizeAll rs, r) := by
  refine Or.inl ⟨[], ⟨?_, by simp, h.table.length_le⟩, Nat.le_antisymm h.fits hdone, ?_, rfl⟩
  · rw [List.drop_of_length_le hdone, encodeAll_nil]
  · rwa [List.append_nil]

/-- One turn on a good record passes on what the later turns do. -/
theorem loopOutcome_cons {a : Record} {rest : List UInt8} {r₁ : CStunMessageReader}
    {out : ℕ × CStunMessageReader} (hd : s.bytes.drop (20 + sizeAll rs) = a.encode ++ rest)
    (hv : a.value.length ≤ 780) (hsame : r₁.headerFields = r.headerFields)
    (h : LoopOutcome s r₁ (rs ++ [a]) out) : LoopOutcome s r rs out := by
  have hrest : s.bytes.drop (20 + sizeAll (rs ++ [a])) = rest := by
    rw [sizeAll_append, sizeAll_cons, sizeAll_nil, Nat.add_zero, ← Nat.add_assoc,
      ← List.drop_drop, hd, ← a.encode_length, List.drop_left]
  have hk : (rs ++ [a]).length = rs.length + 1 := by simp
  rw [LoopOutcome, hrest, hk] at h
  rw [LoopOutcome, hd]
  rcases h with ⟨rs', hr, hn, hreading, hfields⟩ | ⟨hnone, hn⟩
  · refine Or.inl ⟨a :: rs', rest_cons.mpr ⟨rs', rfl, hv, hr⟩, hn, ?_, hfields.trans hsame⟩
    rwa [List.append_assoc, List.singleton_append] at hreading
  · refine Or.inr ⟨fun rs' hr => ?_, hn⟩
    obtain ⟨rs'', -, -, hr'⟩ := rest_cons.mp hr
    exact hnone rs'' hr'

theorem readBodyLoop_spec (hw : s.Wf) (hlen : s.bytes.length < 2 ^ 63) (h : r.Reading s rs)
    {fuel : ℕ} (hf : s.bytes.length ≤ fuel + (20 + sizeAll rs)) :
    LoopOutcome s r rs (readBodyLoop s.bytes.length fuel (20 + sizeAll rs) r) := by
  induction fuel generalizing r rs with
  | zero => exact loopOutcome_done h (by omega)
  | succ fuel ih =>
    by_cases hdone : s.bytes.length ≤ 20 + sizeAll rs
    · rw [readBodyLoop_done hdone]
      exact loopOutcome_done h hdone
    rw [readBodyLoop, if_pos (by omega)]
    by_cases hgood : ∃ (a : Record) (rest : List UInt8), s.bytes.drop (20 + sizeAll rs) =
        a.encode ++ rest ∧ a.value.length ≤ 780 ∧ rs.length < 30
    · obtain ⟨a, rest, hd, hv, hc⟩ := hgood
      obtain ⟨r₁, hread, hreading, hsame⟩ := readAttribute_ok hw hlen h hd hv hc
      have hsize : 20 + sizeAll rs + a.size = 20 + sizeAll (rs ++ [a]) := by
        simp [Nat.add_assoc]
      have h4 := a.four_le_size
      have hout := ih hreading (by omega)
      simp only [hread, hsize]
      exact loopOutcome_cons hd hv hsame hout
    · -- a record beyond the limits, or none at all, ends the loop
      have hbad : ∀ (a : Record) (rest : List UInt8), s.bytes.drop (20 + sizeAll rs) =
          a.encode ++ rest → 780 < a.value.length ∨ rs.length = 30 := by
        intro a rest hd
        by_contra hcon
        have hle := h.table.length_le
        exact hgood ⟨a, rest, hd, by omega, by omega⟩
      obtain ⟨e, r₁, hread⟩ := readAttribute_error hw hlen h hbad
      simp only [hread]
      refine Or.inr ⟨?_, by omega⟩
      intro rs' hr
      cases rs' with
      | nil =>
        have hl := congrArg List.length hr.1
        simp only [List.length_drop, encodeAll_nil, List.length_nil] at hl
        omega
      | cons a rs'' =>
        have hd := hr.1
        rw [encodeAll_cons] at hd
        have hva := hr.2.1 a (by simp)
        have hcount := hr.2.2
        rw [List.length_cons] at hcount
        rcases hbad a _ hd with hv | hc <;> omega

/-- `ReadBody` accepts exactly the bodies of the grammar. -/
theorem readBody_spec (hlen : r.stream.bytes.length < 2 ^ 63) (hw : r.stream.Wf)
    (hb : 20 ≤ r.stream.bytes.length) (ht : r.TableHolds []) :
    (∃ rs r', Rest 0 (r.stream.bytes.drop 20) rs ∧ readBody r = .ok () r' ∧
      r'.Reading r.stream rs ∧ r'.headerFields = r.headerFields) ∨
    ((∀ rs, ¬Rest 0 (r.stream.bytes.drop 20) rs) ∧ ∃ e r', readBody r = .error e r') := by
  set s := r.stream with hs
  have hr : r = r.withStream (s.moveTo s.pos) := rfl
  have hseek : onStream (CDataStream.seekDirect STUN_HEADER_SIZE) r = _ :=
    onStream_ok r (CDataStream.seekDirect_ok (p := s.pos) hw hb)
  have hstart : (r.withStream (s.moveTo 20)).Reading s [] :=
    ⟨rfl, hb, ht.frame rfl rfl rfl rfl⟩
  have hout := readBodyLoop_spec hw hlen hstart
    (by omega : s.bytes.length ≤ s.bytes.length + (20 + sizeAll []))
  rw [readBody, Hr.bind_ok (Hr.get_apply _), Hr.bind_ok hseek, Hr.bind_ok (Hr.get_apply _), ← hs,
    ← hw.bytes_length]
  change LoopOutcome s _ _ (readBodyLoop s.bytes.length s.bytes.length STUN_HEADER_SIZE
    (r.withStream (s.moveTo STUN_HEADER_SIZE))) at hout
  revert hout
  cases readBodyLoop s.bytes.length s.bytes.length STUN_HEADER_SIZE
    (r.withStream (s.moveTo STUN_HEADER_SIZE)) with
  | mk n r' =>
    rintro (⟨rs, hrest, hn, hreading, hfields⟩ | ⟨hnone, hn⟩)
    · refine Or.inl ⟨rs, r', hrest, ?_, hreading, hfields⟩
      exact (Hr.bind_ok (Hr.set_apply r' _)).trans (Hr.chkIf_false (fun hne => hne hn) _ _)
    · refine Or.inr ⟨hnone, E_FAIL, r', ?_⟩
      exact (Hr.bind_ok (Hr.set_apply r' _)).trans (Hr.chkIf_true (Nat.ne_of_lt hn) _ _)

end

end StunServer.CStunMessageReader

import StunServer.Proofs.ReaderParse

/-! What the reader knows after it has been fed some bytes depends on the bytes alone,
however they were cut: `Fed` describes it, `addBytes_fed` is the step and
`feed_fed` the run. -/

namespace StunServer.CStunMessageReader

open Bytes Tlv

/-- The fields set from the bytes of the header. -/
structure HeaderRead (r : CStunMessageReader) (b : List UInt8) : Prop where
  type : r.msgTypeNormalized = normalizeType (typeFieldOf b)
  cls : r.msgClass = classOfType (typeFieldOf b)
  tid : r.transactionid.toList = slice b 4 16
  legacy : r.fMessageIsLegacyFormat = !(word32 (slice b 4 4) = STUN_COOKIE)
  length : r.msgLength = lengthFieldOf b

/-- The stream holds the bytes fed so far. -/
structure Stored (r : CStunMessageReader) (b : List UInt8) : Prop where
  wf : r.stream.Wf
  bytes : r.stream.bytes = b
  grow : r.stream.fNoGrow = false

/-- The reader holds a whole message. -/
structure Parsed (r : CStunMessageReader) (m : Message) : Prop where
  state : r.state = .bodyValidated
  stored : r.Stored m.encode
  type : r.msgTypeNormalized = m.method
  cls : r.msgClass = m.cls
  tid : r.transactionid = m.tid
  legacy : r.fMessageIsLegacyFormat = m.isLegacy
  length : r.msgLength.toNat = sizeAll m.attrs
  table : r.TableHolds m.attrs

/-- Enough bytes for a header, and neither the start of a message nor a whole one. -/
def Rejected (fAllow : Bool) (b : List UInt8) : Prop :=
  20 ≤ b.length ∧ ¬(HeaderOk fAllow b ∧ b.length < 20 + (lengthFieldOf b).toNat) ∧
    ¬Accepted fAllow b

inductive Fed (fAllow : Bool) (r : CStunMessageReader) (b : List UInt8) : Prop where
  | headerNotRead (state : r.state = .headerNotRead) (allow : r.fAllowLegacyFormat = fAllow)
      (stored : r.Stored b) (table : r.TableHolds []) (short : b.length < 20)
  | headerValidated (state : r.state = .headerValidated) (stored : r.Stored b)
      (table : r.TableHolds []) (header : HeaderOk fAllow b) (read : r.HeaderRead b)
      (short : b.length < 20 + (lengthFieldOf b).toNat)
  | bodyValidated (m : Message) (encode : m.encode = b) (accepted : Accepted fAllow b)
      (parsed : r.Parsed m)
  | parseError (state : r.state = .parseError) (rejected : Rejected fAllow b)

/-! ### More bytes behind a header -/

theorem slice_append_header {b : List UInt8} (hb : 20 ≤ b.length) (c : List UInt8) {off n : ℕ}
    (h : off + n ≤ 20) : slice (b ++ c) off n = slice b off n := slice_prefix b c (by omega)

theorem typeFieldOf_append {b : List UInt8} (hb : 20 ≤ b.length) (c : List UInt8) :
    typeFieldOf (b ++ c) = typeFieldOf b := by
  rw [typeFieldOf, typeFieldOf, slice_append_header hb c (by omega)]

theorem lengthFieldOf_append {b : List UInt8} (hb : 20 ≤ b.length) (c : List UInt8) :
    lengthFieldOf (b ++ c) = lengthFieldOf b := by
  rw [lengthFieldOf, lengthFieldOf, slice_append_header hb c (by omega)]

theorem headerOk_append {fAllow : Bool} {b : List UInt8} (hb : 20 ≤ b.length) (c : List UInt8) :
    HeaderOk fAllow (b ++ c) ↔ HeaderOk fAllow b := by
  have ht := typeFieldOf_append hb c
  have hl := lengthFieldOf_append hb c
  have hk := slice_append_header hb c (show 4 + 4 ≤ 20 by omega)
  constructor
  · rintro ⟨-, h1, h2, h3, h4⟩
    rw [ht] at h1
    rw [hl] at h2 h3
    rw [hk] at h4
    exact ⟨hb, h1, h2, h3, h4⟩
  · rintro ⟨-, h1, h2, h3, h4⟩
    refine ⟨by rw [List.length_append]; omega, ?_, ?_, ?_, ?_⟩
    · rwa [ht]
    · rwa [hl]
    · rwa [hl]
    · rwa [hk]

theorem HeaderRead.append {r : CStunMessageReader} {b : List UInt8} (h : r.HeaderRead b)
    (hb : 20 ≤ b.length) (c : List UInt8) : r.HeaderRead (b ++ c) where
  type := by rw [h.type, typeFieldOf_append hb c]
  cls := by rw [h.cls, typeFieldOf_append hb c]
  tid := by rw [h.tid, slice_append_header hb c (by omega)]
  legacy := by rw [h.legacy, slice_append_header hb c (by omega)]
  length := by rw [h.length, lengthFieldOf_append hb c]

theorem HeaderRead.frame {r r' : CStunMessageReader} {b : List UInt8} (h : r.HeaderRead b)
    (hf : r'.headerFields = r.headerFields) : r'.HeaderRead b := by
  simp only [headerFields, Prod.mk.injEq] at hf
  obtain ⟨-, -, hlegacy, htid, htype, hcls, hlength⟩ := hf
  exact ⟨htype ▸ h.type, hcls ▸ h.cls, htid ▸ h.tid, hlegacy ▸ h.legacy, hlength ▸ h.length⟩

theorem headerRead_withHeader {r : CStunMessageReader} {b : List UInt8} {tid : StunTransactionId}
    (ht : tid.toList = slice b 4 16) :
    (r.withHeader (typeFieldOf b) (lengthFieldOf b) tid).HeaderRead b where
  type := rfl
  cls := rfl
  tid := ht
  legacy := by
    rw [← take_slice, ← ht]
    rfl
  length := rfl

/-- Nothing can be added to a message that is complete. -/
theorem rejected_append {fAllow : Bool} {b c : List UInt8} (hc : c ≠ [])
    (h : Rejected fAllow b ∨ Accepted fAllow b) : Rejected fAllow (b ++ c) := by
  have hb : 20 ≤ b.length := by
    rcases h with h | h
    · exact h.1
    · exact h.header.complete
  have hpos : 0 < c.length := List.length_pos_iff.mpr hc
  have hlen : (b ++ c).length = b.length + c.length := List.length_append
  refine ⟨by omega, ?_, ?_⟩
  · rw [headerOk_append hb, lengthFieldOf_append hb]
    rintro ⟨hok, hshort⟩
    rcases h with h | h
    · exact h.2.1 ⟨hok, by omega⟩
    · have := h.length_eq
      omega
  · intro hacc
    have heq := hacc.length_eq
    have hok := hacc.header
    rw [lengthFieldOf_append hb] at heq
    rw [headerOk_append hb] at hok
    rcases h with h | h
    · exact h.2.1 ⟨hok, by omega⟩
    · have := h.length_eq
      omega

/-! ### The blocks of `AddBytes` -/

section

variable {fAllow : Bool} {r : CStunMessageReader} {b : List UInt8}

theorem Stored.getSize (h : r.Stored b) : r.stream.getSize = b.length := by
  rw [← h.wf.bytes_length, h.bytes]

/-- What the header says and the records of the body make up a message. -/
theorem exists_parsed {rs : List Record} (hstate : r.state = .bodyValidated) (hs : r.Stored b)
    (hacc : Accepted fAllow b) (hr : r.HeaderRead b) (hrs : b.drop 20 = encodeAll rs)
    (ht : r.TableHolds rs) : ∃ m : Message, m.encode = b ∧ r.Parsed m := by
  obtain ⟨m, rfl⟩ := hacc.exists_message
  have hattrs : m.attrs = rs := encodeAll_inj (m.drop_encode.symm.trans hrs)
  have htid := hr.tid
  rw [m.tid_encode] at htid
  refine ⟨m, rfl, hstate, hs, ?_, ?_, List.Vector.toList_injective htid, ?_, ?_, ?_⟩
  · rw [hr.type, m.typeFieldOf_encode, Message.typeField, normalizeType_mergeType m.isMethod]
  · rw [hr.cls, m.typeFieldOf_encode, Message.typeField, classOfType_mergeType _ m.cls_ne]
  · rw [hr.legacy, Message.isLegacy, ← take_slice, m.tid_encode]
  · rw [hr.length, m.lengthFieldOf_encode]
  · rwa [hattrs]

theorem bodyOk_iff : BodyOk b ↔ ∃ rs, Rest 0 (b.drop 20) rs := by
  simp only [BodyOk, Rest, Nat.zero_add]

theorem parseHeaderBlock_of_ne (h : r.state ≠ .headerNotRead) : parseHeaderBlock r = r :=
  if_neg fun hc => h hc.1

theorem parseBodyBlock_of_ne (h : r.state ≠ .headerValidated) : parseBodyBlock r = r :=
  if_neg fun hc => h hc.1

theorem surplusBlock_of_ne (h : r.state ≠ .bodyValidated) : surplusBlock r = r :=
  if_neg fun hc => h hc.1

theorem fed_parseError (hstate : r.state = .parseError) (h : Rejected fAllow b) :
    Fed fAllow (surplusBlock (parseBodyBlock r)) b := by
  rw [parseBodyBlock_of_ne (by simp [hstate]), surplusBlock_of_ne (by simp [hstate])]
  exact .parseError hstate h

/-- Once the body is in, a message of exactly the length announced is complete and a
longer one is an error. -/
theorem fed_surplus {rs : List Record} (hstate : r.state = .bodyValidated) (hs : r.Stored b)
    (hok : HeaderOk fAllow b) (hr : r.HeaderRead b) (hle : 20 + (lengthFieldOf b).toNat ≤ b.length)
    (hbody : b.length = 20 + (lengthFieldOf b).toNat →
      Rest 0 (b.drop 20) rs ∧ r.TableHolds rs) : Fed fAllow (surplusBlock r) b := by
  have hsize := hs.getSize
  have hlength : r.msgLength.toNat = (lengthFieldOf b).toNat := by rw [hr.length]
  by_cases heq : b.length = 20 + (lengthFieldOf b).toNat
  · obtain ⟨hrest, ht⟩ := hbody heq
    have hacc : Accepted fAllow b := ⟨hok, heq, bodyOk_iff.mpr ⟨rs, hrest⟩⟩
    have hnot : surplusBlock r = r :=
      if_neg fun hc => by
        have := hc.2
        rw [hsize, hlength, STUN_HEADER_SIZE] at this
        omega
    obtain ⟨m, hm, hparsed⟩ := exists_parsed hstate hs hacc hr hrest.1 ht
    rw [hnot]
    exact .bodyValidated m hm hacc hparsed
  · have hgt : surplusBlock r = { r with state := .parseError } :=
      if_pos ⟨hstate, by rw [hsize, hlength, STUN_HEADER_SIZE]; omega⟩
    rw [hgt]
    exact .parseError rfl ⟨by omega, fun hc => by omega, fun hc => heq hc.length_eq⟩

/-- The body is read when all of it is there. -/
theorem fed_body (hstate : r.state = .headerValidated) (hs : r.Stored b) (ht : r.TableHolds [])
    (hok : HeaderOk fAllow b) (hr : r.HeaderRead b) (hlen : b.length < 2 ^ 63) :
    Fed fAllow (surplusBlock (parseBodyBlock r)) b := by
  have hsize := hs.getSize
  have hlength : r.msgLength.toNat = (lengthFieldOf b).toNat := by rw [hr.length]
  have hb := hs.bytes
  unfold parseBodyBlock
  rw [hsize, hlength, STUN_HEADER_SIZE]
  by_cases hshort : b.length < 20 + (lengthFieldOf b).toNat
  · rw [if_neg (by omega), surplusBlock_of_ne (by simp [hstate])]
    exact .headerValidated hstate hs ht hok hr hshort
  rw [if_pos ⟨hstate, by omega⟩]
  by_cases heq : b.length = (lengthFieldOf b).toNat + 20
  · rw [if_pos heq]
    rcases readBody_spec (by rwa [hb]) hs.wf (by rw [hb]; exact hok.complete) ht with
      ⟨rs, r', hrest, hread, hreading, hfields⟩ | ⟨hnone, e, r', hread⟩
    · simp only [hread]
      rw [hb] at hrest
      refine fed_surplus rfl ⟨?_, ?_, ?_⟩ hok ?_ (by omega) fun _ => ⟨hrest, ?_⟩
      · rw [hreading.stream]
        exact hs.wf.moveTo hreading.fits
      · rw [hreading.stream, CDataStream.bytes_moveTo, hb]
      · rw [hreading.stream]
        exact hs.grow
      · obtain ⟨h1, h2, h3, h4, h5⟩ := hr.frame hfields
        exact ⟨h1, h2, h3, h4, h5⟩
      · exact hreading.table.frame rfl rfl rfl rfl
    · simp only [hread]
      rw [surplusBlock_of_ne (by simp)]
      refine .parseError rfl ⟨by omega, fun hc => hshort hc.2, fun hacc => ?_⟩
      obtain ⟨rs, hrs⟩ := bodyOk_iff.mp hacc.body
      exact hnone rs (by rwa [hb])
  · rw [if_neg heq, surplusBlock_of_ne (by simp)]
    exact .parseError rfl ⟨by omega, fun hc => by omega, fun hacc => heq (by
      rw [hacc.length_eq, Nat.add_comm])⟩

/-- The three blocks, from a reader that has not seen a header. -/
theorem fed_header (hstate : r.state = .headerNotRead) (hallow : r.fAllowLegacyFormat = fAllow)
    (hs : r.Stored b) (ht : r.TableHolds []) (hlen : b.length < 2 ^ 63) :
    Fed fAllow (surplusBlock (parseBodyBlock (parseHeaderBlock r))) b := by
  have hsize := hs.getSize
  have hb := hs.bytes
  unfold parseHeaderBlock
  rw [hsize, STUN_HEADER_SIZE]
  by_cases hshort : b.length < 20
  · rw [if_neg (by omega), parseBodyBlock_of_ne (by simp [hstate]),
      surplusBlock_of_ne (by simp [hstate])]
    exact .headerNotRead hstate hallow hs ht hshort
  rw [if_pos ⟨hstate, by omega⟩]
  obtain ⟨tid, htid, hread⟩ := readHeader_eq hs.wf (by rw [hb]; omega)
  rw [hb] at htid hread
  obtain ⟨hyes, hno⟩ := storeHeader_spec (r.withStream (r.stream.moveTo 20)) (typeFieldOf b)
    (lengthFieldOf b) tid
  have hiff : HeaderFieldsOk (r.withStream (r.stream.moveTo 20)).fAllowLegacyFormat
      (typeFieldOf b) (lengthFieldOf b) tid ↔ HeaderOk fAllow b := by
    rw [← hallow]
    exact headerOk_iff (by omega) htid
  by_cases hok : HeaderOk fAllow b
  · rw [hread, hyes (hiff.mpr hok)]
    set r₁ := (r.withStream (r.stream.moveTo 20)).withHeader (typeFieldOf b) (lengthFieldOf b) tid
    have hs₁ : r₁.Stored b := ⟨hs.wf.moveTo (by rw [hb]; omega), hb, hs.grow⟩
    obtain ⟨h1, h2, h3, h4, h5⟩ : r₁.HeaderRead b := headerRead_withHeader htid
    change Fed fAllow (surplusBlock (parseBodyBlock (if r₁.msgLength = 0 then
      { r₁ with state := .bodyValidated } else { r₁ with state := .headerValidated }))) b
    by_cases hzero : lengthFieldOf b = 0
    · have hzero' : (lengthFieldOf b).toNat = 0 := by rw [hzero]; rfl
      rw [if_pos (h5.trans hzero), parseBodyBlock_of_ne (by simp)]
      refine fed_surplus rfl ⟨hs₁.wf, hs₁.bytes, hs₁.grow⟩ hok ⟨h1, h2, h3, h4, h5⟩
        (by omega) fun heq => ⟨⟨?_, by simp, by simp⟩, ht.frame rfl rfl rfl rfl⟩
      rw [encodeAll_nil, List.drop_eq_nil_iff]
      omega
    · rw [if_neg (by rwa [h5])]
      exact fed_body rfl ⟨hs₁.wf, hs₁.bytes, hs₁.grow⟩ (ht.frame rfl rfl rfl rfl) hok
        ⟨h1, h2, h3, h4, h5⟩ hlen
  · obtain ⟨e, r', herr⟩ := hno fun hc => hok (hiff.mp hc)
    rw [hread, herr]
    exact fed_parseError rfl ⟨by omega, fun hc => hok hc.1, fun hacc => hok hacc.header⟩

end

/-! ### One call and whole runs -/

section

variable {fAllow : Bool} {r : CStunMessageReader} {b c : List UInt8}

theorem seek_end (hs : r.Stored b) : onStream (CDataStream.seekDirect r.stream.getSize) r =
    .ok () (r.withStream (r.stream.moveTo r.stream.bytes.length)) := by
  have hlen : r.stream.getSize = r.stream.bytes.length := by rw [hs.getSize, hs.bytes]
  rw [hlen]
  exact onStream_ok r (CDataStream.seekDirect_ok (p := r.stream.pos) hs.wf (Nat.le_refl _))

/-- What `AddBytes` writes goes behind what the stream holds. -/
theorem write_stored (hs : r.Stored b) (hc : c ≠ []) :
    ∃ s', onStream (CDataStream.write (some c) c.length)
        (Hr.after (onStream (CDataStream.seekDirect r.stream.getSize)) r) =
          .ok () (r.withStream s') ∧ (r.withStream s').Stored (b ++ c) := by
  have hend : (r.stream.moveTo r.stream.bytes.length).AtEnd b :=
    ⟨hs.wf.moveTo (Nat.le_refl _), hs.bytes, by rw [CDataStream.pos_moveTo, hs.bytes], hs.grow⟩
  obtain ⟨s', hwrite, hs', -⟩ := hend.write hc
  refine ⟨s', ?_, hs'.wf, hs'.bytes, hs'.grow⟩
  rw [Hr.after, seek_end hs]
  exact onStream_ok r hwrite

theorem Fed.length_lt (h : Fed fAllow r b) (hne : r.state ≠ .parseError) : b.length < 2 ^ 16 := by
  cases h with
  | headerNotRead _ _ _ _ short => omega
  | headerValidated _ _ _ header _ short =>
    have hle := header.length_le
    omega
  | bodyValidated m encode =>
    have hle := m.body_le
    rw [← encode, m.encode_length]
    omega
  | parseError state => exact absurd state hne

/-- One call of `AddBytes` takes the state of the bytes before it to the state of the
bytes with it, and returns that state. -/
theorem addBytes_fed (h : Fed fAllow r b) (hc : c ≠ []) (hlen : c.length < 2 ^ 32) :
    (r.addBytes (some c) (UInt32.ofNat c.length)).1 =
        (r.addBytes (some c) (UInt32.ofNat c.length)).2.state ∧
      Fed fAllow (r.addBytes (some c) (UInt32.ofNat c.length)).2 (b ++ c) := by
  have hn : (UInt32.ofNat c.length).toNat = c.length := UInt32.toNat_ofNat_of_lt' hlen
  have hpos : 0 < c.length := List.length_pos_iff.mpr hc
  by_cases herr : r.state = .parseError
  · rw [addBytes, if_pos herr]
    cases h with
    | headerNotRead state => exact absurd (state.symm.trans herr) (by decide)
    | headerValidated state => exact absurd (state.symm.trans herr) (by decide)
    | bodyValidated m _ _ parsed => exact absurd (parsed.state.symm.trans herr) (by decide)
    | parseError state rejected =>
      exact ⟨herr.symm, .parseError herr (rejected_append hc (Or.inl rejected))⟩
  have hb := h.length_lt herr
  have hbound : (b ++ c).length < 2 ^ 63 := by
    rw [List.length_append]
    omega
  have hsize : ¬UInt32.ofNat c.length = 0 := by
    intro h0
    rw [h0] at hn
    exact absurd hn (Nat.ne_of_lt hpos)
  have hadd : ∀ s', onStream (CDataStream.write (some c) c.length)
      (Hr.after (onStream (CDataStream.seekDirect r.stream.getSize)) r) =
        .ok () (r.withStream s') → r.addBytes (some c) (UInt32.ofNat c.length) =
      ((surplusBlock (parseBodyBlock (parseHeaderBlock (r.withStream s')))).state,
        surplusBlock (parseBodyBlock (parseHeaderBlock (r.withStream s')))) := by
    intro s' hwrite
    rw [addBytes, if_neg herr, if_neg hsize]
    simp only [hn, hwrite]
  cases h with
  | headerNotRead state allow stored table =>
    obtain ⟨s', hwrite, hs'⟩ := write_stored stored hc
    rw [hadd s' hwrite]
    exact ⟨rfl, fed_header state allow hs' (table.frame rfl rfl rfl rfl) hbound⟩
  | headerValidated state stored table header read =>
    obtain ⟨s', hwrite, hs'⟩ := write_stored stored hc
    have hstate : (r.withStream s').state = .headerValidated := state
    rw [hadd s' hwrite, parseHeaderBlock_of_ne (by simp [hstate])]
    obtain ⟨h1, h2, h3, h4, h5⟩ := read.append header.complete c
    exact ⟨rfl, fed_body state hs' (table.frame rfl rfl rfl rfl)
      ((headerOk_append header.complete c).mpr header) ⟨h1, h2, h3, h4, h5⟩ hbound⟩
  | bodyValidated m encode accepted parsed =>
    -- the message was complete: what comes now is too much
    obtain ⟨s', hwrite, hs'⟩ := write_stored parsed.stored hc
    have hstate : (r.withStream s').state = .bodyValidated := parsed.state
    rw [hadd s' hwrite, parseHeaderBlock_of_ne (by simp [hstate]),
      parseBodyBlock_of_ne (by simp [hstate])]
    have hgt : surplusBlock (r.withStream s') = { r.withStream s' with state := .parseError } := by
      refine if_pos ⟨hstate, ?_⟩
      have hl : (r.withStream s').msgLength.toNat = sizeAll m.attrs := parsed.length
      rw [hs'.getSize, hl, List.length_append, m.encode_length, STUN_HEADER_SIZE]
      omega
    rw [hgt]
    exact ⟨rfl, .parseError rfl (rejected_append hc (Or.inr accepted))⟩
  | parseError state => exact absurd state herr

/-- Feed the chunks one after the other. -/
def feed (r : CStunMessageReader) (chunks : List (List UInt8)) : CStunMessageReader :=
  chunks.foldl (fun r c => (r.addBytes (some c) (UInt32.ofNat c.length)).2) r

theorem feed_fed {chunks : List (List UInt8)} (h : Fed fAllow r b)
    (hc : ∀ c ∈ chunks, c ≠ [] ∧ c.length < 2 ^ 32) :
    Fed fAllow (r.feed chunks) (b ++ chunks.flatten) := by
  induction chunks generalizing r b with
  | nil => simpa [feed] using h
  | cons c chunks ih =>
    obtain ⟨hne, hlen⟩ := hc c (by simp)
    rw [List.flatten_cons, ← List.append_assoc]
    exact ih (addBytes_fed h hne hlen).2 fun x hx => hc x (by simp [hx])

/-- A reader whose table is empty and whose stream has no bytes has been fed nothing. -/
theorem fed_nil (hstate : r.state = .headerNotRead) (hs : r.Stored []) (ht : r.TableHolds []) :
    Fed r.fAllowLegacyFormat r [] :=
  .headerNotRead hstate rfl hs ht (by simp)

theorem fed_create : Fed true create [] :=
  fed_nil rfl ⟨CDataStream.wf_create, rfl, rfl⟩ tableHolds_create

/-! ### The state tells what was fed -/

theorem Fed.state_iff (h : Fed fAllow r b) :
    (r.state = .bodyValidated ↔ Accepted fAllow b) ∧
    (r.state = .headerNotRead ↔ b.length < 20) ∧
    (r.state = .headerValidated ↔
      HeaderOk fAllow b ∧ b.length < 20 + (lengthFieldOf b).toNat) ∧
    (r.state = .parseError ↔ Rejected fAllow b) := by
  cases h with
  | headerNotRead state _ _ _ short =>
    simp only [state, reduceCtorEq, false_iff, true_iff]
    refine ⟨fun hacc => ?_, short, fun hc => ?_, fun hrej => ?_⟩
    · have := hacc.header.complete
      omega
    · have := hc.1.complete
      omega
    · have := hrej.1
      omega
  | headerValidated state _ _ header _ short =>
    have hb := header.complete
    simp only [state, reduceCtorEq, false_iff, true_iff]
    refine ⟨fun hacc => ?_, by omega, ⟨header, short⟩, fun hrej => hrej.2.1 ⟨header, short⟩⟩
    have := hacc.length_eq
    omega
  | bodyValidated m _ accepted parsed =>
    have hb := accepted.header.complete
    have heq := accepted.length_eq
    simp only [parsed.state, reduceCtorEq, false_iff, true_iff]
    exact ⟨accepted, by omega, fun hc => by omega, fun hrej => hrej.2.2 accepted⟩
  | parseError state rejected =>
    have hb := rejected.1
    simp only [state, reduceCtorEq, false_iff, true_iff]
    exact ⟨rejected.2.2, by omega, rejected.2.1, rejected⟩

/-- The bytes fed determine the state. -/
theorem Fed.state_unique {r' : CStunMessageReader} (h : Fed fAllow r b) (h' : Fed fAllow r' b) :
    r.state = r'.state := by
  obtain ⟨h1, h2, h3, h4⟩ := h.state_iff
  obtain ⟨h1', h2', h3', h4'⟩ := h'.state_iff
  cases hs : r'.state with
  | headerNotRead => exact h2.mpr (h2'.mp hs)
  | headerValidated => exact h3.mpr (h3'.mp hs)
  | bodyValidated => exact h1.mpr (h1'.mp hs)
  | parseError => exact h4.mpr (h4'.mp hs)

theorem Fed.parsed (h : Fed fAllow r b) (hstate : r.state = .bodyValidated) :
    ∃ m : Message, m.encode = b ∧ Accepted fAllow b ∧ r.Parsed m := by
  cases h with
  | headerNotRead state => exact absurd (state.symm.trans hstate) (by decide)
  | headerValidated state => exact absurd (state.symm.trans hstate) (by decide)
  | bodyValidated m encode accepted parsed => exact ⟨m, encode, accepted, parsed⟩
  | parseError state => exact absurd (state.symm.trans hstate) (by decide)

end

/-! ### Every reader the program can hold -/

/-- The table has the dimensions it was created with. -/
def Sized (r : CStunMessageReader) : Prop :=
  r.mapAttributes.fsize = 30 ∧ r.mapAttributes.tsize = 53

section

open Hr

theorem keeps_onStream {α : Type} (m : Hr CDataStream α) : Keeps Sized (onStream m) :=
  keeps_on m fun _ _ h => h

theorem keeps_fields {f : CStunMessageReader → CStunMessageReader}
    (h : ∀ r, (f r).mapAttributes = r.mapAttributes) : Keeps Sized (modify f) := by
  refine keeps_modify fun r hr => ?_
  rw [Sized, h r]
  exact hr

theorem keeps_insertAttribute (attrib : StunAttribute) : Keeps Sized (insertAttribute attrib) := by
  intro r h
  obtain ⟨hf, ht⟩ := FastHash.insert_dims r.mapAttributes attrib.attributeType attrib
  rw [after, insertAttribute]
  dsimp only
  split_ifs
  · exact ⟨hf.trans h.1, ht.trans h.2⟩
  · exact ⟨hf.trans h.1, ht.trans h.2⟩

theorem keeps_readAttribute : Keeps Sized readAttribute := by
  unfold readAttribute storeAttribute
  refine keeps_bind (keeps_onStream _) fun _ => keeps_bind (keeps_onStream _) fun _ =>
    keeps_get_bind fun _ _ => keeps_bind (keeps_chkIf _ _) fun _ =>
    keeps_bind (keeps_insertAttribute _) fun _ => keeps_bind (keeps_fields fun _ => rfl) fun _ =>
    keeps_bind (keeps_onStream _) fun _ => ?_
  simp only [paddingLength_eq]
  split_ifs
  · exact keeps_bind (keeps_onStream _) fun _ => keeps_pure _
  · exact keeps_pure _

theorem sized_readBodyLoop {r : CStunMessageReader} (h : r.Sized) (currentSize fuel consumed : ℕ) :
    (readBodyLoop currentSize fuel consumed r).2.Sized := by
  induction fuel generalizing consumed r with
  | zero => exact h
  | succ fuel ih =>
    have hkeep := keeps_readAttribute r h
    rw [readBodyLoop]
    split_ifs
    · rw [after] at hkeep
      cases hread : readAttribute r with
      | ok n r' =>
        rw [hread] at hkeep
        exact ih hkeep _
      | error e r' =>
        rw [hread] at hkeep
        exact hkeep
    · exact h

theorem keeps_readHeader : Keeps Sized readHeader := by
  unfold readHeader storeHeader
  refine keeps_bind (keeps_onStream _) fun _ => keeps_bind (keeps_onStream _) fun _ =>
    keeps_bind (keeps_onStream _) fun _ => keeps_bind (keeps_onStream _) fun _ => ?_
  exact keeps_bind (keeps_fields fun _ => rfl) fun _ => keeps_get_bind fun _ _ =>
    keeps_bind (keeps_chkIf _ _) fun _ => keeps_bind (keeps_fields fun _ => rfl) fun _ =>
    keeps_bind (keeps_chkIf _ _) fun _ => keeps_bind (keeps_fields fun _ => rfl) fun _ =>
    keeps_chkIf _ _

theorem keeps_readBody : Keeps Sized readBody := by
  unfold readBody
  refine keeps_get_bind fun _ _ => keeps_bind (keeps_onStream _) fun _ =>
    keeps_get_bind fun r h => ?_
  exact keeps_bind (keeps_set (sized_readBodyLoop h _ _ _)) fun _ => keeps_chkIf _ _

theorem sized_after {α : Type} {m : Hr CStunMessageReader α} (hk : Keeps Sized m)
    {r : CStunMessageReader} (h : r.Sized) :
    (∀ a r', m r = .ok a r' → r'.Sized) ∧ ∀ e r', m r = .error e r' → r'.Sized := by
  have hr := hk r h
  rw [after] at hr
  constructor
  · intro a r' he
    rwa [he] at hr
  · intro e r' he
    rwa [he] at hr

theorem sized_blocks {r : CStunMessageReader} (h : r.Sized) :
    (surplusBlock (parseBodyBlock (parseHeaderBlock r))).Sized := by
  have hheader : (parseHeaderBlock r).Sized := by
    obtain ⟨hok, herr⟩ := sized_after keeps_readHeader h
    unfold parseHeaderBlock
    split_ifs
    · cases hread : readHeader r with
      | ok a r' =>
        have hr' := hok a r' hread
        dsimp only
        split_ifs <;> exact hr'
      | error e r' => exact herr e r' hread
    · exact h
  have hbody : (parseBodyBlock (parseHeaderBlock r)).Sized := by
    obtain ⟨hok, herr⟩ := sized_after keeps_readBody hheader
    unfold parseBodyBlock
    dsimp only
    split_ifs
    · cases hread : readBody (parseHeaderBlock r) with
      | ok a r' => exact hok a r' hread
      | error e r' => exact herr e r' hread
    · exact hheader
    · exact hheader
  unfold surplusBlock
  split_ifs
  · exact hbody
  · exact hbody

theorem sized_addBytes {r : CStunMessageReader} (h : r.Sized) (pData : Option (List UInt8))
    (size : UInt32) : (r.addBytes pData size).2.Sized := by
  have hseek := keeps_onStream (CDataStream.seekDirect r.stream.getSize) r h
  obtain ⟨hok, herr⟩ := sized_after (keeps_onStream (CDataStream.write pData size.toNat)) hseek
  unfold addBytes
  dsimp only
  split_ifs
  · exact h
  · exact h
  · cases hw : onStream (CDataStream.write pData size.toNat)
        (after (onStream (CDataStream.seekDirect r.stream.getSize)) r) with
    | ok a r' => exact sized_blocks (hok a r' hw)
    | error e r' => exact herr e r' hw

end

/-- The readers that calls of the class can lead to. A buffer is attached before
anything is fed, and a pointer that is not null has as many bytes behind it as the
caller says. -/
inductive Reachable : CStunMessageReader → Prop where
  | create : Reachable create
  | reset {r : CStunMessageReader} (h : Reachable r) : Reachable r.reset
  | setAllowLegacyFormat {r : CStunMessageReader} (h : Reachable r) (fAllow : Bool) :
      Reachable (r.setAllowLegacyFormat fAllow)
  | attachStream {r : CStunMessageReader} (h : Reachable r) (hs : r.state = .headerNotRead)
      (buf : CBuffer) : Reachable (r.attachStream buf)
  | addBytes {r : CStunMessageReader} (h : Reachable r) (pData : Option (List UInt8))
      (size : UInt32) (hsize : ∀ c, pData = some c → size.toNat = c.length) :
      Reachable (r.addBytes pData size).2

theorem Fed.moveTo {fAllow : Bool} {r : CStunMessageReader} {b : List UInt8} (h : Fed fAllow r b)
    {p : ℕ} (hp : p ≤ r.stream.bytes.length) :
    Fed fAllow (r.withStream (r.stream.moveTo p)) b := by
  cases h with
  | headerNotRead state allow stored table short =>
    exact .headerNotRead state allow ⟨stored.wf.moveTo hp, stored.bytes, stored.grow⟩
      (table.frame rfl rfl rfl rfl) short
  | headerValidated state stored table header read short =>
    exact .headerValidated state ⟨stored.wf.moveTo hp, stored.bytes, stored.grow⟩
      (table.frame rfl rfl rfl rfl) header (read.frame rfl) short
  | bodyValidated m encode accepted parsed =>
    obtain ⟨h1, h2, h3, h4, h5, h6, h7, h8⟩ := parsed
    exact .bodyValidated m encode accepted ⟨h1, ⟨h2.wf.moveTo hp, h2.bytes, h2.grow⟩, h3, h4, h5,
      h6, h7, h8.frame rfl rfl rfl rfl⟩
  | parseError state rejected => exact .parseError state rejected

theorem Fed.stored {fAllow : Bool} {r : CStunMessageReader} {b : List UInt8}
    (h : Fed fAllow r b) (hne : r.state ≠ .parseError) : r.Stored b := by
  cases h with
  | headerNotRead _ _ stored => exact stored
  | headerValidated _ stored => exact stored
  | bodyValidated m encode _ parsed => exact encode ▸ parsed.stored
  | parseError state => exact absurd state hne

/-- A call that writes nothing moves the cursor at most. -/
theorem addBytes_nothing {fAllow : Bool} {r : CStunMessageReader} {b : List UInt8}
    (h : Fed fAllow r b) {pData : Option (List UInt8)} {size : UInt32}
    (hnone : size = 0 ∨ pData = none) : Fed fAllow (r.addBytes pData size).2 b := by
  unfold addBytes
  dsimp only
  split_ifs with herr hsize
  · exact h
  · exact h
  · have hs := h.stored herr
    have hnull : pData = none := hnone.resolve_left hsize
    rw [Hr.after, seek_end hs]
    dsimp only
    rw [onStream_error r (CDataStream.write_null pData (Or.inr hnull))]
    exact h.moveTo (Nat.le_refl _)

/-- Whatever was called, the reader is in the state of the bytes it was fed. -/
theorem Reachable.fed {r : CStunMessageReader} (h : Reachable r) :
    r.Sized ∧ ∃ fAllow b, Fed fAllow r b := by
  induction h with
  | create => exact ⟨⟨rfl, rfl⟩, true, [], fed_create⟩
  | reset h ih =>
    obtain ⟨hsized, -⟩ := ih
    exact ⟨hsized, true, [], fed_nil rfl ⟨CDataStream.wf_create, rfl, rfl⟩
      (tableHolds_reset hsized.1 hsized.2)⟩
  | setAllowLegacyFormat h fAllow ih =>
    obtain ⟨hsized, fAllow', b, hfed⟩ := ih
    refine ⟨hsized, ?_⟩
    cases hfed with
    | headerNotRead state allow stored table short =>
      exact ⟨fAllow, b, .headerNotRead state rfl ⟨stored.wf, stored.bytes, stored.grow⟩
        (table.frame rfl rfl rfl rfl) short⟩
    | headerValidated state stored table header read short =>
      obtain ⟨h1, h2, h3, h4, h5⟩ := read
      exact ⟨fAllow', b, .headerValidated state ⟨stored.wf, stored.bytes, stored.grow⟩
        (table.frame rfl rfl rfl rfl) header ⟨h1, h2, h3, h4, h5⟩ short⟩
    | bodyValidated m encode accepted parsed =>
      obtain ⟨h1, h2, h3, h4, h5, h6, h7, h8⟩ := parsed
      exact ⟨fAllow', b, .bodyValidated m encode accepted ⟨h1, ⟨h2.wf, h2.bytes, h2.grow⟩, h3,
        h4, h5, h6, h7, h8.frame rfl rfl rfl rfl⟩⟩
    | parseError state rejected => exact ⟨fAllow', b, .parseError state rejected⟩
  | attachStream h hs buf ih =>
    obtain ⟨hsized, fAllow, b, hfed⟩ := ih
    refine ⟨hsized, ?_⟩
    cases hfed with
    | headerNotRead state allow stored table =>
      exact ⟨_, [], fed_nil state ⟨CDataStream.wf_attach _ buf, CDataStream.bytes_attach _ buf, rfl⟩
        (table.frame rfl rfl rfl rfl)⟩
    | headerValidated state => exact absurd (state.symm.trans hs) (by decide)
    | bodyValidated _ _ _ parsed => exact absurd (parsed.state.symm.trans hs) (by decide)
    | parseError state => exact absurd (state.symm.trans hs) (by decide)
  | @addBytes r h pData size hsize ih =>
    obtain ⟨hsized, fAllow, b, hfed⟩ := ih
    refine ⟨sized_addBytes hsized pData size, fAllow, ?_⟩
    by_cases hnone : size = 0 ∨ pData = none
    · exact ⟨b, addBytes_nothing hfed hnone⟩
    · obtain ⟨hne, hsome⟩ := not_or.mp hnone
      obtain ⟨c, rfl⟩ := Option.ne_none_iff_exists'.mp hsome
      have hlen := hsize c rfl
      have hlt : c.length < 2 ^ 32 := by
        rw [← hlen]
        exact size.toNat_lt
      have hc : c ≠ [] := by
        rintro rfl
        exact hne (UInt32.toNat_inj.mp hlen)
      have hsz : size = UInt32.ofNat c.length := by rw [← hlen, UInt32.ofNat_toNat]
      rw [hsz]
      exact ⟨b ++ c, (addBytes_fed hfed hc hlt).2⟩

/-- A reader in the state `BodyValidated` holds a message. -/
theorem Reachable.exists_parsed {r : CStunMessageReader} (h : Reachable r)
    (hstate : r.state = .bodyValidated) : ∃ m, r.Parsed m := by
  obtain ⟨-, fAllow, b, hfed⟩ := h.fed
  obtain ⟨m, -, -, hm⟩ := hfed.parsed hstate
  exact ⟨m, hm⟩

/-- Whatever a reader holds, it starts over with a buffer attached again. -/
theorem Reachable.fed_reset {r : CStunMessageReader} (h : Reachable r) (buf : CBuffer) :
    Reachable (r.reset.attachStream buf) ∧ Fed true (r.reset.attachStream buf) [] := by
  set reader := r.reset.attachStream buf
  have hstored : reader.Stored [] := ⟨CDataStream.wf_attach _ _, CDataStream.bytes_attach _ _, rfl⟩
  refine ⟨.attachStream (.reset h) rfl _, fed_nil rfl hstored ?_⟩
  exact (tableHolds_reset h.fed.1.1 h.fed.1.2).frame rfl rfl rfl rfl

/-- The bytes of a call are fed, and the result is the state they lead to. -/
theorem Reachable.fed_addBytes {r : CStunMessageReader} (h : Reachable r) {fAllow : Bool}
    {b c : List UInt8} (hfed : Fed fAllow r b) (hlen : c.length < 2 ^ 32) :
    Reachable (r.addBytes (some c) (UInt32.ofNat c.length)).2 ∧
      (r.addBytes (some c) (UInt32.ofNat c.length)).1 =
        (r.addBytes (some c) (UInt32.ofNat c.length)).2.state ∧
      Fed fAllow (r.addBytes (some c) (UInt32.ofNat c.length)).2 (b ++ c) := by
  have hreachable : Reachable (r.addBytes (some c) (UInt32.ofNat c.length)).2 := by
    refine .addBytes h _ _ fun c' hc => ?_
    rw [Option.some.injEq] at hc
    rw [← hc, UInt32.toNat_ofNat_of_lt' hlen]
  by_cases hc : c = []
  · subst hc
    have hnothing : r.addBytes (some []) (UInt32.ofNat 0) = (r.state, r) := by
      by_cases herr : r.state = .parseError
      · rw [CStunMessageReader.addBytes, if_pos herr, herr]
      · rw [CStunMessageReader.addBytes, if_neg herr, if_pos (by rfl)]
    rw [List.length_nil] at hreachable ⊢
    rw [hnothing] at hreachable ⊢
    rw [List.append_nil]
    exact ⟨hreachable, rfl, hfed⟩
  · exact ⟨hreachable, addBytes_fed hfed hc hlen⟩

end StunServer.CStunMessageReader

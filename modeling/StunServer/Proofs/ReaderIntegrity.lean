import StunServer.Proofs.ReaderAccess
import StunServer.Spec.Integrity

/-! `ValidateMessageIntegrity` accepts exactly the authentic messages: the insertion
counters say that the message is sealed, the pieces fed to the hash join up to the text
of the message. -/

namespace StunServer

open Bytes Tlv

/-! ### The insertion counters -/

theorem lastIndex_bounds (t : UInt16) (rs : List Record) :
    -1 ≤ lastIndex t rs ∧ lastIndex t rs < rs.length := by
  induction rs using List.reverseRecOn with
  | nil => simp [lastIndex]
  | append_singleton rs a ih =>
    rw [lastIndex_concat, List.length_append, List.length_singleton]
    split_ifs <;> omega

theorem lastIndex_last {t : UInt16} {rs : List Record} (h : lastIndex t rs ≠ -1) :
    lastIndex t rs = rs.length - 1 ↔ ∃ init a, rs = init ++ [a] ∧ a.type = t := by
  induction rs using List.reverseRecOn with
  | nil => simp [lastIndex] at h
  | append_singleton rs a _ =>
    have hb := lastIndex_bounds t rs
    rw [lastIndex_concat, List.length_append, List.length_singleton]
    split_ifs with ha
    · exact ⟨fun _ => ⟨rs, a, rfl, ha⟩, fun _ => by omega⟩
    · refine ⟨fun he => by omega, ?_⟩
      rintro ⟨init, a', he, ha'⟩
      obtain ⟨-, hlast⟩ := List.append_inj' he rfl
      rw [List.cons.injEq] at hlast
      exact absurd (hlast.1 ▸ ha') ha

/-- The counters allow nothing but a fingerprint behind the last integrity attribute. -/
theorem counters_iff {rs : List Record} (hne : rs ≠ []) :
    (lastIndex STUN_ATTRIBUTE_MESSAGEINTEGRITY rs ≠ -1 ∧
      (lastIndex STUN_ATTRIBUTE_MESSAGEINTEGRITY rs = rs.length - 1 ∨
        (lastIndex STUN_ATTRIBUTE_MESSAGEINTEGRITY rs = rs.length - 1 - 1 ∧
          lastIndex STUN_ATTRIBUTE_FINGERPRINT rs = rs.length - 1))) ↔
    ∃ before mi tail, rs = before ++ mi :: tail ∧ mi.type = STUN_ATTRIBUTE_MESSAGEINTEGRITY ∧
      (tail = [] ∨ ∃ fp : Record, tail = [fp] ∧ fp.type = STUN_ATTRIBUTE_FINGERPRINT) := by
  have hpos : 0 < rs.length := List.length_pos_iff.mpr hne
  constructor
  · rintro ⟨hmi, hlast | ⟨hprev, hfp⟩⟩
    · obtain ⟨init, a, rfl, ha⟩ := (lastIndex_last hmi).mp hlast
      exact ⟨init, a, [], rfl, ha, Or.inl rfl⟩
    · obtain ⟨init, fp, rfl, htype⟩ := (lastIndex_last (by omega)).mp hfp
      rw [lastIndex_concat, htype, if_neg fingerprint_ne_integrity] at hmi hprev
      rw [List.length_append, List.length_singleton] at hprev
      obtain ⟨before, mi, rfl, ha⟩ := (lastIndex_last hmi).mp (by omega)
      exact ⟨before, mi, [fp], by simp, ha, Or.inr ⟨fp, rfl, htype⟩⟩
  · rintro ⟨before, mi, tail, rfl, hmi, rfl | ⟨fp, rfl, hfp⟩⟩
    · rw [lastIndex_concat, if_pos hmi, List.length_append, List.length_singleton]
      exact ⟨by omega, Or.inl (by omega)⟩
    · have he : before ++ [mi, fp] = (before ++ [mi]) ++ [fp] := by simp
      rw [he, lastIndex_concat, lastIndex_concat, lastIndex_concat, hfp,
        if_neg fingerprint_ne_integrity, if_pos hmi, if_pos rfl]
      simp only [List.length_append, List.length_singleton]
      exact ⟨by omega, Or.inr ⟨by omega, by omega⟩⟩

/-- What the counters say of a sealed list. -/
theorem counters_of_sealed {before tail : List Record} {mi : Record}
    (hmi : mi.type = STUN_ATTRIBUTE_MESSAGEINTEGRITY)
    (htail : tail = [] ∨ ∃ fp : Record, tail = [fp] ∧ fp.type = STUN_ATTRIBUTE_FINGERPRINT) :
    lastIndex STUN_ATTRIBUTE_MESSAGEINTEGRITY (before ++ mi :: tail) = before.length := by
  rcases htail with rfl | ⟨fp, rfl, hfp⟩
  · rw [lastIndex_concat, if_pos hmi]
  · have he : before ++ [mi, fp] = (before ++ [mi]) ++ [fp] := by simp
    rw [he, lastIndex_concat, lastIndex_concat, hfp, if_neg fingerprint_ne_integrity, if_pos hmi]

namespace Message

/-- The lookup by type finds the integrity attribute of a sealed list. -/
theorem findAt_integrity {m : Message} {before tail : List Record} {mi : Record}
    (hattrs : m.attrs = before ++ mi :: tail) (hmi : mi.type = STUN_ATTRIBUTE_MESSAGEINTEGRITY)
    (htail : tail = [] ∨ ∃ fp : Record, tail = [fp] ∧ fp.type = STUN_ATTRIBUTE_FINGERPRINT) :
    m.findAt STUN_ATTRIBUTE_MESSAGEINTEGRITY = some (20 + sizeAll before + 4, mi) := by
  have hnone : ((locate (20 + sizeAll before + mi.size) tail).reverse.find? fun p =>
      p.2.type = STUN_ATTRIBUTE_MESSAGEINTEGRITY) = none := by
    rcases htail with rfl | ⟨fp, rfl, hfp⟩
    · rfl
    · simp [hfp, fingerprint_ne_integrity]
  rw [Message.findAt, hattrs, locate_append, locate_cons, List.reverse_append, List.reverse_cons,
    List.find?_append, List.find?_append, hnone]
  simp [hmi]

theorem Sealed.findAt {m : Message} {before tail : List Record} {mi : Record}
    (h : m.Sealed before mi tail) :
    m.findAt STUN_ATTRIBUTE_MESSAGEINTEGRITY = some (20 + sizeAll before + 4, mi) :=
  findAt_integrity h.attrs h.type h.tail

end Message

/-! ### The pieces fed to the hash -/

section

variable {s : CDataStream}

theorem feedChunks_ok (hw : s.Wf) (hb : s.bytes.length < 2 ^ 64) {n p : ℕ}
    (hn : p + 4 * n ≤ s.bytes.length)
    (ctx : List UInt8) :
    CStunMessageReader.feedChunks n ctx (s.moveTo p) =
      .ok (ctx ++ slice s.bytes p (4 * n)) (s.moveTo (p + 4 * n)) := by
  induction n generalizing p ctx with
  | zero => simp [CStunMessageReader.feedChunks, slice]
  | succ n ih =>
    rw [CStunMessageReader.feedChunks, Hr.bind_ok (CDataStream.readUint32_ok hw (by omega) (by omega)),
      mem32_load32 (slice_length (by omega)), ih (by omega), Nat.mul_succ, Nat.add_comm (4 * n),
      slice_split, List.append_assoc, Nat.add_assoc]

theorem feedHmac_ok (hw : s.Wf) (hb : s.bytes.length < 2 ^ 64) {offset : UInt16} {n : ℕ} (ho : offset.toNat = n + 8)
    (h4 : n % 4 = 0) (hn : 4 + n ≤ s.bytes.length) (fFingerprintAdjustment : Bool) :
    ∃ s', CStunMessageReader.feedHmac fFingerprintAdjustment offset (s.moveTo 0) =
      .ok (slice s.bytes 0 2 ++
        be16 (if fFingerprintAdjustment then lengthFieldOf s.bytes - 8
          else lengthFieldOf s.bytes) ++ slice s.bytes 4 n) s' := by
  have h0 : (slice s.bytes 0 2).length = 2 := slice_length (by omega)
  have h2 : (slice s.bytes 2 2).length = 2 := slice_length (by omega)
  have hchunks : offset.toNat - 4 - 4 = n := by omega
  have hmul : 4 * (n / 4) = n := by omega
  have hlength : mem16 (if fFingerprintAdjustment then htons (ntohs (load16 (slice s.bytes 2 2)) - 8)
      else load16 (slice s.bytes 2 2)) = be16 (if fFingerprintAdjustment
        then lengthFieldOf s.bytes - 8 else lengthFieldOf s.bytes) := by
    cases fFingerprintAdjustment with
    | true => simp [ntohs_load16 h2, lengthFieldOf]
    | false => simp [mem16_load16 h2, lengthFieldOf, be16_word16 h2]
  refine ⟨s.moveTo (2 + 2 + 4 * (n / 4)), ?_⟩
  rw [CStunMessageReader.feedHmac, Hr.bind_ok (CDataStream.readUint16_ok hw (by omega) (by decide)),
    Hr.bind_ok (CDataStream.readUint16_ok hw (by omega) (by decide)), hchunks,
    feedChunks_ok hw hb (by omega), mem16_load16 h0, hlength, hmul]

end

namespace CStunMessageReader.Parsed

variable {r : CStunMessageReader} {m : Message}

/-- The text of a sealed message, found in its bytes. -/
theorem hmacText_eq {before tail : List Record} {mi : Record} (hs : m.Sealed before mi tail) :
    slice m.encode 0 2 ++
        be16 (if tail = [] then lengthFieldOf m.encode else lengthFieldOf m.encode - 8) ++
        slice m.encode 4 (16 + sizeAll before) = m.hmacText before tail := by
  have hlen := m.encode_length
  have hattrs := hs.attrs
  have hle := m.body_le
  have htype : slice m.encode 0 2 = be16 m.typeField := by
    rw [← m.typeFieldOf_encode, typeFieldOf, be16_word16 (slice_length (by omega))]
  have hbefore : slice m.encode 20 (sizeAll before) = encodeAll before := by
    have hd : slice m.encode (20 + 0) (sizeAll before) =
        slice (encodeAll m.attrs) 0 (sizeAll before) := by rw [← slice_drop, m.drop_encode]
    rw [Nat.add_zero] at hd
    rw [hd, hattrs, encodeAll_append]
    exact (slice_of_append rfl (encodeAll_length before).symm : slice ([] ++ (_ ++ _)) 0 _ = _)
  have hlength : (if tail = [] then lengthFieldOf m.encode else lengthFieldOf m.encode - 8) =
      UInt16.ofNat (sizeAll m.attrs - if tail = [] then 0 else 8) := by
    have hn := m.lengthFieldOf_encode
    apply UInt16.toNat_inj.mp
    rw [UInt16.toNat_ofNat_of_lt' (show _ < 65536 by omega)]
    rcases hs.tail with rfl | ⟨fp, rfl, -⟩
    · simp
    · have h8 : 8 ≤ sizeAll m.attrs := by
        have h1 := mi.four_le_size
        have h2 := fp.four_le_size
        simp only [hattrs, sizeAll_append, sizeAll_cons, sizeAll_nil]
        omega
      simp only [reduceCtorEq, if_false]
      rw [UInt16.toNat_sub_of_le, hn]
      · rfl
      · rw [UInt16.le_iff_toNat_le, hn]
        exact h8
  rw [Message.hmacText, headerBytes, htype, hlength, slice_split, m.tid_encode, hbefore]
  simp only [List.append_assoc]

/-- The counters tell whether a fingerprint follows. -/
theorem adjustment_eq (h : r.Parsed m) {before tail : List Record} {mi : Record}
    (hs : m.Sealed before mi tail) :
    (r.indexMessageIntegrity = r.countAttributes - 1 - 1) ↔ tail ≠ [] := by
  have hcount := congrArg List.length hs.attrs
  rw [h.table.integrity, h.table.count, hs.attrs, counters_of_sealed hs.type hs.tail]
  rcases hs.tail with rfl | ⟨fp, rfl, -⟩
  · simp only [List.length_append, List.length_singleton, ne_eq, not_true, iff_false]
    omega
  · simp only [List.length_append, List.length_cons, List.length_nil, ne_eq, reduceCtorEq,
      not_false_eq_true, iff_true]
    omega

/-- The hash is computed over the text of the message. -/
theorem feedHmac_eq (h : r.Parsed m) {before tail : List Record} {mi : Record}
    (hs : m.Sealed before mi tail) :
    ∃ s', feedHmac (decide (r.indexMessageIntegrity = r.countAttributes - 1 - 1))
      (attribOf (20 + sizeAll before + 4, mi)).offset
      { CDataStream.create with pBuffer := r.stream.pBuffer } = .ok (m.hmacText before tail) s' := by
  set s : CDataStream := { CDataStream.create with pBuffer := r.stream.pBuffer }
  have hw : s.Wf := ⟨Nat.zero_le _, h.stored.wf.size_le⟩
  have hb : s.bytes = m.encode := h.stored.bytes
  obtain ⟨hmem, -⟩ := Message.mem_of_findAt hs.findAt
  have hend := Message.value_end hmem
  have h4 := sizeAll_mod before
  have hoffset : (attribOf (20 + sizeAll before + 4, mi)).offset.toNat =
      16 + sizeAll before + 8 := by
    rw [(attribOf_toNat hmem).1]
    omega
  have hlen : s.bytes.length < 2 ^ 64 := by
    have hbody := m.body_le
    rw [hb, m.encode_length]
    omega
  obtain ⟨s', hfeed⟩ := feedHmac_ok hw hlen hoffset (by omega)
    (by rw [hb]; omega) (decide (r.indexMessageIntegrity = r.countAttributes - 1 - 1))
  refine ⟨s', hfeed.trans ?_⟩
  rw [hb, ← hmacText_eq hs]
  simp only [decide_eq_true_eq, h.adjustment_eq hs, ne_eq, ite_not]

/-- What is fed is the text of a sealed message, and nothing is fed for another. -/
theorem hmacInput_iff (h : r.Parsed m) {key : List UInt8} {attrib : StunAttribute}
    {ctx : List UInt8} :
    r.hmacInput key = .ok (attrib, ctx) ↔ key ≠ [] ∧ ∃ before mi tail, m.Sealed before mi tail ∧
      attrib = attribOf (20 + sizeAll before + 4, mi) ∧ ctx = m.hmacText before tail := by
  have hcount : r.countAttributes = 0 ↔ m.attrs = [] := by
    rw [h.table.count]
    simp
  have hkey : key.length = 0 ↔ key = [] := List.length_eq_zero_iff
  unfold hmacInput
  dsimp only
  rw [if_neg (not_not_intro h.state)]
  constructor
  · intro hok
    by_cases hc : r.countAttributes = 0
    · simp [hc] at hok
    by_cases hi : r.indexMessageIntegrity = -1
    · simp [hc, hi] at hok
    by_cases hk : key.length = 0
    · simp [hc, hi, hk] at hok
    rw [if_neg hc, if_neg hi, if_neg hk] at hok
    rcases h.lookup_cases STUN_ATTRIBUTE_MESSAGEINTEGRITY with ⟨-, hl⟩ | ⟨p, -, -, hl, -⟩
    · simp [hl] at hok
    rw [hl] at hok
    dsimp only at hok
    by_cases hsize : (attribOf p).size = 20
    · rw [if_neg (not_not_intro hsize)] at hok
      by_cases hother : r.indexMessageIntegrity = r.countAttributes - 1 ∨
          r.indexMessageIntegrity = r.countAttributes - 1 - 1 ∧
            r.indexFingerprint = r.countAttributes - 1
      · rw [if_neg (not_not_intro hother)] at hok
        have hcounters := And.intro hi hother
        rw [h.table.integrity, h.table.count, h.table.fingerprint] at hcounters
        obtain ⟨before, mi, tail, hattrs, hmi, htail⟩ :=
          (counters_iff (mt hcount.mpr hc)).mp hcounters
        have hfound := Message.findAt_integrity hattrs hmi htail
        obtain ⟨hmem, -⟩ := Message.mem_of_findAt hfound
        have hp := h.lookup STUN_ATTRIBUTE_MESSAGEINTEGRITY
        rw [hl, hfound, Option.map_some, Option.some.injEq] at hp
        rw [hp] at hsize hok
        have hs : m.Sealed before mi tail :=
          ⟨hattrs, hmi, not_not.mp fun hne => (size_ne hmem 20).mpr hne hsize, htail⟩
        obtain ⟨s', hfeed⟩ := h.feedHmac_eq hs
        rw [hfeed] at hok
        cases hok
        exact ⟨mt hkey.mpr hk, before, mi, tail, hs, rfl, rfl⟩
      · rw [if_pos hother] at hok
        cases hok
    · rw [if_pos hsize] at hok
      cases hok
  · rintro ⟨hne, before, mi, tail, hs, rfl, rfl⟩
    obtain ⟨s', hfeed⟩ := h.feedHmac_eq hs
    have hl := h.lookup STUN_ATTRIBUTE_MESSAGEINTEGRITY
    rw [hs.findAt, Option.map_some] at hl
    obtain ⟨hmem, -⟩ := Message.mem_of_findAt hs.findAt
    have hattrs : m.attrs ≠ [] := by simp [hs.attrs]
    obtain ⟨hi, hother⟩ := (counters_iff hattrs).mpr ⟨before, mi, tail, hs.attrs, hs.type, hs.tail⟩
    rw [← h.table.integrity, ← h.table.count, ← h.table.fingerprint] at hother
    rw [← h.table.integrity] at hi
    have hsize : ¬(attribOf (20 + sizeAll before + 4, mi)).size ≠ 20 := by
      rw [size_ne hmem]
      exact not_not_intro hs.size
    rw [if_neg (mt hcount.mp hattrs), if_neg hi, if_neg (mt hkey.mp hne), hl]
    dsimp only
    rw [if_neg hsize, if_neg (not_not_intro hother), hfeed]

/-- The validation succeeds on the authentic messages and on no other. -/
theorem validateMessageIntegrity_iff (h : r.Parsed m) (D : Digests) (key : List UInt8) :
    r.validateMessageIntegrity D key = .ok () ↔ m.Authentic D key := by
  have hpeek : ∀ before mi tail, m.Sealed before mi tail →
      (r.stream.peek (attribOf (20 + sizeAll before + 4, mi)).offset.toNat 20).toList =
        mi.value := by
    intro before mi tail hs
    obtain ⟨hmem, -⟩ := Message.mem_of_findAt hs.findAt
    exact h.peek_attrib hmem hs.size
  unfold validateMessageIntegrity
  constructor
  · intro hok
    cases hin : r.hmacInput key with
    | error e => simp [hin] at hok
    | ok found =>
      obtain ⟨attrib, ctx⟩ := found
      obtain ⟨hne, before, mi, tail, hs, rfl, rfl⟩ := h.hmacInput_iff.mp hin
      rw [hin] at hok
      dsimp only at hok
      split_ifs at hok with heq
      refine ⟨hne, before, mi, tail, hs, ?_⟩
      rw [heq, hpeek before mi tail hs]
  · rintro ⟨hne, before, mi, tail, hs, hvalue⟩
    rw [h.hmacInput_iff.mpr ⟨hne, before, mi, tail, hs, rfl, rfl⟩]
    dsimp only
    rw [if_pos]
    apply List.Vector.toList_injective
    rw [hpeek before mi tail hs, hvalue]

/-- A reader that holds a message has a buffer, so the key is all that is left to check. -/
theorem validateMessageIntegrityLong_eq (h : r.Parsed m) (D : Digests)
    (pszUser pszRealm pszPassword : List UInt8) :
    r.validateMessageIntegrityLong D pszUser pszRealm pszPassword =
      r.validateMessageIntegrity D (D.md5 (longTermKey pszUser pszRealm pszPassword)).toList := by
  have hbuf : r.stream.pBuffer ≠ none := by
    intro hnone
    have hb := h.stored.bytes
    rw [CDataStream.bytes, hnone] at hb
    have hl := congrArg List.length hb
    rw [m.encode_length] at hl
    simp only [Option.elim_none, List.length_nil] at hl
    omega
  rw [validateMessageIntegrityLong, if_neg (not_not_intro h.state), if_neg hbuf]

end CStunMessageReader.Parsed

end StunServer

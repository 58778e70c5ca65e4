import StunServer.Proofs.Builder
import StunServer.Spec.BuilderCall

/-! What every attribute writer does on a builder that is ready: it refuses its arguments,
or appends a header and some bytes, which make a record or do not. -/

namespace StunServer.CStunMessageBuilder

open Bytes Tlv

/-! ### Unknown attributes and padding -/

/-- The bytes copied for a list of types, `n` being what 16 bits hold of its size, and the
repeated entry. -/
def unknownValue (fPad : Bool) (arr : List UInt16) (n : UInt16) : List UInt8 :=
  (arr.flatMap mem16).take n.toNat ++ if fPad then mem16 (arr.getLastD 0) else []

theorem flatMap_mem16_length (arr : List UInt16) : (arr.flatMap mem16).length = arr.length * 2 := by
  simp [List.length_flatMap]

theorem writes_addUnknownAttributes (b : CStunMessageBuilder) {arr : List UInt16} {n : UInt16}
    (hn : n = UInt16.ofNat (arr.length * 2)) (hpos : n ≠ 0) :
    let fPad := b.fLegacyMode && arr.length % 2 ≠ 0
    Writes (addUnknownAttributes arr) b (be16 STUN_ATTRIBUTE_UNKNOWNATTRIBUTES ++
      (be16 (if fPad then n + 2 else n) ++ unknownValue fPad arr n)) := by
  intro fPad
  have hne : ¬arr.length = 0 := by
    intro h
    rw [h] at hn
    exact hpos hn
  have hle : n.toNat ≤ (arr.flatMap mem16).length := by
    rw [flatMap_mem16_length, hn, UInt16.toNat_ofNat']
    exact Nat.mod_le _ _
  have hlen : ((arr.flatMap mem16).take n.toNat).length = n.toNat := List.length_take_of_le hle
  have hcopy : (arr.flatMap mem16).take n.toNat ≠ [] := by
    rw [← List.length_pos_iff, hlen]
    exact Nat.pos_of_ne_zero fun h => hpos (UInt16.toNat_inj.mp h)
  unfold addUnknownAttributes
  dsimp only
  rw [← hn]
  refine ((Writes.chkIf hne).bind fun b₁ _ h₁ => Writes.get ?_).congr (List.nil_append _)
  rw [h₁]
  refine ((writes_addAttributeHeader b₁ _ _).bind fun b₂ _ _ =>
    (?_ : Writes _ b₂ (unknownValue fPad arr n))).congr (List.append_assoc _ _ _)
  rw [← CDataStream.write_take (Nat.le_refl n.toNat)]
  refine (writes_stream b₂ hcopy hlen.symm).bind fun b₃ _ _ => ?_
  by_cases hpad : fPad = true
  · rw [if_pos hpad, if_pos hpad]
    exact (writes_write b₃ (List.ne_nil_of_length_pos (by simp))).ignore
  · rw [if_neg hpad, if_neg hpad]
    exact Writes.nil b₃

/-- A list whose size is a multiple of 65536 is given up behind the header. -/
theorem addUnknownAttributes_error (b : CStunMessageBuilder) {arr : List UInt16} (hne : arr ≠ [])
    (hzero : UInt16.ofNat (arr.length * 2) = 0) (hready : b.Ready) :
    ∃ b', addUnknownAttributes arr b = .error E_FAIL b' ∧
      Grown b b' (be16 STUN_ATTRIBUTE_UNKNOWNATTRIBUTES ++ be16 0) := by
  have hcount : ¬arr.length = 0 := fun h => hne (List.length_eq_zero_iff.mp h)
  have heven : ¬arr.length % 2 ≠ 0 := by
    have hmod := congrArg UInt16.toNat hzero
    rw [UInt16.toNat_ofNat'] at hmod
    change arr.length * 2 % 65536 = 0 at hmod
    omega
  obtain ⟨b', he, hg⟩ := writes_addAttributeHeader b STUN_ATTRIBUTE_UNKNOWNATTRIBUTES 0 hready
  refine ⟨b', ?_, hg⟩
  unfold addUnknownAttributes
  dsimp only
  rw [Hr.bind_ok (Hr.chkIf_false hcount _ b), Hr.bind_ok (Hr.get_apply b), hzero,
    decide_eq_false heven, Bool.and_false]
  simp only [Bool.false_eq_true, if_false]
  rw [Hr.bind_ok he]
  exact Hr.bind_error (Hr.on_error (CDataStream.write_null _ (Or.inl rfl)))

/-- The size of the next block of padding. -/
def blockSize (n : UInt16) : UInt16 := if n ≥ PADDING_BUFFER_SIZE then PADDING_BUFFER_SIZE else n

theorem blockSize_bounds {n : UInt16} (h : 0 < n.toNat) :
    0 < (blockSize n).toNat ∧ (blockSize n).toNat ≤ n.toNat := by
  unfold blockSize
  split_ifs with hge
  · exact ⟨by decide, UInt16.le_iff_toNat_le.mp hge⟩
  · exact ⟨h, Nat.le_refl _⟩

theorem writes_writePaddingBlocks (b : CStunMessageBuilder) {fuel : ℕ} {n : UInt16}
    (h : n.toNat ≤ fuel) :
    Writes (writePaddingBlocks fuel n) b (List.replicate n.toNat 0) := by
  induction fuel generalizing b n with
  | zero =>
    rw [Nat.le_zero.mp h]
    exact Writes.nil b
  | succ fuel ih =>
    unfold writePaddingBlocks
    by_cases hpos : n > 0
    · rw [if_pos hpos]
      have hn : 0 < n.toNat := UInt16.lt_iff_toNat_lt.mp hpos
      obtain ⟨hk0, hkn⟩ : 0 < (blockSize n).toNat ∧ (blockSize n).toNat ≤ n.toNat :=
        blockSize_bounds hn
      have hrest : (n - blockSize n).toNat = n.toNat - (blockSize n).toNat :=
        UInt16.toNat_sub_of_le _ _ hkn
      have hblock : List.replicate (blockSize n).toNat (0 : UInt8) ≠ [] := by
        rw [ne_eq, List.replicate_eq_nil_iff]
        omega
      refine ((writes_write b hblock).bind fun b' _ _ =>
        ih b' (n := n - blockSize n) (by omega)).congr ?_
      rw [hrest, List.replicate_append_replicate, Nat.add_sub_cancel' hkn]
    · rw [if_neg hpos]
      have hn : n.toNat = 0 := by
        rw [gt_iff_lt, UInt16.lt_iff_toNat_lt] at hpos
        exact Nat.eq_zero_of_not_pos hpos
      rw [hn]
      exact Writes.nil b

/-- The size is rounded up in 16 bits, so the three largest sizes become zero. -/
def roundedSize (paddingSize : UInt16) : UInt16 :=
  if paddingSize % 4 ≠ 0 then paddingSize + 4 - paddingSize % 4 else paddingSize

theorem roundedSize_mod (paddingSize : UInt16) : (roundedSize paddingSize).toNat % 4 = 0 := by
  have h4 : (paddingSize % 4).toNat = paddingSize.toNat % 4 := UInt16.toNat_mod _ _
  have hlt := paddingSize.toNat_lt
  unfold roundedSize
  split_ifs with hmod
  · have hadd : (paddingSize + 4).toNat = (paddingSize.toNat + 4) % 2 ^ 16 :=
      UInt16.toNat_add _ _
    rw [UInt16.toNat_sub, h4, hadd]
    omega
  · rw [ne_eq, not_not, ← UInt16.toNat_inj, h4] at hmod
    exact hmod

theorem writes_addPaddingAttribute (b : CStunMessageBuilder) (paddingSize : UInt16) :
    Writes (addPaddingAttribute paddingSize) b
      (be16 STUN_ATTRIBUTE_PADDING ++ (be16 (roundedSize paddingSize) ++
        List.replicate (roundedSize paddingSize).toNat 0)) :=
  ((writes_addAttributeHeader b _ _).bind fun b' _ _ =>
    writes_writePaddingBlocks b' (Nat.le_refl _)).congr (List.append_assoc _ _ _)

/-! ### One call -/

/-- What a call does: refuse its arguments, write a header with what follows it, or give up
behind a header. -/
inductive Outcome (b : CStunMessageBuilder) (call : AttributeCall) : Prop where
  | refused {e : HRESULT} (h : call.run b = .error e b) (hsound : call.Sound b.fLegacyMode)
  | written {n : UInt16} {v : List UInt8}
      (h : Writes call.run b (be16 (call.type b.fLegacyMode) ++ (be16 n ++ v)))
      (hsound : call.Sound b.fLegacyMode ↔ v.length = n.toNat + padLen n.toNat)
  | stray {e : HRESULT} {b' : CStunMessageBuilder} {d : List UInt8} (hd : d ≠ [])
      (h : call.run b = .error e b') (hg : Grown b b' d) (hsound : ¬call.Sound b.fLegacyMode)

/-- A call that leaves a record is sound. -/
theorem Outcome.of_record {b : CStunMessageBuilder} {call : AttributeCall} {r : Record}
    (h : Writes call.run b r.encode) (htype : r.type = call.type b.fLegacyMode)
    (hsound : call.Sound b.fLegacyMode) : Outcome b call := by
  refine .written (n := UInt16.ofNat r.value.length) (v := r.value ++ r.padding) ?_ ?_
  · rw [← htype]
    exact h
  · refine iff_of_true hsound ?_
    rw [UInt16.toNat_ofNat_of_lt' r.length_lt, List.length_append, r.padding_length]

theorem uint16_add_ofNat_toNat (n : UInt16) {k : ℕ} (hk : k < 2 ^ 16) :
    (n + UInt16.ofNat k).toNat = (n.toNat + k) % 2 ^ 16 := by
  rw [UInt16.toNat_add, UInt16.toNat_ofNat_of_lt' hk]

/-- Data and padding make a record unless their size is beyond 16 bits. -/
theorem padded_length_iff (fLegacyMode : Bool) {n : UInt16} {v : List UInt8}
    (hv : v.length = n.toNat) :
    let declared := if fLegacyMode then n + UInt16.ofNat (padLen n.toNat) else n
    (v ++ List.replicate (padLen n.toNat) (0 : UInt8)).length =
        declared.toNat + padLen declared.toNat ↔
      (fLegacyMode = true → n.toNat ≤ 65532) := by
  intro declared
  have hlt := n.toNat_lt
  have hpad : padLen n.toNat < 4 := padLen_lt _
  have hpadded := add_padLen_mod n.toNat
  rw [List.length_append, List.length_replicate, hv]
  cases fLegacyMode with
  | false =>
    have hdeclared : declared = n := rfl
    simp [hdeclared]
  | true =>
    have hdeclared : declared.toNat = (n.toNat + padLen n.toNat) % 2 ^ 16 :=
      uint16_add_ofNat_toNat n (by omega)
    have hnone : padLen declared.toNat = 0 := padLen_of_mod (by omega)
    rw [hnone, hdeclared]
    simp only [true_imp_iff]
    unfold padLen at *
    omega

theorem outcome_string (b : CStunMessageBuilder) (t : UInt16) (pstr : List UInt8) :
    Outcome b (.stringAttribute t pstr) := by
  by_cases hempty : strlen pstr = 0
  · refine .refused (e := E_INVALIDARG) (Hr.bind_error (Hr.chkIf_true hempty _ b)) fun _ => ?_
    rw [hempty]
    decide
  · have hn : (UInt16.ofNat (strlen pstr)).toNat = strlen pstr % 2 ^ 16 := UInt16.toNat_ofNat'
    have hle : (UInt16.ofNat (strlen pstr)).toNat ≤ (cstr pstr).length := by
      rw [hn]
      exact Nat.mod_le _ _
    refine .written (((Writes.chkIf hempty).bind fun b' _ hmode => ?_).congr (List.nil_append _))
      ((padded_length_iff b.fLegacyMode (List.length_take_of_le hle)).trans ?_).symm
    · rw [← hmode]
      exact writes_addAttribute_take b' t hle
    · rw [hn]
      rfl

theorem outcome_errorCode (b : CStunMessageBuilder) (n : UInt16) (pszReason : List UInt8) :
    Outcome b (.errorCode n pszReason) := by
  by_cases hlen : strlen pszReason ≥ 128
  · exact .refused (Hr.bind_error (Hr.chkIf_true hlen _ b)) trivial
  by_cases hlow : n < 300
  · exact .refused ((Hr.bind_ok (Hr.chkIf_false hlen _ b)).trans
      (Hr.bind_error (Hr.chkIf_true hlow _ b))) trivial
  by_cases hhigh : n > 600
  · exact .refused ((Hr.bind_ok (Hr.chkIf_false hlen _ b)).trans
      ((Hr.bind_ok (Hr.chkIf_false hlow _ b)).trans
        (Hr.bind_error (Hr.chkIf_true hhigh _ b)))) trivial
  · exact .of_record (writes_addErrorCode b hlow hhigh (Nat.lt_of_not_le hlen)) (record_type _ _ _)
      trivial

/-- How much follows the header of a list of types, and how much it announces. -/
theorem unknown_length_iff (fLegacyMode : Bool) {arr : List UInt16} {n : UInt16}
    (hn : n = UInt16.ofNat (arr.length * 2)) (hpos : n ≠ 0) :
    let fPad := fLegacyMode && arr.length % 2 ≠ 0
    let declared := if fPad then n + 2 else n
    (AttributeCall.unknownAttributes arr).Sound fLegacyMode ↔
      (unknownValue fPad arr n).length = declared.toNat + padLen declared.toNat := by
  intro fPad declared
  have hmod : n.toNat = arr.length * 2 % 2 ^ 16 := by
    rw [hn]
    exact UInt16.toNat_ofNat'
  have hpos' : n.toNat ≠ 0 := fun h => hpos (UInt16.toNat_inj.mp h)
  have hle : n.toNat ≤ (arr.flatMap mem16).length := by
    rw [flatMap_mem16_length, hmod]
    exact Nat.mod_le _ _
  have hlen : (unknownValue fPad arr n).length = n.toNat + if fPad then 2 else 0 := by
    rw [unknownValue, List.length_append, List.length_take_of_le hle]
    split_ifs <;> simp
  rw [hlen]
  cases fLegacyMode with
  | false =>
    have hdeclared : declared = n := rfl
    have hpad : fPad = false := rfl
    rw [hdeclared, hpad]
    simp only [AttributeCall.Sound, Bool.false_eq_true, if_false]
    unfold padLen
    omega
  | true =>
    by_cases hodd : arr.length % 2 ≠ 0
    · have hpad : fPad = true := by simp [fPad, hodd]
      have hdeclared : declared.toNat = (n.toNat + 2) % 2 ^ 16 := by
        simp only [declared, hpad, if_true]
        exact UInt16.toNat_add _ _
      rw [hdeclared, hpad]
      simp only [AttributeCall.Sound, if_true]
      unfold padLen
      omega
    · have hpad : fPad = false := by simpa [fPad] using hodd
      have hdeclared : declared = n := by simp [declared, hpad]
      rw [hdeclared, hpad]
      simp only [AttributeCall.Sound, Bool.false_eq_true, if_false, if_true]
      unfold padLen
      omega

theorem outcome_unknownAttributes {b : CStunMessageBuilder} (hb : b.Ready) (arr : List UInt16) :
    Outcome b (.unknownAttributes arr) := by
  by_cases hempty : arr = []
  · refine .refused (e := E_INVALIDARG) ?_ (Or.inl (List.length_eq_zero_iff.mpr hempty))
    subst hempty
    rfl
  by_cases hzero : UInt16.ofNat (arr.length * 2) = 0
  · obtain ⟨b', he, hg⟩ := addUnknownAttributes_error b hempty hzero hb
    refine .stray (List.ne_nil_of_length_pos (by simp)) he hg ?_
    have hmod := congrArg UInt16.toNat hzero
    rw [UInt16.toNat_ofNat'] at hmod
    change arr.length * 2 % 65536 = 0 at hmod
    have hlen : arr.length ≠ 0 := fun h => hempty (List.length_eq_zero_iff.mp h)
    rintro (h | ⟨h, -⟩)
    · exact hlen h
    · omega
  · exact .written (writes_addUnknownAttributes b rfl hzero)
      (unknown_length_iff b.fLegacyMode rfl hzero)

theorem outcome {b : CStunMessageBuilder} (hb : b.Ready) (call : AttributeCall) :
    Outcome b call := by
  cases call with
  | plainAttribute t data size readable =>
    cases data with
    | none =>
      refine .written (n := size) (v := []) ?_ ?_
      · rw [List.append_nil]
        exact writes_addAttribute_null b t size
      · change size = 0 ↔ 0 = size.toNat + padLen size.toNat
        rw [← UInt16.toNat_inj]
        change size.toNat = 0 ↔ _
        unfold padLen
        omega
    | some d =>
      have hd := readable d rfl
      exact .written (writes_addAttribute_take b t hd)
        (padded_length_iff b.fLegacyMode (List.length_take_of_le hd)).symm
  | stringAttribute t pstr => exact outcome_string b t pstr
  | errorCode n pszReason => exact outcome_errorCode b n pszReason
  | unknownAttributes arr => exact outcome_unknownAttributes hb arr
  | mappedAddress addr =>
    exact .of_record (writes_addMappedAddressImpl b _ addr) (record_type _ _ _) trivial
  | xorMappedAddress addr =>
    exact .of_record (Writes.get (writes_addMappedAddressImpl b _ _)) (record_type _ _ _) trivial
  | responseOriginAddress addr =>
    exact .of_record (Writes.get (writes_addMappedAddressImpl b _ addr)) (record_type _ _ _) trivial
  | otherAddress addr =>
    exact .of_record (Writes.get (writes_addMappedAddressImpl b _ addr)) (record_type _ _ _) trivial
  | responsePort port =>
    exact .of_record (writes_addAttribute b _ (v := mem16 (htons port)) (by simp) rfl)
      (record_type _ _ _) trivial
  | paddingAttribute paddingSize =>
    refine .written (writes_addPaddingAttribute b paddingSize) (iff_of_true trivial ?_)
    rw [List.length_replicate, padLen_of_mod (roundedSize_mod paddingSize), Nat.add_zero]
  | changeRequest changeAttrib =>
    exact .of_record (writes_addAttribute b _ (by simp) rfl) (record_type _ _ _) trivial

/-! ### Runs -/

theorem Grown.bytes {b b' : CStunMessageBuilder} {d : List UInt8} (hg : Grown b b' d)
    (hb : b.Ready) : b'.stream.bytes = b.stream.bytes ++ d := by
  obtain ⟨pre, hp⟩ := hb
  rw [(hg.atEnd pre hp).bytes, hp.bytes]

section

variable {b : CStunMessageBuilder}

/-- Every call, failed or not, leaves a builder that is ready and in the same mode. -/
theorem grown_after (hb : b.Ready) (call : AttributeCall) :
    ∃ d, Grown b (call.run.after b) d := by
  cases outcome hb call with
  | refused h hsound =>
    rw [(Hr.after_error h).1]
    exact ⟨[], Grown.refl b⟩
  | written h hsound =>
    obtain ⟨b', he, hg⟩ := h hb
    rw [(Hr.after_ok he).1]
    exact ⟨_, hg⟩
  | stray hd h hg hsound =>
    rw [(Hr.after_error h).1]
    exact ⟨_, hg⟩

theorem grown_afterAttributes (hb : b.Ready) (calls : List AttributeCall) :
    ∃ d, Grown b (b.afterAttributes calls) d := by
  induction calls generalizing b with
  | nil => exact ⟨[], Grown.refl b⟩
  | cons call calls ih =>
    obtain ⟨d, hg⟩ := grown_after hb call
    obtain ⟨d', hg'⟩ := ih (hg.ready hb)
    exact ⟨d ++ d', hg.trans hg'⟩

/-- A call adds its record exactly if it is sound. -/
theorem addsRecord_iff (hb : b.Ready) (call : AttributeCall) :
    AddsRecord b call ↔ call.Sound b.fLegacyMode := by
  cases outcome hb call with
  | refused h hsound =>
    refine iff_of_true ⟨fun b' he => ?_, fun e b' he => ?_⟩ hsound
    · rw [h] at he
      cases he
    · rw [h] at he
      cases he
      rfl
  | @written n rest h hsound =>
    obtain ⟨b', he, hg⟩ := h hb
    rw [hsound, ← exists_encode_iff (t := call.type b.fLegacyMode)]
    constructor
    · intro hadds
      obtain ⟨r, htype, hbytes⟩ := hadds.success b' he
      rw [hg.bytes hb] at hbytes
      exact ⟨r, htype, List.append_cancel_left hbytes⟩
    · rintro ⟨r, htype, hencode⟩
      refine ⟨fun b'' he' => ⟨r, htype, ?_⟩, fun e b'' he' => ?_⟩
      · rw [he] at he'
        cases he'
        rw [hg.bytes hb, hencode]
      · rw [he] at he'
        cases he'
  | stray hd h hg hsound =>
    refine iff_of_false (fun hadds => hd ?_) hsound
    have hbytes := hadds.failure _ _ h
    rw [hg.bytes hb] at hbytes
    simpa using hbytes

/-- After sound calls the attributes added follow what was there. -/
theorem records_of_sound (hb : b.Ready) {calls : List AttributeCall}
    (hsound : ∀ call ∈ calls, call.Sound b.fLegacyMode) :
    ∃ rs : List Record, (b.afterAttributes calls).stream.bytes = b.stream.bytes ++ encodeAll rs ∧
      rs.map Record.type = (b.added calls).map (AttributeCall.type b.fLegacyMode) := by
  induction calls generalizing b with
  | nil => exact ⟨[], (List.append_nil _).symm, rfl⟩
  | cons call calls ih =>
    obtain ⟨d, hg⟩ := grown_after hb call
    have hadds := (addsRecord_iff hb call).mpr (hsound call (by simp))
    obtain ⟨rs, hbytes, htypes⟩ := ih (hg.ready hb)
      fun c hc => hg.mode.symm ▸ hsound c (by simp [hc])
    rw [hg.mode] at htypes
    cases he : call.run b with
    | ok u b' =>
      obtain ⟨hafter, hok⟩ := Hr.after_ok he
      obtain ⟨r, htype, hr⟩ := hadds.success b' he
      refine ⟨r :: rs, ?_, ?_⟩
      · rw [hafter, hr, List.append_assoc] at hbytes
        change ((call.run.after b).afterAttributes calls).stream.bytes = _
        rw [hafter, hbytes, encodeAll_cons]
      · rw [added, if_pos hok, List.map_cons, List.map_cons, htype, htypes]
    | error e b' =>
      obtain ⟨hafter, hno⟩ := Hr.after_error he
      refine ⟨rs, ?_, ?_⟩
      · rw [hafter, hadds.failure e b' he] at hbytes
        change ((call.run.after b).afterAttributes calls).stream.bytes = _
        rw [hafter, hbytes]
      · rw [added, if_neg (by rw [hno]; decide), htypes]

theorem wellBuilt_iff (hb : b.Ready) (haligned : b.stream.bytes.length % 4 = 0)
    (calls : List AttributeCall) :
    b.WellBuilt calls ↔ ∀ call ∈ calls, call.Sound b.fLegacyMode := by
  have hadds : Log.Always (fun before call => AddsRecord (b.afterAttributes before) call) calls ↔
      ∀ call ∈ calls, call.Sound b.fLegacyMode := by
    rw [← Log.always_forall]
    refine Log.always_congr fun before call => ?_
    obtain ⟨d, hg⟩ := grown_afterAttributes hb before
    rw [addsRecord_iff (hg.ready hb), hg.mode]
  constructor
  · exact fun h => hadds.mp h.adds
  · intro hsound
    refine ⟨hadds.mpr hsound, ?_⟩
    rintro before after rfl
    obtain ⟨d, hg⟩ := grown_afterAttributes hb before
    obtain ⟨pre, hat⟩ := hg.ready hb
    have hbefore : ∀ call ∈ before, call.Sound b.fLegacyMode :=
      fun call hcall => hsound call (by simp [hcall])
    obtain ⟨rs, hbytes, htypes⟩ := records_of_sound hb hbefore
    refine ⟨?_, rs, hbytes, ?_⟩
    · have hmod := sizeAll_mod rs
      rw [← hat.wf.bytes_length, hbytes, List.length_append, encodeAll_length]
      omega
    · rw [htypes, hg.mode]

end

/-- A builder that is started holds the header and nothing else. -/
theorem drafts_started (spBuffer : Option CBuffer) (fLegacyMode : Bool) (msgType : UInt16)
    (msgClass : StunMessageClass) (transid : StunTransactionId) :
    let b := started spBuffer fLegacyMode msgType msgClass transid
    b.Drafts (mergeType msgType msgClass) 0 [] ∧ b.transactionid = transid ∧
      b.fLegacyMode = fLegacyMode := by
  intro b
  have hat : ((spBuffer.elim create create.attachStream).setLegacyMode
      fLegacyMode).stream.AtEnd [] := by
    cases spBuffer with
    | none => exact CDataStream.atEnd_create
    | some buf => exact CDataStream.atEnd_attach _ buf
  obtain ⟨b₁, he₁, hat₁, hmode₁, -⟩ := addHeader_ok hat msgType msgClass
  obtain ⟨b₂, he₂, hd₂, htid₂, hmode₂, -⟩ := addTransactionId_ok hat₁ transid
  have hb : b = b₂ := by
    simp only [b, started]
    rw [(Hr.after_ok he₁).1, (Hr.after_ok he₂).1]
  rw [hb]
  exact ⟨hd₂, htid₂, hmode₂.trans hmode₁⟩

end StunServer.CStunMessageBuilder

import StunServer.Proofs.BuilderCall
import StunServer.Results.RoundTrip

/-! What the typed writers of the builder add, the typed accessors of the reader return,
in any message that also holds other attributes. -/

namespace StunServer

open Bytes Tlv CStunMessageBuilder

/-- The attributes with a writer and an accessor of their own, within what the writers take. -/
inductive TypedAttribute where
  | responsePort (port : UInt16)
  | changeRequest (changeAttrib : StunChangeRequestAttribute)
  | errorCode (errorNumber : UInt16) (pszReason : List UInt8) (low : 300 ≤ errorNumber.toNat)
      (high : errorNumber.toNat ≤ 600) (short : strlen pszReason < 128)
  | string (attribType : UInt16) (pstr : List UInt8) (nonempty : strlen pstr ≠ 0)
      (short : strlen pstr ≤ 776)

namespace TypedAttribute

def call : TypedAttribute → AttributeCall
  | responsePort port => .responsePort port
  | changeRequest changeAttrib => .changeRequest changeAttrib
  | errorCode n pszReason _ _ _ => .errorCode n pszReason
  | string t pstr _ _ => .stringAttribute t pstr

def type : TypedAttribute → UInt16
  | responsePort _ => STUN_ATTRIBUTE_RESPONSE_PORT
  | changeRequest _ => STUN_ATTRIBUTE_CHANGEREQUEST
  | errorCode .. => STUN_ATTRIBUTE_ERRORCODE
  | string t _ _ _ => t

/-- The value as the writer lays it out, apart from the padding. -/
def value : TypedAttribute → List UInt8
  | responsePort port => be16 port
  | changeRequest c =>
    be32 ((if c.fChangeIP then 0x04 else 0) ||| (if c.fChangePort then 0x02 else 0))
  | errorCode n pszReason _ _ _ => errorValue n (cstr pszReason)
  | string _ pstr _ _ => cstr pstr

/-- The size that the header of the attribute announces. -/
def declaredSize (fLegacyMode : Bool) (a : TypedAttribute) : ℕ :=
  if fLegacyMode then a.value.length + padLen a.value.length else a.value.length

/-- The accessor returns what was given to the writer. A buffer for a string is large
enough if it holds the attribute and a null character. -/
def Returned (fLegacyMode : Bool) (r : CStunMessageReader) (a : TypedAttribute) : Prop :=
  match a with
  | responsePort port => r.getResponsePort = .ok port
  | changeRequest changeAttrib => r.getChangeRequest = .ok changeAttrib
  | errorCode n _ _ _ _ => r.getErrorCode = .ok n
  | string t pstr _ _ => ∀ (size : ℕ) (pszValue : List.Vector UInt8 size),
      a.declaredSize fLegacyMode < size →
        ∃ out, r.getStringAttributeByType t pszValue = .ok out ∧ cstr out.toList = cstr pstr

def IsResponsePort : TypedAttribute → Prop
  | responsePort _ => True
  | _ => False

theorem value_length_le (a : TypedAttribute) : a.value.length ≤ 776 := by
  cases a with
  | responsePort port => simp [value]
  | changeRequest changeAttrib => simp [value]
  | errorCode n pszReason low high short =>
    have hlen : (cstr pszReason).length < 128 := short
    rw [value, errorValue_length]
    omega
  | string t pstr nonempty short => exact short

theorem value_short (a : TypedAttribute) : a.value.length + 3 < 2 ^ 16 := by
  have hle := a.value_length_le
  omega

theorem mem32_flags (c : StunChangeRequestAttribute) :
    mem32 (htonl (if c.fChangePort = true then
      (if c.fChangeIP = true then (0 : UInt32) ||| 0x04 else 0) ||| 0x02
      else if c.fChangeIP = true then (0 : UInt32) ||| 0x04 else 0)) =
        (changeRequest c).value := by
  rw [mem32_htonl, value]
  congr 1
  cases c.fChangeIP <;> cases c.fChangePort <;> rfl

/-- Every typed writer succeeds and leaves its record. -/
theorem writes_call (a : TypedAttribute) (b : CStunMessageBuilder) :
    Writes a.call.run b (record b.fLegacyMode a.type a.value a.value_short).encode := by
  cases a with
  | responsePort port =>
    refine (writes_addAttribute b STUN_ATTRIBUTE_RESPONSE_PORT (v := mem16 (htons port)) (by simp)
      rfl).congr ?_
    simp only [mem16_htons]
    rfl
  | changeRequest changeAttrib =>
    change Writes (addChangeRequest changeAttrib) b _
    unfold addChangeRequest
    dsimp only
    rw [mem32_flags]
    exact writes_addAttribute b STUN_ATTRIBUTE_CHANGEREQUEST
      (value_short (changeRequest changeAttrib)) (be32_length _).symm
  | errorCode n pszReason low high short =>
    exact writes_addErrorCode b (by rw [UInt16.lt_iff_toNat_lt]; exact Nat.not_lt.mpr low)
      (by rw [gt_iff_lt, UInt16.lt_iff_toNat_lt]; exact Nat.not_lt.mpr high) short
  | string t pstr nonempty short =>
    exact writes_addStringAttribute b t
      (fun h => nonempty (by rw [strlen_eq, h]; rfl)) (value_short (string t pstr nonempty short))

theorem writes_records (a : TypedAttribute) (b : CStunMessageBuilder) :
    Writes a.call.run b
      (encodeAll [record b.fLegacyMode a.type a.value a.value_short]) := by
  rw [encodeAll_cons, encodeAll_nil, List.append_nil]
  exact a.writes_call b

theorem cstr_append_padding (s : List UInt8) (n : ℕ) :
    cstr (s ++ List.replicate n 0) = cstr s := by
  cases n with
  | zero => rw [List.replicate_zero, List.append_nil]
  | succ n => exact cstr_append_zero s _

/-! ### Reading -/

section

variable {r : CStunMessageReader} {m : Message} {fLegacyMode : Bool}

/-- The one attribute that legacy mode changes under its accessor. -/
theorem responsePort_returned_iff (h : r.Parsed m) (port : UInt16)
    (hv : (be16 port).length + 3 < 2 ^ 16)
    (hfind : m.find STUN_ATTRIBUTE_RESPONSE_PORT =
      some (record fLegacyMode STUN_ATTRIBUTE_RESPONSE_PORT (be16 port) hv)) :
    r.getResponsePort = .ok port ↔ fLegacyMode = false := by
  rw [h.getResponsePort_eq, hfind]
  simp only [record_value]
  cases fLegacyMode with
  | false => simp
  | true => simp [padLen]

theorem changeRequest_returned (h : r.Parsed m) (c : StunChangeRequestAttribute)
    (hfind : m.find STUN_ATTRIBUTE_CHANGEREQUEST = some (record fLegacyMode
      STUN_ATTRIBUTE_CHANGEREQUEST (changeRequest c).value (value_short (changeRequest c)))) :
    r.getChangeRequest = .ok c := by
  have hvalue : (changeRequest c).value.length = 4 := be32_length _
  rw [h.getChangeRequest_eq, hfind]
  simp only [record_value_aligned fLegacyMode _ _ (by rw [hvalue]), hvalue, if_true]
  rw [value, word32_be32]
  obtain ⟨fChangeIP, fChangePort⟩ := c
  cases fChangeIP <;> cases fChangePort <;> rfl

theorem string_returned (h : r.Parsed m) {t : UInt16} {s : List UInt8}
    (hs : s.length + 3 < 2 ^ 16) (hfind : m.find t = some (record fLegacyMode t s hs)) {size : ℕ}
    (pszValue : List.Vector UInt8 size)
    (hsize : (record fLegacyMode t s hs).value.length < size) :
    ∃ out, r.getStringAttributeByType t pszValue = .ok out ∧ cstr out.toList = cstr s := by
  refine ⟨memcpy pszValue ((record fLegacyMode t s hs).value ++ [0]), ?_, ?_⟩
  · rw [h.getStringAttributeByType_eq, hfind]
    exact if_neg (Nat.not_le.mpr hsize)
  · rw [cstr_memcpy pszValue hsize, record_value]
    split_ifs
    · exact cstr_append_padding s _
    · rfl

end

theorem returned_iff {r : CStunMessageReader} {m : Message} (h : r.Parsed m) (fLegacyMode : Bool)
    (a : TypedAttribute)
    (hfind : m.find a.type = some (record fLegacyMode a.type a.value a.value_short)) :
    a.Returned fLegacyMode r ↔ ¬(fLegacyMode = true ∧ a.IsResponsePort) := by
  cases a with
  | responsePort port =>
    change r.getResponsePort = .ok port ↔ _
    rw [responsePort_returned_iff h port _ hfind]
    simp [IsResponsePort]
  | changeRequest changeAttrib =>
    exact iff_of_true (changeRequest_returned h changeAttrib hfind) fun hno => hno.2
  | errorCode n pszReason low high short =>
    exact iff_of_true (h.getErrorCode_of_record high hfind) fun hno => hno.2
  | string t pstr nonempty short =>
    refine iff_of_true (fun size pszValue hsize => ?_) fun hno => hno.2
    rw [← cstr_cstr pstr]
    refine string_returned h _ hfind pszValue (Nat.lt_of_le_of_lt (Nat.le_of_eq ?_) hsize)
    rw [record_value, declaredSize]
    split_ifs
    · rw [List.length_append, List.length_replicate]
    · rfl

end TypedAttribute

/-! ### Writing -/

namespace CStunMessageBuilder

theorem mem_of_added {b : CStunMessageBuilder} {calls : List AttributeCall} {call : AttributeCall}
    (h : call ∈ b.added calls) : call ∈ calls := by
  induction calls generalizing b with
  | nil => exact h
  | cons c calls ih =>
    unfold added at h
    split_ifs at h
    · rcases List.mem_cons.mp h with rfl | h
      · exact List.mem_cons_self
      · exact List.mem_cons_of_mem c (ih h)
    · exact List.mem_cons_of_mem c (ih h)

/-- Sound calls add records to a message, of the types that the calls are for. -/
theorem Drafts.afterAttributes {b : CStunMessageBuilder} {typeField : UInt16} {n : ℕ}
    {rs : List Record} (h : b.Drafts typeField n rs) {calls : List AttributeCall} {t : UInt16}
    (hsound : ∀ call ∈ calls, call.Sound b.fLegacyMode)
    (hother : ∀ call ∈ calls, call.type b.fLegacyMode ≠ t) :
    ∃ rs', (b.afterAttributes calls).Drafts typeField n (rs ++ rs') ∧ (∀ x ∈ rs', x.type ≠ t) ∧
      (b.afterAttributes calls).transactionid = b.transactionid ∧
      (b.afterAttributes calls).fLegacyMode = b.fLegacyMode := by
  have hready : b.Ready := ⟨_, h.atEnd⟩
  obtain ⟨d, hg⟩ := grown_afterAttributes hready calls
  obtain ⟨rs', hbytes, htypes⟩ := records_of_sound hready hsound
  have hd : d = encodeAll rs' := List.append_cancel_left ((hg.bytes hready).symm.trans hbytes)
  rw [hd] at hg
  refine ⟨rs', (h.grown hg).1, fun x hx => ?_, hg.tid, hg.mode⟩
  have hmem : x.type ∈ (b.added calls).map (AttributeCall.type b.fLegacyMode) :=
    htypes ▸ List.mem_map_of_mem hx
  obtain ⟨call, hcall, htype⟩ := List.mem_map.mp hmem
  rw [← htype]
  exact hother call (mem_of_added hcall)

end CStunMessageBuilder

/-- The finished message has the record of the attribute, and no other of its type. -/
theorem typed_built (spBuffer : Option CBuffer) (fLegacyMode : Bool) (msgType : UInt16)
    (msgClass : StunMessageClass) (transid : StunTransactionId) (a : TypedAttribute)
    {before after : List AttributeCall}
    (hsound : ∀ call ∈ before ++ after, call.Sound fLegacyMode)
    (hother : ∀ call ∈ before ++ after, call.type fLegacyMode ≠ a.type) :
    ∃ buf b' rs rs', getResult ((started spBuffer fLegacyMode msgType msgClass
        transid).afterAttributes (before ++ a.call :: after)) = .ok (some buf) b' ∧
      buf.bytes.drop 20 = encodeAll (rs ++ record fLegacyMode a.type a.value a.value_short :: rs') ∧
      ∀ x ∈ rs', x.type ≠ a.type := by
  obtain ⟨hd, -, hmode⟩ := drafts_started spBuffer fLegacyMode msgType msgClass transid
  generalize started spBuffer fLegacyMode msgType msgClass transid = b at hd hmode ⊢
  subst hmode
  obtain ⟨rs, hd₁, -, -, hmode₁⟩ := hd.afterAttributes
    (fun call hcall => hsound call (List.mem_append_left after hcall))
    (fun call hcall => hother call (List.mem_append_left after hcall))
  generalize hb₁ : b.afterAttributes before = b₁ at hd₁ hmode₁
  obtain ⟨b₂, he₂, hd₂, -, hmode₂, -⟩ := hd₁.writes (a.writes_records b₁)
  rw [hmode₁] at hd₂
  obtain ⟨rs', hd₃, htypes, -⟩ := hd₂.afterAttributes (t := a.type)
    (fun call hcall => by
      rw [hmode₂, hmode₁]
      exact hsound call (List.mem_append_right before hcall))
    (fun call hcall => by
      rw [hmode₂, hmode₁]
      exact hother call (List.mem_append_right before hcall))
  have hrun : b.afterAttributes (before ++ a.call :: after) = b₂.afterAttributes after := by
    rw [CStunMessageBuilder.afterAttributes, List.foldl_append, List.foldl_cons]
    change List.foldl _ (a.call.run.after (b.afterAttributes before)) after = _
    rw [hb₁, (Hr.after_ok he₂).1]
    rfl
  obtain ⟨b₄, he₄, hd₄, -⟩ := hd₃.getResult
  obtain ⟨buf, hbuf, hbytes⟩ := hd₄.bytes
  refine ⟨buf, b₄, rs, rs', ?_, ?_, htypes⟩
  · rw [hrun, he₄, hbuf]
  · rw [hbytes, List.drop_left' (headerBytes_length _ _ _), List.nil_append, List.append_assoc]
    rfl

theorem lone_value_le (fLegacyMode : Bool) (a : TypedAttribute) :
    ∀ x ∈ [record fLegacyMode a.type a.value a.value_short], x.value.length ≤ 780 := by
  have hle := a.value_length_le
  intro x hx
  rw [List.mem_singleton.mp hx, record_value]
  split_ifs
  · rw [List.length_append, List.length_replicate, padLen]
    omega
  · omega

theorem lone_body_le (fLegacyMode : Bool) (a : TypedAttribute) :
    sizeAll [record fLegacyMode a.type a.value a.value_short] ≤ 800 := by
  have hle := a.value_length_le
  have hpad := padLen_lt a.value.length
  rw [sizeAll_cons, sizeAll_nil, record_size]
  omega

/-- A Binding request with nothing but the attribute is within the limits. -/
def loneMessage (fLegacyMode : Bool) (transid : StunTransactionId) (a : TypedAttribute) :
    Message where
  method := StunMsgTypeBinding
  cls := .request
  tid := transid
  attrs := [record fLegacyMode a.type a.value a.value_short]
  isMethod := isMethod_binding
  cls_ne := request_ne_invalid
  count_le := Nat.le_of_lt (by decide : 1 < 30)
  value_le := lone_value_le fLegacyMode a
  body_le := lone_body_le fLegacyMode a

theorem lone_built (fLegacyMode : Bool) (transid : StunTransactionId) (a : TypedAttribute) :
    ∃ buf b', getResult ((started none fLegacyMode StunMsgTypeBinding .request
        transid).afterAttributes [a.call]) = .ok (some buf) b' ∧
      buf.bytes = (loneMessage fLegacyMode transid a).encode := by
  obtain ⟨hd, htid, hmode⟩ := drafts_started none fLegacyMode StunMsgTypeBinding .request transid
  generalize started none fLegacyMode StunMsgTypeBinding .request transid = b at hd htid hmode ⊢
  subst hmode
  obtain ⟨b₁, he₁, hd₁, htid₁, -⟩ := hd.writes (a.writes_records b)
  have hrun : b.afterAttributes [a.call] = b₁ := (Hr.after_ok he₁).1
  rw [hrun]
  exact Drafts.result (m := loneMessage b.fLegacyMode transid a) hd₁ (htid₁.trans htid)

/-- A typed attribute survives the round trip in any message that the reader accepts, but
for the response port in legacy mode: its writer pads the value to four bytes, and its
accessor asks for two. -/
theorem typed_round_trip_iff (spBuffer : Option CBuffer) (fLegacyMode : Bool) (msgType : UInt16)
    (msgClass : StunMessageClass) (transid : StunTransactionId) (a : TypedAttribute)
    (before after : List AttributeCall) (hsound : ∀ call ∈ before ++ after, call.Sound fLegacyMode)
    (hother : ∀ call ∈ before ++ after, call.type fLegacyMode ≠ a.type) :
    ∃ buf b', getResult ((started spBuffer fLegacyMode msgType msgClass
        transid).afterAttributes (before ++ a.call :: after)) = .ok (some buf) b' ∧
      (Accepted true buf.bytes →
        (a.Returned fLegacyMode (readBack buf.bytes) ↔
          ¬(fLegacyMode = true ∧ a.IsResponsePort))) := by
  obtain ⟨buf, b', rs, rs', he, hbody, htypes⟩ :=
    typed_built spBuffer fLegacyMode msgType msgClass transid a hsound hother
  refine ⟨buf, b', he, fun hfits => ?_⟩
  obtain ⟨m, hm⟩ := hfits.exists_message
  rw [← hm, m.drop_encode] at hbody
  have hfind := Message.find_of_records (encodeAll_inj hbody) (by rwa [record_type])
  rw [record_type] at hfind
  rw [← hm]
  exact a.returned_iff (parsed_encode m) fLegacyMode hfind

/-- The error code of a Binding request with nothing else. -/
theorem typed_round_trip_error_code : ∃ buf b',
    getResult ((started none false StunMsgTypeBinding .request
      (List.Vector.replicate 16 7)).afterAttributes [.errorCode 420 [120]]) = .ok (some buf) b' ∧
    (readBack buf.bytes).getErrorCode = .ok 420 := by
  obtain ⟨buf, b', he, hreturned⟩ := typed_round_trip_iff none false StunMsgTypeBinding .request
    (List.Vector.replicate 16 7) (.errorCode 420 [120] (by decide) (by decide) (by decide)) [] []
    (by simp) (by simp)
  obtain ⟨buf', b'', he', hbytes⟩ := lone_built false (List.Vector.replicate 16 7)
    (.errorCode 420 [120] (by decide) (by decide) (by decide))
  obtain rfl : buf = buf' := by
    have hsame := he.symm.trans he'
    cases hsame
    rfl
  exact ⟨buf, b', he, (hreturned (hbytes ▸ Message.accepted _)).mpr fun h => h.2⟩

/-- The port 3478 for a legacy client. -/
theorem typed_round_trip_legacy_port : ∃ buf b',
    getResult ((started none true StunMsgTypeBinding .request
      (List.Vector.replicate 16 7)).afterAttributes [.responsePort 3478]) = .ok (some buf) b' ∧
    Accepted true buf.bytes ∧ (readBack buf.bytes).getResponsePort ≠ .ok 3478 := by
  obtain ⟨buf, b', he, hbytes⟩ := lone_built true (List.Vector.replicate 16 7) (.responsePort 3478)
  refine ⟨buf, b', he, hbytes ▸ Message.accepted _, fun h => ?_⟩
  rw [hbytes] at h
  have hfind : (loneMessage true (List.Vector.replicate 16 7)
      (.responsePort 3478)).find STUN_ATTRIBUTE_RESPONSE_PORT =
        some (record true STUN_ATTRIBUTE_RESPONSE_PORT (be16 3478) (by simp)) := by
    have hattrs : (loneMessage true (List.Vector.replicate 16 7) (.responsePort 3478)).attrs =
        [] ++ record true STUN_ATTRIBUTE_RESPONSE_PORT (be16 3478) (by simp) :: [] := rfl
    have hlast := Message.find_of_records hattrs (by simp)
    rwa [record_type] at hlast
  have hmode := (TypedAttribute.responsePort_returned_iff (parsed_encode _) _ _ hfind).mp h
  exact absurd hmode (by decide)

end StunServer

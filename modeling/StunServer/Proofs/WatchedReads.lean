import StunServer.Core.WatchedReads
import StunServer.Proofs.ReaderIntegrity

/-! Watching the memory changes nothing about what the accessors return, and what is read
through a stream lies within the memory the stream was given. -/

namespace StunServer

open Bytes

namespace WatchedStream

open Watched

variable {α : Type}

theorem peek_apply (off n : ℕ) (w : WatchedStream) :
    peek off n w = .ok (w.object.peek off n) ⟨w.object, w.events ++ [⟨off, n⟩]⟩ := rfl

theorem copy_apply (off n : ℕ) (w : WatchedStream) :
    copy off n w = .ok (slice w.object.data off n) ⟨w.object, w.events ++ [⟨off, n⟩]⟩ := rfl

/-! ### The same outcome -/

section

variable (start : ℕ)

theorem forgets_read (size : ℕ) : Forgets (read start size) (CDataStream.read size) := by
  intro w
  rw [read]
  cases CDataStream.read size w.object <;> rfl

theorem forgets_readUint8 : Forgets (readUint8 start) CDataStream.readUint8 :=
  forgets_bind (forgets_read start 1) fun _ => forgets_pure _

theorem forgets_readUint16 : Forgets (readUint16 start) CDataStream.readUint16 :=
  forgets_bind (forgets_read start 2) fun _ => forgets_pure _

theorem forgets_readUint32 : Forgets (readUint32 start) CDataStream.readUint32 :=
  forgets_bind (forgets_read start 4) fun _ => forgets_pure _

theorem forgets_feedChunks (nChunks : ℕ) (ctx : List UInt8) :
    Forgets (feedChunks start nChunks ctx) (CStunMessageReader.feedChunks nChunks ctx) := by
  induction nChunks generalizing ctx with
  | zero => exact forgets_pure ctx
  | succ nChunks ih => exact forgets_bind (forgets_readUint32 start) fun _ => ih _

theorem forgets_feedHmac (fFingerprintAdjustment : Bool) (offset : UInt16) :
    Forgets (feedHmac start fFingerprintAdjustment offset)
      (CStunMessageReader.feedHmac fFingerprintAdjustment offset) :=
  forgets_bind (forgets_readUint16 start) fun _ => forgets_bind (forgets_readUint16 start) fun _ =>
    forgets_feedChunks start _ _

theorem getMappedAddress_result (pData : List UInt8) (spans : List Span) :
    (getMappedAddress start).result ⟨.ofBuffer (.initNoAlloc pData), spans⟩ =
      StunServer.getMappedAddress pData := by
  have hforgets : Forgets (getMappedAddress start) _ :=
    forgets_bind (forgets_quiet _) fun _ => forgets_bind (forgets_readUint8 start) fun _ =>
      forgets_bind (forgets_readUint16 start) fun _ =>
        forgets_ite (forgets_bind (forgets_readUint32 start) fun _ => forgets_pure _)
          (forgets_bind (forgets_read start _) fun _ => forgets_pure _)
  rw [hforgets.result rfl, Hr.result, StunServer.getMappedAddress]
  dsimp only
  cases (CDataStream.seekDirect 1 >>= _) (CDataStream.ofBuffer (CBuffer.initNoAlloc pData)) <;> rfl

end

/-! ### Reading within bounds -/

section

variable {Good : Span → Prop} {base n : ℕ} {r : CStunMessageReader}

/-- A stream over `n` bytes of a message, with only good reads noted. -/
structure Confined (Good : Span → Prop) (n : ℕ) (w : WatchedStream) : Prop where
  size : w.object.getSize = n
  pos_le : w.object.pos ≤ n
  spans : ∀ s ∈ w.events, Good s

/-- The memory of a message, with only good reads noted. -/
structure Noted (Good : Span → Prop) (r : CStunMessageReader) (w : WatchedStream) : Prop where
  stream : w.object = r.stream
  spans : ∀ s ∈ w.events, Good s

theorem noted_watched : Noted Good r r.watched := ⟨rfl, fun _ hs => by cases hs⟩

/-- `Read` notes a span only after the size has been checked. -/
theorem keeps_read (hgood : ∀ s : Span, s.Within base n → Good s) {size : ℕ}
    (hsum : n + size < 2 ^ 64) : Hr.Keeps (Confined Good n) (read base size) := by
  intro w h
  have hpos := h.pos_le
  rw [Hr.after, read]
  rcases CDataStream.read_cases size w.object with ⟨hle, hread⟩ | ⟨-, hread⟩
  · rw [hread]
    rw [h.size, Nat.mod_eq_of_lt (by omega)] at hle
    refine ⟨h.size, ?_, forall_concat h.spans (hgood _ ⟨Nat.le_add_right _ _, ?_⟩)⟩
    · exact (Nat.mod_le _ _).trans hle
    · show base + w.object.pos + size ≤ base + n
      omega
  · rw [hread]
    exact h

theorem keeps_seekDirect (pos : ℕ) : Hr.Keeps (Confined Good n) (quiet (CDataStream.seekDirect pos)) := by
  intro w h
  rw [quiet, Hr.after_on]
  exact ⟨(CDataStream.getSize_seekDirect pos w.object).trans h.size,
    h.size ▸ CDataStream.pos_seekDirect_le pos (h.pos_le.trans h.size.ge), h.spans⟩

theorem keeps_readUint8 (hgood : ∀ s : Span, s.Within base n → Good s) (hn : n < 2 ^ 63) :
    Hr.Keeps (Confined Good n) (readUint8 base) :=
  Hr.keeps_bind (keeps_read hgood (by omega)) fun _ => Hr.keeps_pure _

theorem keeps_readUint16 (hgood : ∀ s : Span, s.Within base n → Good s) (hn : n < 2 ^ 63) :
    Hr.Keeps (Confined Good n) (readUint16 base) :=
  Hr.keeps_bind (keeps_read hgood (by omega)) fun _ => Hr.keeps_pure _

theorem keeps_readUint32 (hgood : ∀ s : Span, s.Within base n → Good s) (hn : n < 2 ^ 63) :
    Hr.Keeps (Confined Good n) (readUint32 base) :=
  Hr.keeps_bind (keeps_read hgood (by omega)) fun _ => Hr.keeps_pure _

/-- The parser of addresses stays in the value it is given. -/
theorem keeps_getMappedAddress (hgood : ∀ s : Span, s.Within base n → Good s) (hn : n < 2 ^ 63) :
    Hr.Keeps (Confined Good n) (getMappedAddress base) := by
  have hsix : n + STUN_IPV6_LENGTH < 2 ^ 64 := by
    rw [STUN_IPV6_LENGTH]
    omega
  refine Hr.keeps_bind (keeps_seekDirect 1) fun _ => Hr.keeps_bind (keeps_readUint8 hgood hn) fun _ =>
    Hr.keeps_bind (keeps_readUint16 hgood hn) fun _ => ?_
  dsimp only
  split_ifs
  · exact Hr.keeps_bind (keeps_readUint32 hgood hn) fun _ => Hr.keeps_pure _
  · exact Hr.keeps_bind (keeps_read hgood hsix) fun _ => Hr.keeps_pure _

theorem keeps_feedChunks (hgood : ∀ s : Span, s.Within base n → Good s) (hn : n < 2 ^ 63) (nChunks : ℕ)
    (ctx : List UInt8) : Hr.Keeps (Confined Good n) (feedChunks base nChunks ctx) := by
  induction nChunks generalizing ctx with
  | zero => exact Hr.keeps_pure ctx
  | succ nChunks ih => exact Hr.keeps_bind (keeps_readUint32 hgood hn) fun _ => ih _

theorem keeps_feedHmac (hgood : ∀ s : Span, s.Within base n → Good s) (hn : n < 2 ^ 63)
    (fFingerprintAdjustment : Bool) (offset : UInt16) :
    Hr.Keeps (Confined Good n) (feedHmac base fFingerprintAdjustment offset) :=
  Hr.keeps_bind (keeps_readUint16 hgood hn) fun _ => Hr.keeps_bind (keeps_readUint16 hgood hn) fun _ =>
    keeps_feedChunks hgood hn _ _

theorem keeps_peek {off len : ℕ} (hgood : Good ⟨off, len⟩) :
    Hr.Keeps (Noted Good r) (peek off len) :=
  fun _ h => ⟨h.stream, forall_concat h.spans hgood⟩

theorem keeps_copy {off len : ℕ} (hgood : Good ⟨off, len⟩) :
    Hr.Keeps (Noted Good r) (copy off len) :=
  fun _ h => ⟨h.stream, forall_concat h.spans hgood⟩

theorem keeps_through {stream : CDataStream} {m : Hr WatchedStream α}
    (hsize : stream.getSize = n) (hpos : stream.pos ≤ n) (hm : Hr.Keeps (Confined Good n) m) :
    Hr.Keeps (Noted Good r) (through stream m) := by
  intro w h
  have hinner := hm ⟨stream, w.events⟩ ⟨hsize, hpos, h.spans⟩
  rw [Hr.after] at hinner
  rw [Hr.after, through]
  cases hw : m ⟨stream, w.events⟩ with
  | ok a w' =>
    rw [hw] at hinner
    exact ⟨h.stream, hinner.spans⟩
  | error e w' =>
    rw [hw] at hinner
    exact ⟨h.stream, hinner.spans⟩

end

end WatchedStream

namespace CStunMessageReader

open Watched WatchedStream

variable (r : CStunMessageReader)

/-! ### The accessors return what they return unwatched -/

theorem watch_getErrorCode : r.getErrorCodeWatched.result r.watched = r.getErrorCode := by
  rw [getErrorCodeWatched, getErrorCode]
  cases r.mapAttributes.lookup STUN_ATTRIBUTE_ERRORCODE <;> rfl

theorem watch_getResponsePort : r.getResponsePortWatched.result r.watched = r.getResponsePort := by
  rw [getResponsePortWatched, getResponsePort]
  cases r.mapAttributes.lookup STUN_ATTRIBUTE_RESPONSE_PORT with
  | none => rfl
  | some pAttrib =>
    dsimp only
    split_ifs <;> rfl

theorem watch_getChangeRequest :
    r.getChangeRequestWatched.result r.watched = r.getChangeRequest := by
  rw [getChangeRequestWatched, getChangeRequest]
  cases r.mapAttributes.lookup STUN_ATTRIBUTE_CHANGEREQUEST with
  | none => rfl
  | some pAttrib =>
    dsimp only
    split_ifs <;> rfl

theorem watch_getStringAttributeByType (attributeType : UInt16) {size : ℕ}
    (pszValue : List.Vector UInt8 size) :
    (r.getStringAttributeByTypeWatched attributeType pszValue).result r.watched =
      r.getStringAttributeByType attributeType pszValue := by
  rw [getStringAttributeByTypeWatched, getStringAttributeByType]
  cases r.mapAttributes.lookup attributeType with
  | none => rfl
  | some pAttrib =>
    dsimp only
    split_ifs <;> rfl

/-- An address is parsed on a stream of its own, whatever was read before. -/
theorem watch_getAddressHelper (attribType : UInt16) (w : WatchedStream) :
    (r.getAddressHelperWatched attribType).result w = r.getAddressHelper attribType := by
  rw [getAddressHelperWatched, getAddressHelper]
  cases r.mapAttributes.lookup attribType with
  | none => rfl
  | some pAttrib =>
    dsimp only
    rw [← getMappedAddress_result pAttrib.offset.toNat _ w.events, through_result]

theorem watch_getAddressOrLegacy (attribType legacyType : UInt16) :
    (orElse (r.getAddressHelperWatched attribType)
      (r.getAddressHelperWatched legacyType)).result r.watched =
        r.getAddressOrLegacy attribType legacyType := by
  have hfirst := r.watch_getAddressHelper attribType r.watched
  rw [getAddressOrLegacy, ← hfirst, Hr.result, Hr.result, orElse]
  cases r.getAddressHelperWatched attribType r.watched with
  | ok addr w => rfl
  | error e w => exact r.watch_getAddressHelper legacyType w

theorem watch_getXorMappedAddress :
    r.getXorMappedAddressWatched.result r.watched = r.getXorMappedAddress := by
  rw [getXorMappedAddress, ← watch_getAddressOrLegacy, getXorMappedAddressWatched]
  cases h : orElse (r.getAddressHelperWatched STUN_ATTRIBUTE_XORMAPPEDADDRESS)
      (r.getAddressHelperWatched STUN_ATTRIBUTE_XORMAPPEDADDRESS_OPTIONAL) r.watched with
  | ok addr w =>
    rw [Hr.result_ok h, Hr.result, Hr.bind_ok h]
    rfl
  | error e w =>
    rw [Hr.result_error h, Hr.result, Hr.bind_error h]
    rfl

theorem watch_isFingerprintAttributeValid (D : Digests) :
    (r.isFingerprintAttributeValidWatched D).result r.watched =
      bif r.isFingerprintAttributeValid D then .ok () else .error E_FAIL := by
  rw [isFingerprintAttributeValidWatched, isFingerprintAttributeValid]
  cases r.mapAttributes.lookup STUN_ATTRIBUTE_FINGERPRINT with
  | none => rfl
  | some pAttrib =>
    dsimp only
    by_cases htype : pAttrib.attributeType ≠ STUN_ATTRIBUTE_FINGERPRINT
    · rw [if_pos htype, if_pos htype]
      rfl
    rw [if_neg htype, if_neg htype]
    by_cases hsize : pAttrib.size ≠ 4
    · rw [if_pos hsize, if_pos hsize]
      rfl
    rw [if_neg hsize, if_neg hsize]
    by_cases hstate : r.state ≠ .bodyValidated
    · rw [if_pos hstate, if_pos hstate]
      rfl
    rw [if_neg hstate, if_neg hstate]
    by_cases hheader : r.stream.getSize < STUN_HEADER_SIZE
    · rw [if_pos hheader, if_pos hheader]
      rfl
    rw [if_neg hheader, if_neg hheader, Hr.result_bind_ok (copy_apply _ _ _),
      Hr.result_bind_ok (peek_apply _ _ _), slice, List.drop_zero, Bool.cond_decide]
    exact apply_ite (Hr.result · _) _ _ _

theorem watch_validateMessageIntegrity (D : Digests) (key : List UInt8) :
    (r.validateMessageIntegrityWatched D key).result r.watched = r.validateMessageIntegrity D key := by
  rw [validateMessageIntegrityWatched, validateMessageIntegrity, hmacInput]
  dsimp only
  by_cases hstate : r.state ≠ .bodyValidated
  · rw [if_pos hstate, if_pos hstate]
    rfl
  rw [if_neg hstate, if_neg hstate]
  by_cases hcount : r.countAttributes = 0
  · rw [if_pos hcount, if_pos hcount]
    rfl
  rw [if_neg hcount, if_neg hcount]
  by_cases hindex : r.indexMessageIntegrity = -1
  · rw [if_pos hindex, if_pos hindex]
    rfl
  rw [if_neg hindex, if_neg hindex]
  by_cases hkey : key.length = 0
  · rw [if_pos hkey, if_pos hkey]
    rfl
  rw [if_neg hkey, if_neg hkey]
  cases r.mapAttributes.lookup STUN_ATTRIBUTE_MESSAGEINTEGRITY with
  | none => rfl
  | some pAttrib =>
    dsimp only
    by_cases hsize : pAttrib.size ≠ 20
    · rw [if_pos hsize, if_pos hsize]
      rfl
    rw [if_neg hsize, if_neg hsize]
    split_ifs with hlast
    · set stream : CDataStream := { CDataStream.create with pBuffer := r.stream.pBuffer }
      set fFingerprintAdjustment := decide (r.indexMessageIntegrity = r.countAttributes - 1 - 1)
      have hfeed := forgets_feedHmac 0 fFingerprintAdjustment pAttrib.offset ⟨stream, []⟩
      set feed := WatchedStream.feedHmac 0 fFingerprintAdjustment pAttrib.offset
      cases hw : feed ⟨stream, []⟩ with
      | ok ctx w =>
        have hthrough : through stream feed r.watched =
            .ok ctx { r.watched with events := w.events } := by
          rw [through, watched, start, hw]
        rw [hw] at hfeed
        rw [← hfeed, Hr.result_bind_ok hthrough, Hr.result_bind_ok (peek_apply _ _ _)]
        exact apply_ite (Hr.result · _) _ _ _
      | error e w =>
        have hthrough : through stream feed r.watched =
            .error e { r.watched with events := w.events } := by
          rw [through, watched, start, hw]
        rw [hw] at hfeed
        rw [← hfeed, Hr.result_bind_error hthrough]
        rfl
    · rfl

end CStunMessageReader

end StunServer

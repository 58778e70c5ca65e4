import StunServer.Proofs.Address
import StunServer.Proofs.WatchedReads
import StunServer.Results.Fingerprint

/-! Where the accessors of a reader read: inside the message, and but for one of them inside the
values that are large enough for what they should hold. -/

namespace StunServer

open Bytes Tlv CStunMessageReader Watched WatchedStream

/-- A call of an accessor. -/
inductive Accessor where
  | errorCode
  | responsePort
  | changeRequest
  | stringByType (attributeType : UInt16) {size : ℕ} (pszValue : List.Vector UInt8 size)
  | mappedAddress
  | xorMappedAddress
  | otherAddress
  | responseOriginAddress
  | fingerprintValid
  | messageIntegrity (key : List UInt8)

namespace Accessor

section

variable (D : Digests) (r : CStunMessageReader)

/-- The result code; the test of the fingerprint fails where it says `false`. -/
def returns : Accessor → Except HRESULT Unit
  | errorCode => r.getErrorCode.map fun _ => ()
  | responsePort => r.getResponsePort.map fun _ => ()
  | changeRequest => r.getChangeRequest.map fun _ => ()
  | stringByType attributeType pszValue =>
    (r.getStringAttributeByType attributeType pszValue).map fun _ => ()
  | mappedAddress => r.getMappedAddress.map fun _ => ()
  | xorMappedAddress => r.getXorMappedAddress.map fun _ => ()
  | otherAddress => r.getOtherAddress.map fun _ => ()
  | responseOriginAddress => r.getResponseOriginAddress.map fun _ => ()
  | fingerprintValid => bif r.isFingerprintAttributeValid D then .ok () else .error E_FAIL
  | messageIntegrity key => r.validateMessageIntegrity D key

def watched : Accessor → Hr WatchedStream Unit
  | errorCode => do let _ ← r.getErrorCodeWatched
  | responsePort => do let _ ← r.getResponsePortWatched
  | changeRequest => do let _ ← r.getChangeRequestWatched
  | stringByType attributeType pszValue => do
    let _ ← r.getStringAttributeByTypeWatched attributeType pszValue
  | mappedAddress => do let _ ← r.getMappedAddressWatched
  | xorMappedAddress => do let _ ← r.getXorMappedAddressWatched
  | otherAddress => do let _ ← r.getOtherAddressWatched
  | responseOriginAddress => do let _ ← r.getResponseOriginAddressWatched
  | fingerprintValid => r.isFingerprintAttributeValidWatched D
  | messageIntegrity key => r.validateMessageIntegrityWatched D key

/-- Watching does not change what a call returns. -/
theorem result_watched (a : Accessor) : (a.watched D r).result r.watched = a.returns D r := by
  cases a with
  | errorCode => exact (Hr.result_discard _ _).trans (congrArg _ r.watch_getErrorCode)
  | responsePort => exact (Hr.result_discard _ _).trans (congrArg _ r.watch_getResponsePort)
  | changeRequest => exact (Hr.result_discard _ _).trans (congrArg _ r.watch_getChangeRequest)
  | stringByType attributeType pszValue =>
    exact (Hr.result_discard _ _).trans
      (congrArg _ (r.watch_getStringAttributeByType attributeType pszValue))
  | mappedAddress =>
    exact (Hr.result_discard _ _).trans (congrArg _ (r.watch_getAddressHelper _ _))
  | xorMappedAddress => exact (Hr.result_discard _ _).trans (congrArg _ r.watch_getXorMappedAddress)
  | otherAddress => exact (Hr.result_discard _ _).trans (congrArg _ (r.watch_getAddressOrLegacy _ _))
  | responseOriginAddress =>
    exact (Hr.result_discard _ _).trans (congrArg _ (r.watch_getAddressOrLegacy _ _))
  | fingerprintValid => exact r.watch_isFingerprintAttributeValid D
  | messageIntegrity key => exact r.watch_validateMessageIntegrity D key

/-- The bytes of the message that a call reads. -/
def spans (a : Accessor) : List Span := ((a.watched D r).after r.watched).events

end

/-- The types looked up, one after the other. -/
def types : Accessor → List UInt16
  | errorCode => [STUN_ATTRIBUTE_ERRORCODE]
  | responsePort => [STUN_ATTRIBUTE_RESPONSE_PORT]
  | changeRequest => [STUN_ATTRIBUTE_CHANGEREQUEST]
  | stringByType attributeType _ => [attributeType]
  | mappedAddress => [STUN_ATTRIBUTE_MAPPEDADDRESS]
  | xorMappedAddress => [STUN_ATTRIBUTE_XORMAPPEDADDRESS, STUN_ATTRIBUTE_XORMAPPEDADDRESS_OPTIONAL]
  | otherAddress => [STUN_ATTRIBUTE_OTHER_ADDRESS, STUN_ATTRIBUTE_CHANGEDADDRESS]
  | responseOriginAddress => [STUN_ATTRIBUTE_RESPONSE_ORIGIN, STUN_ATTRIBUTE_SOURCEADDRESS]
  | fingerprintValid => [STUN_ATTRIBUTE_FINGERPRINT]
  | messageIntegrity _ => [STUN_ATTRIBUTE_MESSAGEINTEGRITY]

/-- The size of an address, by its family. -/
def addressSize (value : List UInt8) : ℕ :=
  if value.getD 1 0 = STUN_ATTRIBUTE_FIELD_IPV4 then 8 else 20

/-- The bytes that the format of the attribute needs. -/
def formatSize (value : List UInt8) : Accessor → ℕ
  | errorCode => 4
  | responsePort => 2
  | changeRequest => 4
  | stringByType _ _ => 0
  | mappedAddress => addressSize value
  | xorMappedAddress => addressSize value
  | otherAddress => addressSize value
  | responseOriginAddress => addressSize value
  | fingerprintValid => 4
  | messageIntegrity _ => 20

/-- Two of the calls compute a digest of the message around the attribute. -/
def readsText : Accessor → Bool
  | fingerprintValid => true
  | messageIntegrity _ => true
  | _ => false

section

variable (m : Message) (a : Accessor)

/-- An attribute that is looked up is large enough for its format. -/
def Suits : Prop :=
  ∃ t ∈ a.types, ∃ p, m.findAt t = some p ∧ a.formatSize p.2.value ≤ p.2.value.length

/-- The span lies in the value of an attribute that is looked up. -/
def InValue (s : Span) : Prop :=
  ∃ t ∈ a.types, ∃ p, m.findAt t = some p ∧ s.Within p.1 p.2.value.length

/-- A read inside the message. What is outside of the value is read for a digest only, and only
if the value is large enough. -/
def Allows (s : Span) : Prop :=
  s.stop ≤ m.encode.length ∧ (a.InValue m s ∨ (a.readsText = true ∧ a.Suits m))

/-- All reads are inside the message and none is beyond a value that is too small, which makes
the call fail. -/
structure StaysInside (D : Digests) (r : CStunMessageReader) : Prop where
  reads : ∀ s ∈ a.spans D r, a.Allows m s
  fails : ¬a.Suits m → a.returns D r ≠ .ok ()

end

section

variable {D : Digests} {r : CStunMessageReader} {m : Message} {a : Accessor}

theorem allows_of_value {t : UInt16} {p : ℕ × Record} {s : Span} (ht : t ∈ a.types)
    (hf : m.findAt t = some p) (hs : s.Within p.1 p.2.value.length) : a.Allows m s :=
  ⟨hs.stop_le (Message.value_end (Message.mem_of_findAt hf).1).2, Or.inl ⟨t, ht, p, hf, hs⟩⟩

/-- A read of some bytes of the value. -/
theorem allows_bytes {t : UInt16} {p : ℕ × Record} (ht : t ∈ a.types) (hf : m.findAt t = some p)
    (k : ℕ) {n : ℕ} (hn : k + n ≤ p.2.value.length) :
    a.Allows m ⟨(attribOf p).offset.toNat + k, n⟩ := by
  obtain ⟨hp, -⟩ := Message.mem_of_findAt hf
  refine allows_of_value ht hf ⟨?_, ?_⟩
  · show p.1 ≤ (attribOf p).offset.toNat + k
    rw [(attribOf_toNat hp).1]
    exact Nat.le_add_right _ _
  · show (attribOf p).offset.toNat + k + n ≤ _
    rw [(attribOf_toNat hp).1]
    omega

theorem keeps_discard {α : Type} {P : WatchedStream → Prop} {call : Hr WatchedStream α}
    (h : Hr.Keeps P call) : Hr.Keeps P (do let _ ← call) :=
  Hr.keeps_bind h fun _ => Hr.keeps_pure _

/-- The value is parsed on a stream that ends with it. -/
theorem keeps_getAddressHelper (h : r.Parsed m) {t : UInt16} (ht : t ∈ a.types) :
    Hr.Keeps (Noted (a.Allows m) r) (r.getAddressHelperWatched t) := by
  rw [getAddressHelperWatched, h.lookup]
  cases hf : m.findAt t with
  | none => exact Hr.keeps_throw _
  | some p =>
    obtain ⟨hp, -⟩ := Message.mem_of_findAt hf
    rw [Option.map_some]
    dsimp only
    rw [h.slice_attrib hp, (attribOf_toNat hp).1]
    have hvalue : p.2.value.length < 2 ^ 63 := p.2.length_lt.trans (by decide)
    exact keeps_through rfl (Nat.zero_le _)
      (keeps_getMappedAddress (fun s hs => allows_of_value ht hf hs) hvalue)

theorem keeps_isFingerprintAttributeValid (h : r.Parsed m) :
    Hr.Keeps (Noted (fingerprintValid.Allows m) r) (r.isFingerprintAttributeValidWatched D) := by
  rw [isFingerprintAttributeValidWatched, h.lookup]
  cases hf : m.findAt STUN_ATTRIBUTE_FINGERPRINT with
  | none => exact Hr.keeps_throw _
  | some p =>
    obtain ⟨hp, -⟩ := Message.mem_of_findAt hf
    obtain ⟨-, hend⟩ := Message.value_end hp
    rw [Option.map_some]
    dsimp only
    split_ifs with htype hsize hstate hheader
    · exact Hr.keeps_throw _
    · exact Hr.keeps_throw _
    · exact Hr.keeps_throw _
    · exact Hr.keeps_throw _
    · have hfour : p.2.value.length = 4 := not_not.mp (mt (size_ne hp 4).mpr hsize)
      have hsuits : fingerprintValid.Suits m := ⟨_, List.mem_singleton_self _, p, hf, hfour.ge⟩
      refine Hr.keeps_bind (keeps_copy ⟨?_, Or.inr ⟨rfl, hsuits⟩⟩) fun crc =>
        Hr.keeps_bind (keeps_peek ⟨?_, Or.inr ⟨rfl, hsuits⟩⟩) fun readValue => ?_
      · show 0 + (r.stream.getSize - 8) ≤ _
        rw [h.stored.getSize]
        omega
      · show (attribOf p).offset.toNat + 4 ≤ _
        rw [(attribOf_toNat hp).1]
        omega
      · split_ifs
        · exact Hr.keeps_pure _
        · exact Hr.keeps_throw _

theorem keeps_validateMessageIntegrity (h : r.Parsed m) (key : List UInt8) :
    Hr.Keeps (Noted ((messageIntegrity key).Allows m) r)
      (r.validateMessageIntegrityWatched D key) := by
  rw [validateMessageIntegrityWatched, h.lookup]
  cases hf : m.findAt STUN_ATTRIBUTE_MESSAGEINTEGRITY with
  | none =>
    rw [Option.map_none]
    dsimp only
    split_ifs <;> exact Hr.keeps_throw _
  | some p =>
    obtain ⟨hp, -⟩ := Message.mem_of_findAt hf
    obtain ⟨-, hend⟩ := Message.value_end hp
    rw [Option.map_some]
    dsimp only
    split_ifs with hstate hcount hindex hkey hsize
    · exact Hr.keeps_throw _
    · exact Hr.keeps_throw _
    · exact Hr.keeps_throw _
    · exact Hr.keeps_throw _
    · exact Hr.keeps_throw _
    · have htwenty : p.2.value.length = 20 := not_not.mp (mt (size_ne hp 20).mpr hsize)
      have hsuits : (messageIntegrity key).Suits m :=
        ⟨_, List.mem_singleton_self _, p, hf, htwenty.ge⟩
      have hsize : CDataStream.getSize { CDataStream.create with pBuffer := r.stream.pBuffer } =
          m.encode.length := h.stored.getSize
      have hlen : m.encode.length < 2 ^ 63 := by
        have hbody := m.body_le
        rw [m.encode_length]
        omega
      refine Hr.keeps_bind (keeps_through hsize (Nat.zero_le _)
        (keeps_feedHmac (fun s hs => ?_) hlen _ _)) fun ctx =>
        Hr.keeps_bind (keeps_peek ⟨?_, Or.inr ⟨rfl, hsuits⟩⟩) fun hash => ?_
      · exact ⟨Span.within_zero.mp hs, Or.inr ⟨rfl, hsuits⟩⟩
      · show (attribOf p).offset.toNat + 20 ≤ _
        rw [(attribOf_toNat hp).1]
        omega
      · split_ifs
        · exact Hr.keeps_pure _
        · exact Hr.keeps_throw _
    · exact Hr.keeps_throw _

/-- An error code of less than four bytes, which is read all the same. -/
def ShortErrorCode (m : Message) (a : Accessor) : Prop :=
  a = errorCode ∧ ∃ p, m.findAt STUN_ATTRIBUTE_ERRORCODE = some p ∧ p.2.value.length < 4

theorem keeps_watched (h : r.Parsed m) (hshort : ¬ShortErrorCode m a) :
    Hr.Keeps (Noted (a.Allows m) r) (a.watched D r) := by
  cases a with
  | errorCode =>
    refine keeps_discard ?_
    rw [getErrorCodeWatched, h.lookup]
    cases hf : m.findAt STUN_ATTRIBUTE_ERRORCODE with
    | none => exact Hr.keeps_throw _
    | some p =>
      have hfour : 4 ≤ p.2.value.length := not_lt.mp fun hlt => hshort ⟨rfl, p, hf, hlt⟩
      refine Hr.keeps_bind (keeps_peek ?_) fun _ => Hr.keeps_pure _
      exact allows_bytes (List.mem_singleton_self _) hf 2 hfour
  | responsePort =>
    refine keeps_discard ?_
    rw [getResponsePortWatched, h.lookup]
    cases hf : m.findAt STUN_ATTRIBUTE_RESPONSE_PORT with
    | none => exact Hr.keeps_throw _
    | some p =>
      obtain ⟨hp, -⟩ := Message.mem_of_findAt hf
      rw [Option.map_some]
      dsimp only
      split_ifs with hsize
      · exact Hr.keeps_throw _
      · have htwo : p.2.value.length = 2 := not_not.mp (mt (size_ne hp 2).mpr hsize)
        refine Hr.keeps_bind (keeps_peek ?_) fun _ => Hr.keeps_pure _
        exact allows_bytes (List.mem_singleton_self _) hf 0 (by omega)
  | changeRequest =>
    refine keeps_discard ?_
    rw [getChangeRequestWatched, h.lookup]
    cases hf : m.findAt STUN_ATTRIBUTE_CHANGEREQUEST with
    | none => exact Hr.keeps_throw _
    | some p =>
      obtain ⟨hp, -⟩ := Message.mem_of_findAt hf
      rw [Option.map_some]
      dsimp only
      split_ifs with hsize
      · exact Hr.keeps_throw _
      · have hfour : p.2.value.length = 4 := not_not.mp (mt (size_ne hp 4).mpr hsize)
        refine Hr.keeps_bind (keeps_peek ?_) fun _ => Hr.keeps_pure _
        exact allows_bytes (List.mem_singleton_self _) hf 0 (by omega)
  | stringByType attributeType pszValue =>
    refine keeps_discard ?_
    rw [getStringAttributeByTypeWatched, h.lookup]
    cases hf : m.findAt attributeType with
    | none => exact Hr.keeps_throw _
    | some p =>
      obtain ⟨hp, -⟩ := Message.mem_of_findAt hf
      rw [Option.map_some]
      dsimp only
      split_ifs with hsize
      · exact Hr.keeps_throw _
      · refine Hr.keeps_bind (keeps_copy ?_) fun _ => Hr.keeps_pure _
        refine allows_bytes (List.mem_singleton_self _) hf 0 ?_
        rw [(attribOf_toNat hp).2, Nat.zero_add]
  | mappedAddress => exact keeps_discard (keeps_getAddressHelper h (by simp [types]))
  | xorMappedAddress =>
    exact keeps_discard (Hr.keeps_bind (keeps_orElse (keeps_getAddressHelper h (by simp [types]))
      (keeps_getAddressHelper h (by simp [types]))) fun _ => Hr.keeps_pure _)
  | otherAddress =>
    exact keeps_discard (keeps_orElse (keeps_getAddressHelper h (by simp [types]))
      (keeps_getAddressHelper h (by simp [types])))
  | responseOriginAddress =>
    exact keeps_discard (keeps_orElse (keeps_getAddressHelper h (by simp [types]))
      (keeps_getAddressHelper h (by simp [types])))
  | fingerprintValid => exact keeps_isFingerprintAttributeValid h
  | messageIntegrity key => exact keeps_validateMessageIntegrity h key

/-! ### Results of values that are too small -/

/-- An address that is returned was parsed from a value of its size. -/
theorem addressSize_le (h : r.Parsed m) {t : UInt16} {addr : CSocketAddress}
    (hok : r.getAddressHelper t = .ok addr) :
    ∃ p, m.findAt t = some p ∧ addressSize p.2.value ≤ p.2.value.length := by
  rw [h.getAddressHelper_eq, m.find_eq] at hok
  cases hf : m.findAt t with
  | none =>
    rw [hf] at hok
    cases hok
  | some p =>
    rw [hf] at hok
    refine ⟨p, rfl, not_lt.mp fun hlt => ?_⟩
    obtain ⟨e, he⟩ := getMappedAddress_short hlt
    cases hok.symm.trans he

theorem addressOrLegacy_suits (h : r.Parsed m) {t t' : UInt16} {addr : CSocketAddress}
    (hok : r.getAddressOrLegacy t t' = .ok addr) :
    ∃ u ∈ [t, t'], ∃ p, m.findAt u = some p ∧ addressSize p.2.value ≤ p.2.value.length := by
  rw [getAddressOrLegacy] at hok
  cases hfirst : r.getAddressHelper t with
  | ok addr' =>
    exact ⟨t, by simp, addressSize_le h hfirst⟩
  | error e =>
    rw [hfirst] at hok
    exact ⟨t', by simp, addressSize_le h hok⟩

theorem map_eq_ok {α β : Type} {x : Except HRESULT α} {f : α → β} {b : β} (h : x.map f = .ok b) :
    ∃ v, x = .ok v := by
  cases x with
  | ok v => exact ⟨v, rfl⟩
  | error e => cases h

theorem suits_of_find {t : UInt16} {x : Record} (ht : t ∈ a.types) (hf : m.find t = some x)
    (hle : a.formatSize x.value ≤ x.value.length) : a.Suits m := by
  rw [m.find_eq, Option.map_eq_some_iff] at hf
  obtain ⟨p, hp, rfl⟩ := hf
  exact ⟨t, ht, p, hp, hle⟩

/-- A call that succeeds has found an attribute that is large enough, but for the error code. -/
theorem suits_of_returns (h : r.Parsed m) (hne : a ≠ errorCode) (hok : a.returns D r = .ok ()) :
    a.Suits m := by
  cases a with
  | errorCode => exact absurd rfl hne
  | responsePort =>
    obtain ⟨v, hv⟩ := map_eq_ok hok
    rw [h.getResponsePort_eq] at hv
    cases hf : m.find STUN_ATTRIBUTE_RESPONSE_PORT with
    | none =>
      rw [hf] at hv
      cases hv
    | some x =>
      rw [hf] at hv
      dsimp only at hv
      split_ifs at hv with hsize
      exact suits_of_find (List.mem_singleton_self _) hf hsize.ge
  | changeRequest =>
    obtain ⟨v, hv⟩ := map_eq_ok hok
    rw [h.getChangeRequest_eq] at hv
    cases hf : m.find STUN_ATTRIBUTE_CHANGEREQUEST with
    | none =>
      rw [hf] at hv
      cases hv
    | some x =>
      rw [hf] at hv
      dsimp only at hv
      split_ifs at hv with hsize
      exact suits_of_find (List.mem_singleton_self _) hf hsize.ge
  | stringByType attributeType pszValue =>
    obtain ⟨v, hv⟩ := map_eq_ok hok
    rw [h.getStringAttributeByType_eq] at hv
    cases hf : m.find attributeType with
    | none =>
      rw [hf] at hv
      cases hv
    | some x => exact suits_of_find (List.mem_singleton_self _) hf (Nat.zero_le _)
  | mappedAddress =>
    obtain ⟨v, hv⟩ := map_eq_ok hok
    exact ⟨_, List.mem_singleton_self _, addressSize_le h hv⟩
  | xorMappedAddress =>
    obtain ⟨v, hv⟩ := map_eq_ok hok
    obtain ⟨v', hv'⟩ := map_eq_ok hv
    exact addressOrLegacy_suits h hv'
  | otherAddress =>
    obtain ⟨v, hv⟩ := map_eq_ok hok
    exact addressOrLegacy_suits h hv
  | responseOriginAddress =>
    obtain ⟨v, hv⟩ := map_eq_ok hok
    exact addressOrLegacy_suits h hv
  | fingerprintValid =>
    rw [returns, h.isFingerprintAttributeValid_eq] at hok
    cases hf : m.find STUN_ATTRIBUTE_FINGERPRINT with
    | none =>
      rw [hf] at hok
      cases hok
    | some x =>
      rw [hf, Bool.cond_decide] at hok
      split_ifs at hok with hvalid
      exact suits_of_find (List.mem_singleton_self _) hf hvalid.1.ge
  | messageIntegrity key =>
    obtain ⟨-, before, mi, tail, hsealed, -⟩ := (h.validateMessageIntegrity_iff D key).mp hok
    exact ⟨_, List.mem_singleton_self _, _, hsealed.findAt, hsealed.size.ge⟩

/-- Where an error code is found, the call succeeds. -/
theorem returns_errorCode (h : r.Parsed m) {p : ℕ × Record}
    (hf : m.findAt STUN_ATTRIBUTE_ERRORCODE = some p) : errorCode.returns D r = .ok () := by
  rw [returns, getErrorCode, h.lookup, hf]
  rfl

theorem spans_errorCode (h : r.Parsed m) {p : ℕ × Record}
    (hf : m.findAt STUN_ATTRIBUTE_ERRORCODE = some p) :
    errorCode.spans D r = [⟨p.1 + 2, 2⟩] := by
  obtain ⟨hp, -⟩ := Message.mem_of_findAt hf
  have hspan : errorCode.spans D r = [⟨(attribOf p).offset.toNat + 2, 2⟩] := by
    rw [spans, watched, getErrorCodeWatched, h.lookup, hf]
    rfl
  rw [hspan, (attribOf_toNat hp).1]

theorem not_suits_of_short (hshort : ShortErrorCode m a) : ¬a.Suits m := by
  obtain ⟨rfl, p, hf, hlt⟩ := hshort
  rintro ⟨t, ht, p', hf', hle⟩
  obtain rfl := List.mem_singleton.mp ht
  obtain rfl := Option.some.inj (hf.symm.trans hf')
  exact not_lt.mpr hle hlt

theorem staysInside_iff (h : r.Parsed m) : a.StaysInside m D r ↔ ¬ShortErrorCode m a := by
  constructor
  · intro hinside hshort
    obtain ⟨rfl, p, hf, -⟩ := id hshort
    exact hinside.fails (not_suits_of_short hshort) (returns_errorCode h hf)
  · intro hshort
    refine ⟨((keeps_watched h hshort) _ noted_watched).spans, fun hsuits hok => hsuits ?_⟩
    by_cases ha : a = errorCode
    · subst ha
      obtain ⟨v, hv⟩ := map_eq_ok hok
      cases hf : m.findAt STUN_ATTRIBUTE_ERRORCODE with
      | none =>
        rw [getErrorCode, h.lookup, hf] at hv
        cases hv
      | some p =>
        exact ⟨_, List.mem_singleton_self _, p, hf, not_lt.mp fun hlt => hshort ⟨rfl, p, hf, hlt⟩⟩
    · exact suits_of_returns h ha hok

end

end Accessor

/-- Whatever message a reader holds, the accessors stay inside it, but for `GetErrorCode` on an
error code of less than four bytes. -/
theorem accessor_reads_iff (D : Digests) {r : CStunMessageReader} (hr : Reachable r)
    (hstate : r.getState = .bodyValidated) :
    ∃ m, r.Parsed m ∧ ∀ a : Accessor, a.StaysInside m D r ↔
      ¬(a = .errorCode ∧
        ∃ p, m.findAt STUN_ATTRIBUTE_ERRORCODE = some p ∧ p.2.value.length < 4) := by
  obtain ⟨m, h⟩ := hr.exists_parsed hstate
  exact ⟨m, h, fun a => Accessor.staysInside_iff h⟩

/-- A response that ends in an error code without a value. -/
def emptyErrorCode : Message where
  method := StunMsgTypeBinding
  cls := .failureResponse
  tid := List.Vector.replicate 16 7
  attrs := [.ofValue STUN_ATTRIBUTE_ERRORCODE [] Record.nil_length_lt]
  isMethod := isMethod_binding
  cls_ne := failureResponse_ne_invalid
  count_le := by decide
  value_le := by decide
  body_le := by decide

/-- A reader that has been fed the response. -/
theorem accessor_reads_fed :
    ∃ m, (readBack emptyErrorCode.encode).Parsed m ∧ ∀ a : Accessor,
      a.StaysInside m checksumOnly (readBack emptyErrorCode.encode) ↔ ¬(a = .errorCode ∧
        ∃ p, m.findAt STUN_ATTRIBUTE_ERRORCODE = some p ∧ p.2.value.length < 4) :=
  accessor_reads_iff checksumOnly (Reachable.create.fed_addBytes fed_create (by decide)).1
    (parsed_encode emptyErrorCode).state

/-- The error code is read from two bytes behind the end of the message. -/
theorem accessor_reads_beyond :
    (readBack emptyErrorCode.encode).getState = .bodyValidated ∧
      (readBack emptyErrorCode.encode).Parsed emptyErrorCode ∧
      Accessor.errorCode.returns checksumOnly (readBack emptyErrorCode.encode) = .ok () ∧
      ∃ s ∈ Accessor.errorCode.spans checksumOnly (readBack emptyErrorCode.encode),
        emptyErrorCode.encode.length < s.stop := by
  have hparsed := parsed_encode emptyErrorCode
  have hf : emptyErrorCode.findAt STUN_ATTRIBUTE_ERRORCODE =
      some (24, .ofValue STUN_ATTRIBUTE_ERRORCODE [] (by decide)) := rfl
  refine ⟨hparsed.state, hparsed, Accessor.returns_errorCode hparsed hf, ⟨26, 2⟩, ?_, ?_⟩
  · rw [Accessor.spans_errorCode hparsed hf]
    exact List.mem_singleton_self _
  · rw [emptyErrorCode.encode_length]
    decide

end StunServer

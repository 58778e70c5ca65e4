import StunServer.Proofs.Response
import StunServer.Results.Reader
import StunServer.Spec.ClientRun

/-! A test of the client: the request it writes, and the messages it takes for an answer. -/

namespace StunServer

open Bytes Tlv CStunMessageBuilder

theorem bindingRequest_change (change : StunChangeRequestAttribute) (tid : StunTransactionId) :
    (bindingRequest change tid).change = change := by
  have hfind : (bindingRequest change tid).find STUN_ATTRIBUTE_CHANGEREQUEST =
      some (record false STUN_ATTRIBUTE_CHANGEREQUEST (be32 change.word)
        (by rw [be32_length]; decide)) := by
    rw [Message.find, bindingRequest, List.reverse_singleton, List.find?_cons_of_pos]
    simp
  rw [Message.change, hfind]
  simp only [record_value_aligned _ _ _ (by rw [be32_length] : (be32 change.word).length % 4 = 0),
    be32_length, word32_be32, if_true]
  obtain ⟨ip, port⟩ := change
  cases ip <;> cases port <;> rfl

theorem writes_addChangeRequest (b : CStunMessageBuilder) (hmode : b.fLegacyMode = false)
    (change : StunChangeRequestAttribute) (tid : StunTransactionId) :
    Writes (addChangeRequest change) b (encodeAll (bindingRequest change tid).attrs) := by
  have hword : (mem32 (htonl (let changeData : UInt32 := 0
      let changeData := if change.fChangeIP then changeData ||| 0x04 else changeData
      if change.fChangePort then changeData ||| 0x02 else changeData))) = be32 change.word := by
    rw [mem32_htonl]
    obtain ⟨ip, port⟩ := change
    cases ip <;> cases port <;> rfl
  rw [addChangeRequest, hword, bindingRequest, encodeAll_cons, encodeAll_nil, List.append_nil]
  have hw := writes_addAttribute b STUN_ATTRIBUTE_CHANGEREQUEST (v := be32 change.word) (n := 4)
    (by rw [be32_length]; decide) (by rw [be32_length]; rfl)
  rwa [hmode] at hw

/-- A request has no mapped address. -/
theorem getAnyMappedAddress_bindingRequest {reader : CStunMessageReader}
    {change : StunChangeRequestAttribute} {tid : StunTransactionId}
    (h : reader.Parsed (bindingRequest change tid)) : reader.getAnyMappedAddress = .error E_FAIL := by
  have hfind : ∀ t, t ≠ STUN_ATTRIBUTE_CHANGEREQUEST →
      reader.getAddressHelper t = .error E_FAIL := by
    intro t ht
    have hnone : (bindingRequest change tid).find t = none := by
      rw [Message.find, bindingRequest, List.reverse_singleton, List.find?_cons_of_neg]
      · rfl
      · simpa using ht.symm
    rw [h.getAddressHelper_eq, hnone]
  rw [CStunMessageReader.getAnyMappedAddress, CStunMessageReader.getXorMappedAddress,
    CStunMessageReader.getAddressOrLegacy, hfind _ (by decide)]
  dsimp only
  rw [hfind _ (by decide)]
  exact hfind _ (by decide)

/-- A new id starts with the cookie, so it is never taken for no id. -/
theorem randomTransactionId_valid (entropy : Entropy) :
    isTransactionIdValid (randomTransactionId entropy) = true := by
  rw [isTransactionIdValid, decide_eq_true_eq]
  intro h
  have hlen : (mem32 (htonl STUN_COOKIE) ++ entropy.rand.toList).length ≤ 16 := by simp
  have hfront := congrArg (fun v : StunTransactionId => v.toList.take 4) h
  simp only [randomTransactionId, memcpy_toList _ hlen, List.append_assoc] at hfront
  rw [List.take_left' (mem32_length _), mem32_htonl] at hfront
  exact absurd hfront (by decide)

namespace CStunClientTestBase

theorem storeTransactionId_valid (test : CStunClientTestBase) (entropy : Entropy) :
    isTransactionIdValid (test.storeTransactionId entropy).transid = true := by
  rw [storeTransactionId]
  split_ifs with h
  · exact h
  · exact randomTransactionId_valid entropy

theorem startBindingRequest_eq (test : CStunClientTestBase) (entropy : Entropy) :
    test.startBindingRequest entropy = (do
      Hr.ignore addBindingRequestHeader
      Hr.ignore (addTransactionId (test.storeTransactionId entropy).transid)) := by
  rw [startBindingRequest, storeTransactionId]
  split_ifs <;> rfl

/-- The request is in the caller's buffer, which is as large as it was. -/
theorem getMessage_buffer (test : CStunClientTestBase) (change : StunChangeRequestAttribute)
    (entropy : Entropy) {spMsg : CBuffer} (hcap : 800 ≤ spMsg.getAllocatedSize) :
    (test.getMessage change entropy spMsg).1.bytes =
        (bindingRequest change (test.storeTransactionId entropy).transid).encode ∧
      (test.getMessage change entropy spMsg).1.getAllocatedSize = spMsg.getAllocatedSize := by
  set tid := (test.storeTransactionId entropy).transid with htid
  set b := CStunMessageBuilder.create.attachStream spMsg
  have hcap' : 800 ≤ spMsg.getAllocatedSize := hcap
  have hwrites : Hr.Ensures (test.writeRequest change entropy) b fun b' =>
      b'.Drafts (bindingRequest change tid).typeField (sizeAll (bindingRequest change tid).attrs)
        (bindingRequest change tid).attrs ∧ b'.transactionid = tid ∧
      b'.stream.InPlace spMsg.getAllocatedSize := by
    rw [writeRequest, startBindingRequest_eq]
    refine Hr.Ensures.bind (Q := Composes (bindingRequest change tid).typeField tid false
      spMsg.getAllocatedSize 0 []) ?_ fun b₁ hb₁ => ?_
    · refine Hr.Ensures.bind (ensures_addHeader (CDataStream.atEnd_attach _ spMsg)
        (CDataStream.inPlace_attach _ spMsg) hcap StunMsgTypeBinding .request).ignore ?_
      rintro b₀ ⟨hat, hmode, hin⟩
      have hid := ensures_addTransactionId hat hin hcap tid
      rw [hmode] at hid
      exact hid.ignore
    · refine Hr.Ensures.bind (Q := Composes (bindingRequest change tid).typeField tid false
        spMsg.getAllocatedSize 8 (bindingRequest change tid).attrs) ?_ fun b₂ hb₂ => ?_
      · have hsize : sizeAll (bindingRequest change tid).attrs ≤ 8 := by
          rw [bindingRequest, sizeAll_cons, sizeAll_nil, record_size, be32_length]
          decide
        exact (hb₁.writes (writes_addChangeRequest b₁ hb₁.mode change tid)
          ⟨(Nat.le_refl 1 : (bindingRequest change tid).attrs.length ≤ 1), hsize,
            (bindingRequest change tid).value_le⟩ (by omega)).ignore
      · exact hb₂.fixLengthField.ignore
  obtain ⟨hd, hid, hin⟩ := hwrites.after
  obtain ⟨buf, hbuf, hbytes⟩ := hd.bytes
  have hsize : buf.getAllocatedSize = spMsg.getAllocatedSize := by
    rw [← hin.allocated, CDataStream.getAllocatedSize, hbuf]
    rfl
  rw [getMessage]
  dsimp only
  rw [CDataStream.sharedBuffer, hin.replaced, Option.none_or, hbuf, Option.getD_some, hbytes, hid]
  exact ⟨rfl, hsize⟩

theorem getMessage_bytes (test : CStunClientTestBase) (change : StunChangeRequestAttribute)
    (entropy : Entropy) {spMsg : CBuffer} (hcap : 800 ≤ spMsg.getAllocatedSize) :
    (test.getMessage change entropy spMsg).1.bytes =
      (bindingRequest change (test.storeTransactionId entropy).transid).encode :=
  (test.getMessage_buffer change entropy hcap).1

end CStunClientTestBase

namespace IStunClientTest

/-- A message with all that a test may look for. -/
theorem readResults_eq {reader : CStunMessageReader} {answer : Answer}
    (hmapped : reader.getAnyMappedAddress = .ok answer.addrMapped)
    (hother : reader.getOtherAddress.toOption = answer.addrOther) (config : StunClientLogicConfig)
    (r : StunClientResults) (t : IStunClientTest) :
    t.readResults config reader answer.addrLocal r = .ok (t.succeed config answer r) := by
  cases t with
  | binding => simp only [readResults, hmapped, hother, succeed]
  | behavior fIsTest3 => simp only [readResults, hmapped, succeed]
  | filtering fIsTest3 => rfl

end IStunClientTest
/-! ### What a response is taken for -/

namespace IStunClientTest

/-- The answer that a test reads off a message it accepts. Only the filtering tests do
without a mapped address. -/
theorem readResults_ok {config : StunClientLogicConfig} {reader : CStunMessageReader}
    {addrLocal : CSocketAddress} {r r' : StunClientResults} {t : IStunClientTest}
    (h : t.readResults config reader addrLocal r = .ok r') :
    ∃ answer, r' = t.succeed config answer r ∧ answer.addrLocal = addrLocal ∧
      ((∀ fIsTest3, t ≠ .filtering fIsTest3) →
        reader.getAnyMappedAddress = .ok answer.addrMapped) := by
  cases t with
  | binding =>
    rw [readResults] at h
    cases hmapped : reader.getAnyMappedAddress with
    | error hr =>
      rw [hmapped] at h
      cases h
    | ok addrMapped =>
      rw [hmapped] at h
      cases h
      exact ⟨⟨addrMapped, reader.getOtherAddress.toOption, addrLocal⟩, rfl, rfl, fun _ => rfl⟩
  | behavior fIsTest3 =>
    rw [readResults] at h
    cases hmapped : reader.getAnyMappedAddress with
    | error hr =>
      rw [hmapped] at h
      cases h
    | ok addrMapped =>
      rw [hmapped] at h
      cases h
      exact ⟨⟨addrMapped, none, addrLocal⟩, rfl, rfl, fun _ => rfl⟩
  | filtering fIsTest3 =>
    cases h
    exact ⟨⟨.create, none, addrLocal⟩, rfl, rfl, fun hne => absurd rfl (hne fIsTest3)⟩

end IStunClientTest

/-- Nothing but the bytes of a buffer is read. -/
theorem readerOf_bytes {spMsg : CBuffer} (h : spMsg.bytes.length = spMsg.getSize) :
    readerOf spMsg = readerOf (.initNoAlloc spMsg.bytes) := by
  have hle : (UInt32.ofNat spMsg.size).toNat ≤ spMsg.size := by
    rw [UInt32.toNat_ofNat']
    exact Nat.mod_le _ _
  have hwrite : CDataStream.write (some (spMsg.data.take spMsg.size)) _ =
      CDataStream.write (some spMsg.data) (UInt32.ofNat spMsg.size).toNat :=
    CDataStream.write_take hle
  have hsize : (CBuffer.initNoAlloc spMsg.bytes).getSize = spMsg.size := h
  unfold readerOf CStunMessageReader.addBytes
  rw [hsize]
  dsimp only [CBuffer.getSize, CBuffer.initNoAlloc]
  rw [CBuffer.bytes, hwrite]
  rfl

theorem readerOf_encode (m : Message) :
    readerOf (.initNoAlloc m.encode) = (.bodyValidated, readBack m.encode) := by
  have hle := m.encode_length_le
  obtain ⟨hstate, -⟩ := fed_once (b := m.encode) (by omega)
  exact Prod.ext (hstate.trans (parsed_encode m).state) rfl

/-- There is nothing to read in an empty buffer. -/
theorem getSize_ne_zero {spMsg : CBuffer} {reader : CStunMessageReader}
    (h : readerOf spMsg = (.bodyValidated, reader)) : spMsg.getSize ≠ 0 := by
  intro hzero
  rw [readerOf, hzero] at h
  cases h

/-- A request of the client's own has no mapped address. -/
theorem getAnyMappedAddress_echo {spMsg : CBuffer} {reader : CStunMessageReader}
    {change : StunChangeRequestAttribute} {transid : StunTransactionId}
    (hstate : readerOf spMsg = (.bodyValidated, reader))
    (hsize : spMsg.getSize = (bindingRequest change transid).encode.length)
    (hbytes : spMsg.bytes = (bindingRequest change transid).encode) :
    reader.getAnyMappedAddress = .error E_FAIL := by
  have hlen : spMsg.bytes.length = spMsg.getSize := by rw [hsize, hbytes]
  have hreader : reader = readBack (bindingRequest change transid).encode := by
    rw [readerOf_bytes hlen, hbytes] at hstate
    exact (congrArg Prod.snd hstate).symm
  rw [hreader]
  exact getAnyMappedAddress_bindingRequest (parsed_encode _)

/-- The test takes a message that is complete and has its transaction id. -/
theorem CStunClientTestBase.basicReaderValidation_ok {test : CStunClientTestBase} {spMsg : CBuffer}
    {reader : CStunMessageReader} : test.basicReaderValidation spMsg = .ok reader ↔
      readerOf spMsg = (.bodyValidated, reader) ∧ reader.getTransactionId = test.transid := by
  rw [basicReaderValidation, ← readerOf]
  obtain ⟨readerstate, reader'⟩ := readerOf spMsg
  dsimp only
  split_ifs with hstate hid
  · simp [hstate]
  · simp only [Prod.mk.injEq, false_iff, not_and]
    rintro ⟨-, rfl⟩
    exact hid
  · rw [not_not] at hstate hid
    simp only [Except.ok.injEq, hstate, Prod.mk.injEq, true_and]
    constructor
    · rintro rfl
      exact ⟨rfl, hid⟩
    · exact And.left

/-- A test takes a message for an answer, or drops it and is as before. -/
theorem IStunClientTest.processResponse_cases (config : StunClientLogicConfig) (spMsg : CBuffer)
    (addrRemote addrLocal : CSocketAddress) (t : IStunClientTest) (s : ClientTestState) :
    (∃ hr, t.processResponse config spMsg addrRemote addrLocal s = .error hr s) ∨
    ∃ reader answer, readerOf spMsg = (.bodyValidated, reader) ∧
      reader.getTransactionId = s.test.transid ∧
      ((∀ fIsTest3, t ≠ .filtering fIsTest3) →
        reader.getAnyMappedAddress = .ok answer.addrMapped) ∧
      t.processResponse config spMsg addrRemote addrLocal s =
        .ok () ⟨{ s.test with fCompleted := true }, t.succeed config answer s.results⟩ := by
  unfold processResponse
  cases hvalid : s.test.basicReaderValidation spMsg with
  | error hr => exact Or.inl ⟨hr, rfl⟩
  | ok reader =>
    obtain ⟨hstate, hid⟩ := CStunClientTestBase.basicReaderValidation_ok.mp hvalid
    dsimp only
    cases hread : t.readResults config reader addrLocal s.results with
    | error hr => exact Or.inl ⟨hr, rfl⟩
    | ok r =>
      obtain ⟨answer, rfl, -, hmapped⟩ := readResults_ok hread
      exact Or.inr ⟨reader, answer, hstate, hid, hmapped, rfl⟩

end StunServer

import StunServer.Proofs.ClientTests

/-! A new transaction id. The loop that fills it ends four bytes early, and what was in memory
before goes out with the id. -/

namespace StunServer

open Bytes CStunMessageBuilder

theorem CStunMessageBuilder.randomTransactionId_toList (entropy : Entropy) :
    (randomTransactionId entropy).toList =
      be32 STUN_COOKIE ++ entropy.rand.toList ++ entropy.transid.toList.drop 12 := by
  have hlen : (mem32 (htonl STUN_COOKIE) ++ entropy.rand.toList).length = 12 := by
    rw [List.length_append, mem32_length, List.Vector.toList_length]
  rw [randomTransactionId, memcpy_toList _ (by rw [hlen]; decide), hlen, mem32_htonl]

/-- Two runs that draw the same bytes: the id handed to the caller, the result code and all of the
builder are the same. -/
def CStunMessageBuilder.SameId (b : CStunMessageBuilder) (rand : List.Vector UInt8 8)
    (transid transid' : StunTransactionId) : Prop :=
  randomTransactionId ⟨rand, transid⟩ = randomTransactionId ⟨rand, transid'⟩ ∧
    addRandomTransactionId ⟨rand, transid⟩ b = addRandomTransactionId ⟨rand, transid'⟩ b

theorem CStunMessageBuilder.sameId_iff (b : CStunMessageBuilder) (rand : List.Vector UInt8 8)
    (transid transid' : StunTransactionId) :
    b.SameId rand transid transid' ↔ transid.toList.drop 12 = transid'.toList.drop 12 := by
  have hid : randomTransactionId ⟨rand, transid⟩ = randomTransactionId ⟨rand, transid'⟩ ↔
      transid.toList.drop 12 = transid'.toList.drop 12 := by
    rw [← List.Vector.toList_injective.eq_iff, randomTransactionId_toList,
      randomTransactionId_toList]
    exact List.append_right_inj _
  rw [SameId, addRandomTransactionId, addRandomTransactionId, ← hid]
  exact and_iff_left_of_imp fun heq => by rw [heq]

/-- Whatever is drawn, the last four bytes of the id are what the local variable held before, so
that the id is not the same for all contents of it. -/
theorem transaction_id_leaks (b : CStunMessageBuilder) (rand : List.Vector UInt8 8) :
    (∀ transid : StunTransactionId, (randomTransactionId ⟨rand, transid⟩).toList =
      be32 STUN_COOKIE ++ rand.toList ++ transid.toList.drop 12) ∧
    (∀ transid transid' : StunTransactionId, b.SameId rand transid transid' ↔
      transid.toList.drop 12 = transid'.toList.drop 12) ∧
    ¬∀ transid transid' : StunTransactionId, b.SameId rand transid transid' := by
  refine ⟨fun transid => randomTransactionId_toList _, b.sameId_iff rand, fun hsame => ?_⟩
  have hdrop := (b.sameId_iff rand _ _).mp
    (hsame (List.Vector.replicate 16 0) (List.Vector.replicate 16 1))
  revert hdrop
  decide

/-- The same eight bytes are drawn, over zeros and over ones. -/
theorem transaction_id_leaks_ones :
    (randomTransactionId ⟨⟨[1, 2, 3, 4, 5, 6, 7, 8], rfl⟩, List.Vector.replicate 16 0⟩).toList =
      [0x21, 0x12, 0xa4, 0x42, 1, 2, 3, 4, 5, 6, 7, 8, 0, 0, 0, 0] ∧
    (randomTransactionId ⟨⟨[1, 2, 3, 4, 5, 6, 7, 8], rfl⟩, List.Vector.replicate 16 1⟩).toList =
      [0x21, 0x12, 0xa4, 0x42, 1, 2, 3, 4, 5, 6, 7, 8, 1, 1, 1, 1] := by
  decide

/-- The four bytes go to the server with the first request of a test. -/
theorem CStunClientTestBase.request_leaks (test : CStunClientTestBase)
    (change : StunChangeRequestAttribute) (entropy : Entropy) {spMsg : CBuffer}
    (hcap : 800 ≤ spMsg.getAllocatedSize) (hnew : isTransactionIdValid test.transid = false) :
    slice (test.getMessage change entropy spMsg).1.bytes 16 4 =
      entropy.transid.toList.drop 12 := by
  have htid : (test.storeTransactionId entropy).transid = randomTransactionId entropy := by
    rw [storeTransactionId, if_neg (by rw [hnew]; decide)]
  have hback : ∀ bytes : List UInt8, slice bytes 16 4 = (slice bytes 4 16).drop 12 := by
    intro bytes
    rw [slice, slice, List.drop_take, List.drop_drop]
  have hlen : (be32 STUN_COOKIE ++ entropy.rand.toList).length = 12 := by
    rw [List.length_append, be32_length, List.Vector.toList_length]
  rw [test.getMessage_bytes change entropy hcap, hback, Message.tid_encode]
  change (test.storeTransactionId entropy).transid.toList.drop 12 = _
  rw [htid, randomTransactionId_toList, List.drop_left' hlen]

end StunServer

import StunServer.Proofs.BuilderCall

/-! What the attribute writers leave in a message, over all sequences of calls. -/

namespace StunServer

open Bytes Tlv CStunMessageBuilder

/-! ### One record for every call -/

/-- In a message whose calls are all sound every writer appends one record, and the body
is the list of the attributes added; in any other message it is not so. -/
theorem wellBuilt_started_iff (spBuffer : Option CBuffer) (fLegacyMode : Bool) (msgType : UInt16)
    (msgClass : StunMessageClass) (transid : StunTransactionId) (calls : List AttributeCall) :
    (started spBuffer fLegacyMode msgType msgClass transid).WellBuilt calls ↔
      ∀ call ∈ calls, call.Sound fLegacyMode := by
  obtain ⟨hd, -, hmode⟩ := drafts_started spBuffer fLegacyMode msgType msgClass transid
  have haligned : (started spBuffer fLegacyMode msgType msgClass transid).stream.bytes.length % 4 =
      0 := by
    rw [hd.atEnd.bytes, encodeAll_nil, List.append_nil, headerBytes_length]
  rw [wellBuilt_iff ⟨_, hd.atEnd⟩ haligned, hmode]

/-- One unknown attribute in an error response: two bytes of value and no padding. -/
theorem not_wellBuilt_single_unknown :
    ¬(started none false StunMsgTypeBinding .failureResponse
      (List.Vector.replicate 16 7)).WellBuilt [.unknownAttributes [0x7777]] := by
  obtain ⟨hd, -, hmode⟩ := drafts_started none false StunMsgTypeBinding .failureResponse
    (List.Vector.replicate 16 7)
  generalize started none false StunMsgTypeBinding .failureResponse
    (List.Vector.replicate 16 7) = b at hd hmode ⊢
  intro h
  have hsound := (addsRecord_iff ⟨_, hd.atEnd⟩ _).mp (h.adds [] _ [] rfl)
  rw [hmode] at hsound
  have hodd := (hsound.resolve_left Nat.one_ne_zero).2
  exact absurd hodd Nat.one_ne_zero

/-! ### The list of unknown attributes -/

/-- The list as it is to be sent: a legacy client is sent an even number of entries. -/
def listed (fLegacyMode : Bool) (arr : List UInt16) : List UInt16 :=
  if fLegacyMode && arr.length % 2 ≠ 0 then arr ++ [arr.getLastD 0] else arr

/-- The call succeeds, and the value it writes spells the list in network order. -/
def ListsTypes (b : CStunMessageBuilder) (arr : List UInt16) : Prop :=
  ∃ b' value, addUnknownAttributes arr b = .ok () b' ∧
    b'.stream.bytes = b.stream.bytes ++ (be16 STUN_ATTRIBUTE_UNKNOWNATTRIBUTES ++
      (be16 (UInt16.ofNat value.length) ++ value)) ∧
    value.length = (listed b.fLegacyMode arr).length * 2 ∧
    words16 value = listed b.fLegacyMode arr

theorem unknownValue_eq {fLegacyMode : Bool} {arr : List UInt16} {n : UInt16}
    (hn : n.toNat = arr.length * 2) :
    unknownValue (fLegacyMode && arr.length % 2 ≠ 0) arr n =
      (listed fLegacyMode arr).flatMap mem16 := by
  rw [unknownValue, listed, List.take_of_length_le (by rw [flatMap_mem16_length, hn])]
  split_ifs
  · rw [List.flatMap_append, List.flatMap_singleton]
  · rw [List.append_nil]

theorem mem_listed {fLegacyMode : Bool} {arr : List UInt16} (hne : arr ≠ []) {t : UInt16} :
    t ∈ listed fLegacyMode arr ↔ t ∈ arr := by
  unfold listed
  split_ifs
  · have hlast : arr.getLastD 0 = arr.getLast hne := by
      rw [List.getLastD_eq_getLast?, List.getLast?_eq_some_getLast hne, Option.getD_some]
    rw [List.mem_append, List.mem_singleton, hlast]
    exact or_iff_left_of_imp fun h => h ▸ List.getLast_mem hne
  · rfl

/-- What the header announces is the size of the list that is sent. -/
theorem ofNat_listed_length (fLegacyMode : Bool) (arr : List UInt16) :
    UInt16.ofNat ((listed fLegacyMode arr).length * 2) =
      if fLegacyMode && arr.length % 2 ≠ 0 then UInt16.ofNat (arr.length * 2) + 2
      else UInt16.ofNat (arr.length * 2) := by
  unfold listed
  split_ifs
  · rw [List.length_append, List.length_singleton, Nat.add_mul, UInt16.ofNat_add]
    rfl
  · rfl

theorem listsTypes_iff_of_ready {b : CStunMessageBuilder} (hready : b.Ready) {arr : List UInt16}
    (hne : arr ≠ []) (hlen : arr.length < 30000) :
    ListsTypes b arr ↔ ∀ t ∈ arr, ntohs t = t := by
  have hn : (UInt16.ofNat (arr.length * 2)).toNat = arr.length * 2 :=
    UInt16.toNat_ofNat_of_lt' (by show _ < 65536; omega)
  have hpos : UInt16.ofNat (arr.length * 2) ≠ 0 := by
    intro h
    have hzero := congrArg UInt16.toNat h
    rw [hn] at hzero
    have hcount := List.length_pos_iff.mpr hne
    change arr.length * 2 = 0 at hzero
    omega
  obtain ⟨b', he, hg⟩ := writes_addUnknownAttributes b rfl hpos hready
  rw [unknownValue_eq hn] at hg
  have hbytes := hg.bytes hready
  set value := (listed b.fLegacyMode arr).flatMap mem16 with hvalue
  have hvlen : value.length = (listed b.fLegacyMode arr).length * 2 := flatMap_mem16_length _
  have hspelled : words16 value = listed b.fLegacyMode arr ↔ ∀ t ∈ arr, ntohs t = t := by
    rw [hvalue, words16_flatMap_mem16]
    constructor
    · intro h t ht
      rw [← List.map_id (listed b.fLegacyMode arr), List.map_map, List.map_inj_left] at h
      exact h t ((mem_listed hne).mpr ht)
    · intro h
      exact (List.map_congr_left fun t ht => h t ((mem_listed hne).mp ht)).trans (List.map_id _)
  rw [← hspelled]
  constructor
  · rintro ⟨b'', value', he', hbytes', -, hwords⟩
    obtain rfl : b'' = b' := by
      rw [he] at he'
      cases he'
      rfl
    have hsame := List.append_cancel_left (hbytes'.symm.trans hbytes)
    obtain ⟨-, hsame⟩ := List.append_inj hsame (by simp)
    obtain ⟨-, hsame⟩ := List.append_inj hsame (by simp)
    rwa [hsame] at hwords
  · intro hwords
    refine ⟨b', value, he, ?_, hvlen, hwords⟩
    rw [hbytes, hvlen, ofNat_listed_length]

/-- The writer copies the list as it lies in the memory of the host, so the value spells
the list only if no entry changes when its two bytes are swapped. -/
theorem listsTypes_started_iff (spBuffer : Option CBuffer) (fLegacyMode : Bool) (msgType : UInt16)
    (msgClass : StunMessageClass) (transid : StunTransactionId) (calls : List AttributeCall)
    (arr : List UInt16) (hne : arr ≠ []) (hlen : arr.length < 30000) :
    ListsTypes ((started spBuffer fLegacyMode msgType msgClass transid).afterAttributes calls) arr ↔
      ∀ t ∈ arr, ntohs t = t := by
  obtain ⟨hd, -, -⟩ := drafts_started spBuffer fLegacyMode msgType msgClass transid
  obtain ⟨d, hrun⟩ := grown_afterAttributes ⟨_, hd.atEnd⟩ calls
  exact listsTypes_iff_of_ready (hrun.ready ⟨_, hd.atEnd⟩) hne hlen

/-- A legacy client is sent the type 0x7777 twice. -/
theorem listsTypes_same_bytes :
    ListsTypes ((started none true StunMsgTypeBinding .failureResponse
      (List.Vector.replicate 16 7)).afterAttributes []) [0x7777] :=
  (listsTypes_started_iff none true StunMsgTypeBinding .failureResponse (List.Vector.replicate 16 7)
    [] [0x7777] (by decide) (by decide)).mpr (List.forall_mem_singleton.mpr (by decide))

/-- The type of the unknown attribute 0x0001 is sent as 0x0100. -/
theorem not_listsTypes_swapped :
    ¬ListsTypes ((started none false StunMsgTypeBinding .failureResponse
      (List.Vector.replicate 16 7)).afterAttributes []) [0x0001] := by
  obtain ⟨hd, -, -⟩ := drafts_started none false StunMsgTypeBinding .failureResponse
    (List.Vector.replicate 16 7)
  generalize started none false StunMsgTypeBinding .failureResponse
    (List.Vector.replicate 16 7) = b at hd ⊢
  intro h
  have hsame := (listsTypes_iff_of_ready ⟨_, hd.atEnd⟩ (by decide) (by decide)).mp h 0x0001
    (by simp)
  exact absurd hsame (by decide)

end StunServer

import StunServer.Core.SocketAddress
import StunServer.Spec.Message

/-! The records that the attribute writers of the builder leave in a message. -/

namespace StunServer.CStunMessageBuilder

open Bytes Tlv

/-- The record an attribute writer leaves: in legacy mode the padding counts as part of
the value. -/
def record (fLegacyMode : Bool) (t : UInt16) (v : List UInt8) (h : v.length + 3 < 2 ^ 16) : Record :=
  if fLegacyMode then
    Record.ofValue t (v ++ List.replicate (padLen v.length) 0) (by
      have := padLen_lt v.length
      simp only [List.length_append, List.length_replicate]
      omega)
  else Record.ofValue t v (by omega)

theorem padLen_padded (n : ℕ) : padLen (n + padLen n) = 0 := padLen_of_mod (add_padLen_mod n)

theorem record_encode (fLegacyMode : Bool) (t : UInt16) {v : List UInt8}
    (h : v.length + 3 < 2 ^ 16) :
    (record fLegacyMode t v h).encode = be16 t ++ (be16 (UInt16.ofNat
      (if fLegacyMode then v.length + padLen v.length else v.length)) ++
        (v ++ List.replicate (padLen v.length) 0)) := by
  cases fLegacyMode with
  | true => simp [record, Record.encode, Record.ofValue, padLen_padded]
  | false => simp [record, Record.encode, Record.ofValue]

/-- In both modes a record takes up its padded size. -/
theorem record_size (fLegacyMode : Bool) (t : UInt16) {v : List UInt8}
    (h : v.length + 3 < 2 ^ 16) :
    (record fLegacyMode t v h).size = 4 + v.length + padLen v.length := by
  have hl := congrArg List.length (record_encode fLegacyMode t h)
  rw [Record.encode_length] at hl
  simp only [hl, List.length_append, be16_length, List.length_replicate]
  omega

@[simp] theorem record_type (fLegacyMode : Bool) (t : UInt16) {v : List UInt8}
    (h : v.length + 3 < 2 ^ 16) : (record fLegacyMode t v h).type = t := by
  unfold record
  split_ifs <;> rfl

/-- The value of a record, without what legacy mode adds to it. -/
theorem record_value (fLegacyMode : Bool) (t : UInt16) {v : List UInt8}
    (h : v.length + 3 < 2 ^ 16) :
    (record fLegacyMode t v h).value =
      if fLegacyMode then v ++ List.replicate (padLen v.length) 0 else v := by
  unfold record
  split_ifs <;> rfl

theorem record_value_aligned (fLegacyMode : Bool) (t : UInt16) {v : List UInt8}
    (h : v.length + 3 < 2 ^ 16) (h4 : v.length % 4 = 0) :
    (record fLegacyMode t v h).value = v := by
  rw [record_value, padLen_of_mod h4]
  simp

/-! ### Values -/

/-- The value of an error attribute. -/
def errorValue (errorNumber : UInt16) (reason : List UInt8) : List UInt8 :=
  [0, 0, (errorNumber / 100).toUInt8, (errorNumber % 100).toUInt8] ++ reason

theorem errorValue_length (errorNumber : UInt16) (reason : List UInt8) :
    (errorValue errorNumber reason).length = reason.length + 4 := by
  simp [errorValue]

/-- The class and the number of an error make up the code again. -/
theorem errorNumber_digits {n : UInt16} (hhigh : n.toNat ≤ 600) :
    ((n / 100).toUInt8 &&& 0x07).toUInt16 * 100 + (n % 100).toUInt8.toUInt16 = n := by
  have hmask : ∀ x : UInt8, x.toNat < 8 → x &&& 0x07 = x := by
    intro x hx
    rw [← UInt8.toNat_inj, UInt8.toNat_and]
    exact (Nat.and_two_pow_sub_one_eq_mod x.toNat 3).trans (Nat.mod_eq_of_lt hx)
  have hdiv : (n / 100).toNat = n.toNat / 100 := UInt16.toNat_div _ _
  have hmod : (n % 100).toNat = n.toNat % 100 := UInt16.toNat_mod _ _
  have hclass : (n / 100).toUInt8.toNat = n.toNat / 100 := by
    rw [UInt16.toNat_toUInt8, hdiv]
    omega
  have hnumber : (n % 100).toUInt8.toNat = n.toNat % 100 := by
    rw [UInt16.toNat_toUInt8, hmod]
    omega
  rw [hmask _ (by omega), ← UInt16.toNat_inj, UInt16.toNat_add, UInt16.toNat_mul,
    UInt8.toNat_toUInt16, UInt8.toNat_toUInt16, hclass, hnumber]
  change (n.toNat / 100 * 100 % 65536 + n.toNat % 100) % 65536 = n.toNat
  omega

/-- The value of an address attribute. -/
def addressValue : CSocketAddress → List UInt8
  | .addr4 port ip => [0, STUN_ATTRIBUTE_FIELD_IPV4] ++ mem16 port ++ mem32 ip
  | .addr6 port ip => [0, STUN_ATTRIBUTE_FIELD_IPV6] ++ mem16 port ++ ip.toList

theorem addressValue_length (addr : CSocketAddress) :
    (addressValue addr).length = 8 ∨ (addressValue addr).length = 20 := by
  cases addr with
  | addr4 port ip => exact Or.inl (by simp [addressValue])
  | addr6 port ip => exact Or.inr (by simp [addressValue])

theorem addressValue_aligned (addr : CSocketAddress) : (addressValue addr).length % 4 = 0 := by
  rcases addressValue_length addr with h | h <;> rw [h]

theorem addressValue_short (addr : CSocketAddress) :
    (addressValue addr).length + 3 < 2 ^ 16 := by
  rcases addressValue_length addr with h | h <;> rw [h] <;> decide

/-! ### Integrity and fingerprint -/

/-- The record of a message integrity. -/
def integrityRecord (hash : List.Vector UInt8 20) : Record :=
  Record.ofValue STUN_ATTRIBUTE_MESSAGEINTEGRITY hash.toList (by rw [hash.toList_length]; decide)

/-- The record of a fingerprint. -/
def fingerprintRecord (value : UInt32) : Record :=
  Record.ofValue STUN_ATTRIBUTE_FINGERPRINT (be32 value) (by rw [be32_length]; decide)

/-- The text a hash is computed over: the message so far, with the length it has once
the integrity attribute is there. -/
def integrityText (typeField : UInt16) (tid : StunTransactionId) (rs : List Record) : List UInt8 :=
  headerBytes typeField (sizeAll rs + 24) tid ++ encodeAll rs

theorem integrityRecord_size (hash : List.Vector UInt8 20) : (integrityRecord hash).size = 24 := by
  simp [integrityRecord, Record.size, Record.ofValue, padLen]

theorem fingerprintRecord_size (value : UInt32) : (fingerprintRecord value).size = 8 := by
  simp [fingerprintRecord, Record.size, Record.ofValue, padLen]

end StunServer.CStunMessageBuilder

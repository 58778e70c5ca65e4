import StunServer.Proofs.Address

/-! What the parser of address values accepts. -/

namespace StunServer

open Bytes

/-- One of the two families, and an address of that family. -/
def IsAddressValue (v : List UInt8) : Prop :=
  (v[1]? = some STUN_ATTRIBUTE_FIELD_IPV4 ∧ 8 ≤ v.length) ∨
    (v[1]? = some STUN_ATTRIBUTE_FIELD_IPV6 ∧ 20 ≤ v.length)

/-- The address has the family, the port and the IP address that the value spells. -/
structure Spells (v : List UInt8) (addr : CSocketAddress) : Prop where
  port : addr.getPort = word16 (slice v 2 2)
  ipv4 : v[1]? = some STUN_ATTRIBUTE_FIELD_IPV4 →
    addr.getFamily = AF_INET ∧ addr.getIP_NBO STUN_IPV6_LENGTH = slice v 4 4
  ipv6 : v[1]? = some STUN_ATTRIBUTE_FIELD_IPV6 →
    addr.getFamily = AF_INET6 ∧ addr.getIP_NBO STUN_IPV6_LENGTH = slice v 4 16

/-- The outcome that the format asks for, `before` being what the caller's variable held. -/
structure ParsedStrictly (v : List UInt8) (before : CSocketAddress) : Prop where
  accepts : (∃ addr, getMappedAddress v = .ok addr) ↔ IsAddressValue v
  spells : ∀ addr, getMappedAddress v = .ok addr → Spells v addr
  unchanged : (∀ addr, getMappedAddress v ≠ .ok addr) → outOr (getMappedAddress v) before = before

section

variable {v : List UInt8}

theorem getD_family (hlen : 2 ≤ v.length) (family : UInt8) :
    v.getD 1 0 = family ↔ v[1]? = some family := by
  match v, hlen with
  | _ :: _ :: _, _ => simp

/-- In an address of sixteen bytes and in one of four, the IP address is what follows the port. -/
theorem spells_ipv4 (hfamily : v[1]? = some STUN_ATTRIBUTE_FIELD_IPV4) (hlen : 8 ≤ v.length) :
    Spells v (.addr4 (load16 (slice v 2 2)) (load32 (slice v 4 4))) where
  port := ntohs_load16 (slice_length (by omega))
  ipv4 _ := ⟨rfl, mem32_load32 (slice_length (by omega))⟩
  ipv6 hother := by
    rw [hfamily] at hother
    exact absurd hother (by decide)

theorem spells_ipv6 (hfamily : v[1]? ≠ some STUN_ATTRIBUTE_FIELD_IPV4) (hlen : 20 ≤ v.length)
    {ip : List.Vector UInt8 16} (hip : ip.toList = slice v 4 16) :
    Spells v (.addr6 (load16 (slice v 2 2)) ip) where
  port := ntohs_load16 (slice_length (by omega))
  ipv4 hother := absurd hother hfamily
  ipv6 _ := ⟨rfl, hip⟩

theorem parsedStrictly_of_error {e : HRESULT} (he : getMappedAddress v = .error e)
    (hno : ¬IsAddressValue v) (before : CSocketAddress) : ParsedStrictly v before where
  accepts := by
    rw [he]
    exact iff_of_false (fun ⟨_, h⟩ => nomatch h) hno
  spells addr h := by
    rw [he] at h
    cases h
  unchanged _ := by
    rw [he]
    rfl

theorem parsedStrictly_of_ok {addr : CSocketAddress} (he : getMappedAddress v = .ok addr)
    (hvalue : IsAddressValue v) (hspells : Spells v addr) (before : CSocketAddress) :
    ParsedStrictly v before where
  accepts := iff_of_true ⟨addr, he⟩ hvalue
  spells addr' h := by
    rw [he] at h
    cases h
    exact hspells
  unchanged h := absurd he (h addr)

end

/-- Address values are parsed strictly but for one kind: twenty bytes or more of a family
that is neither of the two are taken for an IPv6 address. -/
theorem parsedStrictly_iff (v : List UInt8) (before : CSocketAddress) :
    ParsedStrictly v before ↔
      ¬(20 ≤ v.length ∧ v[1]? ≠ some STUN_ATTRIBUTE_FIELD_IPV4 ∧
        v[1]? ≠ some STUN_ATTRIBUTE_FIELD_IPV6) := by
  have hshort (hlt : v.length < if v.getD 1 0 = STUN_ATTRIBUTE_FIELD_IPV4 then 8 else 20)
      (hno : ¬IsAddressValue v) : ParsedStrictly v before := by
    obtain ⟨e, he⟩ := getMappedAddress_short hlt
    exact parsedStrictly_of_error he hno before
  by_cases h4 : v[1]? = some STUN_ATTRIBUTE_FIELD_IPV4
  · refine iff_of_true ?_ fun h => h.2.1 h4
    have htwo : 2 ≤ v.length := (List.getElem?_eq_some_iff.mp h4).1
    have hfamily := (getD_family htwo _).mpr h4
    rcases Nat.lt_or_ge v.length 8 with hlt | hge
    · refine hshort (by rwa [if_pos hfamily]) ?_
      rintro (⟨-, hlen⟩ | ⟨-, hlen⟩) <;> omega
    · exact parsedStrictly_of_ok (getMappedAddress_ipv4 hfamily hge) (Or.inl ⟨h4, hge⟩)
        (spells_ipv4 h4 hge) before
  rcases Nat.lt_or_ge v.length 20 with hlt | hge
  · refine iff_of_true ?_ fun h => absurd h.1 (by omega)
    have hno : ¬IsAddressValue v := by
      rintro (⟨h, -⟩ | ⟨-, hlen⟩)
      · exact h4 h
      · omega
    refine hshort ?_ hno
    split_ifs with hfamily
    · rcases Nat.lt_or_ge v.length 2 with hone | htwo
      · omega
      · exact absurd ((getD_family htwo _).mp hfamily) h4
    · exact hlt
  have hfamily : v.getD 1 0 ≠ STUN_ATTRIBUTE_FIELD_IPV4 :=
    fun h => h4 ((getD_family (by omega) _).mp h)
  obtain ⟨ip, hip, he⟩ := getMappedAddress_ipv6 hfamily hge
  constructor
  · rintro h ⟨-, -, h6⟩
    rcases h.accepts.mp ⟨_, he⟩ with ⟨h, -⟩ | ⟨h, -⟩
    · exact h4 h
    · exact h6 h
  · intro h
    have h6 : v[1]? = some STUN_ATTRIBUTE_FIELD_IPV6 := by
      by_contra hne
      exact h ⟨hge, h4, hne⟩
    exact parsedStrictly_of_ok he (Or.inr ⟨h6, hge⟩) (spells_ipv6 h4 hge hip) before

/-- A value of family 7. -/
theorem parsedStrictly_family_seven :
    ¬ParsedStrictly (0 :: 7 :: List.replicate 18 0) CSocketAddress.create := by
  intro h
  obtain ⟨ip, -, he⟩ := getMappedAddress_ipv6 (v := 0 :: 7 :: List.replicate 18 0) (by decide)
    (by decide)
  rcases h.accepts.mp ⟨_, he⟩ with ⟨hfamily, -⟩ | ⟨hfamily, -⟩
  · exact absurd hfamily (by decide)
  · exact absurd hfamily (by decide)

end StunServer

import StunServer.Proofs.DataStream
import StunServer.Spec.Attribute

/-! Addresses in messages: the reader's parser undoes what the builder writes, and the
exclusive or with a transaction id undoes itself. -/

namespace StunServer

open Bytes CStunMessageBuilder

/-! ### The IP and the port -/

theorem isSameIP_setPort (port : UInt16) (a : CSocketAddress) :
    (a.setPort port).isSameIP a = true := by
  cases a <;> simp [CSocketAddress.setPort, CSocketAddress.isSameIP]

theorem isSameIP_self (a : CSocketAddress) : a.isSameIP a = true := by
  cases a <;> simp [CSocketAddress.isSameIP]

theorem getPort_setPort (port : UInt16) (a : CSocketAddress) : (a.setPort port).getPort = port := by
  cases a <;> simp [CSocketAddress.setPort, CSocketAddress.getPort, CSocketAddress.getPort_NBO]

theorem isSameIP_setPort_setPort (a b : CSocketAddress) (p q : UInt16) :
    (a.setPort p).isSameIP (b.setPort q) = a.isSameIP b := by
  cases a <;> cases b <;> rfl

/-! ### Reading an address -/

namespace CDataStream

theorem bytes_ofBuffer (d : List UInt8) : (ofBuffer (CBuffer.initNoAlloc d)).bytes = d :=
  List.take_length

theorem readUint8_ok {s : CDataStream} (h : s.Wf) {p : ℕ} {v : UInt8}
    (hv : slice s.bytes p 1 = [v]) (hsum : p + 1 < 2 ^ 64) : readUint8 (s.moveTo p) = .ok v (s.moveTo (p + 1)) := by
  have hn : p + 1 ≤ s.bytes.length := by
    have hl := congrArg List.length hv
    rw [slice, List.length_take, List.length_drop, List.length_singleton] at hl
    omega
  obtain ⟨w, hw, hs⟩ := read_ok h hn hsum
  have hhead : w.head = v := by
    have ht := List.Vector.toList_cons w.head w.tail
    rw [List.Vector.cons_head_tail, hs, hv, List.cons.injEq] at ht
    exact ht.1.symm
  rw [readUint8, Hr.bind_ok hw, hhead]
  rfl

theorem readUint8_error {s : CDataStream} (h : s.Wf) {p : ℕ} (hn : s.bytes.length < p + 1)
    (hsum : p + 1 < 2 ^ 64) : readUint8 (s.moveTo p) = .error E_INVALIDARG (s.moveTo p) := by
  rw [readUint8, Hr.bind_error (read_error h hn hsum)]

theorem readUint32_error {s : CDataStream} (h : s.Wf) {p : ℕ} (hn : s.bytes.length < p + 4)
    (hsum : p + 4 < 2 ^ 64) : readUint32 (s.moveTo p) = .error E_INVALIDARG (s.moveTo p) := by
  rw [readUint32, Hr.bind_error (read_error h hn hsum)]

end CDataStream

theorem slice_family {v : List UInt8} (hlen : 2 ≤ v.length) : slice v 1 1 = [v.getD 1 0] := by
  match v, hlen with
  | _ :: _ :: _, _ => rfl

section

variable {v : List UInt8}

/-- The family and the port are there, and the address is read next. -/
theorem getMappedAddress_eq (hlen : 4 ≤ v.length) :
    getMappedAddress v = Hr.result
      (if v.getD 1 0 = STUN_ATTRIBUTE_FIELD_IPV4 then do
        let ip4 ← CDataStream.readUint32
        return CSocketAddress.ofHostOrder (ntohl ip4) (ntohs (load16 (slice v 2 2)))
      else do
        let ip6 ← CDataStream.read STUN_IPV6_LENGTH
        return CSocketAddress.addr6 (htons (ntohs (load16 (slice v 2 2)))) ip6)
      ((CDataStream.ofBuffer (CBuffer.initNoAlloc v)).moveTo 4) := by
  have hw := CDataStream.wf_ofBuffer v
  have hb := CDataStream.bytes_ofBuffer v
  have hstart := CDataStream.moveTo_pos (CDataStream.ofBuffer (CBuffer.initNoAlloc v))
  have hslice := slice_family (v := v) (by omega)
  unfold getMappedAddress
  dsimp only
  set s := CDataStream.ofBuffer (CBuffer.initNoAlloc v)
  rw [← hb] at hslice hlen
  have hfamily : CDataStream.readUint8 (s.moveTo 1) = .ok (s.bytes.getD 1 0) (s.moveTo 2) :=
    CDataStream.readUint8_ok hw hslice (by decide)
  have hport : CDataStream.readUint16 (s.moveTo 2) = .ok (load16 (slice s.bytes 2 2)) (s.moveTo 4) :=
    CDataStream.readUint16_ok hw hlen (by decide)
  rw [← hstart, Hr.bind_ok (CDataStream.seekDirect_ok hw (q := 1) (by omega)), Hr.bind_ok hfamily,
    Hr.bind_ok hport, hb, CDataStream.moveTo_moveTo, Hr.result]
  split
  next hparse => rw [hparse]
  next hparse => rw [hparse]

theorem getMappedAddress_ipv4 (hfamily : v.getD 1 0 = STUN_ATTRIBUTE_FIELD_IPV4)
    (hlen : 8 ≤ v.length) :
    getMappedAddress v = .ok (.addr4 (load16 (slice v 2 2)) (load32 (slice v 4 4))) := by
  have hw := CDataStream.wf_ofBuffer v
  have hb := CDataStream.bytes_ofBuffer v
  rw [getMappedAddress_eq (by omega), if_pos hfamily, Hr.result,
    Hr.bind_ok (CDataStream.readUint32_ok hw (by rw [hb]; exact hlen) (by decide)), hb]
  simp [CSocketAddress.ofHostOrder]

/-- Every other family is read as IPv6. -/
theorem getMappedAddress_ipv6 (hfamily : v.getD 1 0 ≠ STUN_ATTRIBUTE_FIELD_IPV4)
    (hlen : 20 ≤ v.length) :
    ∃ ip : List.Vector UInt8 16, ip.toList = slice v 4 16 ∧
      getMappedAddress v = .ok (.addr6 (load16 (slice v 2 2)) ip) := by
  have hw := CDataStream.wf_ofBuffer v
  have hb := CDataStream.bytes_ofBuffer v
  obtain ⟨ip, hread, hip⟩ :=
    CDataStream.read_ok hw (p := 4) (n := STUN_IPV6_LENGTH) (by rw [hb]; exact hlen) (by decide)
  refine ⟨ip, hip.trans (by rw [hb]; rfl), ?_⟩
  rw [getMappedAddress_eq (by omega), if_neg hfamily, Hr.result, Hr.bind_ok hread]
  simp

/-- A value that ends before the address does is refused. -/
theorem getMappedAddress_short
    (hlen : v.length < if v.getD 1 0 = STUN_ATTRIBUTE_FIELD_IPV4 then 8 else 20) :
    ∃ e, getMappedAddress v = .error e := by
  have hw := CDataStream.wf_ofBuffer v
  have hb := CDataStream.bytes_ofBuffer v
  have hstart := CDataStream.moveTo_pos (CDataStream.ofBuffer (CBuffer.initNoAlloc v))
  unfold getMappedAddress
  dsimp only
  set s := CDataStream.ofBuffer (CBuffer.initNoAlloc v)
  have hlength : s.bytes.length = v.length := congrArg List.length hb
  rw [← hstart]
  rcases Nat.lt_or_ge v.length 1 with h0 | h1
  · rw [Hr.bind_error (CDataStream.seekDirect_error hw (q := 1) (by omega))]
    exact ⟨_, rfl⟩
  rw [Hr.bind_ok (CDataStream.seekDirect_ok hw (q := 1) (by omega))]
  rcases Nat.lt_or_ge v.length 2 with h1 | h2
  · rw [Hr.bind_error (CDataStream.readUint8_error hw (by omega) (by decide))]
    exact ⟨_, rfl⟩
  rw [Hr.bind_ok (CDataStream.readUint8_ok hw (by rw [hb]; exact slice_family h2) (by decide))]
  rcases Nat.lt_or_ge v.length 4 with h3 | h4
  · rw [Hr.bind_error (CDataStream.readUint16_error hw (by omega) (by decide))]
    exact ⟨_, rfl⟩
  rw [Hr.bind_ok (CDataStream.readUint16_ok hw (by omega) (by decide))]
  split_ifs at hlen ⊢
  · rw [Hr.bind_error (CDataStream.readUint32_error hw (by omega) (by decide))]
    exact ⟨_, rfl⟩
  · rw [Hr.bind_error (CDataStream.read_error hw (by rw [STUN_IPV6_LENGTH]; omega) (by decide))]
    exact ⟨_, rfl⟩

end

theorem slice_port (family : UInt8) (port : UInt16) (ip : List UInt8) :
    slice ([0, family] ++ mem16 port ++ ip) 2 2 = mem16 port := by
  rw [List.append_assoc]
  exact slice_of_append rfl (mem16_length port).symm

theorem slice_ip (family : UInt8) (port : UInt16) {ip : List UInt8} {n : ℕ} (hn : n = ip.length) :
    slice ([0, family] ++ mem16 port ++ ip) 4 n = ip := by
  have h : slice ([0, family] ++ mem16 port ++ (ip ++ [])) 4 n = ip := slice_of_append (by simp) hn
  rwa [List.append_nil] at h

/-- What is written of an address is read back as that address. -/
theorem getMappedAddress_addressValue (addr : CSocketAddress) :
    getMappedAddress (addressValue addr) = .ok addr := by
  cases addr with
  | addr4 port ip =>
    have hport := slice_port STUN_ATTRIBUTE_FIELD_IPV4 port (mem32 ip)
    have hip := slice_ip STUN_ATTRIBUTE_FIELD_IPV4 port (mem32_length ip).symm
    rw [getMappedAddress_ipv4 rfl (by simp [addressValue]), addressValue, hport, hip, load16_mem16,
      load32_mem32]
  | addr6 port ip =>
    have hport := slice_port STUN_ATTRIBUTE_FIELD_IPV6 port ip.toList
    have hip := slice_ip STUN_ATTRIBUTE_FIELD_IPV6 port ip.toList_length.symm
    obtain ⟨ip', hip', he⟩ := getMappedAddress_ipv6 (v := addressValue (.addr6 port ip))
      (by decide : STUN_ATTRIBUTE_FIELD_IPV6 ≠ STUN_ATTRIBUTE_FIELD_IPV4) (by simp [addressValue])
    obtain rfl : ip' = ip := List.Vector.toList_injective (hip'.trans hip)
    rw [he, addressValue, hport, load16_mem16]

theorem zipWith_xor_cancel {xs ks : List UInt8} (h : xs.length ≤ ks.length) :
    List.zipWith (· ^^^ ·) (List.zipWith (· ^^^ ·) xs ks) ks = xs := by
  induction xs generalizing ks with
  | nil => rfl
  | cons x xs ih =>
    cases ks with
    | nil => simp at h
    | cons k ks =>
      simp only [List.zipWith_cons_cons, UInt8.xor_assoc, UInt8.xor_self, UInt8.xor_zero]
      rw [ih (Nat.le_of_succ_le_succ h)]

/-- The same map is applied on both sides. -/
theorem applyStunXorMap_twice (addr : CSocketAddress) (tid : StunTransactionId) :
    (addr.applyStunXorMap tid).applyStunXorMap tid = addr := by
  have hport : ∀ port : UInt16, load16 (List.zipWith (· ^^^ ·)
      (mem16 (load16 (List.zipWith (· ^^^ ·) (mem16 port) tid.toList))) tid.toList) = port := by
    intro port
    rw [mem16_load16 (by simp), zipWith_xor_cancel (by simp), load16_mem16]
  cases addr with
  | addr4 port ip =>
    simp only [CSocketAddress.applyStunXorMap, hport]
    rw [mem32_load32 (by simp), zipWith_xor_cancel (by simp), load32_mem32]
  | addr6 port ip =>
    simp only [CSocketAddress.applyStunXorMap, hport]
    congr 1
    apply List.Vector.ext
    intro i
    rw [List.Vector.zipWith_get, List.Vector.zipWith_get, UInt8.xor_assoc, UInt8.xor_self,
      UInt8.xor_zero]

end StunServer

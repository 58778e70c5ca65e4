import Mathlib.Data.Vector.Basic
import Mathlib.Algebra.Order.Ring.Nat
import Mathlib.Tactic.Ring

/-! Byte lists as memory: slices, overwriting in place, big-endian words, and the
words of a little-endian host. Nothing here names a program; the stream and the
codec instantiate it. -/

namespace Bytes

variable {α : Type*}

/-! ### Slices -/

/-- The `n` elements from position `off` on. -/
def slice (xs : List α) (off n : ℕ) : List α := (xs.drop off).take n

theorem slice_length {xs : List α} {off n : ℕ} (h : off + n ≤ xs.length) :
    (slice xs off n).length = n := by
  simp only [slice, List.length_take, List.length_drop]
  omega

theorem slice_length_le (xs : List α) (off n : ℕ) : (slice xs off n).length ≤ n :=
  List.length_take_le _ _

theorem slice_append_left (pre mid post : List α) :
    slice (pre ++ mid ++ post) pre.length mid.length = mid := by
  simp [slice, List.append_assoc]

theorem slice_of_append {pre mid post : List α} {off n : ℕ} (ho : off = pre.length)
    (hn : n = mid.length) : slice (pre ++ (mid ++ post)) off n = mid := by
  subst ho hn
  rw [← List.append_assoc, slice_append_left]

theorem slice_prefix (xs ys : List α) {off n : ℕ} (h : off + n ≤ xs.length) :
    slice (xs ++ ys) off n = slice xs off n := by
  rw [slice, slice, List.drop_append_of_le_length (by omega),
    List.take_append_of_le_length (by simp only [List.length_drop]; omega)]

theorem slice_zero_take (xs : List α) (n : ℕ) : slice xs 0 n = xs.take n := rfl

theorem slice_take {xs : List α} {off n k : ℕ} (h : off + n ≤ k) :
    slice (xs.take k) off n = slice xs off n := by
  rw [slice, slice, List.drop_take, List.take_take, Nat.min_eq_left (by omega)]

theorem slice_drop (xs : List α) (k off n : ℕ) :
    slice (xs.drop k) off n = slice xs (k + off) n := by
  rw [slice, slice, List.drop_drop]

theorem slice_split (xs : List α) (off n k : ℕ) :
    slice xs off (n + k) = slice xs off n ++ slice xs (off + n) k := by
  rw [slice, slice, slice, ← List.drop_drop, ← List.take_add]

theorem slice_slice {xs : List α} {off n k j : ℕ} (h : k + j ≤ n) :
    slice (slice xs off n) k j = slice xs (off + k) j := by
  change slice ((xs.drop off).take n) k j = _
  rw [slice_take h, slice_drop]

theorem drop_eq_slice_append (xs : List α) (off n : ℕ) :
    xs.drop off = slice xs off n ++ xs.drop (off + n) := by
  rw [slice, ← List.drop_drop, List.take_append_drop]

/-! ### Overwriting -/

/-- `ys` written over `xs` from position `pos` on. -/
def overwrite (xs : List α) (pos : ℕ) (ys : List α) : List α :=
  xs.take pos ++ ys ++ xs.drop (pos + ys.length)

theorem overwrite_length {xs ys : List α} {pos : ℕ} (h : pos + ys.length ≤ xs.length) :
    (overwrite xs pos ys).length = xs.length := by
  simp only [overwrite, List.length_append, List.length_take, List.length_drop]
  omega

theorem length_le_overwrite (xs ys : List α) (pos : ℕ) :
    xs.length ≤ (overwrite xs pos ys).length := by
  simp only [overwrite, List.length_append, List.length_take, List.length_drop]
  omega

theorem getElem?_overwrite_of_lt {xs ys : List α} {pos i : ℕ} (h : pos ≤ xs.length) (hi : i < pos) :
    (overwrite xs pos ys)[i]? = xs[i]? := by
  rw [overwrite, List.append_assoc,
    List.getElem?_append_left (by rw [List.length_take]; omega), List.getElem?_take_of_lt hi]

theorem getElem?_overwrite_of_ge {xs ys : List α} {pos i : ℕ} (h : pos + ys.length ≤ xs.length)
    (hi : pos + ys.length ≤ i) : (overwrite xs pos ys)[i]? = xs[i]? := by
  have hlen : (xs.take pos ++ ys).length = pos + ys.length := by
    rw [List.length_append, List.length_take, Nat.min_eq_left (by omega)]
  rw [overwrite, List.getElem?_append_right (by omega), hlen, List.getElem?_drop,
    Nat.add_sub_cancel' hi]

theorem slice_overwrite {xs ys : List α} {pos : ℕ} (h : pos ≤ xs.length) :
    slice (overwrite xs pos ys) pos ys.length = ys := by
  have hlen : pos = (xs.take pos).length := by rw [List.length_take, Nat.min_eq_left h]
  rw [overwrite, List.append_assoc]
  exact slice_of_append hlen rfl

/-- Writing at the end of a prefix extends the prefix. -/
theorem take_overwrite {xs ys : List α} {pos : ℕ} (h : pos ≤ xs.length) :
    (overwrite xs pos ys).take (pos + ys.length) = xs.take pos ++ ys := by
  rw [overwrite, List.take_left' (by simp [List.length_append, Nat.min_eq_left h])]

/-- What is written behind a prefix extends the prefix. -/
theorem prefix_overwrite {xs pre ys : List α} {pos : ℕ} (h : pre <+: xs) (hpos : pos = pre.length) :
    pre ++ ys <+: overwrite xs pos ys := by
  rw [overwrite, hpos, ← List.prefix_iff_eq_take.mp h]
  exact List.prefix_append _ _

/-- Writing inside a prefix overwrites the prefix. -/
theorem take_overwrite_inside {xs ys : List α} {pos n : ℕ} (h : pos + ys.length ≤ n)
    (hn : n ≤ xs.length) :
    (overwrite xs pos ys).take n = overwrite (xs.take n) pos ys := by
  have hp : (xs.take pos).length = pos := by rw [List.length_take]; omega
  rw [overwrite, overwrite, List.take_append, List.take_of_length_le (by simp [hp]; omega),
    List.take_take, Nat.min_eq_left (by omega : pos ≤ n), List.drop_take]
  simp only [List.length_append, hp]

theorem overwrite_append_middle (pre mid post ys : List α) (h : ys.length = mid.length) :
    overwrite (pre ++ mid ++ post) pre.length ys = pre ++ ys ++ post := by
  rw [overwrite, h]
  simp [List.append_assoc]

/-! ### Big-endian words -/

/-- The low `k` bytes of `n`, most significant first. -/
def ofNatBE : ℕ → ℕ → List UInt8
  | 0, _ => []
  | k + 1, n => UInt8.ofNat (n / 256 ^ k) :: ofNatBE k n

/-- The number a byte list spells, most significant byte first. -/
def toNatBE : List UInt8 → ℕ
  | [] => 0
  | b :: bs => b.toNat * 256 ^ bs.length + toNatBE bs

@[simp] theorem ofNatBE_length (k n : ℕ) : (ofNatBE k n).length = k := by
  induction k with
  | zero => rfl
  | succ k ih => simp only [ofNatBE, List.length_cons, ih]

theorem toNatBE_lt (bs : List UInt8) : toNatBE bs < 256 ^ bs.length := by
  induction bs with
  | nil => simp [toNatBE]
  | cons b bs ih =>
    have hb : b.toNat < 256 := b.toNat_lt
    simp only [toNatBE, List.length_cons, pow_succ]
    calc b.toNat * 256 ^ bs.length + toNatBE bs
        < b.toNat * 256 ^ bs.length + 256 ^ bs.length := by omega
      _ = (b.toNat + 1) * 256 ^ bs.length := by ring
      _ ≤ 256 * 256 ^ bs.length := Nat.mul_le_mul_right _ hb
      _ = 256 ^ bs.length * 256 := Nat.mul_comm _ _

theorem toNatBE_ofNatBE (k n : ℕ) : toNatBE (ofNatBE k n) = n % 256 ^ k := by
  induction k with
  | zero => simp [ofNatBE, toNatBE, Nat.mod_one]
  | succ k ih =>
    have hb : (UInt8.ofNat (n / 256 ^ k)).toNat = n / 256 ^ k % 256 := by
      simp [UInt8.toNat_ofNat']
    rw [ofNatBE, toNatBE, ofNatBE_length, ih, hb, pow_succ, Nat.mod_mul]
    ring

theorem ofNatBE_add_mul (k n m : ℕ) : ofNatBE k (m * 256 ^ k + n) = ofNatBE k n := by
  induction k generalizing m with
  | zero => rfl
  | succ k ih =>
    have hq : (m * 256 ^ (k + 1) + n) / 256 ^ k = m * 256 + n / 256 ^ k := by
      rw [pow_succ', ← Nat.mul_assoc, Nat.add_comm, Nat.add_mul_div_right _ _ (Nat.pow_pos (by decide)),
        Nat.add_comm]
    have hb : UInt8.ofNat (m * 256 + n / 256 ^ k) = UInt8.ofNat (n / 256 ^ k) := by
      apply UInt8.toNat_inj.1
      simp only [UInt8.toNat_ofNat']
      omega
    rw [ofNatBE, ofNatBE, hq, hb, pow_succ', ← Nat.mul_assoc, ih]

theorem ofNatBE_toNatBE (bs : List UInt8) : ofNatBE bs.length (toNatBE bs) = bs := by
  induction bs with
  | nil => rfl
  | cons b bs ih =>
    have hlt := toNatBE_lt bs
    have hq : (b.toNat * 256 ^ bs.length + toNatBE bs) / 256 ^ bs.length = b.toNat := by
      rw [Nat.add_comm, Nat.add_mul_div_right _ _ (Nat.pow_pos (by decide)), Nat.div_eq_of_lt hlt,
        Nat.zero_add]
    rw [List.length_cons, ofNatBE, toNatBE, hq, ofNatBE_add_mul, ih, UInt8.ofNat_toNat]

/-- A 16-bit word, most significant byte first. -/
def be16 (v : UInt16) : List UInt8 := ofNatBE 2 v.toNat

/-- A 32-bit word, most significant byte first. -/
def be32 (v : UInt32) : List UInt8 := ofNatBE 4 v.toNat

/-- The 16-bit word a byte list spells. -/
def word16 (bs : List UInt8) : UInt16 := UInt16.ofNat (toNatBE bs)

/-- The 32-bit word a byte list spells. -/
def word32 (bs : List UInt8) : UInt32 := UInt32.ofNat (toNatBE bs)

/-- The 64-bit word a byte list spells. -/
def word64 (bs : List UInt8) : UInt64 := UInt64.ofNat (toNatBE bs)

@[simp] theorem be16_length (v : UInt16) : (be16 v).length = 2 := ofNatBE_length 2 _
@[simp] theorem be32_length (v : UInt32) : (be32 v).length = 4 := ofNatBE_length 4 _

@[simp] theorem word16_be16 (v : UInt16) : word16 (be16 v) = v := by
  have h : v.toNat < 256 ^ 2 := v.toNat_lt
  rw [word16, be16, toNatBE_ofNatBE, Nat.mod_eq_of_lt h, UInt16.ofNat_toNat]

@[simp] theorem word32_be32 (v : UInt32) : word32 (be32 v) = v := by
  have h : v.toNat < 256 ^ 4 := v.toNat_lt
  rw [word32, be32, toNatBE_ofNatBE, Nat.mod_eq_of_lt h, UInt32.ofNat_toNat]

theorem be16_word16 {bs : List UInt8} (h : bs.length = 2) : be16 (word16 bs) = bs := by
  have hlt : toNatBE bs < 2 ^ 16 := by simpa [h] using toNatBE_lt bs
  rw [be16, word16, UInt16.toNat_ofNat_of_lt' hlt, ← h, ofNatBE_toNatBE]

theorem be32_word32 {bs : List UInt8} (h : bs.length = 4) : be32 (word32 bs) = bs := by
  have hlt : toNatBE bs < 2 ^ 32 := by simpa [h] using toNatBE_lt bs
  rw [be32, word32, UInt32.toNat_ofNat_of_lt' hlt, ← h, ofNatBE_toNatBE]

theorem be16_inj {v w : UInt16} (h : be16 v = be16 w) : v = w := by
  rw [← word16_be16 v, h, word16_be16]

/-- The 16-bit words that a byte list spells, one after the other. -/
def words16 : List UInt8 → List UInt16
  | x :: y :: rest => word16 [x, y] :: words16 rest
  | _ => []

theorem words16_append {bs : List UInt8} (h : bs.length = 2) (rest : List UInt8) :
    words16 (bs ++ rest) = word16 bs :: words16 rest := by
  match bs, h with
  | [_, _], _ => rfl

/-! ### The words of a little-endian host -/

/-- The two bytes a 16-bit word occupies in the memory of a little-endian host. -/
def mem16 (v : UInt16) : List UInt8 := (be16 v).reverse

/-- The four bytes a 32-bit word occupies in the memory of a little-endian host. -/
def mem32 (v : UInt32) : List UInt8 := (be32 v).reverse

/-- The 16-bit word found in two bytes of memory. -/
def load16 (bs : List UInt8) : UInt16 := word16 bs.reverse

/-- The 32-bit word found in four bytes of memory. -/
def load32 (bs : List UInt8) : UInt32 := word32 bs.reverse

/-- The 64-bit word at some bytes of memory. -/
def load64 (bs : List UInt8) : UInt64 := word64 bs.reverse

theorem load64_inj {bs cs : List UInt8} (hb : bs.length = 8) (hc : cs.length = 8)
    (h : load64 bs = load64 cs) : bs = cs := by
  have hlt (ds : List UInt8) (hd : ds.length = 8) : toNatBE ds.reverse < 2 ^ 64 := by
    simpa [hd] using toNatBE_lt ds.reverse
  have hnat : toNatBE bs.reverse = toNatBE cs.reverse := by
    rw [← UInt64.toNat_ofNat_of_lt' (hlt bs hb), ← UInt64.toNat_ofNat_of_lt' (hlt cs hc)]
    exact congrArg UInt64.toNat h
  have hbytes : bs.reverse = cs.reverse := by
    rw [← ofNatBE_toNatBE bs.reverse, ← ofNatBE_toNatBE cs.reverse, hnat]
    simp [hb, hc]
  exact List.reverse_injective hbytes

/-- The byte swap between host and network order; its own inverse. -/
def htons (v : UInt16) : UInt16 := load16 (be16 v)
def ntohs (v : UInt16) : UInt16 := htons v
def htonl (v : UInt32) : UInt32 := load32 (be32 v)
def ntohl (v : UInt32) : UInt32 := htonl v

@[simp] theorem mem16_length (v : UInt16) : (mem16 v).length = 2 := by simp [mem16]
@[simp] theorem mem32_length (v : UInt32) : (mem32 v).length = 4 := by simp [mem32]

@[simp] theorem load16_mem16 (v : UInt16) : load16 (mem16 v) = v := by
  simp [load16, mem16]

@[simp] theorem load32_mem32 (v : UInt32) : load32 (mem32 v) = v := by
  simp [load32, mem32]

theorem mem16_load16 {bs : List UInt8} (h : bs.length = 2) : mem16 (load16 bs) = bs := by
  rw [mem16, load16, be16_word16 (by simpa using h), List.reverse_reverse]

theorem mem32_load32 {bs : List UInt8} (h : bs.length = 4) : mem32 (load32 bs) = bs := by
  rw [mem32, load32, be32_word32 (by simpa using h), List.reverse_reverse]

/-- A word put in network order sits in memory most significant byte first. -/
@[simp] theorem mem16_htons (v : UInt16) : mem16 (htons v) = be16 v :=
  mem16_load16 (be16_length v)

@[simp] theorem mem16_ntohs (v : UInt16) : mem16 (ntohs v) = be16 v := mem16_htons v

@[simp] theorem mem32_htonl (v : UInt32) : mem32 (htonl v) = be32 v :=
  mem32_load32 (be32_length v)

/-- Words that stay in the order of the host spell swapped words. -/
theorem words16_flatMap_mem16 (ws : List UInt16) : words16 (ws.flatMap mem16) = ws.map htons := by
  induction ws with
  | nil => rfl
  | cons w ws ih =>
    rw [List.flatMap_cons, words16_append (mem16_length w), ih, List.map_cons]
    rfl

theorem be16_load16 {bs : List UInt8} (h : bs.length = 2) : be16 (load16 bs) = bs.reverse := by
  rw [load16, be16_word16 (by simpa using h)]

theorem be32_load32 {bs : List UInt8} (h : bs.length = 4) : be32 (load32 bs) = bs.reverse := by
  rw [load32, be32_word32 (by simpa using h)]

/-- Reading a network-order word and swapping it gives the number spelled. -/
theorem ntohs_load16 {bs : List UInt8} (h : bs.length = 2) : ntohs (load16 bs) = word16 bs := by
  rw [ntohs, htons, be16_load16 h, load16, List.reverse_reverse]

theorem ntohl_load32 {bs : List UInt8} (h : bs.length = 4) : ntohl (load32 bs) = word32 bs := by
  rw [ntohl, htonl, be32_load32 h, load32, List.reverse_reverse]

@[simp] theorem ntohs_htons (v : UInt16) : ntohs (htons v) = v := by
  rw [htons, ntohs_load16 (be16_length v), word16_be16]

@[simp] theorem htons_ntohs (v : UInt16) : htons (ntohs v) = v := ntohs_htons v

@[simp] theorem ntohl_htonl (v : UInt32) : ntohl (htonl v) = v := by
  rw [htonl, ntohl_load32 (be32_length v), word32_be32]

@[simp] theorem htonl_ntohl (v : UInt32) : htonl (ntohl v) = v := ntohl_htonl v

end Bytes

import StunServer.Lib.Bytes
import Mathlib.Data.List.Basic

/-! Sequences of type-length-value records: a 16-bit type, a 16-bit length, the value
and padding up to the next multiple of four. A record carries the proof that it is
well formed, so every list of records is a sentence of the grammar, and a byte
string has at most one reading. -/

namespace Tlv

open Bytes

/-- The padding that follows a value of `n` bytes. -/
def padLen (n : ℕ) : ℕ := (4 - n % 4) % 4

theorem padLen_lt (n : ℕ) : padLen n < 4 := Nat.mod_lt _ (by decide)

theorem add_padLen_mod (n : ℕ) : (n + padLen n) % 4 = 0 := by
  unfold padLen
  omega

theorem padLen_of_mod {n : ℕ} (h : n % 4 = 0) : padLen n = 0 := by
  unfold padLen
  omega

structure Record where
  type : UInt16
  value : List UInt8
  padding : List UInt8
  length_lt : value.length < 2 ^ 16
  padding_length : padding.length = padLen value.length
deriving DecidableEq, Repr

namespace Record

def encode (r : Record) : List UInt8 :=
  be16 r.type ++ (be16 (UInt16.ofNat r.value.length) ++ (r.value ++ r.padding))

/-- The bytes a record takes up, its four-byte header included. -/
def size (r : Record) : ℕ := 4 + r.value.length + r.padding.length

@[simp] theorem encode_length (r : Record) : r.encode.length = r.size := by
  simp only [encode, size, List.length_append, be16_length]
  omega

theorem size_mod (r : Record) : r.size % 4 = 0 := by
  have h := add_padLen_mod r.value.length
  simp only [size, r.padding_length]
  omega

theorem four_le_size (r : Record) : 4 ≤ r.size := by
  unfold size
  omega

theorem nil_length_lt : ([] : List UInt8).length < 2 ^ 16 := by decide

/-- A record whose padding is all zero bytes. -/
def ofValue (type : UInt16) (value : List UInt8) (h : value.length < 2 ^ 16) : Record where
  type := type
  value := value
  padding := List.replicate (padLen value.length) 0
  length_lt := h
  padding_length := List.length_replicate

def ZeroPadded (r : Record) : Prop := r.padding = List.replicate (padLen r.value.length) 0

theorem ofValue_of_zeroPadded {r : Record} (h : r.ZeroPadded) :
    ofValue r.type r.value r.length_lt = r := by
  cases r
  simp only [ofValue, Record.mk.injEq, true_and]
  exact h.symm

theorem value_length_inj {r r' : Record}
    (h : be16 (UInt16.ofNat r.value.length) = be16 (UInt16.ofNat r'.value.length)) :
    r.value.length = r'.value.length := by
  have he := congrArg UInt16.toNat (be16_inj h)
  rwa [UInt16.toNat_ofNat_of_lt' r.length_lt, UInt16.toNat_ofNat_of_lt' r'.length_lt] at he

/-- A record at the front of a byte string is read in only one way. -/
theorem encode_append_inj {r r' : Record} {xs xs' : List UInt8}
    (h : r.encode ++ xs = r'.encode ++ xs') : r = r' ∧ xs = xs' := by
  simp only [encode, List.append_assoc] at h
  obtain ⟨ht, h⟩ := List.append_inj h (by simp)
  obtain ⟨hn, h⟩ := List.append_inj h (by simp)
  have hlen := value_length_inj hn
  obtain ⟨hv, h⟩ := List.append_inj h hlen
  obtain ⟨hp, h⟩ := List.append_inj h (by rw [r.padding_length, r'.padding_length, hlen])
  refine ⟨?_, h⟩
  cases r
  cases r'
  simp_all only [Record.mk.injEq, and_true]
  exact be16_inj ht

end Record

/-- A header is that of a record if as much follows as it declares, padding included. -/
theorem exists_encode_iff {t n : UInt16} {rest : List UInt8} :
    (∃ r : Record, r.type = t ∧ be16 t ++ (be16 n ++ rest) = r.encode) ↔
      rest.length = n.toNat + padLen n.toNat := by
  constructor
  · rintro ⟨r, rfl, h⟩
    obtain ⟨-, h⟩ := List.append_inj h (by simp)
    obtain ⟨hn, h⟩ := List.append_inj h (by simp)
    rw [be16_inj hn, UInt16.toNat_ofNat_of_lt' r.length_lt, h, List.length_append,
      r.padding_length]
  · intro h
    have hvalue : (rest.take n.toNat).length = n.toNat := List.length_take_of_le (by omega)
    refine ⟨⟨t, rest.take n.toNat, rest.drop n.toNat, by rw [hvalue]; exact n.toNat_lt, ?_⟩, rfl, ?_⟩
    · rw [hvalue, List.length_drop]
      omega
    · simp only [Record.encode, hvalue, UInt16.ofNat_toNat, List.take_append_drop]

/-! ### Sequences of records -/

def encodeAll (rs : List Record) : List UInt8 := rs.flatMap Record.encode

def sizeAll (rs : List Record) : ℕ := (rs.map Record.size).sum

@[simp] theorem encodeAll_nil : encodeAll [] = [] := rfl

@[simp] theorem encodeAll_cons (r : Record) (rs : List Record) :
    encodeAll (r :: rs) = r.encode ++ encodeAll rs := List.flatMap_cons

@[simp] theorem encodeAll_append (rs rs' : List Record) :
    encodeAll (rs ++ rs') = encodeAll rs ++ encodeAll rs' := List.flatMap_append

@[simp] theorem sizeAll_nil : sizeAll [] = 0 := rfl

@[simp] theorem sizeAll_cons (r : Record) (rs : List Record) :
    sizeAll (r :: rs) = r.size + sizeAll rs := rfl

@[simp] theorem sizeAll_append (rs rs' : List Record) :
    sizeAll (rs ++ rs') = sizeAll rs + sizeAll rs' := by
  simp only [sizeAll, List.map_append, List.sum_append]

@[simp] theorem encodeAll_length (rs : List Record) : (encodeAll rs).length = sizeAll rs := by
  induction rs with
  | nil => rfl
  | cons r rs ih => rw [encodeAll_cons, List.length_append, r.encode_length, ih, sizeAll_cons]

theorem sizeAll_mod (rs : List Record) : sizeAll rs % 4 = 0 := by
  induction rs with
  | nil => rfl
  | cons r rs ih =>
    have h := r.size_mod
    rw [sizeAll_cons]
    omega

/-- A byte string is the encoding of at most one sequence of records. -/
theorem encodeAll_inj {rs rs' : List Record} (h : encodeAll rs = encodeAll rs') : rs = rs' := by
  induction rs generalizing rs' with
  | nil =>
    cases rs' with
    | nil => rfl
    | cons r' rs' =>
      have hl := congrArg List.length h
      have h4 := r'.four_le_size
      simp only [encodeAll_nil, List.length_nil, encodeAll_length, sizeAll_cons] at hl
      omega
  | cons r rs ih =>
    cases rs' with
    | nil =>
      have hl := congrArg List.length h
      have h4 := r.four_le_size
      simp only [encodeAll_nil, List.length_nil, encodeAll_length, sizeAll_cons] at hl
      omega
    | cons r' rs' =>
      rw [encodeAll_cons, encodeAll_cons] at h
      obtain ⟨rfl, htail⟩ := Record.encode_append_inj h
      rw [ih htail]

/-! ### Reading one record -/

/-- The record at the front of a byte string and what follows it, if the header, the
value and the padding are all there. -/
def decodeOne (xs : List UInt8) : Option (Record × List UInt8) :=
  let n := (word16 (slice xs 2 2)).toNat
  if h : 4 + n + padLen n ≤ xs.length then
    some (⟨word16 (slice xs 0 2), slice xs 4 n, slice xs (4 + n) (padLen n),
      by rw [slice_length (by omega)]; exact (word16 (slice xs 2 2)).toNat_lt,
      by rw [slice_length (by omega), slice_length (by omega)]⟩, xs.drop (4 + n + padLen n))
  else none

/-- The header of a record names its type and the length of its value. -/
theorem header_of_encode (r : Record) (rest : List UInt8) :
    word16 (slice (r.encode ++ rest) 0 2) = r.type ∧
      (word16 (slice (r.encode ++ rest) 2 2)).toNat = r.value.length := by
  have ht : slice (r.encode ++ rest) 0 2 = be16 r.type := by
    rw [Record.encode, List.append_assoc]
    exact (slice_of_append rfl (be16_length r.type).symm : slice ([] ++ (_ ++ _)) 0 2 = _)
  have hn : slice (r.encode ++ rest) 2 2 = be16 (UInt16.ofNat r.value.length) := by
    rw [Record.encode, List.append_assoc, List.append_assoc]
    exact slice_of_append (be16_length r.type).symm (be16_length _).symm
  rw [ht, hn, word16_be16, word16_be16, UInt16.toNat_ofNat_of_lt' r.length_lt]
  exact ⟨rfl, rfl⟩

/-- The front of a byte string is a record exactly when decoding finds that record. -/
theorem decodeOne_eq_some {xs rest : List UInt8} {r : Record} :
    decodeOne xs = some (r, rest) ↔ xs = r.encode ++ rest := by
  constructor
  · intro h
    simp only [decodeOne] at h
    split_ifs at h with hlen
    simp only [Option.some.injEq, Prod.mk.injEq] at h
    obtain ⟨rfl, rfl⟩ := h
    have h2 : (slice xs 2 2).length = 2 := slice_length (by omega)
    have h0 : (slice xs 0 2).length = 2 := slice_length (by omega)
    simp only [Record.encode, List.append_assoc]
    rw [slice_length (by omega), UInt16.ofNat_toNat, be16_word16 h0, be16_word16 h2,
      ← drop_eq_slice_append, ← drop_eq_slice_append, ← drop_eq_slice_append xs 2 2,
      ← drop_eq_slice_append xs 0 2, List.drop_zero]
  · rintro rfl
    obtain ⟨ht, hn⟩ := header_of_encode r rest
    have hv : slice (r.encode ++ rest) 4 r.value.length = r.value := by
      have he : r.encode ++ rest = (be16 r.type ++ be16 (UInt16.ofNat r.value.length)) ++
          (r.value ++ (r.padding ++ rest)) := by
        simp only [Record.encode, List.append_assoc]
      rw [he]
      exact slice_of_append (by simp) rfl
    have hp : slice (r.encode ++ rest) (4 + r.value.length) r.padding.length = r.padding := by
      have he : r.encode ++ rest =
          (be16 r.type ++ be16 (UInt16.ofNat r.value.length) ++ r.value) ++
          (r.padding ++ rest) := by
        simp only [Record.encode, List.append_assoc]
      rw [he]
      exact slice_of_append (by simp only [List.length_append, be16_length]) rfl
    have hsz : 4 + r.value.length + r.padding.length = r.encode.length := r.encode_length.symm
    have hd : (r.encode ++ rest).drop (4 + r.value.length + r.padding.length) = rest := by
      rw [hsz, List.drop_left]
    simp only [decodeOne, ht, hn, ← r.padding_length, hv, hp, hd]
    rw [dif_pos (by rw [hsz, List.length_append]; omega)]

theorem decodeOne_eq_none {xs : List UInt8} :
    decodeOne xs = none ↔ xs.length < 4 + (word16 (slice xs 2 2)).toNat +
      padLen (word16 (slice xs 2 2)).toNat := by
  simp only [decodeOne]
  split_ifs with h
  · simpa only [reduceCtorEq, false_iff, not_lt] using h
  · simpa only [true_iff, not_le] using h

/-! ### Where the values lie -/

/-- Each record with the position of its value, when the first record starts at `base`. -/
def locate : ℕ → List Record → List (ℕ × Record)
  | _, [] => []
  | base, r :: rs => (base + 4, r) :: locate (base + r.size) rs

@[simp] theorem locate_nil (base : ℕ) : locate base [] = [] := rfl

@[simp] theorem locate_cons (base : ℕ) (r : Record) (rs : List Record) :
    locate base (r :: rs) = (base + 4, r) :: locate (base + r.size) rs := rfl

theorem locate_append (base : ℕ) (rs rs' : List Record) :
    locate base (rs ++ rs') = locate base rs ++ locate (base + sizeAll rs) rs' := by
  induction rs generalizing base with
  | nil => rfl
  | cons r rs ih =>
    rw [List.cons_append, locate_cons, ih, locate_cons, sizeAll_cons, List.cons_append,
      Nat.add_assoc]

@[simp] theorem locate_length (base : ℕ) (rs : List Record) :
    (locate base rs).length = rs.length := by
  induction rs generalizing base with
  | nil => rfl
  | cons r rs ih => rw [locate_cons, List.length_cons, ih, List.length_cons]

theorem locate_map_snd (base : ℕ) (rs : List Record) :
    (locate base rs).map Prod.snd = rs := by
  induction rs generalizing base with
  | nil => rfl
  | cons r rs ih => rw [locate_cons, List.map_cons, ih]

/-- A located record splits the sequence into what precedes and what follows it. -/
theorem mem_locate {base : ℕ} {rs : List Record} {p : ℕ × Record} (h : p ∈ locate base rs) :
    ∃ before after, rs = before ++ p.2 :: after ∧ p.1 = base + sizeAll before + 4 := by
  induction rs generalizing base with
  | nil => simp at h
  | cons r rs ih =>
    rcases List.mem_cons.mp h with rfl | h
    · exact ⟨[], rs, rfl, by simp⟩
    · obtain ⟨before, after, rfl, hp⟩ := ih h
      refine ⟨r :: before, after, rfl, ?_⟩
      rw [hp, sizeAll_cons]
      omega

/-- The record at an index and where its value lies. -/
theorem locate_getElem? (base : ℕ) (rs : List Record) (i : ℕ) :
    (locate base rs)[i]? = rs[i]?.map fun a => (base + sizeAll (rs.take i) + 4, a) := by
  induction rs generalizing base i with
  | nil => rfl
  | cons r rs ih =>
    cases i with
    | zero => simp
    | succ i =>
      rw [locate_cons, List.getElem?_cons_succ, ih, List.getElem?_cons_succ, List.take_succ_cons,
        sizeAll_cons, Nat.add_assoc base]

theorem mem_of_mem_locate {base : ℕ} {rs : List Record} {p : ℕ × Record}
    (h : p ∈ locate base rs) : p.2 ∈ rs := by
  rw [← locate_map_snd base rs]
  exact List.mem_map_of_mem h

/-- The last record of a type. -/
def lastOf (t : UInt16) (rs : List Record) : Option Record := rs.reverse.find? fun a => a.type = t

section lastOf

variable {t : UInt16} {rs rs' : List Record} {a : Record}

@[simp] theorem lastOf_append : lastOf t (rs ++ rs') = (lastOf t rs').or (lastOf t rs) := by
  rw [lastOf, List.reverse_append, List.find?_append]
  rfl

@[simp] theorem lastOf_nil : lastOf t [] = none := rfl

theorem lastOf_singleton : lastOf t [a] = if a.type = t then some a else none := by
  by_cases h : a.type = t
  · simp [lastOf, h]
  · simp [lastOf, h]

theorem mem_of_lastOf (h : lastOf t rs = some a) : a ∈ rs :=
  List.mem_reverse.mp (List.mem_of_find?_eq_some h)

theorem lastOf_eq_none : lastOf t rs = none ↔ ∀ a ∈ rs, a.type ≠ t := by
  rw [lastOf, List.find?_eq_none]
  simp

/-- The last record of a type has none of that type behind it. -/
theorem lastOf_eq_some : lastOf t rs = some a ↔
    ∃ before after, rs = before ++ a :: after ∧ a.type = t ∧ ∀ x ∈ after, x.type ≠ t := by
  rw [lastOf, List.find?_eq_some_iff_append]
  constructor
  · rintro ⟨ht, as, bs, he, has⟩
    refine ⟨bs.reverse, as.reverse, ?_, by simpa using ht, ?_⟩
    · rw [← List.reverse_reverse rs, he]
      simp
    · intro x hx
      simpa using has x (List.mem_reverse.mp hx)
  · rintro ⟨before, after, rfl, ht, hafter⟩
    refine ⟨by simpa using ht, after.reverse, before.reverse, by simp, ?_⟩
    intro x hx
    simpa using hafter x (List.mem_reverse.mp hx)

end lastOf

/-- The record at index `i` is the last one of type `t`. -/
def IsLast (t : UInt16) (rs : List Record) (i : ℕ) : Prop :=
  ∃ before a after, rs = before ++ a :: after ∧ before.length = i ∧ a.type = t ∧
    ∀ x ∈ after, x.type ≠ t

/-- Looking for a type from the end finds the last record of it. -/
theorem find_last_eq_some {base : ℕ} {rs : List Record} {t : UInt16} {p : ℕ × Record} :
    ((locate base rs).reverse.find? fun q => q.2.type = t) = some p ↔
      ∃ i, IsLast t rs i ∧ (locate base rs)[i]? = some p := by
  rw [List.find?_eq_some_iff_append]
  constructor
  · rintro ⟨ht, as, bs, he, has⟩
    have he' : locate base rs = bs.reverse ++ p :: as.reverse := by
      rw [← List.reverse_reverse (locate base rs), he]
      simp
    refine ⟨bs.length, ⟨bs.reverse.map Prod.snd, p.2, as.reverse.map Prod.snd, ?_, by simp,
      by simpa using ht, ?_⟩, by simp [he']⟩
    · rw [← locate_map_snd base rs, he', List.map_append, List.map_cons]
    · intro x hx
      obtain ⟨q, hq, rfl⟩ := List.mem_map.mp hx
      simpa using has q (List.mem_reverse.mp hq)
  · rintro ⟨i, ⟨before, a, after, rfl, rfl, rfl, hafter⟩, hp⟩
    rw [locate_append, locate_cons] at hp ⊢
    have hpa : p = (base + sizeAll before + 4, a) := by simpa using hp.symm
    refine ⟨by simp [hpa], (locate (base + sizeAll before + a.size) after).reverse,
      (locate base before).reverse, by simp [hpa], ?_⟩
    intro q hq
    simpa using hafter q.2 (mem_of_mem_locate (List.mem_reverse.mp hq))

theorem find_last_eq_none (base : ℕ) {rs : List Record} {t : UInt16} :
    ((locate base rs).reverse.find? fun q => q.2.type = t) = none ↔ ∀ a ∈ rs, a.type ≠ t := by
  rw [List.find?_eq_none]
  constructor
  · intro h a ha
    rw [← locate_map_snd base rs] at ha
    obtain ⟨q, hq, rfl⟩ := List.mem_map.mp ha
    simpa using h q (List.mem_reverse.mpr hq)
  · intro h q hq
    simpa using h q.2 (mem_of_mem_locate (List.mem_reverse.mp hq))

theorem locate_value_end {base : ℕ} {rs : List Record} {p : ℕ × Record}
    (h : p ∈ locate base rs) :
    base + 4 ≤ p.1 ∧ p.1 + p.2.value.length + p.2.padding.length ≤ base + sizeAll rs := by
  obtain ⟨before, after, rfl, hp⟩ := mem_locate h
  simp only [hp, sizeAll_append, sizeAll_cons, Record.size]
  omega

/-- The value of a located record is found at its position. -/
theorem slice_of_mem_locate {pre post : List UInt8} {rs : List Record} {p : ℕ × Record}
    (h : p ∈ locate pre.length rs) :
    slice (pre ++ (encodeAll rs ++ post)) p.1 p.2.value.length = p.2.value := by
  obtain ⟨before, after, rfl, hp⟩ := mem_locate h
  have he : pre ++ (encodeAll (before ++ p.2 :: after) ++ post) =
      (pre ++ encodeAll before ++ be16 p.2.type ++ be16 (UInt16.ofNat p.2.value.length)) ++
        (p.2.value ++ (p.2.padding ++ (encodeAll after ++ post))) := by
    simp only [encodeAll_append, encodeAll_cons, Record.encode, List.append_assoc]
  rw [he]
  refine slice_of_append ?_ rfl
  simp only [List.length_append, encodeAll_length, be16_length]
  omega

end Tlv

import StunServer.Common.FastHash
import Mathlib.Data.List.Perm.Basic
import Mathlib.Data.List.Nodup
import Mathlib.Data.List.Range

/-! The hash table as a list of live items in insertion order. Every bucket chain is
the reversed list of its own items, so a lookup finds the newest item of its key. -/

namespace StunServer.FastHash

open Chain

variable {K V : Type} [FastHashKey K]

/-- The cells of bucket `b`, newest first; an item is (cell, key, value). -/
def bucket (tsize b : ℕ) (items : List (ℕ × K × V)) : List ℕ :=
  ((items.filter fun p => FastHashKey.hash p.2.1 % tsize = b).map Prod.fst).reverse

/-- The table holds `items`, oldest first, and `free` lists the cells not in use. -/
structure Models (t : FastHash K V) (free : List ℕ) (items : List (ℕ × K × V)) : Prop where
  tsize_pos : 0 < t.tsize
  index_eq : ∀ i < t.fsize, (t.itemnodes i).index = i
  free_chain : IsChain t.next t.freelist free
  bucket_chain : ∀ b < t.tsize, IsChain t.next (t.lookuptable b) (bucket t.tsize b items)
  slots : (free ++ items.map Prod.fst).Perm (List.range t.fsize)
  stored : ∀ p ∈ items, t.nodes p.1 = some ⟨p.2.1, p.2.2⟩
  size_eq : t.size = items.length

/-- The index lists the cells in insertion order, as it does until the first removal. -/
structure Indexed (t : FastHash K V) (items : List (ℕ × K × V)) : Prop where
  valid : t.fIndexValid = true
  start : t.indexStart = 0
  order : ∀ i (h : i < items.length), t.indexlist i = (items[i]).1

theorem mem_bucket {tsize b n : ℕ} {items : List (ℕ × K × V)} (h : n ∈ bucket tsize b items) :
    n ∈ items.map Prod.fst := by
  simp only [bucket, List.mem_reverse, List.mem_map] at h ⊢
  obtain ⟨p, hp, rfl⟩ := h
  exact ⟨p, List.mem_of_mem_filter hp, rfl⟩

theorem bucket_append_self {tsize n : ℕ} {items : List (ℕ × K × V)} {k : K} {v : V} :
    bucket tsize (FastHashKey.hash k % tsize) (items ++ [(n, k, v)]) =
      n :: bucket tsize (FastHashKey.hash k % tsize) items := by
  simp [bucket, List.filter_append]

theorem bucket_append_of_ne {tsize b n : ℕ} {items : List (ℕ × K × V)} {k : K} {v : V}
    (h : FastHashKey.hash k % tsize ≠ b) :
    bucket tsize b (items ++ [(n, k, v)]) = bucket tsize b items := by
  simp [bucket, List.filter_append, h]

namespace Models

variable {t : FastHash K V} {free : List ℕ} {items : List (ℕ × K × V)}

theorem nodup (h : Models t free items) : (free ++ items.map Prod.fst).Nodup :=
  h.slots.nodup_iff.mpr List.nodup_range

theorem length_eq (h : Models t free items) : free.length + items.length = t.fsize := by
  have hl := h.slots.length_eq
  simpa using hl

theorem cell_lt (h : Models t free items) {p : ℕ × K × V} (hp : p ∈ items) : p.1 < t.fsize := by
  have hm : p.1 ∈ List.range t.fsize :=
    h.slots.mem_iff.mp (List.mem_append_right _ (List.mem_map_of_mem hp))
  exact List.mem_range.mp hm

theorem free_lt (h : Models t free items) {i : ℕ} (hi : i ∈ free) : i < t.fsize :=
  List.mem_range.mp (h.slots.mem_iff.mp (List.mem_append_left _ hi))

theorem bucket_length_le (h : Models t free items) (b : ℕ) :
    (bucket t.tsize b items).length ≤ t.fsize := by
  have hf := List.length_filter_le (fun p => FastHashKey.hash p.2.1 % t.tsize = b) items
  have hl := h.length_eq
  simp only [bucket, List.length_reverse, List.length_map]
  omega

end Models

/-- A reset table is empty and every cell is free. -/
theorem models_reset (t : FastHash K V) (ht : 0 < t.tsize) :
    Models t.reset (List.range t.fsize) [] where
  tsize_pos := ht
  index_eq := fun _ _ => rfl
  free_chain := by
    have hchain : ∀ d i, i + d = t.fsize →
        IsChain t.reset.next (if i < t.fsize then some i else none) (List.range' i d) := by
      intro d
      induction d with
      | zero =>
        intro i hi
        simp only [List.range'_zero, Chain.IsChain]
        rw [if_neg (by omega)]
      | succ d ih =>
        intro i hi
        rw [List.range'_succ]
        refine ⟨by rw [if_pos (by omega)], ?_⟩
        exact ih (i + 1) (by omega)
    rw [List.range_eq_range']
    exact hchain t.fsize 0 (by omega)
  bucket_chain := fun _ _ => rfl
  slots := by simp [reset]
  stored := fun _ hp => absurd hp (List.not_mem_nil)
  size_eq := rfl

theorem models_create {fsize tsize : ℕ} (ht : 0 < tsize) :
    Models (create fsize tsize : FastHash K V) (List.range fsize) [] := models_reset _ ht

omit [FastHashKey K] in
theorem indexed_reset (t : FastHash K V) : Indexed t.reset [] :=
  ⟨rfl, rfl, fun _ h => absurd h (Nat.not_lt_zero _)⟩

omit [FastHashKey K] in
theorem indexed_create {fsize tsize : ℕ} : Indexed (create fsize tsize : FastHash K V) [] :=
  indexed_reset _

/-- The arrays keep their lengths. -/
theorem insert_dims (t : FastHash K V) (k : K) (v : V) :
    (t.insert k v).2.fsize = t.fsize ∧ (t.insert k v).2.tsize = t.tsize := by
  unfold insert updateIndexWithAdd
  split
  · exact ⟨rfl, rfl⟩
  · dsimp only
    split_ifs <;> exact ⟨rfl, rfl⟩

/-- A full table refuses the insertion. -/
theorem insert_full {t : FastHash K V} {free : List ℕ} {items : List (ℕ × K × V)}
    (h : Models t free items) (hfull : items.length = t.fsize) (k : K) (v : V) :
    t.insert k v = (-1, t) := by
  have hfree : free = [] := by
    have hl := h.length_eq
    exact List.length_eq_zero_iff.mp (by omega)
  have hnone : t.freelist = none := h.free_chain.head_eq_none.mpr hfree
  rw [insert, hnone]

/-- What an insertion into the free cell `n` leaves behind, field by field. -/
def inserted (t : FastHash K V) (n : ℕ) (k : K) (v : V) : FastHash K V :=
  { t with
    freelist := t.next n
    nodes := Function.update t.nodes (t.itemnodes n).index (some ⟨k, v⟩)
    itemnodes := Function.update t.itemnodes n
      ⟨(t.itemnodes n).index, t.lookuptable (t.hashindex k)⟩
    lookuptable := Function.update t.lookuptable (t.hashindex k) (some n)
    indexlist :=
      if t.fIndexValid ∧ t.size < t.fsize then
        Function.update t.indexlist ((t.size + t.indexStart) % t.fsize) (t.itemnodes n).index
      else t.indexlist
    size := t.size + 1 }

theorem insert_eq {t : FastHash K V} {n : ℕ} (hfree : t.freelist = some n) (k : K) (v : V) :
    t.insert k v = (1, t.inserted n k v) := by
  rw [insert, hfree]
  simp only [updateIndexWithAdd, setNext, hashindex, Function.update_self, inserted]
  split_ifs <;> rfl

theorem next_inserted (t : FastHash K V) (n : ℕ) (k : K) (v : V) :
    (t.inserted n k v).next = Function.update t.next n (t.lookuptable (t.hashindex k)) := by
  funext i
  by_cases hi : i = n
  · subst hi
    simp [next, inserted]
  · simp [next, inserted, hi]

section

variable {t : FastHash K V} {n : ℕ} {free : List ℕ} {items : List (ℕ × K × V)}

/-- The cell is the head of its bucket now. -/
theorem chain_inserted (h : Models t (n :: free) items) (hnew : n ∉ items.map Prod.fst) (k : K)
    (v : V) {b : ℕ} (hb : b < t.tsize) :
    IsChain (t.inserted n k v).next ((t.inserted n k v).lookuptable b)
      (bucket t.tsize b (items ++ [(n, k, v)])) := by
  rw [next_inserted]
  change IsChain _ (Function.update t.lookuptable (t.hashindex k) (some n) b) _
  by_cases hbk : t.hashindex k = b
  · subst hbk
    rw [Function.update_self, hashindex, bucket_append_self]
    exact (h.bucket_chain _ hb).push fun hm => hnew (mem_bucket hm)
  · rw [Function.update_of_ne (Ne.symm hbk), bucket_append_of_ne hbk]
    exact (h.bucket_chain b hb).frame fun i hi =>
      Function.update_of_ne (by rintro rfl; exact hnew (mem_bucket hi)) _ _

theorem models_inserted (h : Models t (n :: free) items) (k : K) (v : V) :
    Models (t.inserted n k v) free (items ++ [(n, k, v)]) := by
  have hidx : (t.itemnodes n).index = n := h.index_eq n (h.free_lt (by simp))
  have hnd := h.nodup
  simp only [List.cons_append, List.nodup_cons, List.mem_append, not_or] at hnd
  obtain ⟨⟨hnf, hni⟩, -⟩ := hnd
  refine ⟨h.tsize_pos, ?_, ?_, fun b hb => chain_inserted h hni k v hb, ?_, ?_, ?_⟩
  · intro i hi
    by_cases hin : i = n
    · subst hin
      simpa [inserted] using hidx
    · simpa [inserted, hin] using h.index_eq i hi
  · refine h.free_chain.2.frame fun i hi => ?_
    rw [next_inserted, Function.update_of_ne (by rintro rfl; exact hnf hi)]
  · refine List.Perm.trans ?_ h.slots
    simp only [List.map_append, List.map_cons, List.map_nil, List.cons_append]
    rw [← List.append_assoc]
    exact List.perm_append_singleton n _
  · intro p hp
    rcases List.mem_append.mp hp with hold | hnew
    · have hpn : p.1 ≠ n := by
        rintro rfl
        exact hni (List.mem_map_of_mem hold)
      simpa [inserted, hidx, hpn] using h.stored p hold
    · obtain rfl := List.mem_singleton.mp hnew
      simp [inserted, hidx]
  · simp [inserted, h.size_eq]

/-- The new cell is the last of the index. -/
theorem indexed_inserted (h : Models t (n :: free) items) (hx : Indexed t items) (k : K) (v : V) :
    Indexed (t.inserted n k v) (items ++ [(n, k, v)]) := by
  have hidx : (t.itemnodes n).index = n := h.index_eq n (h.free_lt (by simp))
  have hsize : t.size < t.fsize := by
    have hl := h.length_eq
    rw [h.size_eq]
    simp only [List.length_cons] at hl
    omega
  have hpos : (t.size + t.indexStart) % t.fsize = items.length := by
    rw [hx.start, Nat.add_zero, Nat.mod_eq_of_lt hsize, h.size_eq]
  refine ⟨hx.valid, hx.start, ?_⟩
  intro i hi
  simp only [inserted, hx.valid, hsize, and_self, if_true, hpos, hidx]
  by_cases hil : i = items.length
  · subst hil
    simp
  · have hlt : i < items.length := by
      simp only [List.length_append, List.length_singleton] at hi
      omega
    rw [Function.update_of_ne hil, List.getElem_append_left hlt]
    exact hx.order i hlt

/-- An insertion takes the first free cell and makes its item the newest. -/
theorem insert_free (h : Models t (n :: free) items) (k : K) (v : V) :
    ∃ t', t.insert k v = (1, t') ∧ Models t' free (items ++ [(n, k, v)]) ∧
      t'.fsize = t.fsize ∧ t'.tsize = t.tsize ∧
      (Indexed t items → Indexed t' (items ++ [(n, k, v)])) :=
  ⟨t.inserted n k v, insert_eq h.free_chain.1 k v, models_inserted h k v, rfl, rfl,
    fun hx => indexed_inserted h hx k v⟩

end

/-! ### Lookups -/

theorem keyAt_of_mem [DecidableEq K] {t : FastHash K V} {free : List ℕ}
    {items : List (ℕ × K × V)} (h : Models t free items) {p : ℕ × K × V} (hp : p ∈ items)
    (k : K) : t.keyAt k p.1 = decide (p.2.1 = k) := by
  rw [keyAt, h.index_eq p.1 (h.cell_lt hp), h.stored p hp]

/-- Searching the newest-first cells of a bucket is searching all items, newest first. -/
theorem find?_bucket [DecidableEq K] {t : FastHash K V} {free : List ℕ}
    {items : List (ℕ × K × V)} (h : Models t free items) (k : K) :
    (bucket t.tsize (t.hashindex k) items).find? (t.keyAt k) =
      (items.reverse.find? fun p => p.2.1 = k).map Prod.fst := by
  have hgen : ∀ l : List (ℕ × K × V), (∀ p ∈ l, p ∈ items) →
      ((l.filter fun p => FastHashKey.hash p.2.1 % t.tsize = t.hashindex k).map Prod.fst).find?
        (t.keyAt k) = (l.find? fun p => p.2.1 = k).map Prod.fst := by
    intro l hl
    induction l with
    | nil => rfl
    | cons p l ih =>
      have ih' := ih fun q hq => hl q (by simp [hq])
      have hkey := keyAt_of_mem h (hl p (by simp)) k
      rw [List.filter_cons, List.find?_cons]
      by_cases hpk : p.2.1 = k
      · have hb : FastHashKey.hash p.2.1 % t.tsize = t.hashindex k := by rw [hpk, hashindex]
        rw [if_pos (by simpa using hb), List.map_cons, List.find?_cons, hkey]
        simp [hpk]
      · by_cases hb : FastHashKey.hash p.2.1 % t.tsize = t.hashindex k
        · rw [if_pos (by simpa using hb), List.map_cons, List.find?_cons, hkey]
          simpa [hpk] using ih'
        · rw [if_neg (by simpa using hb)]
          simpa [hpk] using ih'
  rw [bucket, ← List.map_reverse, ← List.filter_reverse]
  exact hgen items.reverse fun p hp => List.mem_reverse.mp hp

/-- A lookup returns the newest value of the key. -/
theorem lookup_eq [DecidableEq K] {t : FastHash K V} {free : List ℕ}
    {items : List (ℕ × K × V)} (h : Models t free items) (k : K) :
    t.lookup k = (items.reverse.find? fun p => p.2.1 = k).map fun p => p.2.2 := by
  have hchain := h.bucket_chain (t.hashindex k) (Nat.mod_lt _ h.tsize_pos)
  have hfuel := h.bucket_length_le (t.hashindex k)
  rw [lookup, find, search_snd hchain _ (by omega), find?_bucket h]
  cases hf : items.reverse.find? fun p => p.2.1 = k with
  | none => rfl
  | some p =>
    have hp : p ∈ items := List.mem_reverse.mp (List.mem_of_find?_eq_some hf)
    simp [h.index_eq p.1 (h.cell_lt hp), h.stored p hp]

/-- Access by position follows the insertion order and rebuilds no index. -/
theorem lookupValueByIndex_eq {t : FastHash K V} {free : List ℕ} {items : List (ℕ × K × V)}
    (h : Models t free items) (hx : Indexed t items) (i : ℕ) :
    t.lookupValueByIndex i = ((items[i]?).map fun p => p.2.2, t) := by
  rw [lookupValueByIndex, lookupByIndex, h.size_eq]
  by_cases hi : i < items.length
  · have hfs : i < t.fsize := by
      have hl := h.length_eq
      omega
    have hmem : items[i] ∈ items := List.getElem_mem hi
    rw [if_neg (by omega)]
    simp [hi, hx.valid, hx.start, Nat.mod_eq_of_lt hfs, hx.order i hi, h.stored _ hmem]
  · rw [if_pos (by omega), List.getElem?_eq_none (by omega)]
    rfl

end StunServer.FastHash

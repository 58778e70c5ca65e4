import StunServer.Proofs.FastHashRemove
import Mathlib.Data.Nat.ModEq

/-! The index of the hash table: as long as it is valid it lists the cells in use, in some
order, in a ring that starts at `_indexStart`. -/

namespace StunServer.FastHash

open Chain

variable {K V : Type}

/-- The ring from `_indexStart` on holds the cells of `order`. -/
structure Ring (t : FastHash K V) (order : List ℕ) : Prop where
  start : t.indexStart < t.fsize
  cell : ∀ i (h : i < order.length), t.indexlist ((t.indexStart + i) % t.fsize) = order[i]

/-- A valid index has every cell in use once. -/
def IndexOk (t : FastHash K V) (items : List (ℕ × K × V)) : Prop :=
  0 < t.fsize → t.indexStart < t.fsize ∧
    (t.fIndexValid = true → ∃ order, Ring t order ∧ order.Perm (items.map Prod.fst))

theorem indexOk_reset (t : FastHash K V) : IndexOk t.reset [] := by
  intro hpos
  exact ⟨hpos, fun _ => ⟨[], ⟨hpos, fun _ h => absurd h (Nat.not_lt_zero _)⟩, List.Perm.refl _⟩⟩

section

variable {t t' : FastHash K V} {order : List ℕ} {n : ℕ}

theorem ring_mod_ne {fsize start i j : ℕ} (hi : i < fsize) (hj : j < fsize) (h : i ≠ j) :
    (start + i) % fsize ≠ (start + j) % fsize := by
  intro he
  have hmod : i % fsize = j % fsize := Nat.ModEq.add_left_cancel' start he
  rw [Nat.mod_eq_of_lt hi, Nat.mod_eq_of_lt hj] at hmod
  exact h hmod

/-- A new cell goes behind the last one. -/
theorem Ring.push (h : Ring t order) (hlen : order.length < t.fsize) (hstart : t'.indexStart = t.indexStart)
    (hfsize : t'.fsize = t.fsize) (hlist : t'.indexlist =
      Function.update t.indexlist ((order.length + t.indexStart) % t.fsize) n) :
    Ring t' (order ++ [n]) := by
  refine ⟨by rw [hstart, hfsize]; exact h.start, ?_⟩
  intro i hi
  rw [hstart, hfsize, hlist, Nat.add_comm order.length]
  by_cases hil : i = order.length
  · subst hil
    simp
  · have hlt : i < order.length := by
      simp only [List.length_append, List.length_singleton] at hi
      omega
    rw [Function.update_of_ne (ring_mod_ne (by omega) hlen hil), List.getElem_append_left hlt]
    exact h.cell i hlt

/-- The first cell goes when the ring starts behind it. -/
theorem Ring.tail (h : Ring t (n :: order)) (hstart : t'.indexStart = (t.indexStart + 1) % t.fsize)
    (hfsize : t'.fsize = t.fsize) (hlist : t'.indexlist = t.indexlist) : Ring t' order := by
  have hpos : 0 < t.fsize := Nat.zero_lt_of_lt h.start
  refine ⟨by rw [hstart, hfsize]; exact Nat.mod_lt _ hpos, ?_⟩
  intro i hi
  have hcell := h.cell (i + 1) (by simpa using hi)
  rw [List.getElem_cons_succ] at hcell
  rw [hstart, hfsize, hlist, Nat.mod_add_mod, Nat.add_assoc, Nat.add_comm 1 i]
  exact hcell

theorem Ring.head_eq (h : Ring t (n :: order)) : n = t.indexlist t.indexStart := by
  have hcell := h.cell 0 (by simp)
  rw [Nat.add_zero, Nat.mod_eq_of_lt h.start] at hcell
  exact hcell.symm

theorem Ring.last_eq (h : Ring t (order ++ [n])) :
    n = t.indexlist ((t.indexStart + order.length) % t.fsize) := by
  have hcell := h.cell order.length (by simp)
  rw [List.getElem_append_right (Nat.le_refl _)] at hcell
  simp only [Nat.sub_self, List.getElem_cons_zero] at hcell
  exact hcell.symm

theorem Ring.init (h : Ring t (order ++ [n])) (hstart : t'.indexStart = t.indexStart)
    (hfsize : t'.fsize = t.fsize) (hlist : t'.indexlist = t.indexlist) : Ring t' order := by
  refine ⟨by rw [hstart, hfsize]; exact h.start, ?_⟩
  intro i hi
  rw [hstart, hfsize, hlist]
  rw [h.cell i (by rw [List.length_append]; omega), List.getElem_append_left hi]

end

/-- What `UpdateIndexWithRemove` does with a valid index. -/
theorem IndexOk.remove {t t' : FastHash K V} {items : List (ℕ × K × V)} {n b : ℕ}
    {prev : Option ℕ} (h : IndexOk t items) (hsize : t.size = items.length)
    (hnd : (items.map Prod.fst).Nodup) (hn : n ∈ items.map Prod.fst)
    (hindex : (t.itemnodes n).index = n) (hu : Unlinked t b prev n t') :
    IndexOk t' (dropCell items n) := by
  intro hpos
  rw [hu.fsize] at hpos
  obtain ⟨hstart, hvalid⟩ := h hpos
  have hperm := dropCell_perm hnd hn
  have hlen := hperm.length_eq
  simp only [List.length_map, List.length_cons] at hlen
  have hstart' := hu.indexStart
  have hvalid' := hu.fIndexValid
  unfold updateIndexWithRemove at hstart' hvalid'
  dsimp only at hstart' hvalid'
  rw [hindex] at hstart' hvalid'
  by_cases hinvalid : t.size = 0 ∨ (1 < t.size ∧ t.fIndexValid = false)
  · rw [if_pos hinvalid] at hstart' hvalid'
    rw [hstart', hu.fsize]
    refine ⟨hstart, fun hv => ?_⟩
    rw [hvalid'] at hv
    rcases hinvalid with hz | ⟨-, hf⟩
    · omega
    · exact absurd (hv.symm.trans hf) (by decide)
  rw [if_neg hinvalid] at hstart' hvalid'
  by_cases hone : t.size = 1
  · rw [if_pos hone] at hstart' hvalid'
    have hnil : dropCell items n = [] := List.length_eq_zero_iff.mp (by omega)
    rw [hstart', hu.fsize, hnil]
    refine ⟨hpos, fun _ => ⟨[], ⟨by rw [hstart', hu.fsize]; exact hpos,
      fun _ hlt => absurd hlt (Nat.not_lt_zero _)⟩, List.Perm.refl _⟩⟩
  rw [if_neg hone] at hstart' hvalid'
  have htrue : t.fIndexValid = true := by
    cases hf : t.fIndexValid with
    | true => rfl
    | false => exact absurd (Or.inr ⟨by omega, hf⟩) hinvalid
  obtain ⟨order, hring, horder⟩ := hvalid htrue
  have hndorder : order.Nodup := horder.nodup_iff.mpr hnd
  have horderlen : order.length = t.size := by
    rw [horder.length_eq, List.length_map, hsize]
  by_cases hfirst : n = t.indexlist t.indexStart
  · -- the first cell of the ring
    rw [if_pos hfirst] at hstart' hvalid'
    rw [hstart', hu.fsize]
    refine ⟨Nat.mod_lt _ hpos, fun _ => ?_⟩
    cases order with
    | nil =>
      simp only [List.length_nil] at horderlen
      omega
    | cons m order =>
      obtain rfl : m = n := hring.head_eq.trans hfirst.symm
      exact ⟨order, hring.tail hstart' hu.fsize hu.indexlist,
        (horder.trans hperm).cons_inv⟩
  rw [if_neg hfirst] at hstart' hvalid'
  by_cases hlast : n = t.indexlist ((t.indexStart + (t.size - 1)) % t.fsize)
  · -- the last cell of the ring
    rw [if_pos hlast] at hstart' hvalid'
    rw [hstart', hu.fsize]
    refine ⟨hstart, fun _ => ?_⟩
    rcases List.eq_nil_or_concat order with rfl | ⟨order, m, rfl⟩
    · simp only [List.length_nil] at horderlen
      omega
    · rw [List.concat_eq_append] at *
      simp only [List.length_append, List.length_singleton] at horderlen
      obtain rfl : m = n := by
        rw [hring.last_eq, hlast, ← horderlen, Nat.add_sub_cancel]
      exact ⟨order, hring.init hstart' hu.fsize hu.indexlist,
        (List.perm_append_singleton m order).symm.trans (horder.trans hperm) |>.cons_inv⟩
  · rw [if_neg hlast] at hstart' hvalid'
    rw [hstart', hu.fsize]
    refine ⟨hstart, fun hv => ?_⟩
    rw [hvalid'] at hv
    cases hv

variable [FastHashKey K]

theorem IndexOk.insert {t : FastHash K V} {items : List (ℕ × K × V)} {n : ℕ}
    (h : IndexOk t items) (hfree : t.freelist = some n) (hsize : t.size = items.length)
    (hroom : t.size < t.fsize) (hindex : (t.itemnodes n).index = n) (k : K) (v : V) :
    IndexOk (t.insert k v).2 (items ++ [(n, k, v)]) := by
  rw [insert_eq hfree k v]
  intro hpos
  obtain ⟨hstart, hvalid⟩ := h hpos
  refine ⟨hstart, fun hv => ?_⟩
  obtain ⟨order, hring, horder⟩ := hvalid hv
  have hlen : order.length = t.size := by rw [horder.length_eq, List.length_map, hsize]
  refine ⟨order ++ [n], hring.push (by omega) rfl rfl ?_, ?_⟩
  · change (if t.fIndexValid ∧ t.size < t.fsize then _ else _) = _
    rw [if_pos ⟨hv, hroom⟩, hindex, hlen]
  · rw [List.map_append]
    exact horder.append_right _

/-! ### Rebuilding the index -/

omit [FastHashKey K] in
theorem collect_eq {t : FastHash K V} {head : Option ℕ} {l : List ℕ} (h : IsChain t.next head l)
    (hindex : ∀ i ∈ l, (t.itemnodes i).index = i) (fuel : ℕ) (hf : l.length < fuel) :
    t.collect fuel head = l := by
  induction l generalizing head fuel with
  | nil =>
    obtain rfl : head = none := h
    cases fuel with
    | zero => simp at hf
    | succ fuel => rfl
  | cons i l ih =>
    obtain ⟨rfl, ht⟩ := h
    cases fuel with
    | zero => simp at hf
    | succ fuel =>
      rw [collect, hindex i (by simp),
        ih ht (fun j hj => hindex j (by simp [hj])) fuel (by simpa using hf)]

variable {t : FastHash K V} {free : List ℕ} {items : List (ℕ × K × V)}

/-- The buckets hold every cell in use once. -/
theorem Models.buckets_perm (h : Models t free items) :
    ((List.range t.tsize).flatMap fun b => t.collect (t.fsize + 1) (t.lookuptable b)).Perm
      (items.map Prod.fst) := by
  have hcollect : ∀ b ∈ List.range t.tsize,
      t.collect (t.fsize + 1) (t.lookuptable b) = bucket t.tsize b items := by
    intro b hb
    have hle := h.bucket_length_le b
    refine collect_eq (h.bucket_chain b (List.mem_range.mp hb)) (fun i hi => ?_) _ (by omega)
    obtain ⟨p, hp, rfl⟩ := List.mem_map.mp (mem_bucket hi)
    exact h.index_eq _ (h.cell_lt hp)
  have hnd := (List.nodup_append.mp h.nodup).2.1
  rw [List.flatMap_congr hcollect]
  apply (List.perm_ext_iff_of_nodup _ hnd).mpr
  · intro i
    simp only [List.mem_flatMap, List.mem_range]
    constructor
    · rintro ⟨b, -, hi⟩
      exact mem_bucket hi
    · intro hi
      obtain ⟨p, hp, rfl⟩ := List.mem_map.mp hi
      refine ⟨FastHashKey.hash p.2.1 % t.tsize, Nat.mod_lt _ h.tsize_pos, ?_⟩
      simp only [bucket, List.mem_reverse, List.mem_map, List.mem_filter, decide_eq_true_eq]
      exact ⟨p, ⟨hp, rfl⟩, rfl⟩
  · refine List.nodup_flatMap.mpr ⟨fun b _ => h.bucket_nodup b, ?_⟩
    refine List.Pairwise.imp ?_ List.nodup_range
    intro b b' hne i hi hi'
    exact hne (h.bucket_disjoint hi hi')

/-- The index is the only thing that a new index changes. -/
theorem models_reIndex (h : Models t free items) : Models t.reIndex free items := by
  unfold reIndex
  split_ifs
  · exact h
  · exact ⟨h.tsize_pos, h.index_eq, h.free_chain, h.bucket_chain, h.slots, h.stored, h.size_eq⟩

theorem ring_reIndex (h : Models t free items) (hne : items ≠ []) :
    t.reIndex.fIndexValid = true ∧
      ∃ order, Ring t.reIndex order ∧ order.Perm (items.map Prod.fst) := by
  have hlen := h.length_eq
  have hsize : t.size ≠ 0 := by
    rw [h.size_eq]
    exact fun hz => hne (List.length_eq_zero_iff.mp hz)
  have hpos : 0 < t.fsize := by
    rw [h.size_eq] at hsize
    omega
  have hperm := h.buckets_perm
  rw [reIndex, if_neg hsize]
  refine ⟨rfl, _, ⟨hpos, fun i hi => ?_⟩, hperm⟩
  have hi' : i < t.fsize := by
    have hl := hperm.length_eq
    rw [List.length_map] at hl
    omega
  change List.getD _ ((0 + i) % t.fsize) _ = _
  rw [Nat.zero_add, Nat.mod_eq_of_lt hi', List.getD_eq_getElem?_getD, List.getElem?_eq_getElem hi]
  rfl

/-- Below the size every position of the index leads to an item. -/
theorem lookupByIndex_of_lt (h : Models t free items) (hx : IndexOk t items) {i : ℕ}
    (hi : i < t.size) :
    ∃ p ∈ items, ∃ t', t.lookupByIndex i = (some ⟨p.2.1, p.2.2⟩, t') ∧
      Models t' free items ∧ IndexOk t' items ∧ t'.fsize = t.fsize := by
  have hne : items ≠ [] := by
    rintro rfl
    rw [h.size_eq] at hi
    exact absurd hi (Nat.not_lt_zero _)
  have hlen := h.length_eq
  have hpos : 0 < t.fsize := by
    rw [h.size_eq] at hi
    omega
  -- the index that is looked at, rebuilt or not
  obtain ⟨t', ht', hmodels, hvalid, order, hring, horder, hfsize⟩ : ∃ t' : FastHash K V,
      (if t.fIndexValid then t else t.reIndex) = t' ∧ Models t' free items ∧
        t'.fIndexValid = true ∧ ∃ order, Ring t' order ∧ order.Perm (items.map Prod.fst) ∧
          t'.fsize = t.fsize := by
    by_cases hv : t.fIndexValid = true
    · obtain ⟨order, hring, horder⟩ := (hx hpos).2 hv
      exact ⟨t, if_pos hv, h, hv, order, hring, horder, rfl⟩
    · obtain ⟨hv', order, hring, horder⟩ := ring_reIndex h hne
      refine ⟨t.reIndex, if_neg hv, models_reIndex h, hv', order, hring, horder, ?_⟩
      unfold reIndex
      split_ifs <;> rfl
  have hio : i < order.length := by
    rw [horder.length_eq, List.length_map, ← h.size_eq]
    exact hi
  obtain ⟨p, hp, hcell⟩ : ∃ p ∈ items, p.1 = order[i] :=
    List.mem_map.mp (horder.mem_iff.mp (List.getElem_mem hio))
  refine ⟨p, hp, t', ?_, hmodels, fun _ => ⟨hring.start, fun _ => ⟨order, hring, horder⟩⟩, hfsize⟩
  rw [lookupByIndex, if_neg (Nat.not_le.mpr hi)]
  dsimp only
  rw [ht', if_pos hvalid, hring.cell i hio, ← hcell, hmodels.stored p hp]

end StunServer.FastHash

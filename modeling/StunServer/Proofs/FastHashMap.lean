import StunServer.Proofs.FastHashIndex
import Mathlib.Data.Finset.Card

/-! The hash table as a map, for the users that never insert a key they find in the table. -/

namespace StunServer.FastHash

open Chain

variable {K V : Type} [FastHashKey K]

/-- The table holds exactly the pairs of `m`, one for each key. -/
structure IsMap (t : FastHash K V) (m : K → Option V) : Prop where
  holds : ∃ free items, Models t free items ∧ IndexOk t items ∧
    (items.map fun p => p.2.1).Nodup ∧ ∀ k v, m k = some v ↔ ∃ n, (n, k, v) ∈ items

theorem isMap_reset (t : FastHash K V) (ht : 0 < t.tsize) : IsMap t.reset fun _ => none :=
  ⟨List.range t.fsize, [], models_reset t ht, indexOk_reset t, List.nodup_nil, by simp⟩

theorem findPrimeFrom_pos (fuel : ℕ) {result : ℕ} (h : 0 < result) :
    0 < findPrimeFrom fuel result := by
  induction fuel generalizing result with
  | zero => exact h
  | succ fuel ih =>
    rw [findPrimeFrom]
    split_ifs
    · exact h
    · exact ih (by omega)

theorem isMap_initTable (fsize tsize : ℕ) :
    IsMap (initTable fsize tsize : FastHash K V) fun _ => none := by
  apply isMap_reset
  change 0 < if tsize = 0 then FastHash_GetHashTableWidth fsize else tsize
  split_ifs with h
  · rw [FastHash_GetHashTableWidth, findPrime]
    split_ifs
    · decide
    · decide
    · exact findPrimeFrom_pos _ (by omega)
    · exact findPrimeFrom_pos _ (by omega)
  · omega

/-! ### One value changes -/

section SetValue

variable {n : ℕ} {w : V}

/-- The item of cell `n` takes the value `w`. -/
def setValue (n : ℕ) (w : V) (p : ℕ × K × V) : ℕ × K × V :=
  if p.1 = n then (p.1, p.2.1, w) else p

omit [FastHashKey K] in
@[simp] theorem setValue_fst (p : ℕ × K × V) : (setValue n w p).1 = p.1 := by
  rw [setValue]
  split_ifs <;> rfl

omit [FastHashKey K] in
@[simp] theorem setValue_key (p : ℕ × K × V) : (setValue n w p).2.1 = p.2.1 := by
  rw [setValue]
  split_ifs <;> rfl

omit [FastHashKey K] in
theorem map_setValue_fst (items : List (ℕ × K × V)) :
    (items.map (setValue n w)).map Prod.fst = items.map Prod.fst := by
  rw [List.map_map]
  exact List.map_congr_left fun p _ => setValue_fst p

omit [FastHashKey K] in
theorem map_setValue_key (items : List (ℕ × K × V)) :
    ((items.map (setValue n w)).map fun p => p.2.1) = items.map fun p => p.2.1 := by
  rw [List.map_map]
  exact List.map_congr_left fun p _ => setValue_key p

theorem bucket_setValue (tsize b : ℕ) (items : List (ℕ × K × V)) :
    bucket tsize b (items.map (setValue n w)) = bucket tsize b items := by
  have hkeys : (fun p => decide (FastHashKey.hash p.2.1 % tsize = b)) ∘ setValue n w =
      fun p : ℕ × K × V => decide (FastHashKey.hash p.2.1 % tsize = b) := by
    funext p
    simp
  rw [bucket, bucket, List.filter_map, hkeys, List.map_map]
  congr 1
  exact List.map_congr_left fun p _ => setValue_fst p

omit [FastHashKey K] in
theorem exists_mem_setValue [DecidableEq K] {items : List (ℕ × K × V)} {k : K} {v : V}
    (hnd : (items.map Prod.fst).Nodup) (hkeys : (items.map fun p => p.2.1).Nodup)
    (hp : (n, k, v) ∈ items) (k' : K) (v' : V) :
    (∃ i, (i, k', v') ∈ items.map (setValue n w)) ↔
      if k' = k then v' = w else ∃ i, (i, k', v') ∈ items := by
  constructor
  · rintro ⟨i, hi⟩
    obtain ⟨q, hq, hqe⟩ := List.mem_map.mp hi
    by_cases hqn : q.1 = n
    · obtain rfl := List.inj_on_of_nodup_map hnd hq hp hqn
      simp only [setValue, if_pos, Prod.mk.injEq] at hqe
      obtain ⟨-, rfl, rfl⟩ := hqe
      rw [if_pos rfl]
    · rw [setValue, if_neg hqn] at hqe
      subst hqe
      split_ifs with he
      · subst he
        have hsame := List.inj_on_of_nodup_map hkeys hq hp rfl
        exact absurd (congrArg Prod.fst hsame) hqn
      · exact ⟨i, hq⟩
  · split_ifs with he
    · rintro rfl
      subst he
      exact ⟨n, List.mem_map.mpr ⟨_, hp, by rw [setValue, if_pos rfl]⟩⟩
    · rintro ⟨i, hi⟩
      refine ⟨i, List.mem_map.mpr ⟨_, hi, ?_⟩⟩
      rw [setValue, if_neg]
      intro hin
      have hsame := List.inj_on_of_nodup_map hnd hi hp hin
      exact he (congrArg (fun q => q.2.1) hsame)

/-- A write into a cell in use changes the item of that cell. -/
theorem Models.setValue {t : FastHash K V} {free : List ℕ} {items : List (ℕ × K × V)} {k : K}
    {v : V} (h : Models t free items) (hp : (n, k, v) ∈ items) (w : V) :
    Models { t with nodes := Function.update t.nodes n (some ⟨k, w⟩) } free
      (items.map (setValue n w)) := by
  have hndcells := (List.nodup_append.mp h.nodup).2.1
  refine ⟨h.tsize_pos, h.index_eq, h.free_chain, ?_, ?_, ?_, ?_⟩
  · intro b hb
    rw [bucket_setValue]
    exact h.bucket_chain b hb
  · rw [map_setValue_fst]
    exact h.slots
  · intro q' hq'
    obtain ⟨q, hq, rfl⟩ := List.mem_map.mp hq'
    by_cases he : q.1 = n
    · obtain rfl := List.inj_on_of_nodup_map hndcells hq hp he
      simp [FastHash.setValue]
    · simpa [FastHash.setValue, he] using h.stored q hq
  · rw [List.length_map]
    exact h.size_eq

end SetValue

namespace IsMap

variable {t : FastHash K V} {m : K → Option V}

theorem size_le_fsize (h : IsMap t m) : t.size ≤ t.fsize := by
  obtain ⟨free, items, hm, -⟩ := h
  have hlen := hm.length_eq
  rw [hm.size_eq]
  omega

/-- The size counts the keys. -/
theorem size_le_card [DecidableEq K] (h : IsMap t m) {s : Finset K}
    (hs : ∀ k, m k ≠ none → k ∈ s) : t.size ≤ s.card := by
  obtain ⟨free, items, hm, -, hnd, hmem⟩ := h
  have hsub : (items.map fun p => p.2.1).toFinset ⊆ s := by
    intro k hk
    obtain ⟨p, hp, rfl⟩ := List.mem_map.mp (List.mem_toFinset.mp hk)
    have hsome : m p.2.1 = some p.2.2 := (hmem _ _).mpr ⟨p.1, hp⟩
    exact hs _ (by rw [hsome]; simp)
  have hcard := Finset.card_le_card hsub
  rwa [List.toFinset_card_of_nodup hnd, List.length_map, ← hm.size_eq] at hcard

theorem size_eq_card [DecidableEq K] (h : IsMap t m) {s : Finset K}
    (hs : ∀ k, k ∈ s ↔ m k ≠ none) : t.size = s.card := by
  apply le_antisymm (h.size_le_card fun k hk => (hs k).mpr hk)
  obtain ⟨free, items, hm, -, -, hmem⟩ := h
  have hsub : s ⊆ (items.map fun p => p.2.1).toFinset := by
    intro k hk
    obtain ⟨v, hv⟩ := Option.ne_none_iff_exists'.mp ((hs k).mp hk)
    obtain ⟨n, hn⟩ := (hmem k v).mp hv
    exact List.mem_toFinset.mpr (List.mem_map.mpr ⟨_, hn, rfl⟩)
  have hcard := (Finset.card_le_card hsub).trans (List.toFinset_card_le _)
  rwa [List.length_map, ← hm.size_eq] at hcard

theorem size_eq_zero_iff (h : IsMap t m) : t.size = 0 ↔ ∀ k, m k = none := by
  obtain ⟨free, items, hm, -, -, hmem⟩ := h
  rw [hm.size_eq, List.length_eq_zero_iff]
  constructor
  · rintro rfl k
    cases hk : m k with
    | none => rfl
    | some v => simpa using (hmem k v).mp hk
  · intro hnone
    apply List.eq_nil_iff_forall_not_mem.mpr
    intro p hp
    have hsome : m p.2.1 = some p.2.2 := (hmem _ _).mpr ⟨p.1, hp⟩
    rw [hnone] at hsome
    cases hsome

variable [DecidableEq K]

omit [FastHashKey K] in
/-- What a search among the items comes to. -/
theorem find?_eq {items : List (ℕ × K × V)}
    (hmem : ∀ k v, m k = some v ↔ ∃ n, (n, k, v) ∈ items) (k : K) :
    (m k = none ∧ (items.reverse.find? fun p => p.2.1 = k) = none) ∨
      ∃ n v, m k = some v ∧ (n, k, v) ∈ items ∧
        (items.reverse.find? fun p => p.2.1 = k) = some (n, k, v) := by
  cases hf : items.reverse.find? fun p => p.2.1 = k with
  | none =>
    refine Or.inl ⟨?_, rfl⟩
    cases hk : m k with
    | none => rfl
    | some v =>
      obtain ⟨n, hn⟩ := (hmem k v).mp hk
      have hno := List.find?_eq_none.mp hf _ (List.mem_reverse.mpr hn)
      simp at hno
  | some p =>
    obtain ⟨n, k', v⟩ := p
    have hp : (n, k', v) ∈ items := List.mem_reverse.mp (List.mem_of_find?_eq_some hf)
    obtain rfl : k' = k := by simpa using List.find?_some hf
    exact Or.inr ⟨n, v, (hmem _ _).mpr ⟨n, hp⟩, hp, rfl⟩

theorem lookup (h : IsMap t m) (k : K) : t.lookup k = m k := by
  obtain ⟨free, items, hm, -, -, hmem⟩ := h
  rw [lookup_eq hm]
  rcases find?_eq hmem k with ⟨hk, hf⟩ | ⟨n, v, hk, -, hf⟩
  · rw [hf, hk]
    rfl
  · rw [hf, hk]
    rfl

/-- A new key finds its place as long as there is one. -/
theorem insert (h : IsMap t m) {k : K} (hk : m k = none) (hroom : t.size < t.fsize) (v : V) :
    ∃ t', t.insert k v = (1, t') ∧ IsMap t' (Function.update m k (some v)) ∧
      t'.size = t.size + 1 ∧ t'.fsize = t.fsize := by
  obtain ⟨free, items, hm, hx, hnd, hmem⟩ := h
  have hlen := hm.length_eq
  cases free with
  | nil =>
    rw [hm.size_eq] at hroom
    simp only [List.length_nil] at hlen
    omega
  | cons n free =>
    obtain ⟨t', hrun, hm', hfsize, -⟩ := insert_free hm k v
    have hx' := hx.insert hm.free_chain.1 hm.size_eq hroom (hm.index_eq n (hm.free_lt (by simp))) k v
    rw [hrun] at hx'
    refine ⟨t', hrun, ⟨free, _, hm', hx', ?_, ?_⟩, ?_, hfsize⟩
    · rw [List.map_append, List.nodup_append]
      refine ⟨hnd, List.nodup_singleton _, ?_⟩
      intro k' hk' k'' hk''
      obtain rfl : k'' = k := by simpa using hk''
      obtain ⟨p, hp, rfl⟩ := List.mem_map.mp hk'
      intro he
      have hsome : m p.2.1 = some p.2.2 := (hmem _ _).mpr ⟨p.1, hp⟩
      rw [he, hk] at hsome
      cases hsome
    · intro k' v'
      by_cases he : k' = k
      · subst he
        have hno : ∀ n v, (n, k', v) ∉ items := by
          intro n v hp
          have hsome := (hmem k' v).mpr ⟨n, hp⟩
          rw [hk] at hsome
          cases hsome
        simp [hno, eq_comm]
      · rw [Function.update_of_ne he, hmem]
        simp [he]
    · rw [hm'.size_eq, hm.size_eq, List.length_append]
      rfl

omit [DecidableEq K] in
theorem insert_full (h : IsMap t m) (hfull : t.size = t.fsize) (k : K) (v : V) :
    t.insert k v = (-1, t) := by
  obtain ⟨free, items, hm, -⟩ := h
  exact FastHash.insert_full hm (hm.size_eq.symm.trans hfull) k v

theorem remove (h : IsMap t m) {k : K} {v : V} (hk : m k = some v) :
    ∃ t', t.remove k = (1, t') ∧ IsMap t' (Function.update m k none) ∧
      t'.size + 1 = t.size ∧ t'.fsize = t.fsize := by
  obtain ⟨free, items, hm, hx, hnd, hmem⟩ := h
  rcases find?_eq hmem k with ⟨hnone, -⟩ | ⟨n, v', -, hp, hf⟩
  · rw [hnone] at hk
    cases hk
  · obtain ⟨t', prev, hrun, hu, hm'⟩ := remove_some hm hf
    have hndcells := (List.nodup_append.mp hm.nodup).2.1
    have hcell : n ∈ items.map Prod.fst := List.mem_map_of_mem hp
    have hx' := hx.remove hm.size_eq hndcells hcell (hm.index_eq n (hm.cell_lt hp)) hu
    have hlen := (dropCell_perm hndcells hcell).length_eq
    simp only [List.length_map, List.length_cons] at hlen
    refine ⟨t', hrun, ⟨_, _, hm', hx', ?_, ?_⟩, ?_, hu.fsize⟩
    · exact (List.filter_sublist.map _).nodup hnd
    · intro k' w
      simp only [dropCell, List.mem_filter, decide_eq_true_eq]
      by_cases he : k' = k
      · subst he
        rw [Function.update_self]
        constructor
        · intro hnone
          cases hnone
        · rintro ⟨n', hp', hne⟩
          have hsame := List.inj_on_of_nodup_map hnd hp' hp rfl
          exact absurd (congrArg Prod.fst hsame) hne
      · rw [Function.update_of_ne he, hmem]
        constructor
        · rintro ⟨n', hp'⟩
          refine ⟨n', hp', fun hn => he ?_⟩
          have hsame := List.inj_on_of_nodup_map hndcells hp' hp hn
          exact congrArg (fun p => p.2.1) hsame
        · rintro ⟨n', hp', -⟩
          exact ⟨n', hp'⟩
    · rw [hm'.size_eq, hm.size_eq, hlen]

theorem remove_absent (h : IsMap t m) {k : K} (hk : m k = none) : t.remove k = (-1, t) := by
  obtain ⟨free, items, hm, -, -, hmem⟩ := h
  rcases find?_eq hmem k with ⟨-, hf⟩ | ⟨n, v, hsome, -⟩
  · exact remove_none hm hf
  · rw [hk] at hsome
    cases hsome

/-- A value is overwritten in place. -/
theorem store (h : IsMap t m) {k : K} {v : V} (hk : m k = some v) (w : V) :
    IsMap (t.store k w) (Function.update m k (some w)) ∧ (t.store k w).size = t.size ∧
      (t.store k w).fsize = t.fsize := by
  obtain ⟨free, items, hm, hx, hnd, hmem⟩ := h
  rcases find?_eq hmem k with ⟨hnone, -⟩ | ⟨n, v', -, hp, hf⟩
  · rw [hnone] at hk
    cases hk
  · obtain ⟨l₁, l₂, -, hfind⟩ := find_some hm hf
    have hcell : (t.itemnodes n).index = n := hm.index_eq n (hm.cell_lt hp)
    have hrun : t.store k w =
        { t with nodes := Function.update t.nodes n (some ⟨k, w⟩) } := by
      rw [FastHash.store, hfind]
      dsimp only
      rw [hcell]
    have hndcells := (List.nodup_append.mp hm.nodup).2.1
    rw [hrun]
    refine ⟨⟨free, items.map (setValue n w), hm.setValue hp w, ?_, ?_, ?_⟩, rfl, rfl⟩
    · intro hpos
      obtain ⟨hstart, hvalid⟩ := hx hpos
      refine ⟨hstart, fun hv => ?_⟩
      obtain ⟨order, hring, hperm⟩ := hvalid hv
      rw [map_setValue_fst]
      exact ⟨order, ⟨hring.start, hring.cell⟩, hperm⟩
    · rw [map_setValue_key]
      exact hnd
    · intro k' v''
      rw [exists_mem_setValue hndcells hnd hp]
      by_cases he : k' = k
      · subst he
        rw [Function.update_self, Option.some.injEq, if_pos rfl]
        exact eq_comm
      · rw [Function.update_of_ne he, if_neg he]
        exact hmem k' v''

omit [DecidableEq K] in
/-- The first position of the index leads to some pair, if there is one. -/
theorem lookupByIndex_zero (h : IsMap t m) (hne : t.size ≠ 0) :
    ∃ k v t', t.lookupByIndex 0 = (some ⟨k, v⟩, t') ∧ m k = some v ∧ IsMap t' m ∧
      t'.size = t.size ∧ t'.fsize = t.fsize := by
  obtain ⟨free, items, hm, hx, hnd, hmem⟩ := h
  obtain ⟨p, hp, t', hrun, hm', hx', hfsize⟩ := lookupByIndex_of_lt hm hx (Nat.pos_of_ne_zero hne)
  exact ⟨p.2.1, p.2.2, t', hrun, (hmem _ _).mpr ⟨p.1, hp⟩, ⟨free, items, hm', hx', hnd, hmem⟩,
    hm'.size_eq.trans hm.size_eq.symm, hfsize⟩

omit [FastHashKey K] [DecidableEq K] in
theorem lookupByIndex_empty (t : FastHash K V) (hz : t.size = 0) (i : ℕ) :
    t.lookupByIndex i = (none, t) := by
  rw [lookupByIndex, if_pos (by omega)]

end IsMap

end StunServer.FastHash

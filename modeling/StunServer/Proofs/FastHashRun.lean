import StunServer.Proofs.FastHashIndex
import StunServer.Spec.FastHash

/-! Runs of operations on the hash table. What a table holds is told by the list of its live
items, oldest first; the stacks of the keys are built from that list. -/

namespace StunServer.FastHash

variable {K V : Type}

/-- The item as the table stores it. -/
def itemOf (p : K × V) : Item K V := ⟨p.1, p.2⟩

variable [FastHashKey K]

/-- The live items of the table are `live`; while `inOrder` is true its index lists them in the
order of their insertion. -/
def Holds (inOrder : Prop) (t : FastHash K V) (live : List (K × V)) : Prop :=
  ∃ free items, Models t free items ∧ IndexOk t items ∧ (inOrder → Indexed t items) ∧
    items.map Prod.snd = live

theorem holds_reset (t : FastHash K V) (ht : 0 < t.tsize) : Holds True t.reset [] :=
  ⟨_, [], models_reset t ht, indexOk_reset t, fun _ => indexed_reset t, rfl⟩

theorem holds_create (fsize : ℕ) {tsize : ℕ} (ht : 0 < tsize) :
    Holds True (create fsize tsize : FastHash K V) [] := holds_reset _ ht

namespace Holds

variable {p q : Prop} {t : FastHash K V} {live : List (K × V)}

theorem mono (h : Holds p t live) (hq : q → p) : Holds q t live := by
  obtain ⟨free, items, hm, hx, ho, hl⟩ := h
  exact ⟨free, items, hm, hx, fun h => ho (hq h), hl⟩

theorem size_eq (h : Holds p t live) : t.size = live.length := by
  obtain ⟨free, items, hm, -, -, rfl⟩ := h
  rw [hm.size_eq, List.length_map]

theorem tsize_pos (h : Holds p t live) : 0 < t.tsize := by
  obtain ⟨free, items, hm, -⟩ := h
  exact hm.tsize_pos

theorem length_le (h : Holds p t live) : live.length ≤ t.fsize := by
  obtain ⟨free, items, hm, -, -, rfl⟩ := h
  have hlen := hm.length_eq
  rw [List.length_map]
  omega

theorem insert_full (h : Holds p t live) (hfull : t.fsize ≤ live.length) (k : K) (v : V) :
    t.insert k v = (-1, t) := by
  have hle := h.length_le
  obtain ⟨free, items, hm, -, -, rfl⟩ := h
  rw [List.length_map] at hfull hle
  exact FastHash.insert_full hm (by omega) k v

theorem insert (h : Holds p t live) (hroom : live.length < t.fsize) (k : K) (v : V) :
    ∃ t', t.insert k v = (1, t') ∧ Holds p t' (live ++ [(k, v)]) ∧ t'.fsize = t.fsize := by
  obtain ⟨free, items, hm, hx, ho, rfl⟩ := h
  rw [List.length_map] at hroom
  have hlen := hm.length_eq
  cases free with
  | nil =>
    simp only [List.length_nil] at hlen
    omega
  | cons n free =>
    obtain ⟨t', hrun, hm', hfsize, -, hordered⟩ := insert_free hm k v
    have hx' := hx.insert hm.free_chain.1 hm.size_eq (by rw [hm.size_eq]; exact hroom)
      (hm.index_eq n (hm.free_lt (by simp))) k v
    rw [hrun] at hx'
    refine ⟨t', hrun, ⟨free, _, hm', hx', fun h => hordered (ho h), ?_⟩, hfsize⟩
    rw [List.map_append]
    rfl

variable [DecidableEq K]

omit [FastHashKey K] in
/-- A search among the cells is a search among the items. -/
theorem find?_map_snd (items : List (ℕ × K × V)) (k : K) :
    ((items.map Prod.snd).reverse.find? fun p => p.1 = k) =
      (items.reverse.find? fun p => p.2.1 = k).map Prod.snd := by
  rw [← List.map_reverse, List.find?_map]
  rfl

theorem lookup (h : Holds p t live) (k : K) :
    t.lookup k = ((StackMap.ofList live).stack k).head? := by
  obtain ⟨free, items, hm, -, -, rfl⟩ := h
  rw [lookup_eq hm, StackMap.head?_ofList, find?_map_snd, Option.map_map]
  rfl

theorem find_isSome (h : Holds p t live) (k : K) :
    (t.find k).2.isSome = true ↔ (StackMap.ofList live).stack k ≠ [] := by
  rw [ne_eq, ← List.head?_eq_none_iff, StackMap.head?_ofList]
  obtain ⟨free, items, hm, -, -, rfl⟩ := h
  rw [find?_map_snd]
  cases hf : items.reverse.find? fun p => p.2.1 = k with
  | none => simp [find_none hm hf]
  | some p =>
    obtain ⟨l₁, l₂, -, hfind⟩ := find_some hm hf
    simp [hfind]

theorem «exists» (h : Holds p t live) (k : K) :
    t.exists k = decide ((StackMap.ofList live).stack k ≠ []) := by
  rw [FastHash.exists, Bool.eq_iff_iff, decide_eq_true_iff]
  exact h.find_isSome k

theorem remove_absent (h : Holds p t live) {k : K} (hk : (StackMap.ofList live).stack k = []) :
    t.remove k = (-1, t) := by
  have hnone := StackMap.head?_ofList live k
  rw [hk] at hnone
  obtain ⟨free, items, hm, -, -, rfl⟩ := h
  rw [find?_map_snd] at hnone
  exact remove_none hm (Option.map_eq_none_iff.mp (Option.map_eq_none_iff.mp hnone.symm))

omit [FastHashKey K] in
/-- Freeing the newest cell of a key takes the newest item of the key away. -/
theorem map_snd_dropCell {items : List (ℕ × K × V)} (hnd : (items.map Prod.fst).Nodup) {k : K}
    {p : ℕ × K × V} (hp : (items.reverse.find? fun q => q.2.1 = k) = some p) :
    (dropCell items p.1).map Prod.snd = StackMap.dropNewest (items.map Prod.snd) k := by
  obtain ⟨hpk, l₁, l₂, hsplit, hno⟩ := List.find?_eq_some_iff_append.mp hp
  have hnd' : ((l₁ ++ p :: l₂).map Prod.fst).Nodup := by
    rw [← hsplit, List.map_reverse]
    exact List.nodup_reverse.mpr hnd
  rw [List.map_append, List.map_cons, List.nodup_append, List.nodup_cons] at hnd'
  obtain ⟨-, ⟨hn₂, -⟩, hdisj⟩ := hnd'
  have h₁ : l₁.filter (fun q => q.1 ≠ p.1) = l₁ := by
    apply List.filter_eq_self.mpr
    intro q hq
    simpa using hdisj q.1 (List.mem_map_of_mem hq) p.1 (by simp)
  have h₂ : l₂.filter (fun q => q.1 ≠ p.1) = l₂ := by
    apply List.filter_eq_self.mpr
    intro q hq
    simpa using fun he : q.1 = p.1 => hn₂ (he ▸ List.mem_map_of_mem hq)
  have hdrop : (dropCell items p.1).reverse = l₁ ++ l₂ := by
    rw [dropCell, ← List.filter_reverse, hsplit, List.filter_append, h₁,
      List.filter_cons_of_neg (by simp), h₂]
  have herase : ((items.map Prod.snd).reverse.eraseP fun q => q.1 = k) =
      (l₁ ++ l₂).map Prod.snd := by
    rw [← List.map_reverse, hsplit, List.map_append, List.map_cons, List.eraseP_append_right,
      List.eraseP_cons_of_pos, List.map_append]
    · simpa using hpk
    · intro q hq
      obtain ⟨q', hq', rfl⟩ := List.mem_map.mp hq
      simpa using hno q' hq'
  rw [StackMap.dropNewest, herase, ← hdrop, List.map_reverse, List.reverse_reverse]

theorem remove (h : Holds p t live) {k : K} (hk : (StackMap.ofList live).stack k ≠ []) :
    ∃ t', t.remove k = (1, t') ∧ Holds False t' (StackMap.dropNewest live k) ∧
      t'.fsize = t.fsize := by
  have hhead := StackMap.head?_ofList live k
  obtain ⟨free, items, hm, hx, -, rfl⟩ := h
  rw [find?_map_snd] at hhead
  cases hf : items.reverse.find? fun p => p.2.1 = k with
  | none =>
    rw [hf] at hhead
    exact absurd (List.head?_eq_none_iff.mp hhead) hk
  | some p =>
    obtain ⟨t', prev, hrun, hu, hm'⟩ := remove_some hm hf
    have hnd := (List.nodup_append.mp hm.nodup).2.1
    have hp : p ∈ items := List.mem_reverse.mp (List.mem_of_find?_eq_some hf)
    have hx' := hx.remove hm.size_eq hnd (List.mem_map_of_mem hp) (hm.index_eq p.1 (hm.cell_lt hp))
      hu
    exact ⟨t', hrun, ⟨_, _, hm', hx', False.elim, map_snd_dropCell hnd hf⟩, hu.fsize⟩

end Holds

/-! ### Access by position -/

section

variable {t : FastHash K V} {free : List ℕ} {items : List (ℕ × K × V)}

/-- The items that a valid index lists. -/
theorem lookupByIndex_of_ring (h : Models t free items) (hv : t.fIndexValid = true)
    {items' : List (ℕ × K × V)} (hring : Ring t (items'.map Prod.fst)) (hperm : items'.Perm items)
    (i : ℕ) : t.lookupByIndex i = ((items'.map Prod.snd)[i]?.map itemOf, t) := by
  have hsize : t.size = items'.length := by rw [h.size_eq, hperm.length_eq]
  rw [lookupByIndex, hsize, List.getElem?_map, Option.map_map]
  by_cases hi : i < items'.length
  · have hcell := hring.cell i (by rw [List.length_map]; exact hi)
    rw [List.getElem_map] at hcell
    rw [if_neg (by omega), if_pos hv]
    dsimp only
    rw [if_pos hv, hcell, h.stored _ (hperm.mem_iff.mp (List.getElem_mem hi)), List.getElem?_eq_getElem hi]
    rfl
  · rw [if_pos (by omega), List.getElem?_eq_none (by omega)]
    rfl

omit [FastHashKey K] in
/-- The order of the cells is an order of the items. -/
theorem exists_items {order : List ℕ} (h : order.Perm (items.map Prod.fst)) :
    ∃ items' : List (ℕ × K × V), order = items'.map Prod.fst ∧ items'.Perm items := by
  have hcomp := congrFun (congrFun (List.eq_map_comp_perm (Prod.fst : ℕ × K × V → ℕ)) order) items
  exact hcomp.mpr h

omit [FastHashKey K] in
/-- The first lookup that gets to an invalid index builds it anew. -/
theorem lookupByIndex_of_invalid (hv : t.fIndexValid ≠ true) (hv' : t.reIndex.fIndexValid = true)
    (hsize : t.reIndex.size = t.size) (i : ℕ) :
    t.lookupByIndex i = if t.size ≤ i then (none, t) else t.reIndex.lookupByIndex i := by
  rw [FastHash.lookupByIndex, FastHash.lookupByIndex, if_neg hv, if_pos hv', hsize]
  dsimp only
  split_ifs <;> rfl

variable {p : Prop} {live : List (K × V)}

/-- The index lists all live items, in a fixed order that looking at it does not disturb. -/
theorem Holds.lookupByIndex (h : Holds p t live) :
    ∃ order : List (K × V), order.Perm live ∧ (p → order = live) ∧
      ∀ i, ∃ t', t.lookupByIndex i = (order[i]?.map itemOf, t') ∧ t'.fsize = t.fsize ∧
        Holds p t' live ∧ ∀ j, (t'.lookupByIndex j).1 = order[j]?.map itemOf := by
  obtain ⟨free, items, hm, hx, ho, rfl⟩ := h
  by_cases hz : items = []
  · -- nothing to list
    subst hz
    have hnone : ∀ i, t.lookupByIndex i = (none, t) := by
      intro i
      rw [FastHash.lookupByIndex, hm.size_eq, if_pos (by simp)]
    refine ⟨[], List.Perm.refl _, fun _ => rfl, fun i => ⟨t, hnone i, rfl, ?_, ?_⟩⟩
    · exact ⟨free, [], hm, hx, ho, rfl⟩
    · exact fun j => congrArg Prod.fst (hnone j)
  have hpos : 0 < t.fsize := by
    have hlen := hm.length_eq
    have hne := List.length_pos_iff.mpr hz
    omega
  by_cases hv : t.fIndexValid = true
  · -- the index is listed as it is
    by_cases hp : p
    · have hordered := ho hp
      have hring : Ring t (items.map Prod.fst) := by
        refine ⟨(hx hpos).1, fun i hi => ?_⟩
        have hlen := hm.length_eq
        rw [List.length_map] at hi
        rw [hordered.start, Nat.zero_add, Nat.mod_eq_of_lt (by omega), List.getElem_map]
        exact hordered.order i hi
      have hlook := lookupByIndex_of_ring hm hv hring (List.Perm.refl _)
      refine ⟨_, List.Perm.refl _, fun _ => rfl, fun i => ⟨t, hlook i, rfl, ?_, ?_⟩⟩
      · exact ⟨free, items, hm, hx, ho, rfl⟩
      · exact fun j => congrArg Prod.fst (hlook j)
    · obtain ⟨order, hring, hperm⟩ := (hx hpos).2 hv
      obtain ⟨items', rfl, hperm'⟩ := exists_items hperm
      have hlook := lookupByIndex_of_ring hm hv hring hperm'
      refine ⟨_, hperm'.map _, fun h => absurd h hp, fun i => ⟨t, hlook i, rfl, ?_, ?_⟩⟩
      · exact ⟨free, items, hm, hx, ho, rfl⟩
      · exact fun j => congrArg Prod.fst (hlook j)
  · -- the index is built anew by the first lookup that gets to it
    have hp : ¬p := fun hp => hv (ho hp).valid
    obtain ⟨hv', order, hring, hperm⟩ := ring_reIndex hm hz
    obtain ⟨items', rfl, hperm'⟩ := exists_items hperm
    have hm' := models_reIndex hm
    have hlook := lookupByIndex_of_ring hm' hv' hring hperm'
    have hfsize : t.reIndex.fsize = t.fsize := by
      unfold reIndex
      split_ifs <;> rfl
    have hsize : t.reIndex.size = t.size := hm'.size_eq.trans hm.size_eq.symm
    have hfirst := lookupByIndex_of_invalid hv hv' hsize
    have hpast : ∀ i, t.size ≤ i → (items'.map Prod.snd)[i]? = none := by
      intro i hi
      rw [hm.size_eq, ← hperm'.length_eq] at hi
      exact List.getElem?_eq_none (by rwa [List.length_map])
    refine ⟨_, hperm'.map _, fun h => absurd h hp, fun i => ?_⟩
    by_cases hi : t.size ≤ i
    · refine ⟨t, ?_, rfl, ⟨free, items, hm, hx, ho, rfl⟩, fun j => ?_⟩
      · rw [hfirst i, if_pos hi, hpast i hi]
        rfl
      · rw [hfirst j]
        split_ifs with hj
        · rw [hpast j hj]
          rfl
        · exact congrArg Prod.fst (hlook j)
    · refine ⟨t.reIndex, ?_, hfsize, ?_, fun j => congrArg Prod.fst (hlook j)⟩
      · rw [hfirst i, if_neg hi, hlook i]
      · exact ⟨free, items, hm', fun _ => ⟨hring.start, fun _ => ⟨_, hring, hperm⟩⟩,
          fun h => absurd h hp, rfl⟩

end

/-! ### Runs -/

section

variable [DecidableEq K] {p : Prop} {t : FastHash K V} {live : List (K × V)}

/-- The table answers an operation as the stacks of its live items do. -/
theorem Holds.step (h : Holds p t live) (op : Op K V) :
    (t.step op).1 = (stackStep t.fsize (StackMap.ofList live) op).1 ∧
      Holds (p ∧ (IndexOp.onKey op).isRemove = false) (t.step op).2
        (liveStep t.fsize live (.onKey op)) ∧
      (stackStep t.fsize (StackMap.ofList live) op).2 =
        StackMap.ofList (liveStep t.fsize live (.onKey op)) ∧
      (t.step op).2.fsize = t.fsize := by
  cases op with
  | insert k v =>
    simp only [FastHash.step, stackStep, liveStep, StackMap.size_ofList]
    by_cases hroom : live.length < t.fsize
    · obtain ⟨t', hrun, h', hfsize⟩ := h.insert hroom k v
      rw [hrun, if_neg (by omega), if_neg (by omega)]
      exact ⟨rfl, h'.mono And.left, (StackMap.ofList_concat live (k, v)).symm, hfsize⟩
    · rw [h.insert_full (by omega), if_pos (by omega), if_pos (by omega)]
      exact ⟨rfl, h.mono And.left, rfl, rfl⟩
  | remove k =>
    simp only [FastHash.step, stackStep, liveStep, StackMap.ofList_dropNewest]
    by_cases hk : (StackMap.ofList live).stack k = []
    · rw [h.remove_absent hk, if_pos hk]
      refine ⟨rfl, ?_, (StackMap.pop_of_nil hk).symm, rfl⟩
      rw [StackMap.dropNewest_of_nil hk]
      exact h.mono And.left
    · obtain ⟨t', hrun, h', hfsize⟩ := h.remove hk
      rw [hrun, if_neg hk]
      exact ⟨rfl, h'.mono fun hp => Bool.noConfusion hp.2, rfl, hfsize⟩
  | lookup k =>
    refine ⟨?_, h.mono And.left, rfl, rfl⟩
    rw [FastHash.step, h.lookup k]
    rfl
  | «exists» k =>
    refine ⟨?_, h.mono And.left, rfl, rfl⟩
    rw [FastHash.step, h.exists k]
    rfl
  | reset => exact ⟨rfl, (holds_reset t h.tsize_pos).mono fun _ => trivial, rfl, rfl⟩

theorem Holds.indexStep (h : Holds p t live) (op : IndexOp K V) :
    Holds (p ∧ op.isRemove = false) (t.indexStep op).2 (liveStep t.fsize live op) ∧
      (t.indexStep op).2.fsize = t.fsize := by
  cases op with
  | onKey op =>
    obtain ⟨-, h', -, hfsize⟩ := h.step op
    exact ⟨h', hfsize⟩
  | lookupByIndex i =>
    obtain ⟨order, -, -, hlook⟩ := h.lookupByIndex
    obtain ⟨t', hrun, hfsize, h', -⟩ := hlook i
    rw [FastHash.indexStep, hrun]
    exact ⟨h'.mono And.left, hfsize⟩

theorem Holds.after_indexStep (h : Holds p t live) (ops : List (IndexOp K V)) :
    Holds (p ∧ ∀ op ∈ ops, op.isRemove = false) (Machine.after FastHash.indexStep t ops)
        (ops.foldl (liveStep t.fsize) live) ∧
      (Machine.after FastHash.indexStep t ops).fsize = t.fsize := by
  induction ops generalizing p t live with
  | nil => exact ⟨h.mono And.left, rfl⟩
  | cons op ops ih =>
    obtain ⟨h₁, hfsize₁⟩ := h.indexStep op
    obtain ⟨h₂, hfsize₂⟩ := ih h₁
    rw [hfsize₁] at h₂ hfsize₂
    refine ⟨h₂.mono fun hp => ?_, hfsize₂⟩
    rw [List.forall_mem_cons] at hp
    exact ⟨⟨hp.1, hp.2.1⟩, hp.2.2⟩

end

end StunServer.FastHash

import StunServer.Proofs.FastHash
import Mathlib.Data.List.Perm.Lattice
import Mathlib.Data.List.Flatten
import Mathlib.Data.List.Range

/-! Removal from the hash table, and its index: as long as it is valid it lists the cells in
use, in some order, in a ring that starts at `_indexStart`. -/

namespace StunServer.FastHash

open Chain

variable {K V : Type} [FastHashKey K]

/-- The items without the one in cell `n`. -/
def dropCell (items : List (ℕ × K × V)) (n : ℕ) : List (ℕ × K × V) :=
  items.filter fun q => q.1 ≠ n

omit [FastHashKey K] in
theorem map_dropCell (items : List (ℕ × K × V)) (n : ℕ) :
    (dropCell items n).map Prod.fst = (items.map Prod.fst).filter (· ≠ n) := by
  rw [dropCell, List.filter_map]
  rfl

theorem bucket_dropCell (tsize b n : ℕ) (items : List (ℕ × K × V)) :
    bucket tsize b (dropCell items n) = (bucket tsize b items).filter (· ≠ n) := by
  rw [bucket, bucket, List.filter_reverse, List.filter_map, dropCell, List.filter_comm]
  rfl

theorem Models.bucket_nodup {t : FastHash K V} {free : List ℕ} {items : List (ℕ × K × V)}
    (h : Models t free items) (b : ℕ) : (bucket t.tsize b items).Nodup := by
  rw [bucket, List.nodup_reverse]
  exact (List.filter_sublist.map _).nodup (List.nodup_append.mp h.nodup).2.1

theorem filter_ne_split {l₁ l₂ : List ℕ} {n : ℕ} (hnd : (l₁ ++ n :: l₂).Nodup) :
    (l₁ ++ n :: l₂).filter (· ≠ n) = l₁ ++ l₂ := by
  rw [List.nodup_append, List.nodup_cons] at hnd
  obtain ⟨-, ⟨hn₂, -⟩, hdisj⟩ := hnd
  have h₁ : l₁.filter (· ≠ n) = l₁ := by
    apply List.filter_eq_self.mpr
    intro i hi
    simpa using hdisj i hi n (by simp)
  have h₂ : l₂.filter (· ≠ n) = l₂ := by
    apply List.filter_eq_self.mpr
    intro i hi
    simpa using fun he : i = n => hn₂ (he ▸ hi)
  simp only [ne_eq, decide_not] at h₁ h₂
  simp [List.filter_append, h₁, h₂]

section

variable [DecidableEq K] {t : FastHash K V} {free : List ℕ} {items : List (ℕ × K × V)}

/-- Where a search ends, and what it passes on its way. -/
theorem find_some (h : Models t free items) {k : K} {p : ℕ × K × V}
    (hp : (items.reverse.find? fun q => q.2.1 = k) = some p) :
    ∃ l₁ l₂, bucket t.tsize (t.hashindex k) items = l₁ ++ p.1 :: l₂ ∧
      t.find k = (l₁.getLast?, some p.1) := by
  have hfind := find?_bucket h k
  rw [hp] at hfind
  obtain ⟨l₁, l₂, hsplit, hno, hn⟩ := exists_split hfind
  have hchain := h.bucket_chain (t.hashindex k) (Nat.mod_lt _ h.tsize_pos)
  have hlen := h.bucket_length_le (t.hashindex k)
  rw [hsplit] at hchain hlen
  have hs := search_eq hchain hno hn (t.fsize + 1)
    (by simp only [List.length_append, List.length_cons] at hlen; omega) none
  rw [Option.or_none] at hs
  exact ⟨l₁, l₂, hsplit, hs⟩

theorem find_none (h : Models t free items) {k : K}
    (hp : (items.reverse.find? fun q => q.2.1 = k) = none) : (t.find k).2 = none := by
  have hchain := h.bucket_chain (t.hashindex k) (Nat.mod_lt _ h.tsize_pos)
  have hlen := h.bucket_length_le (t.hashindex k)
  rw [find, search_snd hchain _ (by omega), find?_bucket h, hp]
  rfl

/-- Without an item of the key there is nothing to remove. -/
theorem remove_none (h : Models t free items) {k : K}
    (hp : (items.reverse.find? fun q => q.2.1 = k) = none) : t.remove k = (-1, t) := by
  have hf := find_none h hp
  rw [remove]
  rcases hk : t.find k with ⟨prev, node⟩
  rw [hk] at hf
  obtain rfl : node = none := hf
  rfl

end

omit [FastHashKey K] in
/-- The index fields are the only ones that are touched. -/
theorem updateIndexWithRemove_eq (t : FastHash K V) (n : ℕ) :
    t.updateIndexWithRemove n = { t with
      fIndexValid := (t.updateIndexWithRemove n).fIndexValid
      indexStart := (t.updateIndexWithRemove n).indexStart } := by
  unfold updateIndexWithRemove
  dsimp only
  split_ifs <;> rfl

omit [FastHashKey K] in
theorem next_setNext (t : FastHash K V) (m : ℕ) (o : Option ℕ) :
    (t.setNext m o).next = Function.update t.next m o := by
  funext j
  by_cases hj : j = m
  · subst hj
    simp [next, setNext]
  · simp [next, setNext, hj]

omit [FastHashKey K] in
theorem index_setNext (t : FastHash K V) (m i : ℕ) (o : Option ℕ) :
    ((t.setNext m o).itemnodes i).index = (t.itemnodes i).index := by
  by_cases hi : i = m
  · subst hi
    simp [setNext]
  · simp [setNext, hi]

/-- What an unlinked cell leaves behind: its bucket starts or goes on behind it. -/
structure Unlinked (t : FastHash K V) (b : ℕ) (prev : Option ℕ) (n : ℕ) (t' : FastHash K V) :
    Prop where
  fsize : t'.fsize = t.fsize
  tsize : t'.tsize = t.tsize
  nodes : t'.nodes = t.nodes
  index : ∀ i, (t'.itemnodes i).index = (t.itemnodes i).index
  freelist : t'.freelist = some n
  lookuptable : t'.lookuptable =
    match prev with
    | none => Function.update t.lookuptable b (t.next n)
    | some _ => t.lookuptable
  next : t'.next = Function.update
    (match prev with
      | none => t.next
      | some q => Function.update t.next q (t.next n)) n t.freelist
  indexlist : t'.indexlist = t.indexlist
  fIndexValid : t'.fIndexValid = (t.updateIndexWithRemove n).fIndexValid
  indexStart : t'.indexStart = (t.updateIndexWithRemove n).indexStart
  size : t'.size = t.size - 1

omit [FastHashKey K] in
theorem unlinked (t : FastHash K V) (b : ℕ) (prev : Option ℕ) (n : ℕ) :
    let t₁ := t.unlink b prev n
    let t₂ := t₁.updateIndexWithRemove n
    let t₃ := t₂.setNext n t₂.freelist
    Unlinked t b prev n { t₃ with freelist := some n, size := t₃.size - 1 } := by
  dsimp only
  have hindex : ∀ i, ((t.unlink b prev n).itemnodes i).index = (t.itemnodes i).index := by
    intro i
    cases prev with
    | none => rfl
    | some q => exact index_setNext t q i _
  have hupdate : (t.unlink b prev n).updateIndexWithRemove n =
      { t.unlink b prev n with
        fIndexValid := (t.updateIndexWithRemove n).fIndexValid
        indexStart := (t.updateIndexWithRemove n).indexStart } := by
    have hfields : ∀ s : FastHash K V, s.size = t.size → s.fIndexValid = t.fIndexValid →
        s.indexStart = t.indexStart → s.indexlist = t.indexlist → s.fsize = t.fsize →
        (s.itemnodes n).index = (t.itemnodes n).index → s.updateIndexWithRemove n =
          { s with
            fIndexValid := (t.updateIndexWithRemove n).fIndexValid
            indexStart := (t.updateIndexWithRemove n).indexStart } := by
      intro s hsize hvalid hstart hlist hfsize hcell
      rw [updateIndexWithRemove_eq s]
      congr 1
      · unfold updateIndexWithRemove
        dsimp only
        rw [hsize, hvalid, hstart, hlist, hfsize, hcell]
        split_ifs <;> first | rfl | exact hvalid
      · unfold updateIndexWithRemove
        dsimp only
        rw [hsize, hvalid, hstart, hlist, hfsize, hcell]
        split_ifs <;> first | rfl | exact hstart
    cases prev with
    | none => exact hfields _ rfl rfl rfl rfl rfl (hindex n)
    | some q => exact hfields _ rfl rfl rfl rfl rfl (hindex n)
  rw [hupdate]
  cases prev with
  | none =>
    exact ⟨rfl, rfl, rfl, fun i => index_setNext _ n i _, rfl, rfl, next_setNext _ n _, rfl, rfl,
      rfl, rfl⟩
  | some q =>
    refine ⟨rfl, rfl, rfl, fun i => (index_setNext _ n i _).trans (hindex i), rfl, rfl, ?_, rfl,
      rfl, rfl, rfl⟩
    exact (next_setNext _ n _).trans (congrArg (Function.update · n _) (next_setNext t q _))

namespace Unlinked

omit [FastHashKey K]

variable {t t' : FastHash K V} {b n : ℕ} {prev head : Option ℕ} {l l₁ l₂ : List ℕ}

/-- A chain with neither the removed cell nor the one before it stays as it was. -/
theorem frame (hu : Unlinked t b prev n t') (hchain : IsChain t.next head l) (hn : n ∉ l)
    (hq : ∀ q, prev = some q → q ∉ l) : IsChain t'.next head l := by
  refine hchain.frame fun i hi => ?_
  rw [hu.next, Function.update_of_ne (by rintro rfl; exact hn hi)]
  cases prev with
  | none => rfl
  | some q => exact Function.update_of_ne (by rintro rfl; exact hq _ rfl hi) _ _

/-- The bucket of the removed cell is closed behind it. -/
theorem bucket (hu : Unlinked t b l₁.getLast? n t')
    (hchain : IsChain t.next (t.lookuptable b) (l₁ ++ n :: l₂)) (hnd : (l₁ ++ n :: l₂).Nodup) :
    IsChain t'.next (t'.lookuptable b) (l₁ ++ l₂) := by
  have hnot : n ∉ l₁ ++ l₂ := by
    rw [← filter_ne_split hnd]
    simp
  have hother : ∀ i ∈ l₁ ++ l₂, i ≠ n := by
    rintro i hi rfl
    exact hnot hi
  rw [hu.next, hu.lookuptable]
  cases hlast : l₁.getLast? with
  | none =>
    obtain rfl : l₁ = [] := List.getLast?_eq_none_iff.mp hlast
    simp only [Function.update_self]
    exact hchain.unlink_head.frame fun i hi => Function.update_of_ne (hother i hi) _ _
  | some q =>
    exact (hchain.unlink hlast hnd).frame fun i hi => Function.update_of_ne (hother i hi) _ _

theorem lookuptable_of_ne (hu : Unlinked t b prev n t') {b' : ℕ} (hb : b' ≠ b) :
    t'.lookuptable b' = t.lookuptable b' := by
  rw [hu.lookuptable]
  cases prev with
  | none => exact Function.update_of_ne hb _ _
  | some q => rfl

end Unlinked

/-- A cell is in the bucket of its own key only. -/
theorem Models.bucket_disjoint {t : FastHash K V} {free : List ℕ} {items : List (ℕ × K × V)}
    (h : Models t free items) {b b' i : ℕ} (hb : i ∈ bucket t.tsize b items)
    (hb' : i ∈ bucket t.tsize b' items) : b = b' := by
  simp only [bucket, List.mem_reverse, List.mem_map, List.mem_filter, decide_eq_true_eq] at hb hb'
  obtain ⟨q, ⟨hq, hqb⟩, rfl⟩ := hb
  obtain ⟨q', ⟨hq', hqb'⟩, heq⟩ := hb'
  have hnd := (List.nodup_append.mp h.nodup).2.1
  obtain rfl : q' = q := List.inj_on_of_nodup_map hnd hq' hq heq
  exact hqb.symm.trans hqb'

section

variable [DecidableEq K] {t : FastHash K V} {free : List ℕ} {items : List (ℕ × K × V)}

omit [FastHashKey K] [DecidableEq K] in
theorem dropCell_perm (hnd : (items.map Prod.fst).Nodup) {n : ℕ} (hn : n ∈ items.map Prod.fst) :
    (items.map Prod.fst).Perm (n :: (dropCell items n).map Prod.fst) := by
  have herase : (items.map Prod.fst).erase n = (items.map Prod.fst).filter (· ≠ n) := by
    rw [hnd.erase_eq_filter]
    apply List.filter_congr
    simp [Bool.beq_eq_decide_eq, bne]
  rw [map_dropCell, ← herase]
  exact List.perm_cons_erase hn

omit [DecidableEq K] in
/-- The bucket loses its cell, and the others lose nothing. -/
theorem chain_unlinked (h : Models t free items) {b b' n : ℕ} {l₁ l₂ : List ℕ}
    (hsplit : bucket t.tsize b items = l₁ ++ n :: l₂) {t' : FastHash K V}
    (hu : Unlinked t b l₁.getLast? n t') (hb' : b' < t.tsize) :
    IsChain t'.next (t'.lookuptable b') (bucket t.tsize b' (dropCell items n)) := by
  have hbnd := h.bucket_nodup b
  rw [bucket_dropCell]
  by_cases hbk : b' = b
  · subst hbk
    have hchain := h.bucket_chain _ hb'
    rw [hsplit] at hbnd hchain ⊢
    rw [filter_ne_split hbnd]
    exact hu.bucket hchain hbnd
  · have hother : ∀ i ∈ bucket t.tsize b items, i ∉ bucket t.tsize b' items :=
      fun i hi hi' => hbk (h.bucket_disjoint hi' hi)
    have hn : n ∈ bucket t.tsize b items := by
      rw [hsplit]
      exact List.mem_append_right _ List.mem_cons_self
    have hprev : ∀ q, l₁.getLast? = some q → q ∈ bucket t.tsize b items := by
      intro q hq
      rw [hsplit]
      exact List.mem_append_left _ (List.mem_of_getLast? hq)
    have hfilter : (bucket t.tsize b' items).filter (· ≠ n) = bucket t.tsize b' items := by
      apply List.filter_eq_self.mpr
      intro i hi
      simpa using fun he : i = n => hother _ hn (he ▸ hi)
    rw [hfilter, hu.lookuptable_of_ne hbk]
    exact hu.frame (h.bucket_chain b' hb') (hother _ hn) fun q hq => hother q (hprev q hq)

/-- A removal frees the cell of the newest item of its key. -/
theorem remove_some (h : Models t free items) {k : K} {p : ℕ × K × V}
    (hp : (items.reverse.find? fun q => q.2.1 = k) = some p) :
    ∃ t' prev, t.remove k = (1, t') ∧ Unlinked t (t.hashindex k) prev p.1 t' ∧
      Models t' (p.1 :: free) (dropCell items p.1) := by
  obtain ⟨l₁, l₂, hsplit, hfind⟩ := find_some h hp
  have hpitems : p ∈ items := List.mem_reverse.mp (List.mem_of_find?_eq_some hp)
  obtain ⟨t', hrun, hu⟩ : ∃ t', t.remove k = (1, t') ∧
      Unlinked t (t.hashindex k) l₁.getLast? p.1 t' := by
    refine ⟨_, ?_, unlinked t (t.hashindex k) l₁.getLast? p.1⟩
    rw [remove, hfind]
  refine ⟨t', _, hrun, hu, ?_⟩
  obtain ⟨-, hnditems, hdisj⟩ := List.nodup_append.mp h.nodup
  have hpcell : p.1 ∈ items.map Prod.fst := List.mem_map_of_mem hpitems
  have hpfree : p.1 ∉ free := fun hm => hdisj _ hm _ hpcell rfl
  have hperm := dropCell_perm hnditems hpcell
  refine ⟨hu.tsize ▸ h.tsize_pos, ?_, ?_, ?_, ?_, ?_, ?_⟩
  · intro i hi
    rw [hu.fsize] at hi
    rw [hu.index, h.index_eq i hi]
  · refine ⟨hu.freelist, ?_⟩
    have hnext : t'.next p.1 = t.freelist := by rw [hu.next, Function.update_self]
    rw [hnext]
    refine hu.frame h.free_chain hpfree fun q hq hm => ?_
    have hqbucket : q ∈ bucket t.tsize (t.hashindex k) items := by
      rw [hsplit]
      exact List.mem_append_left _ (List.mem_of_getLast? hq)
    exact hdisj _ hm _ (mem_bucket hqbucket) rfl
  · intro b hbt
    rw [hu.tsize] at hbt ⊢
    exact chain_unlinked h hsplit hu hbt
  · rw [hu.fsize]
    refine List.Perm.trans ?_ h.slots
    rw [List.cons_append]
    exact List.perm_middle.symm.trans (List.Perm.append_left free hperm.symm)
  · intro q hq
    rw [hu.nodes]
    exact h.stored q (List.mem_of_mem_filter hq)
  · have hlen := hperm.length_eq
    simp only [List.length_map, List.length_cons] at hlen
    rw [hu.size, h.size_eq, hlen]
    rfl

end

end StunServer.FastHash

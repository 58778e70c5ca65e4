import StunServer.Proofs.FastHashRun
import Mathlib.Data.List.TakeWhile

/-! What the users of the hash table can rely on, after any operations. -/

namespace StunServer.FastHash

variable {K V : Type} [FastHashKey K] [DecidableEq K]

/-! ### Stacks of values -/

/-- The stacks `m` are those that the table holds. -/
def Refines (fsize : ℕ) (t : FastHash K V) (m : StackMap K V) : Prop :=
  ∃ live, Holds False t live ∧ t.fsize = fsize ∧ m = StackMap.ofList live

theorem Refines.step {fsize : ℕ} {t : FastHash K V} {m : StackMap K V} (h : Refines fsize t m)
    (op : Op K V) :
    (t.step op).1 = (stackStep fsize m op).1 ∧
      Refines fsize (t.step op).2 (stackStep fsize m op).2 := by
  obtain ⟨live, hlive, rfl, rfl⟩ := h
  obtain ⟨hanswer, h', hstacks, hfsize⟩ := hlive.step op
  exact ⟨hanswer, _, h'.mono False.elim, hfsize, hstacks⟩

theorem Refines.run {fsize : ℕ} {t : FastHash K V} {m : StackMap K V} (h : Refines fsize t m)
    (ops : List (Op K V)) :
    Machine.trace FastHash.step t ops = Machine.trace (stackStep fsize) m ops ∧
      Refines fsize (Machine.after FastHash.step t ops)
        (Machine.after (stackStep fsize) m ops) := by
  have hstep : ∀ (t : FastHash K V) (m : StackMap K V) (op : Op K V), Refines fsize t m → True →
      (t.step op).1 = (stackStep fsize m (id op)).1 ∧
        Refines fsize (t.step op).2 (stackStep fsize m (id op)).2 :=
    fun _ _ op hr _ => hr.step op
  have hsim := Machine.simulates hstep h ops fun _ _ _ _ => trivial
  simpa using hsim

theorem refines_create (fsize : ℕ) {tsize : ℕ} (ht : 0 < tsize) :
    Refines fsize (create fsize tsize : FastHash K V) .empty :=
  ⟨[], (holds_create fsize ht).mono False.elim, rfl, rfl⟩

omit [FastHashKey K] in
/-- Stacks below the capacity take every value. -/
theorem stackStep_inserts {capacity : ℕ} (m : StackMap K V) (items : List (K × V))
    (hroom : m.size + items.length ≤ capacity) :
    (Machine.trace (stackStep capacity) m (items.map fun p => .insert p.1 p.2)).map Prod.snd =
      items.map fun _ => .code 1 := by
  induction items generalizing m with
  | nil => rfl
  | cons p items ih =>
    rw [List.length_cons] at hroom
    have hstep : stackStep capacity m (.insert p.1 p.2) = (.code 1, m.push p.1 p.2) :=
      if_neg (by omega)
    have hsize : (m.push p.1 p.2).size = m.size + 1 := rfl
    rw [List.map_cons, Machine.trace, hstep, List.map_cons, List.map_cons,
      ih (m.push p.1 p.2) (by omega)]

namespace Refines

variable {fsize : ℕ} {t : FastHash K V} {m : StackMap K V}

theorem size_eq (h : Refines fsize t m) : t.size = m.size := by
  obtain ⟨live, hlive, -, rfl⟩ := h
  rw [StackMap.size_ofList]
  exact hlive.size_eq

theorem insert_full (h : Refines fsize t m) (hfull : t.size = fsize) (key : K) (value : V) :
    t.insert key value = (-1, t) := by
  obtain ⟨live, hlive, rfl, -⟩ := h
  exact hlive.insert_full (by rw [← hlive.size_eq, hfull]) key value

theorem insert_eq_neg_one (h : Refines fsize t m) (key : K) (value : V) :
    (t.insert key value).1 = -1 ↔ t.size = fsize := by
  constructor
  · intro hret
    obtain ⟨live, hlive, rfl, -⟩ := h
    have hle := hlive.length_le
    have hsize := hlive.size_eq
    by_contra hne
    obtain ⟨t', hrun, -⟩ := hlive.insert (by omega) key value
    rw [hrun] at hret
    cases hret
  · intro hfull
    rw [h.insert_full hfull]

theorem remove_absent (h : Refines fsize t m) {key : K} (hkey : m.stack key = []) :
    t.remove key = (-1, t) := by
  obtain ⟨live, hlive, -, rfl⟩ := h
  exact hlive.remove_absent hkey

theorem remove_eq_neg_one (h : Refines fsize t m) (key : K) :
    (t.remove key).1 = -1 ↔ m.stack key = [] := by
  constructor
  · intro hret
    obtain ⟨live, hlive, -, rfl⟩ := h
    by_contra hne
    obtain ⟨t', hrun, -⟩ := hlive.remove hne
    rw [hrun] at hret
    cases hret
  · intro hkey
    rw [h.remove_absent hkey]

theorem lookup (h : Refines fsize t m) (key : K) : t.lookup key = (m.stack key).head? := by
  obtain ⟨live, hlive, -, rfl⟩ := h
  exact hlive.lookup key

theorem exists_iff (h : Refines fsize t m) (key : K) :
    t.exists key = true ↔ m.stack key ≠ [] := by
  obtain ⟨live, hlive, -, rfl⟩ := h
  rw [hlive.exists key, decide_eq_true_iff]

/-- Every slot that is not in use can be used. -/
theorem inserts (h : Refines fsize t m) (items : List (K × V))
    (hroom : t.size + items.length ≤ fsize) :
    (Machine.trace FastHash.step t (items.map fun p => .insert p.1 p.2)).map Prod.snd =
      items.map fun _ => .code 1 := by
  rw [(h.run _).1]
  exact stackStep_inserts m items (by rwa [← h.size_eq])

end Refines

/-- After any operations the table answers as a map from keys to stacks of values does that has
room for `fsize` of them. An operation that is refused changes nothing, and a slot that is
not in use can be used again. -/
theorem bounded_stacks {fsize tsize : ℕ} (ht : 1 ≤ tsize) (ops : List (Op K V)) :
    let t : FastHash K V := Machine.after FastHash.step (create fsize tsize) ops
    let m : StackMap K V := Machine.after (stackStep fsize) .empty ops
    Machine.trace FastHash.step (create fsize tsize) ops =
        Machine.trace (stackStep fsize) .empty ops ∧
      t.size = m.size ∧
      (∀ key value, ((t.insert key value).1 = -1 ↔ t.size = fsize) ∧
        (t.size = fsize → t.insert key value = (-1, t))) ∧
      (∀ key, ((t.remove key).1 = -1 ↔ m.stack key = []) ∧
        (m.stack key = [] → t.remove key = (-1, t))) ∧
      (∀ key, t.lookup key = (m.stack key).head? ∧ (t.exists key = true ↔ m.stack key ≠ [])) ∧
      ∀ items : List (K × V), t.size + items.length ≤ fsize →
        (Machine.trace FastHash.step t (items.map fun p => .insert p.1 p.2)).map Prod.snd =
          items.map fun _ => .code 1 := by
  intro t m
  obtain ⟨htrace, h⟩ := (refines_create (K := K) (V := V) fsize ht).run ops
  refine ⟨htrace, h.size_eq, fun key value => ?_, fun key => ?_, fun key => ?_, h.inserts⟩
  · exact ⟨h.insert_eq_neg_one key value, fun hfull => h.insert_full hfull key value⟩
  · exact ⟨h.remove_eq_neg_one key, h.remove_absent⟩
  · exact ⟨h.lookup key, h.exists_iff key⟩

/-- A table of one slot and one bucket, whose two insertions collide. -/
theorem bounded_stacks_one_slot :
    1 ≤ 1 ∧ (Machine.trace FastHash.step (create 1 1)
        [Op.insert (7 : UInt16) true, .insert 8 false, .remove 7, .lookup 7] =
      Machine.trace (stackStep 1) .empty
        [.insert 7 true, .insert 8 false, .remove 7, .lookup 7]) :=
  ⟨by decide, (bounded_stacks (by decide) _).1⟩

/-! ### The index -/

omit [FastHashKey K] in
/-- Without removals the live items are the first insertions. -/
theorem foldl_liveStep {capacity : ℕ} {live : List (K × V)} (hle : live.length ≤ capacity)
    {ops : List (IndexOp K V)} (hremove : ∀ op ∈ ops, op.isRemove = false)
    (hreset : ∀ op ∈ ops, op.isReset = false) :
    ops.foldl (liveStep capacity) live =
      live ++ (ops.filterMap IndexOp.inserted).take (capacity - live.length) := by
  induction ops generalizing live with
  | nil => simp
  | cons op ops ih =>
    rw [List.forall_mem_cons] at hremove hreset
    have ih := fun (l : List (K × V)) (hl : l.length ≤ capacity) => ih hl hremove.2 hreset.2
    rw [List.foldl_cons, List.filterMap_cons]
    cases op with
    | lookupByIndex i => exact ih live hle
    | onKey op =>
      cases op with
      | insert k v =>
        rw [liveStep, IndexOp.inserted]
        by_cases hfull : capacity ≤ live.length
        · rw [if_pos hfull, ih live hle, Nat.sub_eq_zero_of_le hfull, List.take_zero, List.take_zero]
        · have hroom : capacity - live.length = capacity - (live.length + 1) + 1 := by omega
          rw [if_neg hfull, ih _ (by rw [List.length_append]; simp; omega), List.length_append,
            List.length_singleton, hroom, List.take_succ_cons, List.append_assoc,
            List.singleton_append]
      | remove k => exact Bool.noConfusion hremove.1
      | lookup k => exact ih live hle
      | «exists» k => exact ih live hle
      | reset => exact Bool.noConfusion hreset.1

namespace IndexOp

omit [FastHashKey K] [DecidableEq K]

theorem isReset_of_mem_sinceReset {ops : List (IndexOp K V)} {op : IndexOp K V}
    (h : op ∈ sinceReset ops) : op.isReset = false := by
  have htrue := List.mem_takeWhile_imp (List.mem_reverse.mp h)
  simpa using htrue

/-- A run goes back to the last reset, or to its start. -/
theorem eq_sinceReset (ops : List (IndexOp K V)) :
    ops = sinceReset ops ∨ ∃ before, ops = before ++ .onKey .reset :: sinceReset ops := by
  have hsplit := List.takeWhile_append_dropWhile (p := fun op : IndexOp K V => !op.isReset)
    (l := ops.reverse)
  cases hdrop : ops.reverse.dropWhile fun op => !op.isReset with
  | nil =>
    left
    rw [hdrop, List.append_nil] at hsplit
    rw [sinceReset, hsplit, List.reverse_reverse]
  | cons op rest =>
    right
    have hop : op.isReset = true := by
      have hhead := List.head?_dropWhile_not (fun op : IndexOp K V => !op.isReset) ops.reverse
      rw [hdrop] at hhead
      simpa using hhead
    have hreset : op = .onKey .reset := by
      cases op with
      | lookupByIndex i => cases hop
      | onKey op => cases op <;> first | rfl | cases hop
    rw [hdrop, hreset] at hsplit
    have hops := congrArg List.reverse hsplit
    rw [List.reverse_append, List.reverse_cons, List.append_assoc, List.singleton_append,
      List.reverse_reverse] at hops
    exact ⟨rest.reverse, hops.symm⟩

end IndexOp

/-- An empty table lists what is put into it in the order in which it comes. -/
theorem Holds.lookupByIndex_inOrder {t : FastHash K V} (h : Holds True t [])
    {ops : List (IndexOp K V)} (hremove : ∀ op ∈ ops, op.isRemove = false)
    (hreset : ∀ op ∈ ops, op.isReset = false) (i : ℕ) :
    ((Machine.after FastHash.indexStep t ops).lookupByIndex i).1 =
      ((ops.filterMap IndexOp.inserted).take t.fsize)[i]?.map itemOf := by
  obtain ⟨hrun, -⟩ := h.after_indexStep ops
  obtain ⟨order, -, horder, hlook⟩ := hrun.lookupByIndex
  obtain ⟨t', hi, -⟩ := hlook i
  rw [hi, horder ⟨trivial, hremove⟩, foldl_liveStep (Nat.zero_le _) hremove hreset,
    List.nil_append, List.length_nil, Nat.sub_zero]

/-- After any operations the positions below the size lead to the live items, to each of them
once, and the others to none. Where nothing was removed since the table was last empty they lead
to the items in the order of their insertion. -/
theorem index_enumerates {fsize tsize : ℕ} (ht : 1 ≤ tsize) (ops : List (IndexOp K V)) :
    let t : FastHash K V := Machine.after indexStep (create fsize tsize) ops
    let live := liveItems fsize ops
    t.size = live.length ∧
      ((List.range t.size).map fun i => (t.lookupByIndex i).1).Perm
        (live.map fun p => some (itemOf p)) ∧
      (∀ i, t.size ≤ i → (t.lookupByIndex i).1 = none) ∧
      (∀ i j, ((t.lookupByIndex j).2.lookupByIndex i).1 = (t.lookupByIndex i).1) ∧
      ((∀ op ∈ IndexOp.sinceReset ops, op.isRemove = false) → ∀ i, (t.lookupByIndex i).1 =
        (((IndexOp.sinceReset ops).filterMap IndexOp.inserted).take fsize)[i]?.map itemOf) := by
  intro t live
  obtain ⟨hrun, -⟩ := (holds_create (K := K) (V := V) fsize ht).after_indexStep ops
  have hsize : t.size = live.length := hrun.size_eq
  obtain ⟨order, hperm, -, hlook⟩ := hrun.lookupByIndex
  have hfst : ∀ i, (t.lookupByIndex i).1 = order[i]?.map itemOf := by
    intro i
    obtain ⟨t', hi, -⟩ := hlook i
    exact congrArg Prod.fst hi
  have hlen : order.length = t.size := by rw [hsize, hperm.length_eq]; rfl
  refine ⟨hsize, ?_, fun i hi => ?_, fun i j => ?_, fun hremove i => ?_⟩
  · have hlist : ((List.range t.size).map fun i => (t.lookupByIndex i).1) =
        order.map fun p => some (itemOf p) := by
      apply List.ext_getElem
      · rw [List.length_map, List.length_map, List.length_range, hlen]
      · intro i h₁ h₂
        rw [List.length_map] at h₂
        rw [List.getElem_map, List.getElem_range, List.getElem_map, hfst,
          List.getElem?_eq_getElem h₂]
        rfl
    rw [hlist]
    exact hperm.map _
  · rw [hfst, List.getElem?_eq_none (by omega)]
    rfl
  · obtain ⟨t', hj, -, -, hagain⟩ := hlook j
    rw [hfst i, show t.lookupByIndex j = _ from hj]
    exact hagain i
  · have hreset : ∀ op ∈ IndexOp.sinceReset ops, op.isReset = false :=
      fun op hop => IndexOp.isReset_of_mem_sinceReset hop
    rcases IndexOp.eq_sinceReset ops with hops | ⟨before, hops⟩
    · have hlookup := (holds_create fsize ht).lookupByIndex_inOrder hremove hreset i
      rwa [← hops] at hlookup ⊢
    · -- the reset empties the table that the operations before it leave
      obtain ⟨hbefore, hfsize⟩ :=
        (holds_create (K := K) (V := V) fsize ht).after_indexStep before
      have hlookup := (holds_reset _ hbefore.tsize_pos).lookupByIndex_inOrder hremove hreset i
      have ht' : t = Machine.after FastHash.indexStep
          (Machine.after FastHash.indexStep (create fsize tsize) before).reset
          (IndexOp.sinceReset ops) := by
        change Machine.after _ _ ops = _
        rw [hops, Machine.after_append, ← hops]
        rfl
      rw [ht', hlookup]
      exact congrArg (fun f => (List.take f _)[i]?.map itemOf) hfsize

/-- Three items in one bucket; the one in the middle goes. -/
def middleRemoved : List (IndexOp UInt16 Bool) :=
  [.onKey (.insert 7 true), .onKey (.insert 8 false), .onKey (.insert 9 true),
    .onKey (.remove 8), .lookupByIndex 1]

theorem index_enumerates_middleRemoved :
    1 ≤ 1 ∧ ((List.range (Machine.after indexStep (create 3 1) middleRemoved).size).map
        fun i => ((Machine.after indexStep (create 3 1) middleRemoved).lookupByIndex i).1).Perm
      [some (itemOf (7, true)), some (itemOf (9, true))] :=
  ⟨by decide, (index_enumerates (by decide) middleRemoved).2.1⟩

end StunServer.FastHash

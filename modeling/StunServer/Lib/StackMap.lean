import Mathlib.Algebra.BigOperators.Group.Finset.Basic
import Mathlib.Data.List.Induction

/-! Maps from keys to stacks of values, and the lists of pairs that stand for them, oldest
pair first. -/

/-- A stack for every key, and the number of values in all of them. -/
@[ext]
structure StackMap (K V : Type*) where
  stack : K → List V
  size : ℕ
  counted : ∃ keys : Finset K, (∀ k, k ∉ keys → stack k = []) ∧
    ∑ k ∈ keys, (stack k).length = size

namespace StackMap

variable {K V : Type*}

def empty : StackMap K V := ⟨fun _ => [], 0, ∅, by simp⟩

variable [DecidableEq K]

/-- What the sizes of the stacks add up to when one of them changes. -/
theorem sum_update {stack : K → List V} {keys : Finset K} (hkeys : ∀ k, k ∉ keys → stack k = [])
    (k : K) (s : List V) :
    (∀ k', k' ∉ insert k keys → Function.update stack k s k' = []) ∧
      ∑ k' ∈ insert k keys, (Function.update stack k s k').length + (stack k).length =
        ∑ k' ∈ keys, (stack k').length + s.length := by
  constructor
  · intro k' hk'
    rw [Finset.mem_insert, not_or] at hk'
    rw [Function.update_of_ne hk'.1, hkeys k' hk'.2]
  · have hother : ∑ k' ∈ keys.erase k, (Function.update stack k s k').length =
        ∑ k' ∈ keys.erase k, (stack k').length :=
      Finset.sum_congr rfl fun k' hk' => by rw [Function.update_of_ne (Finset.ne_of_mem_erase hk')]
    rw [← Finset.insert_erase (Finset.mem_insert_self k keys), Finset.erase_insert_eq_erase,
      Finset.sum_insert (Finset.notMem_erase k keys), Function.update_self, hother]
    by_cases hk : k ∈ keys
    · rw [← Finset.sum_erase_add keys _ hk]
      omega
    · rw [Finset.erase_eq_of_notMem hk, hkeys k hk, List.length_nil]
      omega

/-- `v` becomes the top value of `k`. -/
def push (m : StackMap K V) (k : K) (v : V) : StackMap K V where
  stack := Function.update m.stack k (v :: m.stack k)
  size := m.size + 1
  counted := by
    obtain ⟨keys, hkeys, hsum⟩ := m.counted
    obtain ⟨hnil, hnew⟩ := sum_update hkeys k (v :: m.stack k)
    rw [hsum, List.length_cons] at hnew
    exact ⟨_, hnil, by omega⟩

theorem length_le_size (m : StackMap K V) (k : K) : (m.stack k).length ≤ m.size := by
  obtain ⟨keys, hkeys, hsum⟩ := m.counted
  by_cases hk : k ∈ keys
  · rw [← hsum, ← Finset.sum_erase_add keys _ hk]
    exact Nat.le_add_left _ _
  · rw [hkeys k hk]
    exact Nat.zero_le _

/-- The top value of `k` goes, if there is one. -/
def pop (m : StackMap K V) (k : K) : StackMap K V where
  stack := Function.update m.stack k (m.stack k).tail
  size := if m.stack k = [] then m.size else m.size - 1
  counted := by
    obtain ⟨keys, hkeys, hsum⟩ := m.counted
    obtain ⟨hnil, hnew⟩ := sum_update hkeys k (m.stack k).tail
    have hle := m.length_le_size k
    rw [hsum, List.length_tail] at hnew
    refine ⟨_, hnil, ?_⟩
    split_ifs with hk
    · simp only [hk, List.length_nil, List.tail_nil] at hnew ⊢
      omega
    · have hpos := List.length_pos_iff.mpr hk
      omega

theorem pop_of_nil {m : StackMap K V} {k : K} (h : m.stack k = []) : m.pop k = m := by
  ext1
  · exact Function.update_eq_self_iff.mpr (by rw [h]; rfl)
  · exact if_pos h

theorem pop_push (m : StackMap K V) (k : K) (v : V) : (m.push k v).pop k = m := by
  ext1
  · simp [pop, push]
  · simp [pop, push]

theorem pop_push_of_ne (m : StackMap K V) {k k' : K} (h : k' ≠ k) (v : V) :
    (m.push k' v).pop k = (m.pop k).push k' v := by
  ext1
  · simp only [pop, push, Function.update_of_ne h, Function.update_of_ne (Ne.symm h)]
    exact Function.update_comm h _ _ _
  · have hle := m.length_le_size k
    simp only [pop, push, Function.update_of_ne (Ne.symm h)]
    split_ifs with hk
    · rfl
    · have hpos := List.length_pos_iff.mpr hk
      omega

/-! ### Lists of pairs -/

/-- The stacks that the pairs build, pushed one after the other. -/
def ofList (l : List (K × V)) : StackMap K V := l.foldl (fun m p => m.push p.1 p.2) empty

@[simp] theorem ofList_nil : ofList ([] : List (K × V)) = empty := rfl

theorem ofList_concat (l : List (K × V)) (p : K × V) :
    ofList (l ++ [p]) = (ofList l).push p.1 p.2 := by
  rw [ofList, List.foldl_append]
  rfl

@[simp] theorem size_ofList (l : List (K × V)) : (ofList l).size = l.length := by
  induction l using List.reverseRecOn with
  | nil => rfl
  | append_singleton l p ih =>
    rw [ofList_concat, List.length_append, ← ih]
    rfl

/-- The top value of a key is that of its newest pair. -/
theorem head?_ofList (l : List (K × V)) (k : K) :
    ((ofList l).stack k).head? = (l.reverse.find? fun p => p.1 = k).map Prod.snd := by
  induction l using List.reverseRecOn with
  | nil => rfl
  | append_singleton l p ih =>
    rw [ofList_concat, List.reverse_append, List.reverse_singleton, List.singleton_append,
      List.find?_cons]
    by_cases hp : p.1 = k
    · subst hp
      simp [push]
    · simpa [push, hp, Function.update_of_ne (Ne.symm hp)] using ih

/-- The pairs without the newest one of `k`. -/
def dropNewest (l : List (K × V)) (k : K) : List (K × V) :=
  (l.reverse.eraseP fun p => p.1 = k).reverse

theorem dropNewest_of_nil {l : List (K × V)} {k : K} (h : (ofList l).stack k = []) :
    dropNewest l k = l := by
  have hnone := head?_ofList l k
  rw [h, List.head?_nil, eq_comm, Option.map_eq_none_iff] at hnone
  rw [dropNewest, List.eraseP_of_forall_not (List.find?_eq_none.mp hnone), List.reverse_reverse]

theorem ofList_dropNewest (l : List (K × V)) (k : K) :
    ofList (dropNewest l k) = (ofList l).pop k := by
  induction l using List.reverseRecOn with
  | nil => exact (pop_of_nil rfl).symm
  | append_singleton l p ih =>
    rw [dropNewest, List.reverse_append, List.reverse_singleton, List.singleton_append,
      List.eraseP_cons, ofList_concat]
    by_cases hp : p.1 = k
    · subst hp
      simp [pop_push]
    · rw [pop_push_of_ne _ hp, ← ih, dropNewest, ← ofList_concat]
      simp [hp]

end StackMap

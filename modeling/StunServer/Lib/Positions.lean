import Mathlib.Data.List.Nodup
import Mathlib.Data.List.Perm.Basic
import Mathlib.Logic.Function.Basic

/-! Arrays that go with a table of the positions of their elements. An element is removed by
moving the last one into its place. -/

namespace Positions

variable {α : Type*}

/-- The last element fills the hole. -/
def swapRemove (l : List α) (i : ℕ) : List α :=
  match l.getLast? with
  | none => l
  | some last => (l.set i last).dropLast

theorem swapRemove_concat (l : List α) (last : α) (i : ℕ) :
    swapRemove (l ++ [last]) i = l.set i last := by
  rw [swapRemove, List.getLast?_concat]
  dsimp only
  by_cases hi : i < l.length
  · rw [List.set_append_left _ _ hi]
    exact List.dropLast_concat
  · rw [List.set_append_right _ _ (Nat.not_lt.mp hi), List.set_eq_of_length_le (Nat.not_lt.mp hi)]
    by_cases hil : i = l.length
    · subst hil
      simp
    · rw [List.set_eq_of_length_le (by rw [List.length_singleton]; omega)]
      exact List.dropLast_concat

theorem length_swapRemove (l : List α) (i : ℕ) : (swapRemove l i).length = l.length - 1 := by
  rcases List.eq_nil_or_concat l with rfl | ⟨l, last, rfl⟩
  · rfl
  · rw [List.concat_eq_append, swapRemove_concat]
    simp

theorem map_swapRemove {β : Type*} (f : α → β) (l : List α) (i : ℕ) :
    (swapRemove l i).map f = swapRemove (l.map f) i := by
  rcases List.eq_nil_or_concat l with rfl | ⟨l, last, rfl⟩
  · rfl
  · rw [List.concat_eq_append, swapRemove_concat, List.map_append, List.map_singleton,
      swapRemove_concat, List.map_set]

/-- Apart from the order it is the element at `i` that goes. -/
theorem swapRemove_perm {l : List α} {i : ℕ} {x : α} (hx : l[i]? = some x) :
    l.Perm (x :: swapRemove l i) := by
  obtain ⟨hi, rfl⟩ := List.getElem?_eq_some_iff.mp hx
  rcases List.eq_nil_or_concat l with rfl | ⟨l, last, rfl⟩
  · exact absurd hi (Nat.not_lt_zero _)
  · simp only [List.concat_eq_append, List.length_append, List.length_singleton] at hi
    simp only [List.concat_eq_append, swapRemove_concat]
    by_cases hil : i < l.length
    · rw [List.getElem_append_left hil]
      have hset := List.set_perm_cons_eraseIdx hil last
      have hold := List.getElem_cons_eraseIdx_perm hil
      exact (List.perm_append_singleton last l).trans
        (((hold.symm.cons last).trans (List.Perm.swap _ _ _)).trans (hset.symm.cons _))
    · obtain rfl : i = l.length := by omega
      rw [List.set_eq_of_length_le (Nat.le_refl _), List.getElem_concat_length rfl]
      exact List.perm_append_singleton last l

/-- The table `m` has the position of every element, and nothing else. -/
def Tracks (l : List α) (m : α → Option ℕ) : Prop := ∀ x i, m x = some i ↔ l[i]? = some x

theorem tracks_nil : Tracks ([] : List α) fun _ => none := by
  intro x i
  simp

namespace Tracks

variable {l : List α} {m : α → Option ℕ}

theorem eq_none_iff (h : Tracks l m) {x : α} : m x = none ↔ x ∉ l := by
  rw [← not_iff_not, not_not, ← ne_eq, Option.ne_none_iff_exists']
  constructor
  · rintro ⟨i, hi⟩
    exact List.mem_of_getElem? ((h x i).mp hi)
  · intro hx
    obtain ⟨i, hi⟩ := List.mem_iff_getElem?.mp hx
    exact ⟨i, (h x i).mpr hi⟩

/-- No element is there twice. -/
theorem nodup (h : Tracks l m) : l.Nodup := by
  rw [List.nodup_iff_getElem?_ne_getElem?]
  intro i j hij hj he
  obtain ⟨x, hx⟩ : ∃ x, l[j]? = some x := ⟨_, List.getElem?_eq_getElem hj⟩
  have hi' := (h x i).mpr (he.trans hx)
  rw [(h x j).mpr hx] at hi'
  have hsame := Option.some.inj hi'
  omega

variable [DecidableEq α]

theorem push (h : Tracks l m) {x : α} (hx : m x = none) :
    Tracks (l ++ [x]) (Function.update m x (some l.length)) := by
  have hnot := h.eq_none_iff.mp hx
  intro y i
  by_cases hy : y = x
  · subst hy
    rw [Function.update_self]
    constructor
    · rintro ⟨⟩
      exact List.getElem?_concat_length
    · intro hi
      by_cases hil : i < l.length
      · rw [List.getElem?_append_left hil] at hi
        exact absurd (List.mem_of_getElem? hi) hnot
      · have hlt := (List.getElem?_eq_some_iff.mp hi).1
        rw [List.length_append, List.length_singleton] at hlt
        exact congrArg some (by omega)
  · rw [Function.update_of_ne hy, h y i]
    by_cases hil : i < l.length
    · rw [List.getElem?_append_left hil]
    · rw [List.getElem?_eq_none (by omega), List.getElem?_append_right (by omega)]
      constructor
      · intro hno
        cases hno
      · intro hi
        have hmem := List.mem_of_getElem? hi
        exact absurd (List.mem_singleton.mp hmem) hy

/-- The table follows when the last element is moved and the one in its way goes. -/
theorem swapRemove (h : Tracks l m) {x last : α} {i : ℕ} (hx : m x = some i)
    (hlast : l.getLast? = some last) :
    Tracks (swapRemove l i) (Function.update
      (if i = l.length - 1 then m else Function.update m last (some i)) x none) := by
  obtain ⟨l, rfl⟩ := List.getLast?_eq_some_iff.mp hlast
  rw [swapRemove_concat, List.length_append, List.length_singleton, Nat.add_sub_cancel]
  have hml : m last = some l.length := (h _ _).mpr List.getElem?_concat_length
  have hi : i ≤ l.length := by
    have hlt := (List.getElem?_eq_some_iff.mp ((h x i).mp hx)).1
    rw [List.length_append, List.length_singleton] at hlt
    omega
  have hinj : ∀ y z j, m y = some j → m z = some j → y = z := by
    intro y z j hy hz
    rw [h] at hy hz
    exact Option.some.inj (hy.symm.trans hz)
  -- the elements other than the last one are where they were
  have hold : ∀ y j, l[j]? = some y ↔ m y = some j ∧ j ≠ l.length := by
    intro y j
    rw [h y j, List.getElem?_append]
    grind
  intro y j
  rw [List.getElem?_set]
  grind [Function.update_apply]

end Tracks

end Positions

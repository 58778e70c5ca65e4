import StunServer.Lib.Machine
import Mathlib.Data.Nat.ModEq

/-! Taking turns: of some places that may be ready, one is picked, and the search begins one
place further each time. -/

namespace RoundRobin

/-- The first of `n` places that is ready, from `rotation` on and around. -/
def pick (n rotation : ℕ) (ready : ℕ → Bool) : Option ℕ :=
  ((List.range n).map fun index => (index + rotation) % n).find? ready

/-- The rotation is moved on before the search. -/
def step (n rotation : ℕ) (ready : ℕ → Bool) : Option ℕ × ℕ :=
  (pick n ((rotation + 1) % n) ready, (rotation + 1) % n)

section

variable {n rotation k : ℕ} {ready : ℕ → Bool}

theorem pick_spec (h : pick n rotation ready = some k) : k < n ∧ ready k = true := by
  have hmem := List.mem_of_find?_eq_some h
  obtain ⟨index, hindex, rfl⟩ := List.mem_map.mp hmem
  have hn : 0 < n := Nat.zero_lt_of_lt (List.mem_range.mp hindex)
  exact ⟨Nat.mod_lt _ hn, List.find?_some h⟩

/-- The place at which the search begins comes first. -/
theorem pick_first (hk : k < n) (hready : ready k = true) : pick n k ready = some k := by
  obtain ⟨m, rfl⟩ : ∃ m, n = m + 1 := ⟨n - 1, by omega⟩
  rw [pick, List.range_succ_eq_map, List.map_cons, Nat.zero_add, Nat.mod_eq_of_lt hk,
    List.find?_cons_of_pos hready]

theorem after_step (hr : rotation < n) (readies : List (ℕ → Bool)) :
    Machine.after (step n) rotation readies = (rotation + readies.length) % n := by
  induction readies generalizing rotation with
  | nil => exact (Nat.mod_eq_of_lt hr).symm
  | cons ready readies ih =>
    have hnext : (rotation + 1) % n < n := Nat.mod_lt _ (Nat.zero_lt_of_lt hr)
    rw [Machine.after, show (step n rotation ready).2 = (rotation + 1) % n from rfl, ih hnext,
      Nat.mod_add_mod, List.length_cons, Nat.add_assoc, Nat.add_comm 1]

/-- How often a place is picked. -/
def share (k : ℕ) (run : List ((ℕ → Bool) × Option ℕ)) : ℕ := run.countP fun e => e.2 = some k

/-- A place that stays ready through a round is picked in it. -/
theorem one_le_share (hk : k < n) (hr : rotation < n) {readies : List (ℕ → Bool)}
    (hlen : readies.length = n) (hready : ∀ ready ∈ readies, ready k = true) :
    1 ≤ share k (Machine.trace (step n) rotation readies) := by
  -- the search begins at `k` after so many steps more
  obtain ⟨j, hj, hmod⟩ : ∃ j < n, (rotation + j + 1) % n = k := by
    by_cases hle : rotation < k
    · exact ⟨k - rotation - 1, by omega, by
        rw [show rotation + (k - rotation - 1) + 1 = k by omega, Nat.mod_eq_of_lt hk]⟩
    · exact ⟨k + n - rotation - 1, by omega, by
        rw [show rotation + (k + n - rotation - 1) + 1 = k + n by omega, Nat.add_mod_right,
          Nat.mod_eq_of_lt hk]⟩
  obtain ⟨before, ready, later, rfl, rfl⟩ : ∃ before ready later,
      readies = before ++ ready :: later ∧ before.length = j :=
    ⟨readies.take j, readies[j], readies.drop (j + 1),
      by rw [List.getElem_cons_drop, List.take_append_drop], by
        rw [List.length_take]
        omega⟩
  have hpicked : (step n (Machine.after (step n) rotation before) ready).1 = some k := by
    have hstart : (Machine.after (step n) rotation before + 1) % n = k := by
      rw [after_step hr, Nat.mod_add_mod, hmod]
    change pick n ((Machine.after (step n) rotation before + 1) % n) ready = some k
    rw [hstart]
    exact pick_first hk (hready ready (by simp))
  rw [share, Machine.trace_append, List.countP_append, Machine.trace,
    List.countP_cons_of_pos (by rw [hpicked]; exact decide_eq_true rfl)]
  omega

/-- A place that stays ready for so many rounds is picked at least as often. -/
theorem le_share (hk : k < n) (rounds : ℕ) (hr : rotation < n) {readies : List (ℕ → Bool)}
    (hlen : rounds * n ≤ readies.length) (hready : ∀ ready ∈ readies, ready k = true) :
    rounds ≤ share k (Machine.trace (step n) rotation readies) := by
  induction rounds generalizing rotation readies with
  | zero => exact Nat.zero_le _
  | succ rounds ih =>
    rw [Nat.succ_mul] at hlen
    have hround : 1 ≤ share k (Machine.trace (step n) rotation (readies.take n)) :=
      one_le_share hk hr (by rw [List.length_take]; omega)
        fun ready hmem => hready ready (List.mem_of_mem_take hmem)
    have hrest : rounds ≤ share k (Machine.trace (step n)
        (Machine.after (step n) rotation (readies.take n)) (readies.drop n)) := by
      refine ih ?_ (by rw [List.length_drop]; omega)
        fun ready hmem => hready ready (List.mem_of_mem_drop hmem)
      rw [after_step hr]
      exact Nat.mod_lt _ (Nat.zero_lt_of_lt hr)
    rw [← List.take_append_drop n readies, share, Machine.trace_append, List.countP_append]
    change _ ≤ share k _ + share k _
    omega

end

end RoundRobin

import Mathlib.Analysis.Real.Sqrt
import Mathlib.NumberTheory.Bertrand

/-! Trial division of an odd number, and the next prime. -/

namespace Primes

variable {n q : ℕ}

/-- The next prime from a number on. -/
def IsNext (n q : ℕ) : Prop := IsLeast {p | p.Prime ∧ n ≤ p} q

theorem exists_isNext (n : ℕ) : ∃ q, IsNext n q := by
  have hsome : {p | p.Prime ∧ n ≤ p}.Nonempty := by
    obtain ⟨p, hle, hp⟩ := Nat.exists_infinite_primes n
    exact ⟨p, hp, hle⟩
  exact ⟨_, Nat.sInf_mem hsome, fun p hp => Nat.sInf_le hp⟩

theorem isNext_self (hn : n.Prime) : IsNext n n := ⟨⟨hn, le_rfl⟩, fun _ hp => hp.2⟩

theorem IsNext.unique {p : ℕ} (hp : IsNext n p) (hq : IsNext n q) : p = q := IsLeast.unique hp hq

theorem IsNext.le_two_mul (h : IsNext n q) (hn : n ≠ 0) : q ≤ 2 * n := by
  obtain ⟨p, hp, hlt, hle⟩ := Nat.exists_prime_lt_and_le_two_mul n hn
  exact (h.2 ⟨hp, hlt.le⟩).trans hle

theorem IsNext.odd (h : IsNext n q) (hq : 3 ≤ q) : q % 2 = 1 := by
  rcases h.1.1.eq_two_or_odd with htwo | hodd
  · omega
  · exact hodd

/-- A composite number has a divisor up to the root of it, and a prime has none that is less than
itself. -/
theorem prime_iff_trial (hodd : n % 2 = 1) (hn : 5 ≤ n) :
    n.Prime ↔ ∀ x, 3 ≤ x → x ≤ Nat.sqrt n + 1 → ¬x ∣ n := by
  constructor
  · intro hprime x hmin hmax hdvd
    have hsquare := Nat.sqrt_le' n
    have hself : x ≠ n := by
      rintro rfl
      nlinarith
    rcases hprime.eq_one_or_self_of_dvd x hdvd with h | h
    · omega
    · exact hself h
  · intro hnone
    refine Nat.prime_def_le_sqrt.mpr ⟨by omega, fun x hmin hmax hdvd => ?_⟩
    by_cases htwo : x = 2
    · rw [htwo] at hdvd
      omega
    · exact hnone x (by omega) (by omega) hdvd

/-- The bound, computed with an exact root. -/
theorem floor_sqrt_add_one (n : ℕ) : ⌊√(n : ℝ) + 1⌋₊ = Nat.sqrt n + 1 := by
  rw [Nat.floor_add_one (Real.sqrt_nonneg _), Real.nat_floor_real_sqrt_eq_nat_sqrt]

end Primes

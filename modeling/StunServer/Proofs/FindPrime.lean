import StunServer.Common.FindPrime
import StunServer.Lib.Primes

/-! The width of a table is the next prime, and the loops that look for it end. -/

namespace StunServer

open Primes

/-! ### The width -/

theorem isPrimeForWidth_iff {result : ℕ} (hodd : result % 2 = 1) (hmin : 5 ≤ result) :
    isPrimeForWidth result = true ↔ result.Prime := by
  rw [prime_iff_trial hodd hmin, isPrimeForWidth, List.all_eq_true]
  constructor
  · intro hall x hx hstop hdvd
    have hmem : x ∈ List.range' 3 (Nat.sqrt result + 1 + 1 - 3) := by
      rw [List.mem_range'_1]
      omega
    exact of_decide_eq_true (hall x hmem) (Nat.mod_eq_zero_of_dvd hdvd)
  · intro hnone x hmem
    rw [List.mem_range'_1] at hmem
    exact decide_eq_true fun hzero =>
      hnone x hmem.1 (by omega) (Nat.dvd_of_mod_eq_zero hzero)

/-- The loop does not run out of passes before the next prime. -/
theorem findPrimeFrom_eq {n q : ℕ} (h : IsNext n q) (fuel : ℕ) {result : ℕ}
    (hodd : result % 2 = 1) (hmin : 5 ≤ result) (hn : n ≤ result) (hq : result ≤ q)
    (hfuel : q - result ≤ 2 * fuel) : findPrimeFrom fuel result = q := by
  induction fuel generalizing result with
  | zero =>
    rw [findPrimeFrom]
    omega
  | succ fuel ih =>
    rw [findPrimeFrom]
    split_ifs with hprime
    · exact le_antisymm hq (h.2 ⟨(isPrimeForWidth_iff hodd hmin).mp hprime, hn⟩)
    · have hne : result ≠ q := by
        rintro rfl
        exact hprime ((isPrimeForWidth_iff hodd hmin).mpr h.1.1)
      have hqodd := h.odd (by omega)
      exact ih (by omega) (by omega) (by omega) (by omega) (by omega)

theorem findPrime_isNext (n : ℕ) : IsNext (max n 2) (findPrime n) := by
  rw [findPrime]
  split_ifs with hsmall hthree heven
  · rw [max_eq_right hsmall]
    exact isNext_self Nat.prime_two
  · rw [hthree]
    exact isNext_self Nat.prime_three
  · obtain ⟨q, hq⟩ := exists_isNext n
    have hpos := hq.1.2
    have hodd := hq.odd (by omega)
    have hle := hq.le_two_mul (by omega)
    rw [max_eq_left (by omega), findPrimeFrom_eq hq n (by omega) (by omega) (by omega) (by omega)
      (by omega)]
    exact hq
  · obtain ⟨q, hq⟩ := exists_isNext n
    have hpos := hq.1.2
    have hle := hq.le_two_mul (by omega)
    rw [max_eq_left (by omega), findPrimeFrom_eq hq n (by omega) (by omega) le_rfl hpos (by omega)]
    exact hq

namespace FindPrime

/-! ### The loops -/

theorem toNat_add_eq {a b : UInt32} (h : a.toNat + b.toNat < 2 ^ 32) :
    (a + b).toNat = a.toNat + b.toNat := by
  rw [UInt32.toNat_add, Nat.mod_eq_of_lt h]

theorem sqrt_lt (result : UInt32) : Nat.sqrt result.toNat < 2 ^ 16 := by
  rw [Nat.sqrt_lt]
  exact result.toNat_lt

theorem toNat_stop (result : UInt32) : (stop result).toNat = Nat.sqrt result.toNat + 1 := by
  have hlt := sqrt_lt result
  rw [stop, UInt32.toNat_ofNat_of_lt' (by rw [UInt32.size]; omega)]

/-- The bound is the root, with one more, without its fraction. -/
theorem toNat_stop_eq_floor (result : UInt32) :
    (stop result).toNat = ⌊√(result.toNat : ℝ) + 1⌋₊ := by
  rw [toNat_stop, floor_sqrt_add_one]

/-- On the way from `n` to the next prime `q`, with no divisor found yet. -/
structure Searches (n q : ℕ) (s : Search) : Prop where
  odd : s.result.toNat % 2 = 1
  big : 5 ≤ s.result.toNat
  low : n ≤ s.result.toNat
  high : s.result.toNat ≤ q
  first : 3 ≤ s.x.toNat
  last : s.x.toNat ≤ Nat.sqrt s.result.toNat + 2
  none : ∀ y, 3 ≤ y → y < s.x.toNat → ¬y ∣ s.result.toNat

/-- What is left of the way, and of the divisors. -/
def remaining (q : ℕ) (s : Search) : ℕ := (q - s.result.toNat) * 2 ^ 17 + (2 ^ 17 - s.x.toNat)

variable {n q : ℕ} {s : Search}

theorem Searches.prime_of_lt (h : Searches n q s) (hstop : stop s.result < s.x) :
    s.result.toNat.Prime := by
  rw [UInt32.lt_iff_toNat_lt, toNat_stop] at hstop
  exact (prime_iff_trial h.odd h.big).mpr fun y hmin hmax => h.none y hmin (by omega)

theorem Searches.eq_of_lt (h : Searches n q s) (hq : IsNext n q) (hstop : stop s.result < s.x) :
    s.result.toNat = q :=
  le_antisymm h.high (hq.2 ⟨h.prime_of_lt hstop, h.low⟩)

theorem mod_eq_zero_iff {result x : UInt32} : result % x = 0 ↔ x.toNat ∣ result.toNat := by
  rw [← UInt32.toNat_inj, UInt32.toNat_mod, Nat.dvd_iff_mod_eq_zero]
  rfl

/-- Where the inner loop is entered. -/
theorem searches_first {result : UInt32} (hodd : result.toNat % 2 = 1) (hbig : 5 ≤ result.toNat)
    (hlow : n ≤ result.toNat) (hhigh : result.toNat ≤ q) : Searches n q ⟨result, 3⟩ where
  odd := hodd
  big := hbig
  low := hlow
  high := hhigh
  first := le_rfl
  last := by
    have hroot : 1 ≤ Nat.sqrt result.toNat := Nat.sqrt_pos.mpr (by omega)
    exact Nat.add_le_add_right hroot 2
  none := fun y hmin hmax => absurd hmax (not_lt.mpr hmin)

/-- With a divisor the number is composite, so that the next odd one is still on the way. -/
theorem Searches.next (h : Searches n q s) (hq : IsNext n q) (hbound : q < 2 ^ 32)
    (hle : s.x ≤ stop s.result) (hdvd : s.x.toNat ∣ s.result.toNat) :
    Searches n q ⟨s.result + 2, 3⟩ ∧ (s.result + 2).toNat = s.result.toNat + 2 := by
  rw [UInt32.le_iff_toNat_le, toNat_stop] at hle
  have hne : s.result.toNat ≠ q := by
    intro heq
    have hprime : s.result.toNat.Prime := heq ▸ hq.1.1
    exact (prime_iff_trial h.odd h.big).mp hprime _ h.first hle hdvd
  have hqodd := hq.odd (by have := h.big; have := h.high; omega)
  obtain ⟨hodd, hbig, hlow, hhigh, -, -, -⟩ := h
  have hadd : (s.result + 2).toNat = s.result.toNat + 2 :=
    toNat_add_eq (show s.result.toNat + 2 < 2 ^ 32 by omega)
  exact ⟨searches_first (by omega) (by omega) (by omega) (by omega), hadd⟩

/-- Without one the next divisor is tried. -/
theorem Searches.step (h : Searches n q s) (hle : s.x ≤ stop s.result)
    (hdvd : ¬s.x.toNat ∣ s.result.toNat) :
    Searches n q ⟨s.result, s.x + 1⟩ ∧ (s.x + 1).toNat = s.x.toNat + 1 := by
  rw [UInt32.le_iff_toNat_le, toNat_stop] at hle
  have hlt := sqrt_lt s.result
  obtain ⟨hodd, hbig, hlow, hhigh, hfirst, hlast, hnone⟩ := h
  have hadd : (s.x + 1).toNat = s.x.toNat + 1 :=
    toNat_add_eq (show s.x.toNat + 1 < 2 ^ 32 by omega)
  refine ⟨⟨hodd, hbig, hlow, hhigh, ?_, ?_, ?_⟩, hadd⟩
  all_goals dsimp only
  · omega
  · omega
  · intro y hmin hmax
    rw [hadd] at hmax
    rcases Nat.lt_succ_iff_lt_or_eq.mp hmax with hless | heq
    · exact hnone y hmin hless
    · rw [heq]
      exact hdvd

theorem keeps_pass (hq : IsNext n q) (hbound : q < 2 ^ 32) :
    Loop.Keeps pass (Searches n q) (fun r => r.toNat = q) (remaining q) := by
  refine Loop.Keeps.of_pass fun s h => ?_
  have hx : s.x.toNat < 2 ^ 17 := by
    have := h.last
    have := sqrt_lt s.result
    omega
  rw [pass]
  split_ifs with hle hzero
  · rw [mod_eq_zero_iff] at hzero
    obtain ⟨hnext, hadd⟩ := h.next hq hbound hle hzero
    refine .inr ⟨_, rfl, hnext, ?_⟩
    have hhigh := hnext.high
    have hthree : (3 : UInt32).toNat = 3 := rfl
    simp only [remaining, hadd, hthree] at hhigh ⊢
    omega
  · rw [mod_eq_zero_iff] at hzero
    obtain ⟨hstep, hadd⟩ := h.step hle hzero
    refine .inr ⟨_, rfl, hstep, ?_⟩
    simp only [remaining, hadd]
    omega
  · exact .inl ⟨_, rfl, h.eq_of_lt hq (UInt32.not_le.mp hle)⟩

theorem searches_start {val : UInt32} (hbig : 3 < val.toNat) (hval : val.toNat < 2 ^ 31)
    (hq : IsNext val.toNat q) : Searches val.toNat q (start val) := by
  have hlow := hq.1.2
  have hodd := hq.odd (by omega)
  have heven : val % 2 = 0 ↔ 2 ∣ val.toNat := mod_eq_zero_iff
  rw [start]
  split_ifs with htwo
  · rw [heven] at htwo
    have hadd : (val + 1).toNat = val.toNat + 1 :=
      toNat_add_eq (show val.toNat + 1 < 2 ^ 32 by omega)
    exact searches_first (by omega) (by omega) (by omega) (by omega)
  · rw [heven] at htwo
    exact searches_first (by omega) (by omega) le_rfl hlow

/-- The machine's numbers are wide enough for the next prime of a number below `2 ^ 31`. -/
theorem run_eq {val : UInt32} (hval : val.toNat < 2 ^ 31) :
    ∃ passes width, (∀ fuel, passes < fuel → run fuel val = some width) ∧
      width.toNat = findPrime val.toNat := by
  have hnext := findPrime_isNext val.toNat
  by_cases hsmall : val.toNat ≤ 2
  · refine ⟨0, 2, fun fuel _ => ?_, ?_⟩
    · rw [run, if_pos (UInt32.le_iff_toNat_le.mpr hsmall)]
    · rw [findPrime, if_pos hsmall]
      rfl
  · have hsmall' : ¬val ≤ 2 := fun h => hsmall (UInt32.le_iff_toNat_le.mp h)
    by_cases hthree : val.toNat = 3
    · refine ⟨0, 3, fun fuel _ => ?_, ?_⟩
      · rw [run, if_neg hsmall', if_pos (UInt32.toNat_inj.mp hthree)]
      · rw [findPrime, if_neg hsmall, if_pos hthree]
        rfl
    · have hthree' : ¬val = 3 := fun h => hthree (congrArg UInt32.toNat h)
      rw [max_eq_left (by omega)] at hnext
      have hle := hnext.le_two_mul (by omega)
      have hstart := searches_start (by omega) hval hnext
      have hkeeps := keeps_pass hnext (by omega)
      obtain ⟨width, -, hwidth⟩ := hkeeps.run hstart (Nat.lt_succ_self _)
      refine ⟨remaining (findPrime val.toNat) (start val), width, fun fuel hfuel => ?_, hwidth⟩
      obtain ⟨width', hrun, hwidth'⟩ := hkeeps.run hstart hfuel
      rw [run, if_neg hsmall', if_neg hthree', hrun, UInt32.toNat_inj.mp (hwidth'.trans hwidth.symm)]

end FindPrime

end StunServer

import StunServer.Proofs.FindPrime

/-! A table gets the least prime width that is large enough. -/

namespace StunServer

open Primes

theorem hashTableWidth_isLeast (maxConnections : UInt32)
    (hmax : maxConnections.toNat < 2 ^ 31) :
    ∃ passes width, (∀ fuel, passes < fuel → FindPrime.run fuel maxConnections = some width) ∧
      width.toNat = FastHash_GetHashTableWidth maxConnections.toNat ∧
      IsLeast {p | p.Prime ∧ max maxConnections.toNat 2 ≤ p} width.toNat := by
  obtain ⟨passes, width, hends, hwidth⟩ := FindPrime.run_eq hmax
  refine ⟨passes, width, hends, hwidth, ?_⟩
  rw [hwidth]
  exact findPrime_isNext maxConnections.toNat

/-- A table for 25 items: 25 and 27 are not prime. -/
theorem hashTableWidth_25 :
    ∃ passes, ∀ fuel, passes < fuel → FindPrime.run fuel 25 = some 29 := by
  obtain ⟨passes, width, hends, hwidth, -⟩ := hashTableWidth_isLeast 25 (by decide)
  have hvalue : width = 29 := UInt32.toNat_inj.mp (hwidth.trans (by decide +kernel))
  exact ⟨passes, fun fuel hfuel => hvalue ▸ hends fuel hfuel⟩

end StunServer

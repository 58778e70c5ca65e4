import StunServer.Common.FastHash
import StunServer.Lib.Loop

/-! The two loops of `FindPrime` in `common/fasthash.cpp`, on the machine's numbers. -/

namespace StunServer.FindPrime

/-- The number that is tested, and what it is divided by. -/
structure Search where
  result : UInt32
  x : UInt32
deriving DecidableEq, Repr

/-- `(unsigned int)(sqrt(result)+1)`, with an exact root. -/
def stop (result : UInt32) : UInt32 := UInt32.ofNat (Nat.sqrt result.toNat + 1)

/-- A pass of the inner loop. With a divisor it ends, and the outer one goes on with the next odd
number; without any it ends both. -/
def pass (s : Search) : UInt32 ⊕ Search :=
  if s.x ≤ stop s.result then
    if s.result % s.x = 0 then .inr ⟨s.result + 2, 3⟩ else .inr ⟨s.result, s.x + 1⟩
  else .inl s.result

/-- Where the loops are entered. -/
def start (val : UInt32) : Search := ⟨if val % 2 = 0 then val + 1 else val, 3⟩

/-- All of it, in at most so many passes. -/
def run (fuel : ℕ) (val : UInt32) : Option UInt32 :=
  if val ≤ 2 then some 2
  else if val = 3 then some 3
  else Loop.run pass fuel (start val)

end StunServer.FindPrime

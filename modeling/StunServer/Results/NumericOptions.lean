import StunServer.Spec.Number

/-! What `ValidateNumberString` takes for a number. It leaves the reading to `atoi`, which has
no notion of a string that is none. -/

namespace StunServer

open Bytes

theorem bmod_eq_of_dvd {V n : ℤ} (h : (2 : ℤ) ^ 32 ∣ V - n) (hmin : 0 ≤ n) (hmax : n < 2 ^ 31) :
    V.bmod (2 ^ 32) = n := by
  obtain ⟨k, hk⟩ := h
  obtain rfl : V = n + 2 ^ 32 * k := by omega
  rw [Int.bmod_def]
  omega

theorem dvd_sub_bmod (V : ℤ) : (2 : ℤ) ^ 32 ∣ V - V.bmod (2 ^ 32) := by
  rw [Int.bmod_def]
  omega

theorem unsigned_bmod {digits : List UInt8} (h : (valueOf digits : ℤ) < 2 ^ 31) :
    (signedValue [] digits).bmod (2 ^ 32) = valueOf digits := by
  refine bmod_eq_of_dvd ?_ (by omega) h
  rw [signedValue, if_neg (by decide), sub_self]
  exact dvd_zero _

/-- A number of the range. -/
structure IsNumberIn (s : List UInt8) (lo hi : ℤ) (v : ℕ) : Prop where
  number : IsNumber s v
  min : lo ≤ v
  max : v ≤ hi

/-- A string that passes for a number of the range: its value does after the reduction to 32 bits,
but it has a sign, or no digit, or something behind its digits, or is above the range. -/
def IsMisread (s : List UInt8) (lo hi : ℤ) : Prop :=
  s ≠ [] ∧ ∃ front sign digits rest, IsReading s front sign digits rest ∧
    (∃ n, lo ≤ n ∧ n ≤ hi ∧ (2 : ℤ) ^ 32 ∣ signedValue sign digits - n) ∧
    ¬(sign = [] ∧ digits ≠ [] ∧ IsBlank rest ∧ valueOf digits ≤ hi)

section

variable {s : List UInt8} {lo hi : ℤ}

theorem IsNumberIn.atoi_eq {v : ℕ} (h : IsNumberIn s lo hi v) (hhi : hi < 2 ^ 31) :
    s ≠ [] ∧ atoi s = v := by
  obtain ⟨front, sign, digits, rest, hread⟩ := exists_reading s
  obtain ⟨⟨rfl, hdigits, -⟩, hvalue⟩ := hread.isNumber_iff.mp h.number
  constructor
  · rintro rfl
    exact h.number.nonempty rfl
  · have hmax := h.max
    rw [hread.atoi_eq, unsigned_bmod (by omega), hvalue]

theorem misread_iff (hlo : 0 ≤ lo) (hhi : hi < 2 ^ 31) : IsMisread s lo hi ↔
    (s ≠ [] ∧ lo ≤ atoi s ∧ atoi s ≤ hi) ∧ ¬∃ v, IsNumberIn s lo hi v := by
  obtain ⟨front, sign, digits, rest, hread⟩ := exists_reading s
  constructor
  · rintro ⟨hne, front', sign', digits', rest', hread', ⟨n, hmin, hmax, hdvd⟩, hplain⟩
    have hatoi : atoi s = n := by
      rw [hread'.atoi_eq]
      exact bmod_eq_of_dvd hdvd (by omega) (by omega)
    refine ⟨⟨hne, by omega, by omega⟩, ?_⟩
    rintro ⟨v, hv⟩
    obtain ⟨⟨hsign, hdigits, hrest⟩, hvalue⟩ := hread'.isNumber_iff.mp hv.number
    have hle := hv.max
    exact hplain ⟨hsign, hdigits, hrest, by omega⟩
  · rintro ⟨⟨hne, hmin, hmax⟩, hnone⟩
    rw [hread.atoi_eq] at hmin hmax
    refine ⟨hne, front, sign, digits, rest, hread, ⟨_, hmin, hmax, dvd_sub_bmod _⟩, ?_⟩
    rintro ⟨rfl, hdigits, hrest, hle⟩
    rw [unsigned_bmod (by omega)] at hmin
    exact hnone ⟨valueOf digits,
      ⟨hread.isNumber_iff.mpr ⟨⟨rfl, hdigits, hrest⟩, rfl⟩, hmin, hle⟩⟩

end

namespace StringHelper

/-- What the function returns, besides what it stores. -/
def returned (call : Except HRESULT ℤ) : HRESULT :=
  match call with
  | .ok _ => S_OK
  | .error hr => hr

/-- The numbers of the range are accepted and stored, whatever the variable held before, and nothing
else is. -/
structure IsValidated (psz : List UInt8) (nMinValue nMaxValue nResult : ℤ) : Prop where
  accepts : returned (validateNumberString psz nMinValue nMaxValue) = S_OK ↔
    ∃ v, IsNumberIn (cstr psz) nMinValue nMaxValue v
  stores : ∀ v, IsNumberIn (cstr psz) nMinValue nMaxValue v →
    outOr (validateNumberString psz nMinValue nMaxValue) nResult = v
  refuses : (¬∃ v, IsNumberIn (cstr psz) nMinValue nMaxValue v) →
    returned (validateNumberString psz nMinValue nMaxValue) < 0 ∧
      outOr (validateNumberString psz nMinValue nMaxValue) nResult = nResult

variable {nMinValue nMaxValue : ℤ}

/-- A string is validated just if it is not misread. -/
theorem validated_iff (hmin : 0 ≤ nMinValue) (hmax : nMaxValue < 2 ^ 31) (psz : List UInt8)
    (nResult : ℤ) :
    IsValidated psz nMinValue nMaxValue nResult ↔ ¬IsMisread (cstr psz) nMinValue nMaxValue := by
  have hnumber : ∀ v, IsNumberIn (cstr psz) nMinValue nMaxValue v →
      cstr psz ≠ [] ∧ atoi psz = v := by
    intro v hv
    obtain ⟨hne, hvalue⟩ := hv.atoi_eq hmax
    rw [atoi_cstr] at hvalue
    exact ⟨hne, hvalue⟩
  have hmisread := misread_iff (s := cstr psz) hmin hmax
  rw [atoi_cstr] at hmisread
  rw [hmisread]
  by_cases htaken : cstr psz ≠ [] ∧ nMinValue ≤ atoi psz ∧ atoi psz ≤ nMaxValue
  · have hcall : validateNumberString psz nMinValue nMaxValue = .ok (atoi psz) := by
      rw [validateNumberString_eq, if_pos htaken]
    constructor
    · intro hvalid hnone
      refine hnone.2 (hvalid.accepts.mp ?_)
      rw [hcall]
      rfl
    · intro hsome
      have hv : ∃ v, IsNumberIn (cstr psz) nMinValue nMaxValue v := by
        by_contra hnone
        exact hsome ⟨htaken, hnone⟩
      refine ⟨iff_of_true (by rw [hcall]; rfl) hv, fun v hv' => ?_, fun hnone => absurd hv hnone⟩
      rw [hcall]
      exact (hnumber v hv').2
  · have hcall : validateNumberString psz nMinValue nMaxValue = .error (-1) := by
      rw [validateNumberString_eq, if_neg htaken]
    have hnone : ¬∃ v, IsNumberIn (cstr psz) nMinValue nMaxValue v := by
      rintro ⟨v, hv⟩
      obtain ⟨hne, hvalue⟩ := hnumber v hv
      have hlow := hv.min
      have hhigh := hv.max
      exact htaken ⟨hne, by omega, by omega⟩
    refine iff_of_true ⟨iff_of_false ?_ hnone, fun v hv => absurd ⟨v, hv⟩ hnone, fun _ => ?_⟩
      fun h => htaken h.1
    · rw [hcall]
      decide
    · rw [hcall]
      exact ⟨by decide, rfl⟩

/-- White space around a port is no harm. -/
theorem validated_padded : IsValidated (chars " 80 ") 1 0xffff 3478 := by
  refine (validated_iff (by decide) (by decide) _ _).mpr fun hmisread => ?_
  have hnumber : IsNumber (cstr (chars " 80 ")) 80 :=
    ⟨by decide, List.all_eq_true.mp rfl, rfl⟩
  exact ((misread_iff (by decide) (by decide)).mp hmisread).2
    ⟨80, hnumber, by decide, by decide⟩

/-- `--primaryport 12abc` is taken for 12, and `--primaryport 4294967297` for 1. -/
theorem not_validated :
    (validateNumberString (chars "12abc") 1 0xffff = .ok 12 ∧
      ¬IsValidated (chars "12abc") 1 0xffff 3478) ∧
    validateNumberString (chars "4294967297") 1 0xffff = .ok 1 ∧
      ¬IsValidated (chars "4294967297") 1 0xffff 3478 := by
  refine ⟨⟨rfl, fun hvalid => ?_⟩, rfl, fun hvalid => ?_⟩
  · obtain ⟨v, hv⟩ := hvalid.accepts.mp rfl
    exact absurd (hv.number.digits 97 (by decide)) (by decide)
  · obtain ⟨v, hv⟩ := hvalid.accepts.mp rfl
    have hvalue : valueOf (strip (cstr (chars "4294967297"))) = 4294967297 := rfl
    have hmax := hv.max
    rw [← hv.number.value, hvalue] at hmax
    exact absurd hmax (by decide)

end StringHelper
end StunServer

import StunServer.Core.SampleAuthProvider
import StunServer.Spec.Number

/-! Nonces as strings: how one is taken apart, and what number its time is read as. -/

namespace StunServer

/-! ### Numbers -/

theorem atoi_digits {digits : List UInt8} (h : ∀ ch ∈ digits, isDigit ch = true) :
    atoi digits = (valueOf digits : ℤ).bmod (2 ^ 32) := by
  have hread : IsReading digits [] [] digits [] :=
    { parts := (List.append_nil digits).symm
      blank := nofun
      signed := Or.inl rfl
      numeric := h
      stops := nofun
      bare := by
        intro _ ch hch
        rw [List.append_nil] at hch
        exact isDigit_plain (h ch (List.mem_of_mem_head? hch)) }
  exact hread.atoi_eq

namespace SampleAuthProvider

theorem isDigit_toUInt8 {c : Char} (h : c.isDigit = true) :
    isDigit c.toUInt8 = true ∧ c.toUInt8.toNat = c.toNat := by
  simp only [Char.isDigit, Bool.and_eq_true, decide_eq_true_eq] at h
  have hlow : 48 ≤ c.toNat := h.1
  have hhigh : c.toNat ≤ 57 := h.2
  have hvalue : c.toUInt8.toNat = c.toNat := by
    change c.toNat % 256 = c.toNat
    omega
  refine ⟨?_, hvalue⟩
  simp only [isDigit, Bool.and_eq_true, decide_eq_true_eq, UInt8.le_iff_toNat_le]
  rw [hvalue]
  exact ⟨hlow, hhigh⟩

theorem isDigit_decimal (n : ℕ) : ∀ ch ∈ decimal n, isDigit ch = true := by
  intro ch hch
  obtain ⟨c, hc, rfl⟩ := List.mem_map.mp hch
  exact (isDigit_toUInt8 (Nat.isDigit_of_mem_toDigits (by decide) (by decide) hc)).1

theorem valueOf_decimal (n : ℕ) : valueOf (decimal n) = n := by
  have hfold : ∀ (cs : List Char) (v : ℕ), (∀ c ∈ cs, c.isDigit = true) →
      (cs.map Char.toUInt8).foldl (fun v ch => 10 * v + (ch.toNat - 48)) v =
        Nat.ofDigitChars 10 cs v := by
    intro cs
    induction cs with
    | nil => exact fun v _ => Nat.ofDigitChars_nil.symm
    | cons c cs ih =>
      intro v h
      have hc := (isDigit_toUInt8 (h c List.mem_cons_self)).2
      rw [List.map_cons, List.foldl_cons, Nat.ofDigitChars_cons, hc]
      exact ih _ fun c' hc' => h c' (List.mem_cons_of_mem c hc')
  rw [valueOf, decimal,
    hfold _ 0 fun c hc => Nat.isDigit_of_mem_toDigits (by decide) (by decide) hc]
  exact Nat.ofDigitChars_ten_toDigits

theorem atoi_decimal {n : ℕ} (h : n < 2 ^ 31) : atoi (decimal n) = n := by
  rw [atoi_digits (isDigit_decimal n), valueOf_decimal, Int.bmod_eq_of_le] <;> omega

theorem decimal_length_le {n : ℕ} (h : n < 2 ^ 32) : (decimal n).length ≤ 10 := by
  rw [decimal, List.length_map, Nat.length_toDigits_le_iff (by decide) (by decide)]
  omega

/-! ### Hex digits -/

theorem hexDigit_injective : ∀ m < 16, ∀ n < 16, hexDigit m = hexDigit n → m = n := by decide

theorem hexDigit_plain : ∀ n < 16, hexDigit n ≠ 0 ∧ hexDigit n ≠ 58 := by decide

theorem hmacToString_injective {s s' : List UInt8} (h : hmacToString s = hmacToString s') :
    s = s' := by
  induction s generalizing s' with
  | nil =>
    cases s' with
    | nil => rfl
    | cons b s' => cases h
  | cons b s ih =>
    cases s' with
    | nil => cases h
    | cons b' s' =>
      have hb := b.toNat_lt
      have hb' := b'.toNat_lt
      obtain ⟨hhigh, htail⟩ := List.cons.inj h
      obtain ⟨hlow, hrest⟩ := List.cons.inj htail
      have hdiv := hexDigit_injective _ (by omega) _ (by omega) hhigh
      have hmod := hexDigit_injective _ (by omega) _ (by omega) hlow
      have heq : b = b' := by
        rw [← UInt8.toNat_inj]
        omega
      rw [heq, ih hrest]

theorem hmacToString_length (s : List UInt8) : (hmacToString s).length = 2 * s.length := by
  induction s with
  | nil => rfl
  | cons b s ih =>
    change (hmacToString s).length + 1 + 1 = 2 * (s.length + 1)
    omega

theorem hmacToString_plain (s : List UInt8) : ∀ ch ∈ hmacToString s, ch ≠ 0 := by
  intro ch hch
  obtain ⟨b, -, hb⟩ := List.mem_flatMap.mp hch
  have hlt := b.toNat_lt
  rcases List.mem_cons.mp hb with rfl | hb
  · exact (hexDigit_plain _ (by omega)).1
  · rw [List.mem_singleton.mp hb]
    exact (hexDigit_plain _ (by omega)).1

/-! ### A nonce taken apart -/

theorem takeWhile_colon {szTime : List UInt8} (h : ∀ ch ∈ szTime, ch ≠ 58)
    (rest : List UInt8) :
    (szTime ++ 58 :: rest).takeWhile (· ≠ 58) = szTime ∧
      (szTime ++ 58 :: rest).dropWhile (· ≠ 58) = 58 :: rest := by
  have hall : ∀ ch ∈ szTime, decide (ch ≠ 58) = true := fun ch hch => decide_eq_true (h ch hch)
  rw [List.takeWhile_append_of_pos hall, List.dropWhile_append_of_pos hall]
  simp

/-- What `ValidateNonce` makes of a time and a signature. -/
theorem validateNonce_parts (D : Digests) (thecurrenttime : ℤ) {szTime right : List UInt8}
    (htime : ∀ ch ∈ szTime, ch ≠ 0 ∧ ch ≠ 58) (hright : ∀ ch ∈ right, ch ≠ 0)
    (hlen : szTime.length + right.length ≤ 98) :
    validateNonce D thecurrenttime (szTime ++ 58 :: right) = S_OK ↔
      (0 ≤ thecurrenttime - atoi szTime ∧ thecurrenttime - atoi szTime ≤ 120) ∧
        sign D szTime = right := by
  have hcstr : cstr (szTime ++ 58 :: right) = szTime ++ 58 :: right := by
    refine List.takeWhile_eq_self_iff.mpr fun ch hch => decide_eq_true ?_
    rcases List.mem_append.mp hch with hch | hch
    · exact (htime ch hch).1
    · rcases List.mem_cons.mp hch with rfl | hch
      · decide
      · exact hright ch hch
  have htake : (szTime ++ 58 :: right).take 99 = szTime ++ 58 :: right := by
    refine List.take_of_length_le ?_
    rw [List.length_append, List.length_cons]
    omega
  obtain ⟨hleft, hdrop⟩ := takeWhile_colon (fun ch hch => (htime ch hch).2) right
  rw [validateNonce, hcstr, htake, hdrop]
  dsimp only
  rw [hleft]
  split_ifs with hdiff hsign
  · refine iff_of_false (by decide) fun h => ?_
    omega
  · exact iff_of_false (by decide) fun h => hsign h.2
  · exact iff_of_true rfl ⟨by omega, not_not.mp hsign⟩

end SampleAuthProvider
end StunServer

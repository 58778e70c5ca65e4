import StunServer.Common.StringHelper

/-! Strings with white space around them: what trimming leaves, and what a number is read as. -/

namespace StunServer

open Bytes

/-- No white space in it. -/
def IsClean (s : List UInt8) : Prop := ∀ ch ∈ s, IsWhitespace ch = false

/-- Nothing but white space. -/
def IsBlank (s : List UInt8) : Prop := ∀ ch ∈ s, IsWhitespace ch = true

instance (s : List UInt8) : Decidable (IsClean s) :=
  List.decidableBAll (fun ch => IsWhitespace ch = false) s

instance (s : List UInt8) : Decidable (IsBlank s) :=
  List.decidableBAll (fun ch => IsWhitespace ch = true) s

/-- White space added in front and behind. -/
def IsPadded (s t : List UInt8) : Prop :=
  ∃ front back, IsBlank front ∧ IsBlank back ∧ t = front ++ s ++ back

/-! ### Characters -/

theorem isWhitespace_iff (ch : UInt8) :
    IsWhitespace ch = true ↔ (9 ≤ ch.toNat ∧ ch.toNat ≤ 13) ∨ ch.toNat = 32 := by
  simp only [IsWhitespace, Bool.or_eq_true, Bool.and_eq_true, decide_eq_true_eq,
    UInt8.le_iff_toNat_le, ← UInt8.toNat_inj]
  exact Iff.rfl

theorem isWhitespace_ne_zero {ch : UInt8} (h : IsWhitespace ch = true) : ch ≠ 0 := by
  rintro rfl
  exact absurd h (by decide)

theorem isWhitespace_not_digit {ch : UInt8} (h : IsWhitespace ch = true) : isDigit ch = false := by
  rw [isWhitespace_iff] at h
  simp only [isDigit, Bool.and_eq_false_iff, decide_eq_false_iff_not, UInt8.le_iff_toNat_le]
  change ¬48 ≤ ch.toNat ∨ ¬ch.toNat ≤ 57
  omega

/-- A digit is no white space and no sign. -/
theorem isDigit_plain {ch : UInt8} (h : isDigit ch = true) :
    IsWhitespace ch = false ∧ ch ≠ 45 ∧ ch ≠ 43 := by
  simp only [isDigit, IsWhitespace, Bool.and_eq_true, decide_eq_true_eq, UInt8.le_iff_toNat_le,
    Bool.or_eq_false_iff, Bool.and_eq_false_iff, decide_eq_false_iff_not, ne_eq,
    ← UInt8.toNat_inj] at h ⊢
  change 48 ≤ ch.toNat ∧ ch.toNat ≤ 57 at h
  change ((¬9 ≤ ch.toNat ∨ ¬ch.toNat ≤ 13) ∧ ¬ch.toNat = 32) ∧ ¬ch.toNat = 45 ∧ ¬ch.toNat = 43
  omega

theorem isWhitespace_lower (ch : UInt8) :
    IsWhitespace (if 65 ≤ ch ∧ ch ≤ 90 then ch + 32 else ch) = IsWhitespace ch := by
  split_ifs with hupper
  · simp only [UInt8.le_iff_toNat_le] at hupper
    change 65 ≤ ch.toNat ∧ ch.toNat ≤ 90 at hupper
    have hvalue : (ch + 32).toNat = ch.toNat + 32 := by
      rw [UInt8.toNat_add]
      change (ch.toNat + 32) % 256 = _
      omega
    rw [Bool.eq_iff_iff, isWhitespace_iff, isWhitespace_iff, hvalue]
    omega
  · rfl

/-! ### Blanks -/

section

variable {s t front back : List UInt8}

theorem IsPadded.refl (s : List UInt8) : IsPadded s s :=
  ⟨[], [], nofun, nofun, by rw [List.append_nil, List.nil_append]⟩

theorem IsPadded.blank_of_nil (h : IsPadded [] t) : IsBlank t := by
  obtain ⟨front, back, hfront, hback, rfl⟩ := h
  rw [List.append_nil]
  exact fun ch hch => (List.mem_append.mp hch).elim (hfront ch) (hback ch)

theorem IsPadded.eq_nil (h : IsPadded s t) (ht : t = []) : s = [] := by
  obtain ⟨front, back, -, -, rfl⟩ := h
  exact (List.append_eq_nil_iff.mp (List.append_eq_nil_iff.mp ht).1).2

theorem IsBlank.eq_nil (h : IsBlank t) (ht : IsClean t) : t = [] := by
  cases t with
  | nil => rfl
  | cons ch t =>
    have hch := h ch List.mem_cons_self
    rw [ht ch List.mem_cons_self] at hch
    cases hch

theorem IsBlank.cstr (h : IsBlank t) : cstr t = t :=
  List.takeWhile_eq_self_iff.mpr fun ch hch => decide_eq_true (isWhitespace_ne_zero (h ch hch))

theorem IsClean.toLower (h : IsClean s) : IsClean (StringHelper.toLower s) := by
  intro ch hch
  obtain ⟨ch', hch', rfl⟩ := List.mem_map.mp hch
  rw [isWhitespace_lower]
  exact h ch' hch'

theorem IsBlank.toLower (h : IsBlank t) : IsBlank (StringHelper.toLower t) := by
  intro ch hch
  obtain ⟨ch', hch', rfl⟩ := List.mem_map.mp hch
  rw [isWhitespace_lower]
  exact h ch' hch'

theorem IsPadded.toLower (h : IsPadded s t) :
    IsPadded (StringHelper.toLower s) (StringHelper.toLower t) := by
  obtain ⟨front, back, hfront, hback, rfl⟩ := h
  refine ⟨StringHelper.toLower front, StringHelper.toLower back, hfront.toLower, hback.toLower, ?_⟩
  simp only [StringHelper.toLower, List.map_append]

theorem toLower_eq_nil : StringHelper.toLower s = [] ↔ s = [] := List.map_eq_nil_iff

/-! ### `Trim` -/

namespace StringHelper

theorem trimRange_whitespace {ch : UInt8} (h : IsWhitespace ch = true) (psz : List UInt8)
    (index : ℕ) (range : Option (ℕ × ℕ)) :
    trimRange (ch :: psz) index range = trimRange psz (index + 1) range := by
  cases range with
  | none => rw [trimRange, if_pos h]
  | some range => rw [trimRange, if_pos h]

theorem trimRange_blank (h : IsBlank front) (rest : List UInt8) (index : ℕ)
    (range : Option (ℕ × ℕ)) :
    trimRange (front ++ rest) index range = trimRange rest (index + front.length) range := by
  induction front generalizing index with
  | nil => rfl
  | cons ch front ih =>
    rw [List.cons_append, trimRange_whitespace (h ch List.mem_cons_self),
      ih fun ch' hch' => h ch' (List.mem_cons_of_mem ch hch')]
    rw [List.length_cons]
    congr 1
    omega

/-- Each character that is not white space may be the last. -/
theorem trimRange_clean (h : IsClean s) (rest : List UInt8) (index start : ℕ) :
    trimRange (s ++ rest) (index + 1) (some (start, index)) =
      trimRange rest (index + 1 + s.length) (some (start, index + s.length)) := by
  induction s generalizing index with
  | nil => rfl
  | cons ch s ih =>
    have hch : ¬IsWhitespace ch = true := by
      rw [h ch List.mem_cons_self]
      decide
    rw [List.cons_append, trimRange.eq_def]
    dsimp only
    rw [if_neg hch, ih fun ch' hch' => h ch' (List.mem_cons_of_mem ch hch'), List.length_cons]
    congr 1
    · omega
    · congr 2
      omega

theorem trim_blank (h : IsBlank t) : trim t = t := by
  have hrange := trimRange_blank h [] 0 none
  rw [List.append_nil] at hrange
  rw [trim, hrange]
  rfl

/-- The white space around a string is cut off, unless there is no string. -/
theorem trim_padded (hs : IsClean s) (h : IsPadded s t) : trim t = if s = [] then t else s := by
  cases s with
  | nil => exact trim_blank h.blank_of_nil
  | cons ch s =>
    obtain ⟨front, back, hfront, hback, rfl⟩ := h
    have hch : ¬IsWhitespace ch = true := by
      rw [hs ch List.mem_cons_self]
      decide
    have hrange : trimRange (front ++ (ch :: s) ++ back) 0 none =
        some (front.length, front.length + s.length) := by
      rw [List.append_assoc, trimRange_blank hfront, Nat.zero_add, List.cons_append, trimRange,
        if_neg hch]
      have hback' := trimRange_blank hback [] (front.length + 1 + s.length)
        (some (front.length, front.length + s.length))
      rw [List.append_nil] at hback'
      rw [trimRange_clean fun ch' hch' => hs ch' (List.mem_cons_of_mem ch hch'), hback']
      rfl
    rw [trim, hrange, if_neg (List.cons_ne_nil ch s)]
    dsimp only
    rw [slice, List.append_assoc, List.drop_left, Nat.add_sub_cancel_left]
    exact List.take_left' (List.length_cons)

theorem trim_clean (hs : IsClean s) : trim s = s := by
  rw [trim_padded hs (IsPadded.refl s)]
  exact ite_eq_right_iff.mpr fun _ => rfl

end StringHelper

/-! ### `atoi` -/

theorem dropWhile_blank (h : IsBlank front) (rest : List UInt8) :
    (front ++ rest).dropWhile IsWhitespace = rest.dropWhile IsWhitespace :=
  List.dropWhile_append_of_pos h

theorem takeWhile_digits (h : IsBlank back) (s : List UInt8) :
    (s ++ back).takeWhile isDigit = s.takeWhile isDigit := by
  induction s with
  | nil =>
    cases back with
    | nil => rfl
    | cons ch back =>
      rw [List.nil_append, List.takeWhile_cons, isWhitespace_not_digit (h ch List.mem_cons_self)]
      rfl
  | cons ch s ih =>
    rw [List.cons_append, List.takeWhile_cons, List.takeWhile_cons, ih]

theorem atoi_blank (h : IsBlank t) : atoi t = 0 := by
  have hdrop := dropWhile_blank h []
  rw [List.append_nil] at hdrop
  rw [atoi, hdrop]
  rfl

theorem readSign_append {ch : UInt8} (s back : List UInt8) :
    readSign (ch :: s ++ back) = ((readSign (ch :: s)).1, (readSign (ch :: s)).2 ++ back) := by
  rw [List.cons_append, readSign, readSign]
  split_ifs <;> rfl

/-- White space changes nothing about a number. -/
theorem atoi_padded (hs : IsClean s) (h : IsPadded s t) : atoi t = atoi s := by
  cases s with
  | nil => exact atoi_blank h.blank_of_nil
  | cons ch s =>
    obtain ⟨front, back, hfront, hback, rfl⟩ := h
    have hch : IsWhitespace ch = false := hs ch List.mem_cons_self
    have hkeep : ∀ rest : List UInt8,
        (ch :: s ++ rest).dropWhile IsWhitespace = ch :: s ++ rest := by
      intro rest
      rw [List.cons_append, List.dropWhile_cons, hch]
      rfl
    have hself := hkeep []
    rw [List.append_nil] at hself
    rw [atoi, atoi, List.append_assoc, dropWhile_blank hfront, hkeep, hself, readSign_append]
    dsimp only
    rw [takeWhile_digits hback]

/-- No number starts with a terminator. -/
theorem atoi_of_isNullOrEmpty (h : StringHelper.isNullOrEmpty s = true) : atoi s = 0 := by
  rw [StringHelper.isNullOrEmpty, decide_eq_true_eq] at h
  cases s with
  | nil => rfl
  | cons ch s =>
    have hch : ch = 0 := by
      by_contra hne
      rw [cstr, List.takeWhile_cons, if_pos (decide_eq_true hne)] at h
      cases h
    subst hch
    have hdrop : (0 :: s).dropWhile IsWhitespace = 0 :: s := rfl
    have hsign : readSign (0 :: s) = (false, 0 :: s) := rfl
    have hdigits : (0 :: s).takeWhile isDigit = [] := rfl
    rw [atoi, hdrop, hsign]
    dsimp only
    rw [hdigits]
    rfl

theorem StringHelper.validateNumberString_eq (psz : List UInt8) (lo hi : ℤ) :
    validateNumberString psz lo hi =
      if cstr psz ≠ [] ∧ lo ≤ atoi psz ∧ atoi psz ≤ hi then .ok (atoi psz) else .error (-1) := by
  simp only [validateNumberString, isNullOrEmpty, decide_eq_true_eq]
  by_cases hempty : cstr psz = []
  · rw [if_pos hempty, if_neg fun h => h.1 hempty]
  rw [if_neg hempty]
  by_cases hlo : atoi psz < lo
  · rw [if_pos hlo, if_neg fun h => by omega]
  rw [if_neg hlo]
  by_cases hhi : atoi psz > hi
  · rw [if_pos hhi, if_neg fun h => by omega]
  · rw [if_neg hhi, if_pos ⟨hempty, by omega, by omega⟩]

/-- With a positive minimum no string is refused for being empty alone. -/
theorem StringHelper.validateNumberString_pos {lo hi : ℤ} (hlo : 0 < lo) (psz : List UInt8) :
    validateNumberString psz lo hi =
      if lo ≤ atoi psz ∧ atoi psz ≤ hi then .ok (atoi psz) else .error (-1) := by
  have hempty : lo ≤ atoi psz ∧ atoi psz ≤ hi → cstr psz ≠ [] := by
    intro hrange hempty
    have hzero := atoi_of_isNullOrEmpty (decide_eq_true hempty)
    omega
  rw [validateNumberString_eq]
  simp only [and_iff_right_of_imp hempty]

theorem StringHelper.validateNumberString_eq_ok {psz : List UInt8} {lo hi n : ℤ} (hlo : 0 < lo) :
    validateNumberString psz lo hi = .ok n ↔ n = atoi psz ∧ lo ≤ atoi psz ∧ atoi psz ≤ hi := by
  rw [validateNumberString_pos hlo]
  split_ifs with hrange
  · rw [Except.ok.injEq, and_iff_left hrange, eq_comm]
  · exact iff_of_false nofun fun h => hrange h.2

/-! ### As a C string -/

/-- White space around a string is seen, or is behind its terminator. -/
theorem cstr_padded (h : IsPadded s t) :
    cstr t = cstr s ∨ ∃ ch ∈ cstr t, IsWhitespace ch = true := by
  obtain ⟨front, back, hfront, hback, rfl⟩ := h
  cases front with
  | cons ch front =>
    refine Or.inr ⟨ch, ?_, hfront ch List.mem_cons_self⟩
    have hne := isWhitespace_ne_zero (hfront ch List.mem_cons_self)
    rw [List.append_assoc, List.cons_append, cstr, List.takeWhile_cons,
      if_pos (decide_eq_true hne)]
    exact List.mem_cons_self
  | nil =>
    rw [List.nil_append]
    by_cases hall : ∀ ch ∈ s, decide (ch ≠ 0) = true
    · have hself : cstr s = s := List.takeWhile_eq_self_iff.mpr hall
      have htaken : cstr (s ++ back) = s ++ cstr back := List.takeWhile_append_of_pos hall
      rw [htaken, hself, hback.cstr]
      cases back with
      | nil => exact Or.inl (List.append_nil s)
      | cons ch back =>
        exact Or.inr ⟨ch, List.mem_append_right _ List.mem_cons_self, hback ch List.mem_cons_self⟩
    · left
      simp only [not_forall] at hall
      obtain ⟨ch, hch, hzero⟩ := hall
      obtain rfl : ch = 0 := by simpa using hzero
      obtain ⟨before, later, rfl⟩ := List.append_of_mem hch
      rw [List.append_assoc, List.cons_append, cstr_append_zero, cstr_append_zero]

end

end StunServer

import Mathlib.Data.List.DropRight
import StunServer.Lib.Scan
import StunServer.Proofs.StringHelper

/-! Strings that are numbers, and what any string is read as. -/

namespace StunServer

open Bytes

/-! ### Reading -/

/-- A string as it is read: white space, a sign, as many digits as there are, and what is left. -/
structure IsReading (s front sign digits rest : List UInt8) : Prop where
  parts : s = front ++ (sign ++ (digits ++ rest))
  blank : IsBlank front
  signed : sign = [] ∨ sign = chars "+" ∨ sign = chars "-"
  numeric : ∀ ch ∈ digits, isDigit ch = true
  stops : Scan.Stops isDigit rest
  /-- Without a sign nothing is left to be skipped. -/
  bare : sign = [] → ∀ ch ∈ (digits ++ rest).head?, IsWhitespace ch = false ∧ ch ≠ 45 ∧ ch ≠ 43

/-- The value before it is reduced to 32 bits. -/
def signedValue (sign digits : List UInt8) : ℤ :=
  if sign = chars "-" then -valueOf digits else valueOf digits

theorem exists_reading (s : List UInt8) :
    ∃ front sign digits rest, IsReading s front sign digits rest := by
  have hfront : IsBlank (s.takeWhile IsWhitespace) := fun ch hch => List.mem_takeWhile_imp hch
  have hparts : s = s.takeWhile IsWhitespace ++ s.dropWhile IsWhitespace :=
    List.takeWhile_append_dropWhile.symm
  have hstops := Scan.stops_dropWhile IsWhitespace s
  generalize s.takeWhile IsWhitespace = front at hfront hparts
  generalize s.dropWhile IsWhitespace = body at hparts hstops
  have hread : ∀ sign unsigned : List UInt8, body = sign ++ unsigned →
      (sign = [] ∨ sign = chars "+" ∨ sign = chars "-") →
      (sign = [] → ∀ ch ∈ unsigned.head?, IsWhitespace ch = false ∧ ch ≠ 45 ∧ ch ≠ 43) →
      ∃ front sign digits rest, IsReading s front sign digits rest := by
    intro sign unsigned hbody hsign hbare
    refine ⟨front, sign, unsigned.takeWhile isDigit, unsigned.dropWhile isDigit, ?_, hfront, hsign,
      fun ch hch => List.mem_takeWhile_imp hch, Scan.stops_dropWhile isDigit unsigned, ?_⟩
    · rw [List.takeWhile_append_dropWhile, ← hbody]
      exact hparts
    · rw [List.takeWhile_append_dropWhile]
      exact hbare
  cases body with
  | nil => exact hread [] [] rfl (Or.inl rfl) nofun
  | cons ch unsigned =>
    by_cases hminus : ch = 45
    · exact hread (chars "-") unsigned (by rw [hminus]; rfl) (Or.inr (Or.inr rfl)) nofun
    by_cases hplus : ch = 43
    · exact hread (chars "+") unsigned (by rw [hplus]; rfl) (Or.inr (Or.inl rfl)) nofun
    refine hread [] (ch :: unsigned) rfl (Or.inl rfl) fun _ ch' hch' => ?_
    cases hch'
    exact ⟨hstops ch rfl, hminus, hplus⟩

namespace IsReading

variable {s front sign digits rest : List UInt8}

theorem dropWhile_eq (h : IsReading s front sign digits rest) :
    s.dropWhile IsWhitespace = sign ++ (digits ++ rest) := by
  rw [h.parts]
  refine Scan.dropWhile_append h.blank ?_
  rcases h.signed with rfl | rfl | rfl
  · exact fun ch hch => (h.bare rfl ch hch).1
  · rintro ch ⟨⟩
    decide
  · rintro ch ⟨⟩
    decide

theorem readSign_eq (h : IsReading s front sign digits rest) :
    readSign (sign ++ (digits ++ rest)) =
      (decide (sign = chars "-"), digits ++ rest) := by
  have hbare := h.bare
  rcases h.signed with rfl | rfl | rfl
  · generalize digits ++ rest = unsigned at hbare
    cases unsigned with
    | nil => rfl
    | cons ch unsigned =>
      obtain ⟨-, hminus, hplus⟩ := hbare rfl ch rfl
      rw [List.nil_append, readSign, if_neg hminus, if_neg hplus]
      rfl
  · rfl
  · rfl

/-- The number that any string is taken for. -/
theorem atoi_eq (h : IsReading s front sign digits rest) :
    atoi s = (signedValue sign digits).bmod (2 ^ 32) := by
  rw [atoi, h.dropWhile_eq, h.readSign_eq, signedValue]
  dsimp only
  rw [Scan.takeWhile_append h.numeric h.stops]
  simp only [decide_eq_true_eq]

/-- What stands behind a terminator is left, too. -/
theorem terminated (h : IsReading s front sign digits rest) (later : List UInt8) :
    IsReading (s ++ 0 :: later) front sign digits (rest ++ 0 :: later) := by
  have hhead : ∀ (l : List UInt8) (ch : UInt8), ch ∈ (l ++ 0 :: later).head? →
      ch ∈ l.head? ∨ ch = 0 := by
    intro l ch hch
    cases l with
    | nil => exact Or.inr (Option.some.inj hch).symm
    | cons ch' l => exact Or.inl hch
  refine { h with parts := ?_, stops := ?_, bare := ?_ }
  · rw [h.parts, List.append_assoc, List.append_assoc, List.append_assoc]
  · intro ch hch
    rcases hhead rest ch hch with hrest | rfl
    · exact h.stops ch hrest
    · decide
  · intro hsign ch hch
    rw [← List.append_assoc] at hch
    rcases hhead _ ch hch with hunsigned | rfl
    · exact h.bare hsign ch hunsigned
    · decide

/-- There is one way only. -/
theorem unique (h : IsReading s front sign digits rest) {front' sign' digits' rest' : List UInt8}
    (h' : IsReading s front' sign' digits' rest') :
    sign' = sign ∧ digits' = digits ∧ rest' = rest := by
  have hbody : sign' ++ (digits' ++ rest') = sign ++ (digits ++ rest) :=
    h'.dropWhile_eq.symm.trans h.dropWhile_eq
  have hunsigned : digits' ++ rest' = digits ++ rest := by
    have hread := congrArg (fun body => (readSign body).2) hbody
    rwa [h.readSign_eq, h'.readSign_eq] at hread
  rw [hunsigned] at hbody
  have hdigits := congrArg (List.takeWhile isDigit) hunsigned
  have hrest := congrArg (List.dropWhile isDigit) hunsigned
  rw [Scan.takeWhile_append h.numeric h.stops, Scan.takeWhile_append h'.numeric h'.stops] at hdigits
  rw [Scan.dropWhile_append h.numeric h.stops, Scan.dropWhile_append h'.numeric h'.stops] at hrest
  exact ⟨List.append_cancel_right hbody, hdigits, hrest⟩

end IsReading

/-- Nothing behind the terminator is read. -/
theorem atoi_cstr (psz : List UInt8) : atoi (cstr psz) = atoi psz := by
  have hparts : psz = cstr psz ++ psz.dropWhile (· ≠ 0) := List.takeWhile_append_dropWhile.symm
  have hstops := Scan.stops_dropWhile (fun ch : UInt8 => decide (ch ≠ 0)) psz
  obtain ⟨front, sign, digits, rest, hread⟩ := exists_reading (cstr psz)
  generalize psz.dropWhile (fun ch : UInt8 => decide (ch ≠ 0)) = tail at hparts hstops
  cases tail with
  | nil =>
    rw [List.append_nil] at hparts
    rw [← hparts]
  | cons ch later =>
    have hzero : ch = 0 := by simpa using hstops ch rfl
    have hall := hread.terminated later
    rw [← hzero, ← hparts] at hall
    rw [hread.atoi_eq, hall.atoi_eq]

/-! ### Numbers -/

/-- The white space around a string is removed. -/
def strip (s : List UInt8) : List UInt8 := (s.dropWhile IsWhitespace).rdropWhile IsWhitespace

/-- What is left without the white space are digits, at least one, of that value. -/
structure IsNumber (s : List UInt8) (v : ℕ) : Prop where
  nonempty : strip s ≠ []
  digits : ∀ ch ∈ strip s, isDigit ch = true
  value : valueOf (strip s) = v

theorem strip_padded {d s : List UInt8} (hd : IsClean d) (h : IsPadded d s) : strip s = d := by
  obtain ⟨front, back, hfront, hback, rfl⟩ := h
  have hclean : ∀ l : List UInt8, IsClean l → Scan.Stops IsWhitespace l := fun l hl ch hch =>
    hl ch (List.mem_of_mem_head? hch)
  have hbehind : (d ++ back).rdropWhile IsWhitespace = d := by
    rw [List.rdropWhile, List.reverse_append, Scan.dropWhile_append, List.reverse_reverse]
    · exact fun ch hch => hback ch (List.mem_reverse.mp hch)
    · exact hclean _ fun ch hch => hd ch (List.mem_reverse.mp hch)
  rw [strip, List.append_assoc, dropWhile_blank hfront]
  cases d with
  | nil =>
    rw [List.nil_append, List.dropWhile_eq_nil_iff.mpr hback]
    rfl
  | cons ch d =>
    rw [Scan.dropWhile_of_stops]
    · exact hbehind
    · rintro ch' ⟨⟩
      exact hd ch List.mem_cons_self

theorem isPadded_strip (s : List UInt8) : IsPadded (strip s) s := by
  refine ⟨s.takeWhile IsWhitespace, (s.dropWhile IsWhitespace).rtakeWhile IsWhitespace,
    fun ch hch => List.mem_takeWhile_imp hch, fun ch hch => List.mem_rtakeWhile_imp hch, ?_⟩
  rw [strip, List.append_assoc, List.rdropWhile_append_rtakeWhile,
    List.takeWhile_append_dropWhile]

/-- A string is a number just if it is read without a sign, with a digit, and with nothing but
white space left. -/
theorem IsReading.isNumber_iff {s front sign digits rest : List UInt8}
    (h : IsReading s front sign digits rest) {v : ℕ} :
    IsNumber s v ↔ (sign = [] ∧ digits ≠ [] ∧ IsBlank rest) ∧ valueOf digits = v := by
  constructor
  · intro hnumber
    obtain ⟨front', back, hfront, hback, hparts⟩ := isPadded_strip s
    have hread : IsReading s front' [] (strip s) back :=
      { parts := by
          rw [List.nil_append, ← List.append_assoc]
          exact hparts
        blank := hfront
        signed := Or.inl rfl
        numeric := hnumber.digits
        stops := fun ch hch => isWhitespace_not_digit (hback ch (List.mem_of_mem_head? hch))
        bare := by
          intro _ ch hch
          rw [List.head?_append_of_ne_nil _ hnumber.nonempty] at hch
          exact isDigit_plain (hnumber.digits ch (List.mem_of_mem_head? hch)) }
    obtain ⟨hsign, hdigits, hrest⟩ := h.unique hread
    rw [← hsign, ← hdigits, ← hrest]
    exact ⟨⟨rfl, hnumber.nonempty, hback⟩, hnumber.value⟩
  · rintro ⟨⟨rfl, hdigits, hrest⟩, hvalue⟩
    have hstrip : strip s = digits := by
      refine strip_padded (fun ch hch => (isDigit_plain (h.numeric ch hch)).1)
        ⟨front, rest, h.blank, hrest, ?_⟩
      rw [List.append_assoc]
      exact h.parts
    refine ⟨?_, ?_, ?_⟩
    all_goals rw [hstrip]
    · exact hdigits
    · exact h.numeric
    · exact hvalue

end StunServer

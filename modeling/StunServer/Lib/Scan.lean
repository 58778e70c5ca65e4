import Mathlib.Data.List.TakeWhile

/-! The longest part of a list, from its start, whose elements have a property, and what follows
it. -/

namespace Scan

variable {α : Type*} {p : α → Bool} {l rest : List α}

/-- The list does not start with the property. -/
def Stops (p : α → Bool) (l : List α) : Prop := ∀ x ∈ l.head?, p x = false

theorem stops_dropWhile (p : α → Bool) (l : List α) : Stops p (l.dropWhile p) := by
  intro x hx
  have hnot := List.head?_dropWhile_not p l
  rw [Option.mem_def.mp hx] at hnot
  exact hnot

theorem takeWhile_of_stops (h : Stops p l) : l.takeWhile p = [] := by
  cases l with
  | nil => rfl
  | cons x l => rw [List.takeWhile_cons, h x rfl, if_neg (by decide)]

theorem dropWhile_of_stops (h : Stops p l) : l.dropWhile p = l := by
  cases l with
  | nil => rfl
  | cons x l => rw [List.dropWhile_cons, h x rfl, if_neg (by decide)]

theorem takeWhile_append (h : ∀ x ∈ l, p x = true) (hrest : Stops p rest) :
    (l ++ rest).takeWhile p = l := by
  rw [List.takeWhile_append_of_pos h, takeWhile_of_stops hrest, List.append_nil]

theorem dropWhile_append (h : ∀ x ∈ l, p x = true) (hrest : Stops p rest) :
    (l ++ rest).dropWhile p = rest := by
  rw [List.dropWhile_append_of_pos h, dropWhile_of_stops hrest]

end Scan

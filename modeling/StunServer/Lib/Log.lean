import Mathlib.Data.List.Basic

/-! Logs that grow at their end, and what holds of every entry and of what precedes it. -/

namespace Log

variable {α : Type*}

/-- Where an entry of a log that has grown by one stands. -/
theorem concat_eq_append_cons {log l₁ l₂ : List α} {a x : α} :
    log ++ [a] = l₁ ++ x :: l₂ ↔
      (l₁ = log ∧ x = a ∧ l₂ = []) ∨ ∃ l₃, l₂ = l₃ ++ [a] ∧ log = l₁ ++ x :: l₃ := by
  constructor
  · intro h
    rcases List.eq_nil_or_concat l₂ with rfl | ⟨l₃, b, rfl⟩
    · obtain ⟨rfl, hx⟩ := List.append_inj' h rfl
      exact Or.inl ⟨rfl, (List.singleton_inj.mp hx).symm, rfl⟩
    · rw [List.concat_eq_append, ← List.cons_append, ← List.append_assoc] at h
      obtain ⟨rfl, hb⟩ := List.append_inj' h rfl
      obtain rfl := List.singleton_inj.mp hb
      exact Or.inr ⟨l₃, List.concat_eq_append, rfl⟩
  · rintro (⟨rfl, rfl, rfl⟩ | ⟨l₃, rfl, rfl⟩)
    · rfl
    · rw [List.append_assoc, List.cons_append]

/-- Every entry has the property, after what precedes it. -/
def Always (P : List α → α → Prop) (log : List α) : Prop :=
  ∀ l₁ x l₂, log = l₁ ++ x :: l₂ → P l₁ x

variable {P : List α → α → Prop}

theorem always_nil : Always P [] := by
  intro l₁ x l₂ h
  simp at h

theorem always_concat {log : List α} {a : α} : Always P (log ++ [a]) ↔ Always P log ∧ P log a := by
  constructor
  · intro h
    refine ⟨?_, h log a [] rfl⟩
    rintro l₁ x l₂ rfl
    exact h l₁ x (l₂ ++ [a]) (by rw [List.append_assoc, List.cons_append])
  · rintro ⟨hlog, ha⟩ l₁ x l₂ h
    rcases concat_eq_append_cons.mp h with ⟨rfl, rfl, -⟩ | ⟨l₃, -, hl⟩
    · exact ha
    · exact hlog l₁ x l₃ hl

theorem always_congr {Q : List α → α → Prop} (h : ∀ before x, P before x ↔ Q before x)
    {log : List α} : Always P log ↔ Always Q log :=
  forall₃_congr fun before x _ => imp_congr_right fun _ => h before x

/-- What holds of an entry whatever precedes it holds of every member. -/
theorem always_forall {Q : α → Prop} {log : List α} :
    Always (fun _ x => Q x) log ↔ ∀ x ∈ log, Q x := by
  constructor
  · intro h x hx
    obtain ⟨l₁, l₂, hl⟩ := List.append_of_mem hx
    exact h l₁ x l₂ hl
  · rintro h l₁ x l₂ rfl
    exact h x (by simp)

theorem Always.of_append {log later : List α} (h : Always P (log ++ later)) : Always P log := by
  rintro l₁ x l₂ rfl
  exact h l₁ x (l₂ ++ later) (by rw [List.append_assoc, List.cons_append])

/-- A log with few entries of each of some kinds is short. -/
theorem length_le_of_kinds {κ : Type*} [DecidableEq κ] {f : α → κ} {kinds : List κ} {n : ℕ}
    {log : List α} (hkinds : ∀ x ∈ log, f x ∈ kinds)
    (hfew : ∀ k, (log.filter fun x => f x = k).length ≤ n) : log.length ≤ kinds.length * n := by
  induction kinds generalizing log with
  | nil =>
    cases log with
    | nil => exact Nat.zero_le _
    | cons x log => exact absurd (hkinds x (List.mem_cons_self ..)) List.not_mem_nil
  | cons k kinds ih =>
    have hothers : (log.filter fun x => ¬f x = k).length ≤ kinds.length * n := by
      refine ih (fun x hx => ?_) fun k' => ?_
      · obtain ⟨hmem, hne⟩ := List.mem_filter.mp hx
        exact (List.mem_cons.mp (hkinds x hmem)).resolve_left (of_decide_eq_true hne)
      · rw [List.filter_comm]
        exact Nat.le_trans (List.length_filter_le _ _) (hfew k')
    have hsplit := log.length_eq_length_filter_add fun x => decide (f x = k)
    have hk := hfew k
    simp only [← decide_not] at hsplit
    rw [List.length_cons, Nat.add_mul, Nat.one_mul]
    omega

end Log

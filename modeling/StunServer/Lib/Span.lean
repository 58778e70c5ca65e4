import Mathlib.Data.Nat.Basic

/-! Spans of memory: where a copy or a read starts and how many bytes it touches. -/

structure Span where
  off : ℕ
  len : ℕ
deriving DecidableEq, Repr

namespace Span

/-- The first position behind the span. -/
def stop (s : Span) : ℕ := s.off + s.len

/-- The span lies in the `len` bytes from `off` on. -/
def Within (s : Span) (off len : ℕ) : Prop := off ≤ s.off ∧ s.stop ≤ off + len

theorem within_zero {s : Span} {len : ℕ} : s.Within 0 len ↔ s.stop ≤ len := by
  rw [Within, Nat.zero_add]
  exact and_iff_right (Nat.zero_le _)

theorem Within.stop_le {s : Span} {off len n : ℕ} (h : s.Within off len) (hn : off + len ≤ n) :
    s.stop ≤ n := Nat.le_trans h.2 hn

end Span

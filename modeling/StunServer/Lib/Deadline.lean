import Mathlib.Data.List.Basic

/-! A loop with a timer. A pass may start the timer again; one that does not comes before the time
is up. How many passes there are then depends only on how many start the timer, and on how many
do not wait. -/

namespace Deadline

structure Pass where
  time : ℕ
  /-- The timer is started again. -/
  restarts : Bool
  /-- The pass waits for all of the delay before the next one comes. -/
  waits : Bool

section

variable (limit delay : ℕ)

/-- Passes that keep to a timer which was started at `since`. -/
def Keeps : ℕ → ℕ → List Pass → Prop
  | _, _, [] => True
  | since, earliest, p :: ps =>
    earliest ≤ p.time ∧ (p.restarts = false → p.time < since + limit) ∧
      Keeps (if p.restarts then p.time else since) (if p.waits then p.time + delay else p.time) ps

/-- The waits that fit in the time of the timer, with the one that is over when it is up. -/
def waitsPerStart : ℕ := (limit - 1) / delay + 1

/-- What a number of passes may come to: some of them do not wait, and each start pays for some
that do. -/
def allowance (ps : List Pass) : ℕ :=
  ps.countP (fun p => p.waits = false) + ps.countP (fun p => p.restarts) * waitsPerStart limit delay

end

variable {limit delay : ℕ}

theorem allowance_cons (p : Pass) (ps : List Pass) :
    allowance limit delay (p :: ps) = allowance limit delay ps + (if p.waits then 0 else 1) +
      if p.restarts then waitsPerStart limit delay else 0 := by
  rw [allowance, allowance, List.countP_cons, List.countP_cons]
  cases p.restarts <;> cases p.waits <;>
    simp only [Bool.true_eq_false, Bool.false_eq_true, decide_true, decide_false, if_true, if_false,
      Nat.add_mul, Nat.one_mul] <;> omega

theorem lt_waitsPerStart {k : ℕ} (hdelay : 0 < delay) (h : k * delay < limit) :
    k + 1 ≤ waitsPerStart limit delay :=
  Nat.succ_le_succ ((Nat.le_div_iff_mul_le hdelay).mpr (by omega))

/-- Some waits have been paid for by the last start, and no more than it pays for. -/
theorem length_le_add (hdelay : 0 < delay) {since earliest k : ℕ} {ps : List Pass}
    (h : Keeps limit delay since earliest ps) (hwaited : since + k * delay ≤ earliest)
    (hk : k ≤ waitsPerStart limit delay) :
    ps.length + k ≤ allowance limit delay ps + waitsPerStart limit delay := by
  induction ps generalizing since earliest k with
  | nil => simpa [allowance] using hk
  | cons p ps ih =>
    obtain ⟨hearliest, hintime, hrest⟩ := h
    have hone : 1 ≤ waitsPerStart limit delay := Nat.succ_le_succ (Nat.zero_le _)
    rw [allowance_cons, List.length_cons]
    cases hrestarts : p.restarts with
    | true =>
      rw [hrestarts, if_pos rfl] at hrest
      cases hwaits : p.waits with
      | true =>
        rw [hwaits, if_pos rfl] at hrest
        have hle := @ih p.time (p.time + delay) 1 hrest (by omega) hone
        rw [if_pos rfl, if_pos rfl]
        omega
      | false =>
        rw [hwaits, if_neg Bool.false_ne_true] at hrest
        have hle := @ih p.time p.time 0 hrest (by omega) (Nat.zero_le _)
        rw [if_neg Bool.false_ne_true, if_pos rfl]
        omega
    | false =>
      have hlt := hintime hrestarts
      rw [hrestarts, if_neg Bool.false_ne_true] at hrest
      have hmore : k + 1 ≤ waitsPerStart limit delay := lt_waitsPerStart hdelay (by omega)
      cases hwaits : p.waits with
      | true =>
        rw [hwaits, if_pos rfl] at hrest
        have hle := @ih since (p.time + delay) (k + 1) hrest (by rw [Nat.add_mul]; omega) hmore
        rw [if_pos rfl, if_neg Bool.false_ne_true]
        omega
      | false =>
        rw [hwaits, if_neg Bool.false_ne_true] at hrest
        have hle := @ih since p.time k hrest (by omega) hk
        rw [if_neg Bool.false_ne_true, if_neg Bool.false_ne_true]
        omega

/-- The bound, when the first pass starts the timer. -/
theorem length_le (hdelay : 0 < delay) {since earliest : ℕ} {p : Pass} {ps : List Pass}
    (h : Keeps limit delay since earliest (p :: ps)) (hstart : p.restarts = true) :
    (p :: ps).length ≤ allowance limit delay (p :: ps) := by
  obtain ⟨-, -, hrest⟩ := h
  rw [hstart, if_pos rfl] at hrest
  rw [allowance_cons, if_pos hstart, List.length_cons]
  cases hwaits : p.waits with
  | true =>
    rw [hwaits, if_pos rfl] at hrest
    have hle := @length_le_add limit delay hdelay p.time (p.time + delay) 1 ps hrest (by omega)
      (Nat.succ_le_succ (Nat.zero_le _))
    rw [if_pos rfl]
    omega
  | false =>
    rw [hwaits, if_neg Bool.false_ne_true] at hrest
    have hle := @length_le_add limit delay hdelay p.time p.time 0 ps hrest (by omega)
      (Nat.zero_le _)
    rw [if_neg Bool.false_ne_true]
    omega

end Deadline

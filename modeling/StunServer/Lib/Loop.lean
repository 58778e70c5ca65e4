import Mathlib.Data.Nat.Notation

/-! A loop whose body either leaves with a value or goes on from a new state, run for a
bounded number of passes, and the rule for it. -/

namespace Loop

variable {σ ρ : Type*}

/-- At most `fuel` passes; `none` if the loop has not been left by then. -/
def run (body : σ → ρ ⊕ σ) : ℕ → σ → Option ρ
  | 0, _ => none
  | fuel + 1, s =>
    match body s with
    | .inl r => some r
    | .inr s' => run body fuel s'

/-- What a pass does to the invariant and to the measure. -/
structure Keeps (body : σ → ρ ⊕ σ) (I : σ → Prop) (Q : ρ → Prop) (measure : σ → ℕ) : Prop where
  leaves : ∀ s r, I s → body s = .inl r → Q r
  goesOn : ∀ s s', I s → body s = .inr s' → I s'
  lower : ∀ s s', I s → body s = .inr s' → measure s' < measure s

variable {body : σ → ρ ⊕ σ} {I : σ → Prop} {Q : ρ → Prop} {measure : σ → ℕ}

/-- To show what a pass does, it is enough to say where it ends. -/
theorem Keeps.of_pass (h : ∀ s, I s → (∃ r, body s = .inl r ∧ Q r) ∨
    ∃ s', body s = .inr s' ∧ I s' ∧ measure s' < measure s) : Keeps body I Q measure where
  leaves s r hi hb := by
    rcases h s hi with ⟨r', hb', hq⟩ | ⟨s', hb', -⟩
    · rw [hb'] at hb
      cases hb
      exact hq
    · rw [hb'] at hb
      cases hb
  goesOn s s' hi hb := by
    rcases h s hi with ⟨r, hb', -⟩ | ⟨s'', hb', hi', -⟩
    · rw [hb'] at hb
      cases hb
    · rw [hb'] at hb
      cases hb
      exact hi'
  lower s s' hi hb := by
    rcases h s hi with ⟨r, hb', -⟩ | ⟨s'', hb', -, hlt⟩
    · rw [hb'] at hb
      cases hb
    · rw [hb'] at hb
      cases hb
      exact hlt

/-- What a loop that is left comes to, whether or not it always is. -/
theorem of_run (hleaves : ∀ s r, I s → body s = .inl r → Q r)
    (hgoes : ∀ s s', I s → body s = .inr s' → I s') {fuel : ℕ} {s : σ} {r : ρ} (hi : I s)
    (hrun : run body fuel s = some r) : Q r := by
  induction fuel generalizing s with
  | zero => cases hrun
  | succ fuel ih =>
    rw [Loop.run] at hrun
    cases hb : body s with
    | inl r' =>
      rw [hb] at hrun
      cases hrun
      exact hleaves s r hi hb
    | inr s' =>
      rw [hb] at hrun
      exact ih (hgoes s s' hi hb) hrun

/-- A loop whose passes lower a measure is left within that many passes, in a state that
the invariant allows. -/
theorem Keeps.run (h : Keeps body I Q measure) {fuel : ℕ} {s : σ} (hi : I s)
    (hfuel : measure s < fuel) : ∃ r, run body fuel s = some r ∧ Q r := by
  induction fuel generalizing s with
  | zero => omega
  | succ fuel ih =>
    rw [Loop.run]
    cases hb : body s with
    | inl r => exact ⟨r, rfl, h.leaves s r hi hb⟩
    | inr s' =>
      have hlower := h.lower s s' hi hb
      exact ih (h.goesOn s s' hi hb) (by omega)

/-- Loops whose passes come to the same are left with the same, as far as it is looked at. -/
theorem run_map {ρ' τ : Type*} {body' : σ → ρ' ⊕ σ} {f : ρ → τ} {f' : ρ' → τ}
    (h : ∀ s, (body s).map f id = (body' s).map f' id) (fuel : ℕ) (s : σ) :
    (run body fuel s).map f = (run body' fuel s).map f' := by
  induction fuel generalizing s with
  | zero => rfl
  | succ fuel ih =>
    have hpass := h s
    rw [Loop.run, Loop.run]
    cases hb : body s with
    | inl r =>
      cases hb' : body' s with
      | inl r' =>
        rw [hb, hb', Sum.map_inl, Sum.map_inl, Sum.inl.injEq] at hpass
        exact congrArg some hpass
      | inr s' =>
        rw [hb, hb'] at hpass
        cases hpass
    | inr s₁ =>
      cases hb' : body' s with
      | inl r' =>
        rw [hb, hb'] at hpass
        cases hpass
      | inr s₂ =>
        rw [hb, hb', Sum.map_inr, Sum.map_inr, Sum.inr.injEq] at hpass
        obtain rfl : s₁ = s₂ := hpass
        exact ih s₁

end Loop

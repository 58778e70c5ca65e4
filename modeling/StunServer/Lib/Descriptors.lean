import Mathlib.Data.Finset.Card
import Mathlib.Data.Finset.Range
import Mathlib.Logic.Function.Basic

/-! The descriptors that a process has open, the lowest first, and a table in which an owner
keeps his own. -/

namespace Descriptors

/-- The descriptor that is handed out next: the lowest that is not open. -/
def lowest (fds : Finset ℕ) : ℕ := ((List.range (fds.card + 1)).find? (· ∉ fds)).getD 0

theorem lowest_notMem (fds : Finset ℕ) : lowest fds ∉ fds := by
  obtain ⟨fd, hlt, hfd⟩ : ∃ fd ∈ Finset.range (fds.card + 1), fd ∉ fds :=
    Finset.exists_mem_notMem_of_card_lt_card (by rw [Finset.card_range]; exact Nat.lt_succ_self _)
  have hsome : ((List.range (fds.card + 1)).find? (· ∉ fds)).isSome = true :=
    List.find?_isSome.mpr ⟨fd, List.mem_range.mpr (Finset.mem_range.mp hlt), decide_eq_true hfd⟩
  obtain ⟨low, hlow⟩ := Option.isSome_iff_exists.mp hsome
  have hfree := List.find?_some hlow
  rw [lowest, hlow]
  exact of_decide_eq_true hfree

variable {κ ι : Type*}

/-- What is open is what `rest` has and what stands in the table, each descriptor there once. -/
structure Accounts (rest fds : Finset ℕ) (table : κ → Option ℕ) : Prop where
  mem_iff : ∀ fd, fd ∈ fds ↔ fd ∈ rest ∨ ∃ k, table k = some fd
  apart : ∀ k fd, table k = some fd → fd ∉ rest
  inj : ∀ k k' fd, table k = some fd → table k' = some fd → k = k'

namespace Accounts

variable {rest fds : Finset ℕ} {table : κ → Option ℕ}

theorem empty (rest : Finset ℕ) : Accounts rest rest fun _ : κ => none where
  mem_iff fd := by simp
  apart k fd h := by cases h
  inj k k' fd h := by cases h

/-- With an empty table nothing has been left open. -/
theorem eq_rest (h : Accounts rest fds table) (hnone : ∀ k, table k = none) : fds = rest := by
  ext fd
  rw [h.mem_iff]
  simp [hnone]

theorem isOpen (h : Accounts rest fds table) {k : κ} {fd : ℕ} (hk : table k = some fd) : fd ∈ fds :=
  (h.mem_iff fd).mpr (Or.inr ⟨k, hk⟩)

theorem lowest_ne (h : Accounts rest fds table) (k : κ) : table k ≠ some (lowest fds) :=
  fun hk => lowest_notMem fds (h.isOpen hk)

variable [DecidableEq κ]

theorem update_eq_some {k k' : κ} {entry : Option ℕ} {fd : ℕ} :
    Function.update table k entry k' = some fd ↔
      (k' = k ∧ entry = some fd) ∨ (k' ≠ k ∧ table k' = some fd) := by
  by_cases hk : k' = k
  · subst hk
    simp
  · simp [hk]

/-- A descriptor is opened and entered. -/
theorem opened (h : Accounts rest fds table) {k : κ} (hk : table k = none) :
    Accounts rest (insert (lowest fds) fds) (Function.update table k (some (lowest fds))) where
  mem_iff fd := by
    rw [Finset.mem_insert, h.mem_iff]
    constructor
    · rintro (rfl | hrest | ⟨k', hk'⟩)
      · exact Or.inr ⟨k, update_eq_some.mpr (Or.inl ⟨rfl, rfl⟩)⟩
      · exact Or.inl hrest
      · refine Or.inr ⟨k', update_eq_some.mpr (Or.inr ⟨?_, hk'⟩)⟩
        rintro rfl
        rw [hk] at hk'
        cases hk'
    · rintro (hrest | ⟨k', hk'⟩)
      · exact Or.inr (Or.inl hrest)
      · rcases update_eq_some.mp hk' with ⟨-, hnew⟩ | ⟨-, hold⟩
        · exact Or.inl (Option.some.inj hnew).symm
        · exact Or.inr (Or.inr ⟨k', hold⟩)
  apart k' fd hk' := by
    rcases update_eq_some.mp hk' with ⟨-, hnew⟩ | ⟨-, hold⟩
    · rw [← Option.some.inj hnew]
      exact fun hrest => lowest_notMem fds ((h.mem_iff _).mpr (Or.inl hrest))
    · exact h.apart k' fd hold
  inj k₁ k₂ fd h₁ h₂ := by
    rcases update_eq_some.mp h₁ with ⟨rfl, hnew⟩ | ⟨-, hold⟩ <;>
      rcases update_eq_some.mp h₂ with ⟨rfl, hnew'⟩ | ⟨-, hold'⟩
    · rfl
    · rw [← hnew] at hold'
      exact absurd hold' (h.lowest_ne k₂)
    · rw [← hnew'] at hold
      exact absurd hold (h.lowest_ne k₁)
    · exact h.inj k₁ k₂ fd hold hold'

/-- A descriptor is closed and its entry taken out. -/
theorem closed (h : Accounts rest fds table) {k : κ} {fd : ℕ} (hk : table k = some fd) :
    Accounts rest (fds.erase fd) (Function.update table k none) where
  mem_iff fd' := by
    rw [Finset.mem_erase, h.mem_iff]
    constructor
    · rintro ⟨hne, hrest | ⟨k', hk'⟩⟩
      · exact Or.inl hrest
      · refine Or.inr ⟨k', update_eq_some.mpr (Or.inr ⟨?_, hk'⟩)⟩
        rintro rfl
        rw [hk] at hk'
        exact hne (Option.some.inj hk').symm
    · rintro (hrest | ⟨k', hk'⟩)
      · refine ⟨?_, Or.inl hrest⟩
        rintro rfl
        exact h.apart k _ hk hrest
      · rcases update_eq_some.mp hk' with ⟨-, hnew⟩ | ⟨hkey, hold⟩
        · cases hnew
        · refine ⟨?_, Or.inr ⟨k', hold⟩⟩
          rintro rfl
          exact hkey (h.inj k' k _ hold hk)
  apart k' fd' hk' := by
    rcases update_eq_some.mp hk' with ⟨-, hnew⟩ | ⟨-, hold⟩
    · cases hnew
    · exact h.apart k' fd' hold
  inj k₁ k₂ fd' h₁ h₂ := by
    rcases update_eq_some.mp h₁ with ⟨-, hnew⟩ | ⟨-, hold⟩
    · cases hnew
    · rcases update_eq_some.mp h₂ with ⟨-, hnew⟩ | ⟨-, hold'⟩
      · cases hnew
      · exact h.inj k₁ k₂ fd' hold hold'

/-- Whatever stands in an entry is closed. -/
theorem cleared (h : Accounts rest fds table) (k : κ) :
    Accounts rest ((table k).elim fds fds.erase) (Function.update table k none) := by
  cases hk : table k with
  | none =>
    have hsame : Function.update table k none = table := by rw [← hk, Function.update_eq_self]
    rw [hsame]
    exact h
  | some fd => exact h.closed hk

omit [DecidableEq κ] in
theorem rest_subset (h : Accounts rest fds table) : rest ⊆ fds := fun fd hfd =>
  (h.mem_iff fd).mpr (Or.inl hfd)

omit [DecidableEq κ] in
/-- Part of the table is kept by somebody else, who may open the lowest descriptor and close
what is entered in his part. -/
theorem replaced (h : Accounts rest fds table) (part : κ → Prop) {table' : κ → Option ℕ}
    {fds' : Finset ℕ} (hsame : ∀ k, ¬part k → table' k = table k)
    (hopens : ∀ k fd, part k → table' k = some fd →
      (∃ k', part k' ∧ table k' = some fd) ∨ fd = lowest fds)
    (hinj : ∀ k k' fd, part k → part k' → table' k = some fd → table' k' = some fd → k = k')
    (hfds : ∀ fd, fd ∈ fds' ↔ (∃ k, part k ∧ table' k = some fd) ∨
      fd ∈ fds ∧ ¬∃ k, part k ∧ table k = some fd) : Accounts rest fds' table' := by
  have hapart : ∀ k k' fd, part k → ¬part k' → table' k = some fd → table' k' ≠ some fd := by
    intro k k' fd hk hk' hfd hfd'
    rw [hsame k' hk'] at hfd'
    rcases hopens k fd hk hfd with ⟨k'', hpart, hold⟩ | rfl
    · exact hk' (h.inj k'' k' fd hold hfd' ▸ hpart)
    · exact h.lowest_ne k' hfd'
  refine ⟨fun fd => ?_, fun k fd hk hrest => ?_, fun k k' fd hk hk' => ?_⟩
  · rw [hfds]
    constructor
    · rintro (⟨k, -, hk⟩ | ⟨hopen, hnot⟩)
      · exact Or.inr ⟨k, hk⟩
      · rcases (h.mem_iff fd).mp hopen with hrest | ⟨k, hk⟩
        · exact Or.inl hrest
        · have hpart : ¬part k := fun hpart => hnot ⟨k, hpart, hk⟩
          exact Or.inr ⟨k, (hsame k hpart).trans hk⟩
    · rintro (hrest | ⟨k, hk⟩)
      · refine Or.inr ⟨h.rest_subset hrest, ?_⟩
        rintro ⟨k, -, hk⟩
        exact h.apart k fd hk hrest
      · by_cases hpart : part k
        · exact Or.inl ⟨k, hpart, hk⟩
        · rw [hsame k hpart] at hk
          refine Or.inr ⟨h.isOpen hk, ?_⟩
          rintro ⟨k', hpart', hk'⟩
          exact hpart (h.inj k' k fd hk' hk ▸ hpart')
  · by_cases hpart : part k
    · rcases hopens k fd hpart hk with ⟨k', -, hold⟩ | rfl
      · exact h.apart k' fd hold hrest
      · exact lowest_notMem fds (h.rest_subset hrest)
    · rw [hsame k hpart] at hk
      exact h.apart k fd hk hrest
  · by_cases hpart : part k <;> by_cases hpart' : part k'
    · exact hinj k k' fd hpart hpart' hk hk'
    · exact absurd hk' (hapart k k' fd hpart hpart' hk)
    · exact absurd hk (hapart k' k fd hpart' hpart hk')
    · rw [hsame k hpart] at hk
      rw [hsame k' hpart'] at hk'
      exact h.inj k k' fd hk hk'

/-! ### One owner of many -/

/-- To one owner whatever the others have is part of the rest. What he does with his own
entries keeps the accounts of all. -/
theorem focus {table : κ → ι → Option ℕ} (h : Accounts rest fds fun i : κ × ι => table i.1 i.2)
    (k : κ) : ∃ others, Accounts others fds (table k) ∧
      ∀ fds' entries, Accounts others fds' entries →
        Accounts rest fds' fun i : κ × ι => Function.update table k entries i.1 i.2 := by
  classical
  set others := fds.filter fun fd => ∀ i, table k i ≠ some fd with hothers
  have hmem : ∀ fd, fd ∈ others ↔ fd ∈ fds ∧ ∀ i, table k i ≠ some fd := fun fd =>
    Finset.mem_filter
  have hrest : ∀ fd ∈ rest, fd ∈ others := fun fd hfd =>
    (hmem fd).mpr ⟨h.rest_subset hfd, fun i hi => h.apart (k, i) fd hi hfd⟩
  have helse : ∀ k' i fd, k' ≠ k → table k' i = some fd → fd ∈ others := by
    intro k' i fd hne hi
    refine (hmem fd).mpr ⟨h.isOpen (k := (k', i)) hi, fun j hj => hne ?_⟩
    exact congrArg Prod.fst (h.inj (k', i) (k, j) fd hi hj)
  refine ⟨others, ⟨fun fd => ?_, fun i fd hi hfd => ((hmem fd).mp hfd).2 i hi, fun i j fd hi hj => ?_⟩,
    fun fds' entries h' => ⟨fun fd => ?_, ?_, ?_⟩⟩
  · rw [hmem]
    by_cases hown : ∃ i, table k i = some fd
    · obtain ⟨i, hi⟩ := hown
      exact iff_of_true (h.isOpen (k := (k, i)) hi) (Or.inr ⟨i, hi⟩)
    · rw [not_exists] at hown
      simp [hown]
  · exact congrArg Prod.snd (h.inj (k, i) (k, j) fd hi hj)
  · rw [h'.mem_iff]
    constructor
    · rintro (hfd | ⟨i, hi⟩)
      · obtain ⟨hopen, hnot⟩ := (hmem fd).mp hfd
        rcases (h.mem_iff fd).mp hopen with hrest | ⟨⟨k', i⟩, hi⟩
        · exact Or.inl hrest
        · refine Or.inr ⟨(k', i), ?_⟩
          dsimp only at hi ⊢
          rw [Function.update_of_ne]
          · exact hi
          · rintro rfl
            exact hnot i hi
      · refine Or.inr ⟨(k, i), ?_⟩
        dsimp only
        rw [Function.update_self, hi]
    · rintro (hfd | ⟨⟨k', i⟩, hi⟩)
      · exact Or.inl (hrest fd hfd)
      · dsimp only at hi
        by_cases hk : k' = k
        · subst hk
          rw [Function.update_self] at hi
          exact Or.inr ⟨i, hi⟩
        · rw [Function.update_of_ne hk] at hi
          exact Or.inl (helse k' i fd hk hi)
  · rintro ⟨k', i⟩ fd hi hfd
    dsimp only at hi
    by_cases hk : k' = k
    · subst hk
      rw [Function.update_self] at hi
      exact h'.apart i fd hi (hrest fd hfd)
    · rw [Function.update_of_ne hk] at hi
      exact h.apart (k', i) fd hi hfd
  · rintro ⟨k₁, i⟩ ⟨k₂, j⟩ fd hi hj
    dsimp only at hi hj
    by_cases h₁ : k₁ = k <;> by_cases h₂ : k₂ = k
    · subst h₁
      subst h₂
      rw [Function.update_self] at hi hj
      rw [h'.inj i j fd hi hj]
    · subst h₁
      rw [Function.update_self] at hi
      rw [Function.update_of_ne h₂] at hj
      exact absurd (helse k₂ j fd h₂ hj) (h'.apart i fd hi)
    · subst h₂
      rw [Function.update_self] at hj
      rw [Function.update_of_ne h₁] at hi
      exact absurd (helse k₁ i fd h₁ hi) (h'.apart j fd hj)
    · rw [Function.update_of_ne h₁] at hi
      rw [Function.update_of_ne h₂] at hj
      exact h.inj (k₁, i) (k₂, j) fd hi hj

end Accounts

end Descriptors

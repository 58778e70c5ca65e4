import StunServer.Lib.Machine
import Mathlib.Data.Finset.Card
import Mathlib.Data.Finset.Dedup
import Mathlib.Algebra.Order.BigOperators.Group.List
import Mathlib.Algebra.Order.Ring.Nat
import Mathlib.Algebra.Group.Action.Defs

/-! A family of machines, one for each key, with room for so many of them only. A key that
finds no room has all the others forgotten, and a new epoch begins. -/

namespace Machine

variable {σ ι ω κ : Type*} [DecidableEq κ]

/-- What a key has come to since the epoch began. -/
def stateIn (step : Option σ → ι → ω × Option σ) (epoch : List (κ × ι)) (k : κ) : Option σ :=
  after step none (own k epoch)

/-- The keys that have a state. -/
def liveIn (step : Option σ → ι → ω × Option σ) (epoch : List (κ × ι)) : Finset κ :=
  (epoch.map Prod.fst).toFinset.filter fun k => (stateIn step epoch k).isSome

/-- The inputs of the epochs that are over, and those of the one that is not. -/
structure Epochs (κ ι : Type*) where
  past : List (List (κ × ι))
  current : List (κ × ι)

namespace Epochs

/-- A key without a state finds no room. -/
def Crowded (step : Option σ → ι → ω × Option σ) (capacity : ℕ) (epoch : List (κ × ι)) (k : κ) :
    Prop :=
  stateIn step epoch k = none ∧ capacity ≤ (liveIn step epoch).card

instance (step : Option σ → ι → ω × Option σ) (capacity : ℕ) (epoch : List (κ × ι)) (k : κ) :
    Decidable (Crowded step capacity epoch k) :=
  inferInstanceAs (Decidable (stateIn step epoch k = none ∧ capacity ≤ (liveIn step epoch).card))

def step (f : Option σ → ι → ω × Option σ) (capacity : ℕ) (s : Epochs κ ι) (i : κ × ι) :
    ω × Epochs κ ι :=
  if Crowded f capacity s.current i.1 then
    ((f none i.2).1, ⟨s.past ++ [s.current], [i]⟩)
  else ((f (stateIn f s.current i.1) i.2).1, ⟨s.past, s.current ++ [i]⟩)

def start : Epochs κ ι := ⟨[], []⟩

/-- How the epochs divide the inputs up. -/
structure Divides (step : Option σ → ι → ω × Option σ) (capacity : ℕ) (s : Epochs κ ι)
    (is : List (κ × ι)) : Prop where
  inputs : s.past.flatten ++ s.current = is
  full : ∀ epoch ∈ s.past, (liveIn step epoch).card = capacity
  room : (liveIn step s.current).card ≤ capacity

end Epochs

section

variable (step : Option σ → ι → ω × Option σ)

theorem stateIn_append (epoch : List (κ × ι)) (i : κ × ι) (k : κ) :
    stateIn step (epoch ++ [i]) k =
      Function.update (stateIn step epoch) i.1 (step (stateIn step epoch i.1) i.2).2 k := by
  rw [stateIn, own_append, own_cons, own_nil]
  by_cases h : i.1 = k
  · subst h
    rw [if_pos rfl, after_concat, Function.update_self]
    rfl
  · rw [if_neg h, List.append_nil, Function.update_of_ne (Ne.symm h)]
    rfl

@[simp] theorem mem_liveIn {epoch : List (κ × ι)} {k : κ} :
    k ∈ liveIn step epoch ↔ stateIn step epoch k ≠ none := by
  rw [liveIn, Finset.mem_filter, Option.isSome_iff_ne_none, and_iff_right_iff_imp,
    List.mem_toFinset]
  intro hlive
  by_contra hk
  apply hlive
  have hown : own k epoch = [] := by
    rw [own, List.map_eq_nil_iff, List.filter_eq_nil_iff]
    intro i hi he
    exact hk (List.mem_map.mpr ⟨i, hi, of_decide_eq_true he⟩)
  rw [stateIn, hown]
  rfl

theorem card_liveIn_le (epoch : List (κ × ι)) : (liveIn step epoch).card ≤ epoch.length := by
  have hle := (Finset.card_filter_le (epoch.map Prod.fst).toFinset
    fun k => (stateIn step epoch k).isSome).trans (List.toFinset_card_le _)
  rwa [List.length_map] at hle

/-- An input brings at most its own key to life. -/
theorem liveIn_append_subset (epoch : List (κ × ι)) (i : κ × ι) :
    liveIn step (epoch ++ [i]) ⊆ insert i.1 (liveIn step epoch) := by
  intro k hk
  rw [mem_liveIn, stateIn_append] at hk
  by_cases he : k = i.1
  · rw [he]
    exact Finset.mem_insert_self ..
  · rw [Function.update_of_ne he] at hk
    exact Finset.mem_insert_of_mem ((mem_liveIn step).mpr hk)

end

namespace Epochs

variable {f : Option σ → ι → ω × Option σ} {capacity : ℕ} {s : Epochs κ ι} {is : List (κ × ι)}

theorem Divides.next (hcapacity : 0 < capacity) (h : s.Divides f capacity is) (i : κ × ι) :
    (s.step f capacity i).2.Divides f capacity (is ++ [i]) := by
  rw [step]
  split_ifs with hcrowded
  · have hfull := le_antisymm h.room hcrowded.2
    refine ⟨?_, ?_, (card_liveIn_le f _).trans hcapacity⟩
    · dsimp only
      rw [List.flatten_append, List.flatten_singleton, h.inputs]
    · intro epoch hepoch
      rcases List.mem_append.mp hepoch with hpast | hlast
      · exact h.full epoch hpast
      · rw [List.mem_singleton.mp hlast, hfull]
  · refine ⟨?_, h.full, ?_⟩
    · dsimp only
      rw [← List.append_assoc, h.inputs]
    · have hcard := Finset.card_le_card (liveIn_append_subset f s.current i)
      by_cases hlive : i.1 ∈ liveIn f s.current
      · rw [Finset.insert_eq_of_mem hlive] at hcard
        exact hcard.trans h.room
      · have hnone : stateIn f s.current i.1 = none := by simpa using hlive
        have hroom : (liveIn f s.current).card < capacity :=
          not_le.mp fun hle => hcrowded ⟨hnone, hle⟩
        rw [Finset.card_insert_of_notMem hlive] at hcard
        exact hcard.trans hroom

theorem divides_after (f : Option σ → ι → ω × Option σ) (hcapacity : 0 < capacity)
    (is : List (κ × ι)) :
    (after (step f capacity) start is).Divides f capacity is := by
  induction is using List.reverseRecOn with
  | nil => exact ⟨rfl, by simp [after, start], by simp [after, start, liveIn]⟩
  | append_singleton is i ih =>
    rw [after_concat]
    exact ih.next hcapacity i

/-- To have everything forgotten again and again takes a roomful of inputs each time. -/
theorem Divides.length_past_mul_le (h : s.Divides f capacity is) :
    s.past.length * capacity ≤ is.length := by
  have hsum : s.past.length * capacity ≤ s.past.flatten.length := by
    have hlen : ∀ n ∈ s.past.map List.length, capacity ≤ n := by
      intro n hn
      obtain ⟨epoch, hepoch, rfl⟩ := List.mem_map.mp hn
      exact (h.full epoch hepoch).ge.trans (card_liveIn_le f epoch)
    have hsum := List.card_nsmul_le_sum _ _ hlen
    rwa [List.length_map, smul_eq_mul, ← List.length_flatten] at hsum
  rw [← h.inputs, List.length_append]
  omega

end Epochs

end Machine

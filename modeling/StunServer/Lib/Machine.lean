import Mathlib.Logic.Function.Basic
import Mathlib.Data.Nat.Notation
import Mathlib.Data.List.Basic

/-! Machines that answer every input and go on: their traces, and a family of machines,
one for each key, whose members do not disturb each other. -/

namespace Machine

variable {σ σ' ι ι' ω κ : Type*}

/-- The state after some inputs. -/
def after (step : σ → ι → ω × σ) : σ → List ι → σ
  | s, [] => s
  | s, i :: is => after step (step s i).2 is

/-- Every input with its answer. -/
def trace (step : σ → ι → ω × σ) : σ → List ι → List (ι × ω)
  | _, [] => []
  | s, i :: is => (i, (step s i).1) :: trace step (step s i).2 is

section

variable (step : σ → ι → ω × σ)

theorem after_append (s : σ) (is js : List ι) :
    after step s (is ++ js) = after step (after step s is) js := by
  induction is generalizing s with
  | nil => rfl
  | cons i is ih => exact ih _

theorem trace_append (s : σ) (is js : List ι) :
    trace step s (is ++ js) = trace step s is ++ trace step (after step s is) js := by
  induction is generalizing s with
  | nil => rfl
  | cons i is ih => exact congrArg _ (ih _)

theorem after_concat (s : σ) (is : List ι) (i : ι) :
    after step s (is ++ [i]) = (step (after step s is) i).2 := after_append step s is [i]

theorem trace_concat (s : σ) (is : List ι) (i : ι) :
    trace step s (is ++ [i]) = trace step s is ++ [(i, (step (after step s is) i).1)] :=
  trace_append step s is [i]

theorem map_fst_trace (s : σ) (is : List ι) : (trace step s is).map Prod.fst = is := by
  induction is generalizing s with
  | nil => rfl
  | cons i is ih => exact congrArg _ (ih _)

theorem mem_of_mem_trace {s : σ} {is : List ι} {e : ι × ω} (h : e ∈ trace step s is) :
    e.1 ∈ is := by
  rw [← map_fst_trace step s is]
  exact List.mem_map_of_mem h

end

/-! ### Simulation -/

/-- As long as each input meets its condition, related states answer alike and stay related. -/
theorem simulates {step : σ → ι → ω × σ} {step' : σ' → ι' → ω × σ'} {R : σ → σ' → Prop}
    {ok : σ → ι → Prop} {f : ι → ι'}
    (hstep : ∀ s s' i, R s s' → ok s i →
      (step s i).1 = (step' s' (f i)).1 ∧ R (step s i).2 (step' s' (f i)).2)
    {s : σ} {s' : σ'} (hr : R s s') (is : List ι)
    (hok : ∀ before i later, is = before ++ i :: later → ok (after step s before) i) :
    (trace step s is).map (fun e => (f e.1, e.2)) = trace step' s' (is.map f) ∧
      R (after step s is) (after step' s' (is.map f)) := by
  induction is generalizing s s' with
  | nil => exact ⟨rfl, hr⟩
  | cons i is ih =>
    obtain ⟨hout, hr'⟩ := hstep s s' i hr (hok [] i is rfl)
    have hlater : ∀ before j later, is = before ++ j :: later →
        ok (after step (step s i).2 before) j := by
      rintro before j later rfl
      exact hok (i :: before) j later rfl
    obtain ⟨htrace, hafter⟩ := ih hr' hlater
    refine ⟨?_, hafter⟩
    rw [trace, List.map_cons, htrace, List.map_cons, trace, hout]

/-! ### One machine for each key -/

variable [DecidableEq κ]

/-- An input goes to the machine of its key. -/
def keyed (step : σ → ι → ω × σ) (m : κ → σ) (i : κ × ι) : ω × (κ → σ) :=
  ((step (m i.1) i.2).1, Function.update m i.1 (step (m i.1) i.2).2)

/-- The inputs of one key. -/
def own (k : κ) (is : List (κ × ι)) : List ι := (is.filter fun i => i.1 = k).map Prod.snd

@[simp] theorem own_nil (k : κ) : own k ([] : List (κ × ι)) = [] := rfl

theorem own_cons (k : κ) (i : κ × ι) (is : List (κ × ι)) :
    own k (i :: is) = if i.1 = k then i.2 :: own k is else own k is := by
  rw [own, List.filter_cons]
  split_ifs with h h' h'
  · rfl
  · exact absurd (of_decide_eq_true h) h'
  · exact absurd (decide_eq_true h') h
  · rfl

theorem own_append (k : κ) (is js : List (κ × ι)) : own k (is ++ js) = own k is ++ own k js := by
  rw [own, List.filter_append, List.map_append]
  rfl

/-- Where one of the inputs of a key stands among all of them. -/
theorem own_eq_append_cons {k : κ} {is : List (κ × ι)} {before later : List ι} {i : ι}
    (h : own k is = before ++ i :: later) : ∃ is₁ is₂, is = is₁ ++ (k, i) :: is₂ ∧
      own k is₁ = before ∧ own k is₂ = later := by
  induction is generalizing before with
  | nil => simp at h
  | cons j is ih =>
    rw [own_cons] at h
    split_ifs at h with hj
    · cases before with
      | nil =>
        obtain ⟨rfl, rfl⟩ := List.cons.inj h
        exact ⟨[], is, by rw [← hj]; rfl, rfl, rfl⟩
      | cons i' before =>
        obtain ⟨rfl, hrest⟩ := List.cons.inj h
        obtain ⟨is₁, is₂, rfl, h₁, h₂⟩ := ih hrest
        exact ⟨j :: is₁, is₂, rfl, by rw [own_cons, if_pos hj, h₁], h₂⟩
    · obtain ⟨is₁, is₂, rfl, h₁, h₂⟩ := ih h
      exact ⟨j :: is₁, is₂, rfl, by rw [own_cons, if_neg hj, h₁], h₂⟩

variable (step : σ → ι → ω × σ)

theorem after_keyed (m : κ → σ) (k : κ) (is : List (κ × ι)) :
    after (keyed step) m is k = after step (m k) (own k is) := by
  induction is generalizing m with
  | nil => rfl
  | cons i is ih =>
    rw [after, ih, own_cons]
    dsimp only [keyed]
    split_ifs with h
    · subst h
      rw [Function.update_self, after]
    · rw [Function.update_of_ne (Ne.symm h)]

/-- The answers a key gets are those that its own inputs alone would get. -/
theorem trace_keyed (m : κ → σ) (k : κ) (is : List (κ × ι)) :
    (trace (keyed step) m is).filter (fun e => e.1.1 = k) =
      (trace step (m k) (own k is)).map fun e => ((k, e.1), e.2) := by
  induction is generalizing m with
  | nil => rfl
  | cons i is ih =>
    rw [trace, List.filter_cons, ih, own_cons]
    dsimp only [keyed]
    by_cases h : i.1 = k
    · subst h
      rw [if_pos (decide_eq_true rfl), if_pos rfl, Function.update_self, trace, List.map_cons]
    · rw [if_neg (by simpa using h), if_neg h, Function.update_of_ne (Ne.symm h)]

end Machine
